import Mathlib.Logic.ExistsUnique
import Mathlib.Logic.Function.Basic

/-!
# Registries

Items that carry a label, and an index that finds an item by its label. The two agree if they
undo each other: then every labelled item is found, under its own label and under no other.
The operations come in pairs, one half on each side, and a registry stays in agreement as
long as nothing is filed where something else is.
-/

namespace Kit.Registry

variable {K H : Type} {index : K → Option H} {label : H → Option K} {k k' : K} {a b : H}

/-- The index finds an item under a label exactly if the item carries it. -/
def Agree (index : K → Option H) (label : H → Option K) : Prop :=
  ∀ k a, index k = some a ↔ label a = some k

theorem agree_empty : Agree (fun _ : K => (none : Option H)) (fun _ => none) := by
  intro k a
  exact ⟨fun h => (nomatch h), fun h => (nomatch h)⟩

/-- **A labelled item is filed exactly once.** -/
theorem Agree.existsUnique (h : Agree index label) (ha : label a ≠ none) :
    ∃! k, index k = some a := by
  obtain ⟨k, hk⟩ := Option.ne_none_iff_exists'.mp ha
  refine ⟨k, (h k a).mpr hk, fun k' hk' => ?_⟩
  exact Option.some.inj (((h k' a).mp hk').symm.trans hk)

theorem Agree.unlabelled (h : Agree index label) (ha : label a = none) (k : K) :
    index k ≠ some a := by
  intro hk
  exact nomatch ((h k a).mp hk).symm.trans ha

variable [DecidableEq K]

/-- **What is filed where something else is displaces it**, and nothing finds that any more. -/
theorem Agree.displaced (h : Agree index label) (hk : index k = some b) (hne : a ≠ b) (j : K) :
    Function.update index k (some a) j ≠ some b := by
  by_cases hj : j = k
  · subst hj
    rw [Function.update_self]
    exact fun heq => hne (Option.some.inj heq)
  · rw [Function.update_of_ne hj]
    intro heq
    have hsame := ((h j b).mp heq).symm.trans ((h k b).mp hk)
    exact hj (Option.some.inj hsame)

variable [DecidableEq H]

/-- An item is filed where nothing is. -/
theorem Agree.add (h : Agree index label) (hk : index k = none) (ha : label a = none) :
    Agree (Function.update index k (some a)) (Function.update label a (some k)) := by
  intro j b
  by_cases hj : j = k
  · subst hj
    rw [Function.update_self]
    by_cases hb : b = a
    · subst hb
      rw [Function.update_self]
      exact ⟨fun _ => rfl, fun _ => rfl⟩
    · rw [Function.update_of_ne hb, ← h j b, hk]
      exact ⟨fun heq => absurd (Option.some.inj heq).symm hb, fun heq => nomatch heq⟩
  · rw [Function.update_of_ne hj]
    by_cases hb : b = a
    · subst hb
      rw [Function.update_self, h j b, ha]
      exact ⟨fun heq => (nomatch heq), fun heq => absurd (Option.some.inj heq).symm hj⟩
    · rw [Function.update_of_ne hb]
      exact h j b

/-- An item is taken out, and loses its label. -/
theorem Agree.remove (h : Agree index label) (hk : index k = some a) :
    Agree (Function.update index k none) (Function.update label a none) := by
  have hlabel := (h k a).mp hk
  intro j b
  by_cases hj : j = k
  · subst hj
    rw [Function.update_self]
    by_cases hb : b = a
    · subst hb
      rw [Function.update_self]
      exact ⟨fun heq => (nomatch heq), fun heq => (nomatch heq)⟩
    · rw [Function.update_of_ne hb, ← h j b, hk]
      exact ⟨fun heq => (nomatch heq), fun heq => absurd (Option.some.inj heq).symm hb⟩
  · rw [Function.update_of_ne hj]
    by_cases hb : b = a
    · subst hb
      rw [Function.update_self, h j b, hlabel]
      exact ⟨fun heq => absurd (Option.some.inj heq).symm hj, fun heq => (nomatch heq)⟩
    · rw [Function.update_of_ne hb]
      exact h j b

/-- **An item is filed under another label.** -/
theorem Agree.move (h : Agree index label) (hk : index k = some a) (hk' : index k' = none) :
    Agree (Function.update (Function.update index k none) k' (some a))
      (Function.update label a (some k')) := by
  have hfree : Function.update index k none k' = none := by
    by_cases heq : k' = k
    · rw [heq, Function.update_self]
    · rw [Function.update_of_ne heq]
      exact hk'
  have hmoved := (h.remove hk).add hfree (Function.update_self a none label)
  rw [Function.update_idem] at hmoved
  exact hmoved

end Kit.Registry
