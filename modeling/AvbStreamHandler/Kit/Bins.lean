import Mathlib.Data.List.Basic
import Mathlib.Logic.ExistsUnique
import Mathlib.Logic.Function.Basic

/-!
# Items in bins

A list of bins, each with a list of items. Every item that is to be there lies in exactly one
bin, once, and no bin is empty: a bin is opened for its first item, and closed with its last.
-/

namespace Kit.Bins

variable {B I : Type}

/-- The items that are to be there lie in the bins, each in one. -/
structure Assigned (present : I → Prop) (bins : List B) (items : B → List I) : Prop where
  nodup : bins.Nodup
  items_nodup : ∀ b ∈ bins, (items b).Nodup
  busy : ∀ b ∈ bins, items b ≠ []
  served : ∀ i, present i ↔ ∃ b ∈ bins, i ∈ items b
  once : ∀ b ∈ bins, ∀ b' ∈ bins, ∀ i, i ∈ items b → i ∈ items b' → b = b'

variable {present : I → Prop} {bins : List B} {items : B → List I} {b : B} {i : I}

theorem assigned_empty (items : B → List I) : Assigned (fun _ : I => False) [] items :=
  ⟨List.nodup_nil, nofun, nofun, fun _ => ⟨False.elim, fun ⟨_, h, _⟩ => nomatch h⟩, nofun⟩

theorem Assigned.existsUnique (h : Assigned present bins items) (hi : present i) :
    ∃! b, b ∈ bins ∧ i ∈ items b := by
  obtain ⟨b, hb, hib⟩ := (h.served i).mp hi
  exact ⟨b, ⟨hb, hib⟩, fun b' hb' => h.once b' hb'.1 b hb i hb'.2 hib⟩

/-- The items that are to be there may be described in another way. -/
theorem Assigned.congr (h : Assigned present bins items) {present' : I → Prop}
    (hiff : ∀ i, present' i ↔ present i) : Assigned present' bins items :=
  ⟨h.nodup, h.items_nodup, h.busy, fun i => (hiff i).trans (h.served i), h.once⟩

variable [DecidableEq B]

/-- **One more item goes into a bin that is there.** -/
theorem Assigned.put (h : Assigned present bins items) (hb : b ∈ bins) (hi : ¬ present i) :
    Assigned (fun j => j = i ∨ present j) bins (Function.update items b (i :: items b)) := by
  have hnew : ∀ b' ∈ bins, i ∉ items b' := fun b' hb' hmem => hi ((h.served i).mpr ⟨b', hb', hmem⟩)
  have hmem : ∀ b' ∈ bins, ∀ j, j ∈ Function.update items b (i :: items b) b' ↔
      (b' = b ∧ j = i) ∨ j ∈ items b' := by
    intro b' _ j
    by_cases heq : b' = b
    · subst heq
      simp
    · simp [heq]
  refine ⟨h.nodup, ?_, ?_, ?_, ?_⟩
  · intro b' hb'
    by_cases heq : b' = b
    · subst heq
      rw [Function.update_self]
      exact List.nodup_cons.mpr ⟨hnew b' hb', h.items_nodup b' hb'⟩
    · rw [Function.update_of_ne heq]
      exact h.items_nodup b' hb'
  · intro b' hb'
    by_cases heq : b' = b
    · subst heq
      rw [Function.update_self]
      exact List.cons_ne_nil _ _
    · rw [Function.update_of_ne heq]
      exact h.busy b' hb'
  · intro j
    constructor
    · rintro (rfl | hj)
      · exact ⟨b, hb, (hmem b hb j).mpr (Or.inl ⟨rfl, rfl⟩)⟩
      · obtain ⟨b', hb', hj'⟩ := (h.served j).mp hj
        exact ⟨b', hb', (hmem b' hb' j).mpr (Or.inr hj')⟩
    · rintro ⟨b', hb', hj⟩
      rcases (hmem b' hb' j).mp hj with ⟨-, rfl⟩ | hj'
      · exact Or.inl rfl
      · exact Or.inr ((h.served j).mpr ⟨b', hb', hj'⟩)
  · intro b₁ hb₁ b₂ hb₂ j hj₁ hj₂
    rcases (hmem b₁ hb₁ j).mp hj₁ with ⟨rfl, rfl⟩ | hj₁'
    · rcases (hmem b₂ hb₂ j).mp hj₂ with ⟨rfl, -⟩ | hj₂'
      · rfl
      · exact absurd hj₂' (hnew b₂ hb₂)
    · rcases (hmem b₂ hb₂ j).mp hj₂ with ⟨rfl, rfl⟩ | hj₂'
      · exact absurd hj₁' (hnew b₁ hb₁)
      · exact h.once b₁ hb₁ b₂ hb₂ j hj₁' hj₂'

/-- **A bin is opened for an item.** -/
theorem Assigned.opened (h : Assigned present bins items) (hb : b ∉ bins) (hi : ¬ present i) :
    Assigned (fun j => j = i ∨ present j) (bins ++ [b]) (Function.update items b [i]) := by
  have hnew : ∀ b' ∈ bins, i ∉ items b' := fun b' hb' hmem => hi ((h.served i).mpr ⟨b', hb', hmem⟩)
  -- the new bin is none of the old ones, so these keep what they hold
  have hold : ∀ b' ∈ bins, Function.update items b [i] b' = items b' := by
    intro b' hb'
    refine Function.update_of_ne ?_ _ _
    rintro rfl
    exact hb hb'
  have hcases : ∀ b' ∈ bins ++ [b], b' ∈ bins ∨ b' = b := by
    intro b' hb'
    simpa using hb'
  refine ⟨?_, ?_, ?_, ?_, ?_⟩
  · refine List.nodup_append.mpr ⟨h.nodup, by simp, ?_⟩
    rintro b₁ hb₁ b₂ hb₂ rfl
    exact hb (List.mem_singleton.mp hb₂ ▸ hb₁)
  · intro b' hb'
    rcases hcases b' hb' with hmem | rfl
    · rw [hold b' hmem]
      exact h.items_nodup b' hmem
    · simp
  · intro b' hb'
    rcases hcases b' hb' with hmem | rfl
    · rw [hold b' hmem]
      exact h.busy b' hmem
    · simp
  · intro j
    constructor
    · rintro (rfl | hj)
      · exact ⟨b, by simp, by simp⟩
      · obtain ⟨b', hb', hj'⟩ := (h.served j).mp hj
        exact ⟨b', List.mem_append_left _ hb', (hold b' hb').symm ▸ hj'⟩
    · rintro ⟨b', hb', hj⟩
      rcases hcases b' hb' with hmem | rfl
      · exact Or.inr ((h.served j).mpr ⟨b', hmem, hold b' hmem ▸ hj⟩)
      · exact Or.inl (by simpa using hj)
  · intro b₁ hb₁ b₂ hb₂ j hj₁ hj₂
    rcases hcases b₁ hb₁ with hmem₁ | rfl
    · rw [hold b₁ hmem₁] at hj₁
      rcases hcases b₂ hb₂ with hmem₂ | rfl
      · exact h.once b₁ hmem₁ b₂ hmem₂ j hj₁ (hold b₂ hmem₂ ▸ hj₂)
      · have hji : j = i := by simpa using hj₂
        exact absurd (hji ▸ hj₁) (hnew b₁ hmem₁)
    · have hji : j = i := by simpa using hj₁
      rcases hcases b₂ hb₂ with hmem₂ | rfl
      · rw [hold b₂ hmem₂] at hj₂
        exact absurd (hji ▸ hj₂) (hnew b₂ hmem₂)
      · rfl

variable [DecidableEq I]

/-- **An item is taken out**, and its bin is closed if it was the last. -/
theorem Assigned.take (h : Assigned present bins items) (hb : b ∈ bins) (hi : i ∈ items b) :
    Assigned (fun j => j ≠ i ∧ present j)
      (if (items b).erase i = [] then bins.erase b else bins)
      (Function.update items b ((items b).erase i)) := by
  -- the other bins keep what they hold, and the item is in none of them
  have hmem : ∀ b' ∈ bins, ∀ j, j ∈ Function.update items b ((items b).erase i) b' ↔
      j ≠ i ∧ j ∈ items b' := by
    intro b' hb' j
    by_cases heq : b' = b
    · subst heq
      rw [Function.update_self, (h.items_nodup b' hb').mem_erase_iff]
    · rw [Function.update_of_ne heq]
      refine ⟨fun hj => ⟨?_, hj⟩, And.right⟩
      rintro rfl
      exact heq (h.once b' hb' b hb j hj hi)
  -- a bin is closed only if nothing is left in it
  have hsub : ∀ b', b' ∈ (if (items b).erase i = [] then bins.erase b else bins) → b' ∈ bins := by
    intro b' hb'
    split at hb'
    · exact List.mem_of_mem_erase hb'
    · exact hb'
  have hkeep : ∀ b' ∈ bins, Function.update items b ((items b).erase i) b' ≠ [] →
      b' ∈ (if (items b).erase i = [] then bins.erase b else bins) := by
    intro b' hb' hne
    split
    · rename_i hlast
      refine (h.nodup.mem_erase_iff).mpr ⟨?_, hb'⟩
      rintro rfl
      exact hne (by rw [Function.update_self, hlast])
    · exact hb'
  refine ⟨?_, ?_, ?_, ?_, ?_⟩
  · split
    · exact h.nodup.erase b
    · exact h.nodup
  · intro b' hb'
    by_cases heq : b' = b
    · subst heq
      rw [Function.update_self]
      exact (h.items_nodup b' (hsub b' hb')).erase i
    · rw [Function.update_of_ne heq]
      exact h.items_nodup b' (hsub b' hb')
  · intro b' hb'
    by_cases heq : b' = b
    · subst heq
      rw [Function.update_self]
      intro hlast
      rw [if_pos hlast, h.nodup.mem_erase_iff] at hb'
      exact hb'.1 rfl
    · rw [Function.update_of_ne heq]
      exact h.busy b' (hsub b' hb')
  · intro j
    rw [h.served j]
    constructor
    · rintro ⟨hne, b', hb', hj⟩
      have hj' := (hmem b' hb' j).mpr ⟨hne, hj⟩
      exact ⟨b', hkeep b' hb' (List.ne_nil_of_mem hj'), hj'⟩
    · rintro ⟨b', hb', hj⟩
      have hj' := (hmem b' (hsub b' hb') j).mp hj
      exact ⟨hj'.1, b', hsub b' hb', hj'.2⟩
  · intro b₁ hb₁ b₂ hb₂ j hj₁ hj₂
    exact h.once b₁ (hsub b₁ hb₁) b₂ (hsub b₂ hb₂) j ((hmem b₁ (hsub b₁ hb₁) j).mp hj₁).2
      ((hmem b₂ (hsub b₂ hb₂) j).mp hj₂).2

end Kit.Bins
