import Mathlib.Data.List.Perm.Basic
import Mathlib.Logic.Function.Basic

/-!
# Slots that may be empty

An array of `n` optional items, and the items it holds in the order of their slots. Filling
a slot adds an item and emptying one takes it away, wherever in the order that is; so the
statements are up to permutation.
-/

namespace Kit.Slots

variable {α : Type}

/-- The items in slots `0` to `n - 1`. -/
def collect (n : Nat) (f : Nat → Option α) : List α := (List.range n).filterMap f

variable {n i : Nat} {f g : Nat → Option α} {a : α}

theorem collect_succ (n : Nat) (f : Nat → Option α) :
    collect (n + 1) f = collect n f ++ (f n).toList := by
  unfold collect
  rw [List.range_succ, List.filterMap_append]
  cases h : f n <;> simp [h]

theorem collect_congr (h : ∀ k, k < n → f k = g k) : collect n f = collect n g := by
  unfold collect
  exact List.filterMap_congr fun k hk => h k (List.mem_range.mp hk)

theorem mem_collect : a ∈ collect n f ↔ ∃ k, k < n ∧ f k = some a := by
  unfold collect
  simp [List.mem_filterMap]

theorem collect_none (h : ∀ k, k < n → f k = none) : collect n f = [] := by
  refine List.eq_nil_iff_forall_not_mem.mpr fun a ha => ?_
  obtain ⟨k, hk, hf⟩ := mem_collect.mp ha
  rw [h k hk] at hf
  cases hf

/-- An update behind the last slot does not show. -/
theorem collect_update_of_le (h : n ≤ i) (x : Option α) :
    collect n (Function.update f i x) = collect n f :=
  collect_congr fun k hk => Function.update_of_ne (by omega) ..

/-- A slot that is full rather than empty holds one item more. -/
theorem collect_update (hi : i < n) :
    (collect n (Function.update f i (some a))).Perm
      (a :: collect n (Function.update f i none)) := by
  induction n with
  | zero => omega
  | succ n ih =>
      rw [collect_succ, collect_succ]
      rcases Nat.lt_or_eq_of_le (Nat.le_of_lt_succ hi) with hlt | rfl
      · rw [Function.update_of_ne (by omega), Function.update_of_ne (by omega),
          ← List.cons_append]
        exact (ih hlt).append_right _
      · rw [Function.update_self, Function.update_self,
          collect_update_of_le (Nat.le_refl _), collect_update_of_le (Nat.le_refl _),
          Option.toList_none, List.append_nil]
        exact List.perm_append_comm

/-- **An empty slot is filled.** -/
theorem collect_fill (hi : i < n) (hf : f i = none) :
    (collect n (Function.update f i (some a))).Perm (a :: collect n f) := by
  have h := @collect_update α n i f a hi
  rwa [← hf, Function.update_eq_self] at h

/-- **A full slot is emptied.** -/
theorem collect_empty (hi : i < n) (hf : f i = some a) :
    (collect n f).Perm (a :: collect n (Function.update f i none)) := by
  have h := @collect_update α n i f a hi
  rwa [← hf, Function.update_eq_self] at h

end Kit.Slots
