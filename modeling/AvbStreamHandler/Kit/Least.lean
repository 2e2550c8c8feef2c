import Mathlib.Tactic.Basic

/-!
# The least value of a selection

A loop that goes through a list, skips what is not selected and keeps the least value it
has seen, starting from a value that stands for none. The three lemmas are all that is
needed to forget the loop: the result is below every selected value, it is one of them or
the start, and so it is known as soon as one selected value is below the rest.
-/

namespace Kit

variable {ι : Type} (p : ι → Bool) (f : ι → Nat)

/-- The least `f i` over the selected `i` of the list, and `top` if there is none
below it. -/
def least (top : Nat) (l : List ι) : Nat :=
  l.foldl (fun m i => if p i = true ∧ f i < m then f i else m) top

variable {p f}

theorem least_le_top (top : Nat) (l : List ι) : least p f top l ≤ top := by
  induction l generalizing top with
  | nil => exact Nat.le_refl top
  | cons i l ih =>
      unfold least at ih ⊢
      rw [List.foldl_cons]
      split
      · rename_i h
        exact Nat.le_trans (ih (f i)) (Nat.le_of_lt h.2)
      · exact ih top

theorem least_le (top : Nat) {l : List ι} {i : ι} (hi : i ∈ l) (hp : p i = true) :
    least p f top l ≤ f i := by
  induction l generalizing top with
  | nil => exact absurd hi List.not_mem_nil
  | cons j l ih =>
      rcases List.mem_cons.mp hi with rfl | hi
      · show least p f (if p i = true ∧ f i < top then f i else top) l ≤ f i
        refine Nat.le_trans (least_le_top _ l) ?_
        split
        · exact Nat.le_refl _
        · rename_i h
          exact Nat.le_of_not_lt fun hlt => h ⟨hp, hlt⟩
      · exact ih _ hi

theorem least_mem (top : Nat) (l : List ι) :
    least p f top l = top ∨ ∃ i ∈ l, p i = true ∧ f i = least p f top l := by
  induction l generalizing top with
  | nil => exact Or.inl rfl
  | cons j l ih =>
      have hstep : least p f top (j :: l) =
          least p f (if p j = true ∧ f j < top then f j else top) l := rfl
      rw [hstep]
      split
      · rename_i h
        rcases ih (f j) with htop | ⟨i, hi, hpi, hfi⟩
        · exact Or.inr ⟨j, List.mem_cons_self, h.1, htop.symm⟩
        · exact Or.inr ⟨i, List.mem_cons_of_mem j hi, hpi, hfi⟩
      · rcases ih top with htop | ⟨i, hi, hpi, hfi⟩
        · exact Or.inl htop
        · exact Or.inr ⟨i, List.mem_cons_of_mem j hi, hpi, hfi⟩

/-- A selected value below all selected values and the start is the result. -/
theorem least_eq {top : Nat} {l : List ι} {i : ι} (hi : i ∈ l) (hp : p i = true)
    (htop : f i ≤ top) (hmin : ∀ j ∈ l, p j = true → f i ≤ f j) : least p f top l = f i := by
  refine Nat.le_antisymm (least_le top hi hp) ?_
  rcases least_mem top l with h | ⟨j, hj, hpj, hfj⟩
  · rw [h]
    exact htop
  · rw [← hfj]
    exact hmin j hj hpj

end Kit
