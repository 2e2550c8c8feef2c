import Mathlib.Data.Nat.Find
import Mathlib.Logic.Function.Iterate

/-!
# Searching a cycle

From where the last search ended, step by step, for something that need not be skipped, and
no further than back to the start.
-/

namespace Kit.Search

variable {α : Type} [DecidableEq α]

/-- The first of `x`, `next x`, … that is not skipped; `none` if the start is met again. -/
def search (next : α → α) (skip : α → Bool) (start : α) : Nat → α → Option α
  | 0, _ => none
  | n + 1, x =>
      if skip x then
        if next x = start then none else search next skip start n (next x)
      else some x

variable {next : α → α} {skip : α → Bool} {start : α}

/-- What is found is not skipped. -/
theorem search_found {n : Nat} {x y : α} (h : search next skip start n x = some y) :
    skip y = false := by
  induction n generalizing x with
  | zero => cases h
  | succ n ih =>
      unfold search at h
      split at h
      · split at h
        · cases h
        · exact ih h
      · rename_i hskip
        cases h
        simpa using hskip

/-- From the `i`-th step on, it finds what is the first to be found, at the `d`-th. -/
theorem search_from {d : Nat} (hd : skip (next^[d] start) = false)
    (hfirst : ∀ j, j < d → skip (next^[j] start) = true) {i n : Nat} (hi : i ≤ d)
    (hn : d - i < n) : search next skip start n (next^[i] start) = some (next^[d] start) := by
  induction n generalizing i with
  | zero => omega
  | succ n ih =>
      unfold search
      by_cases heq : i = d
      · subst heq
        rw [if_neg (by simp [hd])]
      · have hlt : i < d := by omega
        have hstep : next (next^[i] start) = next^[i + 1] start :=
          (Function.iterate_succ_apply' next i start).symm
        -- back at the start, what is found would have been found before
        have hne : next (next^[i] start) ≠ start := by
          intro hback
          rw [hstep] at hback
          have hsplit : next^[d] start = next^[d - (i + 1)] start := by
            conv_lhs => rw [show d = d - (i + 1) + (i + 1) by omega, Function.iterate_add_apply,
              hback]
          rw [hsplit, hfirst _ (by omega)] at hd
          cases hd
        rw [if_pos (hfirst i hlt), if_neg hne, hstep]
        exact ih (by omega) (by omega)

/-- **What can be reached from the start is searched.** -/
theorem search_some {d n : Nat} (hd : skip (next^[d] start) = false) (hn : d < n) :
    ∃ y, search next skip start n start = some y := by
  have hex : ∃ d, skip (next^[d] start) = false := ⟨d, hd⟩
  have hfirst : ∀ j, j < Nat.find hex → skip (next^[j] start) = true := by
    intro j hj
    simpa using Nat.find_min hex hj
  have hle : Nat.find hex ≤ d := Nat.find_min' hex hd
  exact ⟨_, search_from (Nat.find_spec hex) hfirst (Nat.zero_le _) (by omega)⟩

end Kit.Search
