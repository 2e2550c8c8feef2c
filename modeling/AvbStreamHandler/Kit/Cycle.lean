import Mathlib.Data.List.Perm.Basic

/-!
# A list walked in a circle

A doubly linked list with iterators, read as a list with positions: `next` and `prev`
wrap at the ends, `moveBefore` inserts a copy of an element before another position
and erases the original. Moving never changes what the list holds.
-/

namespace Kit.Cycle

/-- The position after `i` in a list of `n`, the first one after the last. -/
def next (n i : Nat) : Nat := if i + 1 = n then 0 else i + 1

/-- The position before `i` in a list of `n`, the last one before the first. -/
def prev (n i : Nat) : Nat := if i = 0 then n - 1 else i - 1

variable {α : Type}

/-- Insert `x` before position `j`, then erase the element that stood at `c`. -/
def moveBefore (l : List α) (c j : Nat) (x : α) : List α :=
  if j ≤ c then (l.insertIdx j x).eraseIdx (c + 1) else (l.insertIdx j x).eraseIdx c

theorem perm_eraseIdx {l : List α} {i : Nat} {x : α} (h : l[i]? = some x) :
    (x :: l.eraseIdx i).Perm l := by
  obtain ⟨hi, hx⟩ := List.getElem?_eq_some_iff.mp h
  rw [← hx]
  exact List.getElem_cons_eraseIdx_perm hi

/-- **Moving an element permutes the list.** -/
theorem perm_moveBefore {l : List α} {c j : Nat} {x : α} (hc : l[c]? = some x)
    (hj : j ≤ l.length) : (moveBefore l c j x).Perm l := by
  have hins : (l.insertIdx j x).Perm (x :: l) := List.perm_insertIdx x l hj
  unfold moveBefore
  split
  · rename_i hjc
    have hx : (l.insertIdx j x)[c + 1]? = some x := by
      rw [List.getElem?_insertIdx_of_gt (by omega)]
      exact hc
    exact ((perm_eraseIdx hx).trans hins).cons_inv
  · rename_i hjc
    have hx : (l.insertIdx j x)[c]? = some x := by
      rw [List.getElem?_insertIdx_of_lt (by omega)]
      exact hc
    exact ((perm_eraseIdx hx).trans hins).cons_inv

theorem next_lt {n i : Nat} (h : i < n) : next n i < n := by
  unfold next
  split <;> omega

theorem prev_lt {n i : Nat} (h : i < n) : prev n i < n := by
  unfold prev
  split <;> omega

end Kit.Cycle
