import Mathlib.Algebra.BigOperators.Group.List.Basic

/-!
# A running sum beside the values it summarises

The last `N` values of a series stand in a circular array, with the place of the oldest one,
and their sum is kept beside them: a new value replaces the oldest, and the sum loses the one
and gains the other. Sum and array agree as long as they are only changed together.

Nothing is asked of the values but that they can be added and subtracted; in particular they
may be registers that wrap.
-/

namespace Kit.RunningSum

variable {G : Type} [AddCommGroup G]

/-- The array, the place of the oldest value, and the sum. -/
structure Window (G : Type) where
  entries : List G
  index : Nat
  total : G

namespace Window

/-- The oldest value is replaced. -/
def push (w : Window G) (x : G) : Window G where
  entries := w.entries.set w.index x
  index := if w.index + 1 = w.entries.length then 0 else w.index + 1
  total := w.total - w.entries.getD w.index 0 + x

/-- `N` values, all of them zero. -/
def cleared (N : Nat) : Window G := ⟨List.replicate N 0, 0, 0⟩

/-- The sum is that of the values, and the place one of the array. -/
structure Balanced (w : Window G) : Prop where
  total : w.total = w.entries.sum
  index : w.index < w.entries.length

variable {w : Window G} {N : Nat}

theorem balanced_cleared (hN : 0 < N) : Balanced (cleared N : Window G) where
  total := by simp [cleared]
  index := by simpa [cleared] using hN

theorem length_push (w : Window G) (x : G) : (w.push x).entries.length = w.entries.length :=
  List.length_set

theorem index_push (h : w.index < w.entries.length) (x : G) :
    (w.push x).index < (w.push x).entries.length := by
  rw [length_push]
  unfold push
  dsimp only
  split <;> omega

/-- **A new value keeps sum and values together.** -/
theorem Balanced.push (h : Balanced w) (x : G) : Balanced (w.push x) where
  total := by
    have hlt := h.index
    have hold : w.entries.getD w.index 0 = w.entries[w.index] := by
      rw [List.getD_eq_getElem?_getD, List.getElem?_eq_getElem hlt, Option.getD_some]
    unfold Window.push
    dsimp only
    rw [List.sum_set', dif_pos h.index, h.total, hold, sub_eq_add_neg, add_assoc]
  index := index_push h.index x

theorem balanced_foldl_push (h : Balanced w) (xs : List G) : Balanced (xs.foldl Window.push w) := by
  induction xs generalizing w with
  | nil => exact h
  | cons x xs ih => exact ih (h.push x)

/-! ## The last values -/

/-- The values in the order they came, the oldest first. -/
def ordered (w : Window G) : List G := w.entries.drop w.index ++ w.entries.take w.index

theorem ordered_cleared (N : Nat) :
    (cleared N : Window G).ordered = List.replicate N 0 := by
  unfold ordered cleared
  rw [List.drop_zero, List.take_zero, List.append_nil]

theorem sum_ordered (w : Window G) : w.ordered.sum = w.entries.sum := by
  unfold ordered
  rw [List.sum_append, add_comm, ← List.sum_append, List.take_append_drop]

/-- The oldest value goes, the new one comes last. -/
theorem ordered_push (h : w.index < w.entries.length) (x : G) :
    (w.push x).ordered = w.ordered.tail ++ [x] := by
  have hdrop : w.entries.drop w.index
      = w.entries[w.index] :: w.entries.drop (w.index + 1) := List.drop_eq_getElem_cons h
  have htake : (w.entries.set w.index x).take (w.index + 1) = w.entries.take w.index ++ [x] := by
    rw [List.take_succ_eq_append_getElem (by simpa using h), List.take_set_of_le (Nat.le_refl _)]
    simp
  have hrest : (w.entries.set w.index x).drop (w.index + 1) = w.entries.drop (w.index + 1) :=
    List.drop_set_of_lt (Nat.lt_succ_self _)
  unfold ordered push
  dsimp only
  rw [hdrop]
  split
  · -- the place is the last of the array
    rename_i hend
    have hall : (w.entries.set w.index x).take (w.index + 1) = w.entries.set w.index x :=
      List.take_of_length_le (by rw [List.length_set]; omega)
    rw [List.drop_zero, List.take_zero, List.append_nil, ← hall, htake,
      List.drop_eq_nil_of_le (show w.entries.length ≤ w.index + 1 by omega)]
    rfl
  · rw [hrest, htake, List.cons_append, List.tail_cons, List.append_assoc]

omit [AddCommGroup G] in
theorem length_ordered (h : w.index ≤ w.entries.length) : w.ordered.length = w.entries.length := by
  unfold ordered
  rw [List.length_append, List.length_drop, List.length_take]
  omega

/-- **A window moves**: after any series of values it holds the last of them, and what it held
before as far as there are too few. -/
theorem ordered_foldl_push (h : w.index < w.entries.length) (xs : List G) :
    (xs.foldl push w).ordered = (w.ordered ++ xs).drop xs.length := by
  induction xs generalizing w with
  | nil => simp
  | cons x xs ih =>
      have hne : w.ordered ≠ [] := by
        intro hnil
        have hlength := length_ordered (Nat.le_of_lt h)
        rw [hnil, List.length_nil] at hlength
        omega
      obtain ⟨a, l, hl⟩ := List.exists_cons_of_ne_nil hne
      rw [List.foldl_cons, ih (index_push h x), ordered_push h x, hl]
      simp

end Window

end Kit.RunningSum
