import Mathlib.Data.List.Destutter

/-!
# Telling the changes

A reporter looks at a sequence of values, one after the other, and tells each one that is not
the one it looked at before. What is told is the sequence without its repetitions, whatever the
pieces are in which it was looked at.
-/

namespace Kit.Changes

variable {α : Type} [DecidableEq α]

/-- What is told of a sequence, after `a` was looked at. -/
def told (a : α) (l : List α) : List α := (l.destutter' (· ≠ ·) a).tail

theorem cons_told (a : α) (l : List α) : a :: told a l = l.destutter' (· ≠ ·) a := by
  induction l with
  | nil => rfl
  | cons b l ih =>
      by_cases hab : a = b
      · unfold told at ih ⊢
        rw [List.destutter'_cons_neg l (fun hne => hne hab)]
        exact ih
      · unfold told
        rw [List.destutter'_cons_pos l hab]
        rfl

@[simp] theorem told_nil (a : α) : told a [] = [] := rfl

theorem told_cons (a b : α) (l : List α) :
    told a (b :: l) = if a = b then told a l else b :: told b l := by
  split
  · rename_i hab
    unfold told
    rw [List.destutter'_cons_neg l (fun hne => hne hab)]
  · rename_i hab
    rw [cons_told]
    unfold told
    rw [List.destutter'_cons_pos l hab]
    rfl

/-- **The pieces fit together**: the reporter goes on from the last value of the first one. -/
theorem told_append (a : α) (l m : List α) :
    told a (l ++ m) = told a l ++ told (l.getLastD a) m := by
  induction l generalizing a with
  | nil => rfl
  | cons b l ih =>
      rw [List.cons_append, told_cons, told_cons, List.getLastD_cons]
      split
      · rename_i hab
        rw [ih, hab]
      · rw [ih, List.cons_append]

end Kit.Changes
