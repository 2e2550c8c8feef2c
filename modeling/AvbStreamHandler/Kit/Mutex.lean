import Mathlib.Tactic.Basic

/-!
# A mutex that is not recursive

What a thread does with a mutex is a list of operations. A thread that locks a mutex it holds
waits for itself.
-/

namespace Kit.Mutex

inductive Op
  | lock
  | unlock
deriving DecidableEq, Repr

/-- The thread holds the mutex afterwards, if it did before or not. -/
def held : Bool → List Op → Bool
  | h, [] => h
  | _, .lock :: ops => held true ops
  | _, .unlock :: ops => held false ops

/-- The thread locks the mutex while it holds it. -/
def reenters : Bool → List Op → Bool
  | _, [] => false
  | h, .lock :: ops => h || reenters true ops
  | _, .unlock :: ops => reenters false ops

/-- What is done between a lock and an unlock. -/
def guarded (ops : List Op) : List Op := .lock :: (ops ++ [.unlock])

variable {h : Bool} {ops ops' : List Op}

theorem held_append : held h (ops ++ ops') = held (held h ops) ops' := by
  induction ops generalizing h with
  | nil => rfl
  | cons op ops ih =>
      cases op with
      | lock => exact ih
      | unlock => exact ih

theorem reenters_append :
    reenters h (ops ++ ops') = (reenters h ops || reenters (held h ops) ops') := by
  induction ops generalizing h with
  | nil => exact (Bool.false_or _).symm
  | cons op ops ih =>
      cases op with
      | lock =>
          show (h || reenters true (ops ++ ops')) = _
          rw [ih]
          exact (Bool.or_assoc ..).symm
      | unlock => exact ih

/-- A guarded piece leaves the mutex free. -/
theorem held_guarded : held h (guarded ops) = false := by
  show held true (ops ++ [.unlock]) = false
  rw [held_append]
  rfl

/-- **A guarded piece is safe** in the hands of a thread that does not hold the mutex, if what
is guarded does not lock it. -/
theorem reenters_guarded : reenters h (guarded ops) = (h || reenters true ops) := by
  show (h || reenters true (ops ++ [.unlock])) = _
  rw [reenters_append]
  show (h || (reenters true ops || reenters (held true ops) [.unlock])) = _
  rw [show reenters (held true ops) [.unlock] = false from rfl, Bool.or_false]

end Kit.Mutex
