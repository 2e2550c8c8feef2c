import Mathlib.Tactic.Basic

/-!
# A block of memory that remembers where it was touched

`cell` is what lies at an index, counted from the start of the block; nothing stops
an index from lying past the block's end, exactly as with a raw pointer. `touched`
is the ghost: every index an access went to, so that a bounds claim is a claim about
the log and not about the code that produced it.
-/

namespace Kit

/-- Raw memory, with the log of the accessed indices. -/
structure Memory (α : Type) where
  cell : Nat → α
  touched : List Nat

namespace Memory

variable {α : Type}

/-- `n` cells from `dst` on are overwritten from `src`. -/
def copyIn (m : Memory α) (dst : Nat) (src : Nat → α) (n : Nat) : Memory α where
  cell i := if dst ≤ i ∧ i < dst + n then src (i - dst) else m.cell i
  touched := m.touched ++ List.range' dst n

/-- `n` cells from `src` on are read. -/
def copyOut (m : Memory α) (src n : Nat) : List α × Memory α :=
  ((List.range' src n).map m.cell, { m with touched := m.touched ++ List.range' src n })

/-- Every access so far stayed below `n`. -/
def Within (m : Memory α) (n : Nat) : Prop := ∀ i ∈ m.touched, i < n

instance (m : Memory α) (n : Nat) : Decidable (m.Within n) :=
  inferInstanceAs (Decidable (∀ i ∈ m.touched, i < n))

theorem within_append {m : Memory α} {n dst len : Nat} (h : m.Within n)
    (hlen : len = 0 ∨ dst + len ≤ n) :
    ∀ i ∈ m.touched ++ List.range' dst len, i < n := by
  intro i hi
  rcases List.mem_append.mp hi with hi | hi
  · exact h i hi
  · have := List.mem_range'_1.mp hi
    omega

/-- A block write stays in bounds if its last cell does; an empty one always does. -/
theorem within_copyIn {m : Memory α} {n dst len : Nat} {src : Nat → α} (h : m.Within n)
    (hlen : len = 0 ∨ dst + len ≤ n) : (m.copyIn dst src len).Within n :=
  within_append h hlen

/-- The same for a block read. -/
theorem within_copyOut {m : Memory α} {n src len : Nat} (h : m.Within n)
    (hlen : len = 0 ∨ src + len ≤ n) : (m.copyOut src len).2.Within n :=
  within_append h hlen

end Memory

end Kit
