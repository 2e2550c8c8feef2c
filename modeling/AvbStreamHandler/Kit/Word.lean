import Mathlib.Tactic.Basic

/-!
# Machine words as naturals

A 32-bit unsigned register is a natural below `2 ^ 32`, and an operation on
registers is the operation on naturals reduced modulo `2 ^ 32`. The reduction is
written out with literals, so that linear arithmetic decides the side conditions.

The lemmas say when the reduction does nothing, and what it does at the one place
where code relies on it: a difference that came out negative.
-/

namespace Kit.Word

/-- The addition of a 32-bit register. -/
def add32 (a b : Nat) : Nat := (a + b) % 4294967296

/-- The subtraction of a 32-bit register. The literal stands first: a sum with an
unknown right end does not unfold. -/
def sub32 (a b : Nat) : Nat := (4294967296 + a - b % 4294967296) % 4294967296

/-- The addition of a 64-bit register. -/
def add64 (a b : Nat) : Nat := (a + b) % 18446744073709551616

/-- The subtraction of a 64-bit register. -/
def sub64 (a b : Nat) : Nat :=
  (18446744073709551616 + a - b % 18446744073709551616) % 18446744073709551616

/-- The multiplication of a 64-bit register. -/
def mul64 (a b : Nat) : Nat := (a * b) % 18446744073709551616

/-- A 32-bit register read as a signed number. -/
def toInt32 (a : Nat) : Int :=
  if a % 4294967296 < 2147483648 then (a % 4294967296 : Nat)
  else (a % 4294967296 : Nat) - (4294967296 : Int)

/-- A signed number as a 64-bit register has it. -/
def ofInt64 (a : Int) : Nat := (a % 18446744073709551616).toNat

/-- A 64-bit register read as a signed number. -/
def toInt64 (a : Nat) : Int :=
  if a % 18446744073709551616 < 9223372036854775808 then (a % 18446744073709551616 : Nat)
  else (a % 18446744073709551616 : Nat) - (18446744073709551616 : Int)

theorem add32_of_lt {a b : Nat} (h : a + b < 4294967296) : add32 a b = a + b :=
  Nat.mod_eq_of_lt h

theorem sub32_of_le {a b : Nat} (h : b ≤ a) (ha : a < 4294967296) : sub32 a b = a - b := by
  unfold sub32; omega

/-- A negative difference reads as its distance below `2 ^ 32`. -/
theorem sub32_of_lt {a b : Nat} (h : a < b) (hb : b < 4294967296) :
    sub32 a b = 4294967296 - (b - a) := by
  unfold sub32; omega

theorem sub32_lt (a b : Nat) : sub32 a b < 4294967296 := by
  unfold sub32; omega

end Kit.Word
