import Mathlib.Data.Nat.Basic
import Mathlib.Tactic.IntervalCases

/-!
# Numerals

A numeral in a base of at most sixteen, read from the head of a text as far as its digits go.
What `Nat.toDigits` prints is read back as the number it was, whatever follows that is no digit.
-/

namespace Kit.Numerals

/-- The value of a digit, in lower or upper case. -/
def digitValue (c : Char) : Option Nat :=
  if '0' ≤ c ∧ c ≤ '9' then some (c.toNat - 48)
  else if 'a' ≤ c ∧ c ≤ 'f' then some (c.toNat - 87)
  else if 'A' ≤ c ∧ c ≤ 'F' then some (c.toNat - 55)
  else none

def isDigit (base : Nat) (c : Char) : Bool := (digitValue c).any (· < base)

/-- The digits at the head of a text. -/
def numeral (base : Nat) (text : List Char) : List Char := text.takeWhile (isDigit base)

def value (base : Nat) (digits : List Char) : Nat :=
  digits.foldl (fun n c => base * n + (digitValue c).getD 0) 0

variable {base n d : Nat} {c : Char} {rest : List Char}

theorem digitValue_digitChar (hd : d < 16) : digitValue d.digitChar = some d := by
  interval_cases d <;> decide

theorem isDigit_digitChar (hd : d < base) (hbase : base ≤ 16) :
    isDigit base d.digitChar = true := by
  unfold isDigit
  rw [digitValue_digitChar (hd.trans_le hbase)]
  exact decide_eq_true hd

theorem value_append_digit (digits : List Char) :
    value base (digits ++ [c]) = base * value base digits + (digitValue c).getD 0 := by
  unfold value
  rw [List.foldl_append]
  rfl

theorem isDigit_of_mem_toDigits (hone : 1 < base) (hbase : base ≤ 16) :
    ∀ c ∈ Nat.toDigits base n, isDigit base c = true := by
  induction n using Nat.strongRecOn with
  | ind n ih =>
      by_cases hn : n < base
      · rw [Nat.toDigits_of_lt_base hn]
        intro c hc
        rw [List.mem_singleton.mp hc]
        exact isDigit_digitChar hn hbase
      · have hle : base ≤ n := Nat.le_of_not_lt hn
        rw [Nat.toDigits_of_base_le hone hle]
        intro c hc
        rcases List.mem_append.mp hc with hc | hc
        · exact ih (n / base) (Nat.div_lt_self (by omega) hone) c hc
        · rw [List.mem_singleton.mp hc]
          exact isDigit_digitChar (Nat.mod_lt n (by omega)) hbase

/-- **A printed number** has the value it had. -/
theorem value_toDigits (hone : 1 < base) (hbase : base ≤ 16) :
    value base (Nat.toDigits base n) = n := by
  induction n using Nat.strongRecOn with
  | ind n ih =>
      by_cases hn : n < base
      · rw [Nat.toDigits_of_lt_base hn]
        unfold value
        rw [List.foldl_cons, List.foldl_nil, digitValue_digitChar (hn.trans_le hbase),
          Nat.mul_zero, Nat.zero_add, Option.getD_some]
      · have hle : base ≤ n := Nat.le_of_not_lt hn
        have hmod : n % base < base := Nat.mod_lt n (by omega)
        rw [Nat.toDigits_of_base_le hone hle, value_append_digit,
          ih (n / base) (Nat.div_lt_self (by omega) hone),
          digitValue_digitChar (hmod.trans_le hbase), Option.getD_some]
        exact Nat.div_add_mod n base

/-- **It is read to its end** and no further. -/
theorem numeral_toDigits (hone : 1 < base) (hbase : base ≤ 16)
    (hrest : ∀ c ∈ rest.head?, isDigit base c = false) :
    numeral base (Nat.toDigits base n ++ rest) = Nat.toDigits base n := by
  unfold numeral
  rw [List.takeWhile_append_of_pos (isDigit_of_mem_toDigits hone hbase)]
  cases rest with
  | nil => rw [List.takeWhile_nil, List.append_nil]
  | cons c rest =>
      rw [List.takeWhile_cons_of_neg, List.append_nil]
      rw [hrest c rfl]
      exact Bool.false_ne_true

end Kit.Numerals
