import Mathlib.Algebra.Order.Ring.Abs
import Mathlib.Data.Rat.Cast.Order
import Mathlib.Tactic.FieldSimp
import Mathlib.Tactic.Linarith
import Mathlib.Tactic.Ring

/-!
# Counting with a rate in fixed point

A rate is kept as a whole number `s` of `b`-ths, and what it comes to over a distance `d` is
counted in registers that hold numbers below `M`: the product, reduced, and cut at the point.

As long as the product fits, the count is less than one below the product. Beyond that it is not
even near, and neither is the count over a distance that goes backwards. `S` is the rate that
was meant, for one that may itself have lost something on the way.
-/

namespace Kit.FixedPoint

/-- The whole part of `s * d / b`, as registers below `M` have it. -/
def count (b M s : ℕ) (d : ℤ) : ℤ := s * d % M / b

section

variable {b M s S : ℕ} {d : ℤ}

@[simp] theorem count_zero_rate : count b M 0 d = 0 := by
  simp [count]

theorem count_nonneg (hM : 0 < M) : 0 ≤ count b M s d :=
  Int.ediv_nonneg (Int.emod_nonneg _ (by omega)) (by omega)

theorem mul_count_le_emod (hb : 0 < b) : b * count b M s d ≤ s * d % M :=
  Int.mul_ediv_self_le (by omega)

theorem emod_lt_mul_count (hb : 0 < b) : s * d % M < b * count b M s d + b := by
  have h := Int.lt_mul_ediv_self_add (x := s * d % M) (k := b) (by omega)
  exact h

/-- The reduced product is a number of times `M` below the product. -/
theorem product_eq (hM : 0 < M) (hd : 0 ≤ d) : ∃ q : ℕ, (s * d : ℤ) = s * d % M + M * q := by
  have hq : 0 ≤ (s * d : ℤ) / M := Int.ediv_nonneg (mul_nonneg (by omega) hd) (by omega)
  obtain ⟨q, hq⟩ := Int.eq_ofNat_of_zero_le hq
  exact ⟨q, by rw [← hq, Int.emod_add_mul_ediv]⟩

/-- A count never runs ahead. -/
theorem mul_count_le (hb : 0 < b) (hM : 0 < M) (hd : 0 ≤ d) : b * count b M s d ≤ s * d := by
  obtain ⟨q, hq⟩ := product_eq (s := s) hM hd
  have hle := mul_count_le_emod (M := M) (s := s) (d := d) hb
  have : (0 : ℤ) ≤ M * q := by positivity
  omega

/-- **Exactly the products that fit** are counted with less than one lost. -/
theorem lt_mul_count_iff (hb : 0 < b) (hM : b < M) (hd : 0 ≤ d) :
    s * d ≤ b * count b M s d + b ↔ s * d < M := by
  constructor
  · intro hle
    obtain ⟨q, hq⟩ := product_eq (s := s) (M := M) (by omega) hd
    have hcount := mul_count_le_emod (M := M) (s := s) (d := d) hb
    have hlt : (s * d : ℤ) % M < M := Int.emod_lt_of_pos _ (by omega)
    rcases Nat.eq_zero_or_pos q with rfl | hpos
    · push_cast at hq
      omega
    · -- a product that was reduced is off by at least one whole register
      have : (M : ℤ) ≤ M * q := le_mul_of_one_le_right (by omega) (by omega)
      omega
  · intro hlt
    have hred : (s * d : ℤ) % M = s * d :=
      Int.emod_eq_of_lt (mul_nonneg (by omega) hd) hlt
    have := emod_lt_mul_count (M := M) (s := s) (d := d) hb
    omega

/-- With a rate that has lost a good part on the way, only what stays below one is near. -/
theorem lt_mul_count_iff_of_lost {n : ℕ} (hb : 0 < b) (hM : 0 < M) (hlost : b < (S - s) * (n + 1))
    (hs : s * n < b) (hbM : b ≤ M) (hd : 0 ≤ d) :
    S * d ≤ b * count b M s d + b ↔ S * d ≤ b := by
  have hcount : b * count b M s d ≤ s * d := mul_count_le hb hM hd
  obtain ⟨k, rfl⟩ := Int.eq_ofNat_of_zero_le hd
  constructor
  · intro hle
    have hk : k ≤ n := by
      by_contra hgt
      have hmono : (S - s) * (n + 1) ≤ (S - s) * k := Nat.mul_le_mul_left _ (by omega)
      have hsub : (S - s) * k = S * k - s * k := Nat.sub_mul _ _ _
      have : ((S * k : ℕ) : ℤ) ≤ (s * k : ℕ) + b := by
        push_cast
        omega
      omega
    have hsk : s * k < b := (Nat.mul_le_mul_left s hk).trans_lt hs
    have hzero : count b M s k = 0 := by
      have hred : (s * (k : ℤ)) % M = (s * k : ℕ) := by
        push_cast
        exact Int.emod_eq_of_lt (by positivity) (by exact_mod_cast hsk.trans_le hbM)
      rw [count, hred]
      exact_mod_cast Nat.div_eq_of_lt hsk
    rw [hzero] at hle
    omega
  · intro hle
    have : (0 : ℤ) ≤ b * count b M s k := mul_nonneg (by omega) (count_nonneg hM)
    omega

/-- A short way back is counted as a long way ahead. -/
theorem two_le_count (hM : 3 * b ≤ M) (hs : 0 < s) (hd : d < 0) (hshort : s * -d ≤ b) :
    2 ≤ count b M s d := by
  have hneg : s * d < 0 := mul_neg_of_pos_of_neg (by omega) hd
  rw [mul_neg] at hshort
  have hb : 0 < b := by omega
  have hred : (s * d : ℤ) % M = s * d + M := by
    rw [← Int.add_emod_right, Int.emod_eq_of_lt (by omega) (by omega)]
  rw [count, hred]
  exact Int.le_ediv_of_mul_le (by omega) (by omega)

/-- Over a distance that goes backwards, only a rate of which nothing is left stays near. -/
theorem count_near_iff_of_neg (hM : 3 * b ≤ M) (hb : 0 < b) (hsS : s ≤ S) (hd : d < 0) :
    |b * count b M s d - S * d| ≤ b ↔ s = 0 ∧ S * -d ≤ b := by
  have hnonneg : 0 ≤ b * count b M s d := mul_nonneg (by omega) (count_nonneg (by omega))
  have hback : 0 ≤ S * -d := mul_nonneg (by omega) (by omega)
  rw [mul_neg] at hback ⊢
  rw [abs_of_nonneg (by omega)]
  constructor
  · intro hnear
    refine ⟨?_, by omega⟩
    by_contra hs
    have hle : s * -d ≤ S * -d :=
      mul_le_mul_of_nonneg_right (by exact_mod_cast hsS) (by omega)
    simp only [mul_neg] at hle
    have htwo := two_le_count hM (Nat.pos_of_ne_zero hs) hd (by rw [mul_neg]; omega)
    have : (b : ℤ) * 2 ≤ b * count b M s d := mul_le_mul_of_nonneg_left htwo (by omega)
    omega
  · rintro ⟨rfl, hle⟩
    simp only [count_zero_rate, mul_zero]
    omega

theorem count_near_iff_of_nonneg (hb : 0 < b) (hM : 0 < M) (hsS : s ≤ S) (hd : 0 ≤ d) :
    |b * count b M s d - S * d| ≤ b ↔ S * d ≤ b * count b M s d + b := by
  have hle := mul_count_le (s := s) hb hM hd
  have hmono : s * d ≤ S * d := mul_le_mul_of_nonneg_right (by exact_mod_cast hsS) hd
  rw [abs_of_nonpos (by omega)]
  omega

end

/-! ## Errors -/

variable {α : Type*} [Field α] [LinearOrder α] [IsStrictOrderedRing α] {v x q d : α}

/-- A count is within one, and the rounding of the rate over the distance, of the exact value just
if it is within one of the value with the rounded rate; provided that it does not lie beyond that
value. -/
theorem near_exact_iff (hq : q ≤ x) (hpos : 0 ≤ d → v ≤ q * d) (hneg : d < 0 → q * d ≤ v) :
    |v - x * d| ≤ 1 + |x - q| * |d| ↔ |v - q * d| ≤ 1 := by
  rw [abs_of_nonneg (sub_nonneg.mpr hq)]
  rcases le_or_gt 0 d with hd | hd
  · have hle : q * d ≤ x * d := mul_le_mul_of_nonneg_right hq hd
    rw [abs_of_nonneg hd, abs_of_nonpos (by linarith [hpos hd]),
      abs_of_nonpos (by linarith [hpos hd]), sub_mul]
    constructor <;> intro h <;> linarith
  · have hle : x * d ≤ q * d := mul_le_mul_of_nonpos_right hq hd.le
    rw [abs_of_neg hd, abs_of_nonneg (by linarith [hneg hd]),
      abs_of_nonneg (by linarith [hneg hd]), mul_neg, sub_mul]
    constructor <;> intro h <;> linarith

/-- For a count, that is a matter of whole numbers. -/
theorem count_near_exact_iff {b M s S : ℕ} {d : ℤ} (hb : 0 < b) (hM : 0 < M) (hsS : s ≤ S)
    (hx : (S / b : α) ≤ x) :
    |(count b M s d : α) - x * d| ≤ 1 + |x - S / b| * |(d : α)| ↔
      |b * count b M s d - S * d| ≤ (b : ℤ) := by
  have hbpos : (0 : α) < b := by exact_mod_cast hb
  have hscaled : |(b * count b M s d - S * d : ℤ)| ≤ (b : ℤ) ↔
      |(count b M s d : α) - S / b * d| ≤ 1 := by
    have hdist : ((b * count b M s d - S * d : ℤ) : α) = b * (count b M s d - S / b * d) := by
      push_cast
      field_simp
    rw [← Int.cast_le (R := α), Int.cast_abs, hdist, abs_mul, abs_of_pos hbpos, Int.cast_natCast]
    exact mul_le_iff_le_one_right hbpos
  rw [hscaled]
  refine near_exact_iff hx (fun hd => ?_) (fun hd => ?_)
  · have hd : 0 ≤ d := by exact_mod_cast hd
    have hle : b * count b M s d ≤ S * d := (mul_count_le hb hM hd).trans
      (mul_le_mul_of_nonneg_right (by exact_mod_cast hsS) hd)
    rw [div_mul_eq_mul_div, le_div_iff₀ hbpos, mul_comm]
    exact_mod_cast hle
  · have hcount : (0 : α) ≤ count b M s d := by exact_mod_cast count_nonneg hM
    have hrate : (0 : α) ≤ S / b := div_nonneg (Nat.cast_nonneg S) hbpos.le
    exact (mul_nonpos_of_nonneg_of_nonpos hrate hd.le).trans hcount

end Kit.FixedPoint
