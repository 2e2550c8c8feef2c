import Mathlib.Algebra.Order.Floor.Ring
import Mathlib.Algebra.Order.Field.Basic
import Mathlib.Tactic.FieldSimp
import Mathlib.Tactic.Linarith
import Mathlib.Tactic.Ring

/-!
# Numbers cut toward zero

What a conversion from a fraction to an integer does. It loses less than one, never moves a
number away from zero and keeps the order; integers come out as they are.

A number that is scaled, cut, scaled back and cut again ends up between zero and where it
started, and less than `1 + 1 / f` away from there.
-/

namespace Kit

section

variable {α : Type*} [Field α] [LinearOrder α] [FloorRing α]

def truncate (x : α) : ℤ := if 0 ≤ x then ⌊x⌋ else ⌈x⌉

/-- The nearest integer, the one away from zero for a half. -/
def nearest (x : α) : ℤ := if 0 ≤ x then ⌊x + 1 / 2⌋ else ⌈x - 1 / 2⌉

/-- Scaled by `f`, cut, scaled back and cut again. -/
def thereAndBack (f : α) (d : ℤ) : ℤ := truncate ((truncate (d * f) : α) * (1 / f))

variable {x : α}

theorem truncate_of_nonneg (h : 0 ≤ x) : truncate x = ⌊x⌋ := if_pos h

theorem truncate_nonneg (h : 0 ≤ x) : 0 ≤ truncate x := by
  rw [truncate_of_nonneg h]
  exact Int.floor_nonneg.mpr h

/-- A positive number loses less than one. -/
theorem truncate_le (h : 0 ≤ x) : (truncate x : α) ≤ x ∧ x < truncate x + 1 := by
  rw [truncate_of_nonneg h]
  exact ⟨Int.floor_le x, Int.lt_floor_add_one x⟩

theorem nearest_le (h : 0 ≤ x) : (nearest x : α) ≤ x + 1 / 2 := by
  rw [nearest, if_pos h]
  exact Int.floor_le _

end

variable {α : Type*} [Field α] [LinearOrder α] [IsStrictOrderedRing α] [FloorRing α] {x y f : α}

theorem truncate_of_nonpos (h : x ≤ 0) : truncate x = ⌈x⌉ := by
  unfold truncate
  split
  · rename_i hpos
    rw [le_antisymm h hpos, Int.floor_zero, Int.ceil_zero]
  · rfl

@[simp] theorem truncate_intCast (n : ℤ) : truncate (n : α) = n := by
  unfold truncate
  split
  · exact Int.floor_intCast n
  · exact Int.ceil_intCast n

theorem truncate_nonpos (h : x ≤ 0) : truncate x ≤ 0 := by
  rw [truncate_of_nonpos h]
  exact Int.ceil_le.mpr (by simpa using h)

/-- A negative number gains less than one. -/
theorem le_truncate (h : x ≤ 0) : x ≤ truncate x ∧ (truncate x : α) < x + 1 := by
  rw [truncate_of_nonpos h]
  exact ⟨Int.le_ceil x, Int.ceil_lt_add_one x⟩

theorem truncate_mono (h : x ≤ y) : truncate x ≤ truncate y := by
  rcases le_total 0 x with hx | hx
  · rw [truncate_of_nonneg hx, truncate_of_nonneg (hx.trans h)]
    exact Int.floor_le_floor h
  · rcases le_total 0 y with hy | hy
    · exact (truncate_nonpos hx).trans (truncate_nonneg hy)
    · rw [truncate_of_nonpos hx, truncate_of_nonpos hy]
      exact Int.ceil_le_ceil h

/-- Cutting does not look at the sign. -/
theorem truncate_neg (x : α) : truncate (-x) = -truncate x := by
  rcases le_total 0 x with hx | hx
  · rw [truncate_of_nonneg hx, truncate_of_nonpos (neg_nonpos.mpr hx), Int.ceil_neg]
  · rw [truncate_of_nonpos hx, truncate_of_nonneg (neg_nonneg.mpr hx), Int.floor_neg]

theorem thereAndBack_neg (f : α) (d : ℤ) : thereAndBack f (-d) = -thereAndBack f d := by
  unfold thereAndBack
  rw [Int.cast_neg, neg_mul, truncate_neg, Int.cast_neg, neg_mul, truncate_neg]

/-- From a number that is not negative. -/
theorem thereAndBack_of_nonneg {d : ℤ} (hd : 0 ≤ d) (hf : 0 < f) :
    0 ≤ thereAndBack f d ∧ thereAndBack f d ≤ d
      ∧ ((d - thereAndBack f d : ℤ) : α) < 1 + 1 / f := by
  have hscale : (0 : α) ≤ d * f := mul_nonneg (by exact_mod_cast hd) hf.le
  have hinv : 0 < 1 / f := one_div_pos.mpr hf
  obtain ⟨hle, hlt⟩ := truncate_le hscale
  have hcut : (0 : α) ≤ truncate (d * f : α) := by exact_mod_cast truncate_nonneg hscale
  have hback : (0 : α) ≤ (truncate (d * f : α) : α) * (1 / f) := mul_nonneg hcut hinv.le
  obtain ⟨hle', hlt'⟩ := truncate_le hback
  have hid : (d * f : α) * (1 / f) = d := by field_simp
  have hupper : (truncate (d * f : α) : α) * (1 / f) ≤ d := by
    calc (truncate (d * f : α) : α) * (1 / f) ≤ d * f * (1 / f) :=
          mul_le_mul_of_nonneg_right hle hinv.le
      _ = d := hid
  have hlower : (d : α) < (truncate (d * f : α) : α) * (1 / f) + 1 / f := by
    calc (d : α) = d * f * (1 / f) := hid.symm
      _ < (truncate (d * f : α) + 1) * (1 / f) := mul_lt_mul_of_pos_right hlt hinv
      _ = (truncate (d * f : α) : α) * (1 / f) + 1 / f := by ring
  refine ⟨truncate_nonneg hback, ?_, ?_⟩
  · exact_mod_cast hle'.trans hupper
  · rw [Int.cast_sub]
    unfold thereAndBack
    linarith

/-- **There and back.** -/
theorem thereAndBack_spec (d : ℤ) (hf : 0 < f) :
    min 0 d ≤ thereAndBack f d ∧ thereAndBack f d ≤ max 0 d
      ∧ ((|thereAndBack f d - d| : ℤ) : α) < 1 + 1 / f := by
  rcases le_total 0 d with hd | hd
  · obtain ⟨hnonneg, hle, hlt⟩ := thereAndBack_of_nonneg hd hf
    refine ⟨(min_le_left 0 d).trans hnonneg, hle.trans (le_max_right 0 d), ?_⟩
    rwa [abs_sub_comm, abs_of_nonneg (sub_nonneg.mpr hle)]
  · -- the other half is the mirror image
    obtain ⟨hnonneg, hle, hlt⟩ := thereAndBack_of_nonneg (neg_nonneg.mpr hd) hf
    rw [thereAndBack_neg] at hnonneg hle hlt
    have hge : d ≤ thereAndBack f d := by omega
    refine ⟨(min_le_right 0 d).trans hge, ?_, ?_⟩
    · exact (by omega : thereAndBack f d ≤ 0).trans (le_max_left 0 d)
    · rw [abs_of_nonneg (sub_nonneg.mpr hge)]
      rwa [neg_sub_neg] at hlt

/-! ## The nearest integer -/

theorem one_le_nearest_iff : 1 ≤ nearest x ↔ 1 / 2 ≤ x := by
  unfold nearest
  split
  · rw [Int.le_floor, Int.cast_one]
    constructor <;> intro h <;> linarith
  · rw [Int.one_le_ceil_iff]
    constructor <;> intro h <;> linarith

theorem nearest_eq_one_iff : nearest x = 1 ↔ 1 / 2 ≤ x ∧ x < 3 / 2 := by
  constructor
  · intro h
    have hle := one_le_nearest_iff.mp h.ge
    refine ⟨hle, ?_⟩
    rw [nearest, if_pos (by linarith), Int.floor_eq_iff] at h
    push_cast at h
    linarith [h.2]
  · rintro ⟨hle, hlt⟩
    rw [nearest, if_pos (by linarith), Int.floor_eq_iff]
    constructor <;> push_cast <;> linarith

end Kit
