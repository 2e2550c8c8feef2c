import AvbStreamHandler.Clock.PtpRounds
import Mathlib.Analysis.Convex.Basic
import Mathlib.Tactic.NormNum
import Mathlib.Tactic.Positivity

/-!
# Between system time and PTP time

The factor between the two clocks is smoothed: a new one that is in range moves it a part of
the way, and a new epoch sets it back to one. So it stays in range, whatever the readings are.

Both conversions scale the distance from the last reading, cut it to an integer and add the
last reading of the other clock. `Kit.thereAndBack` says what is lost on the way to PTP time and
back. A distance may be negative: a system time from before the PTP clock was at zero becomes a
PTP time just below `2 ^ 64`, and there the order is lost.
-/

namespace AvbStreamHandler

open Kit Kit.Word Kit.Run

namespace IasLibPtpDaemon

variable {d : IasLibPtpDaemon}

/-! ## The factor -/

/-- The factor is in range, and the filter is a weighted mean. -/
structure Tuned (d : IasLibPtpDaemon) : Prop where
  factor : d.mTscToLocalFactor ∈ Set.Icc (2 / 3 : ℚ) (3 / 2)
  coeff : d.mAvgCoeff ∈ Set.Icc (0 : ℚ) 1

theorem tuned_one (hfactor : d.mTscToLocalFactor = 1) (hcoeff : d.mAvgCoeff = 1) : Tuned d := by
  refine ⟨?_, ?_⟩
  · rw [hfactor]
    constructor <;> norm_num
  · rw [hcoeff]
    constructor <;> norm_num

theorem tuned_congr {d' : IasLibPtpDaemon} (h : Tuned d)
    (hfactor : d'.mTscToLocalFactor = d.mTscToLocalFactor) (hcoeff : d'.mAvgCoeff = d.mAvgCoeff) :
    Tuned d' :=
  ⟨hfactor ▸ h.factor, hcoeff ▸ h.coeff⟩

/-- A factor in range moves the smoothed one between the two. -/
theorem tuned_updateFactor (h : Tuned d) (newFactor : ℚ) : Tuned (d.updateFactor newFactor) := by
  unfold updateFactor
  split
  · rename_i hrange
    obtain ⟨hlower, hupper⟩ := hrange
    obtain ⟨hnonneg, hle⟩ := h.coeff
    have hnew : newFactor ∈ Set.Icc (2 / 3 : ℚ) (3 / 2) := by
      constructor <;> linarith
    refine ⟨?_, ?_⟩
    · exact convex_Icc _ _ hnew h.factor hnonneg (sub_nonneg.mpr hle) (by ring)
    · dsimp only
      split
      · constructor <;> linarith
      · exact h.coeff
  · exact h

theorem tuned_updateCoeffs {s : Attempt} (h : Tuned s.daemon) (force : Bool) :
    Tuned (s.updateCoeffs force) := by
  unfold Attempt.updateCoeffs
  dsimp only
  split
  · exact tuned_one rfl rfl
  · split
    · exact tuned_congr (tuned_updateFactor h _) rfl rfl
    · exact h

theorem tuned_call (h : Tuned d) (force : Bool) (readings : Nat → Readings) (patience : Nat) :
    Tuned (d.call force readings patience) := by
  unfold call
  split
  · exact h
  · split
    · rename_i ret d' hcall
      obtain ⟨s, hrun, heq⟩ := Option.map_eq_some_iff.mp hcall
      obtain ⟨-, rfl⟩ := Prod.mk.inj heq
      have hsame := retry_sameSetup hrun
      exact tuned_updateCoeffs (tuned_congr h hsame.factor hsame.coeff) force
    · exact tuned_congr h rfl rfl

theorem tuned_init (h : Tuned d) (env : PtpEnvironment) : Tuned (d.init env) := by
  unfold init
  split
  · exact h
  · split
    · exact tuned_congr h rfl rfl
    · dsimp only
      cases env.gettime with
      | none => exact tuned_congr h rfl rfl
      | some tp => exact tuned_one rfl rfl

theorem tuned_step (h : Tuned d) (e : Event) : Tuned (d.step e) := by
  cases e with
  | init env => exact tuned_init h env
  | cleanUp => exact tuned_congr h rfl rfl
  | getRealLocalTime force readings patience => exact tuned_call h force readings patience
  | getLocalTime now readings patience =>
      unfold step
      dsimp only
      split
      · exact tuned_call h false readings patience
      · exact h

/-- Every state of every run. -/
theorem tuned_exec (es : List Event) : Tuned (exec step {} es) ∧ Fits (exec step {} es) :=
  ⟨@inv_exec_of_step _ _ step Tuned (fun _ e h => tuned_step h e) {} (tuned_one rfl rfl) es,
    @inv_exec_of_step _ _ step Fits (fun _ e h => fits_step h e) {} fits_new es⟩

/-! ## The conversions -/

/-- A signed difference of two 64-bit times that is one. -/
theorem toInt64_sub64 {a b : Nat} (ha : a < 18446744073709551616)
    (hlower : -9223372036854775808 ≤ (a : ℤ) - b) (hupper : (a : ℤ) - b < 9223372036854775808) :
    toInt64 (sub64 a b) = (a : ℤ) - b := by
  unfold toInt64 sub64
  split <;> omega

/-- The PTP distance of a system time. -/
def ptpDistance (d : IasLibPtpDaemon) (t : Nat) : ℤ :=
  truncate ((((t : ℤ) - d.mLastTsc : ℤ) : ℚ) * d.mTscToLocalFactor)

/-- The distances of a system time from the last reading fit into 63 bits, before the
conversion and after it. -/
structure InReach (d : IasLibPtpDaemon) (t : Nat) : Prop where
  word : t < 18446744073709551616
  sys : -9223372036854775808 ≤ (t : ℤ) - d.mLastTsc ∧ (t : ℤ) - d.mLastTsc < 9223372036854775808
  ptp : -9223372036854775808 ≤ d.ptpDistance t ∧ d.ptpDistance t < 9223372036854775808

theorem sysToPtp_eq {t : Nat} (h : InReach d t) :
    d.sysToPtp t = add64 (ofInt64 (d.ptpDistance t)) d.mLastTime := by
  unfold sysToPtp ptpDistance
  rw [toInt64_sub64 h.word h.sys.1 h.sys.2]

/-- The register holds the PTP distance, whatever the sum has wrapped around to. -/
theorem sysToPtp_distance {t : Nat} (h : InReach d t) :
    toInt64 (sub64 (d.sysToPtp t) d.mLastTime) = d.ptpDistance t := by
  obtain ⟨hlower, hupper⟩ := h.ptp
  rw [sysToPtp_eq h]
  generalize d.ptpDistance t = k at hlower hupper
  unfold toInt64 sub64 add64 ofInt64
  split <;> omega

/-- **There and back**: less than three nanoseconds are lost. -/
theorem round_trip (htuned : Tuned d) (hfits : Fits d) {t : Nat} (h : InReach d t) :
    |(d.ptpToSys (d.sysToPtp t) : ℤ) - t| < 3 := by
  obtain ⟨hlower, hupper⟩ := htuned.factor
  have hpos : 0 < d.mTscToLocalFactor := by linarith
  have hback : d.ptpToSys (d.sysToPtp t)
      = add64 (ofInt64 (thereAndBack d.mTscToLocalFactor ((t : ℤ) - d.mLastTsc))) d.mLastTsc := by
    unfold ptpToSys thereAndBack
    dsimp only
    rw [sysToPtp_distance h, if_pos (ne_of_gt hpos)]
    rfl
  obtain ⟨hmin, hmax, hnear⟩ := thereAndBack_spec ((t : ℤ) - d.mLastTsc) hpos
  generalize thereAndBack d.mTscToLocalFactor ((t : ℤ) - d.mLastTsc) = k at hback hmin hmax hnear
  -- the way back ends between the last reading and where it started
  have hvalue : (d.ptpToSys (d.sysToPtp t) : ℤ) = k + d.mLastTsc := by
    have htsc := hfits.lastTsc
    have hword := h.word
    rw [hback]
    unfold add64 ofInt64
    omega
  have hlost : ((|k - ((t : ℤ) - d.mLastTsc)| : ℤ) : ℚ) < 3 := by
    have hinv : 1 / d.mTscToLocalFactor ≤ 3 / 2 := by
      rw [div_le_iff₀ hpos]
      linarith
    linarith
  rw [hvalue, show k + (d.mLastTsc : ℤ) - t = k - ((t : ℤ) - d.mLastTsc) by ring]
  exact_mod_cast hlost

/-- The distance goes the way of the time. -/
theorem ptpDistance_mono (htuned : Tuned d) {t t' : Nat} (h : t ≤ t') :
    d.ptpDistance t ≤ d.ptpDistance t' := by
  obtain ⟨hlower, -⟩ := htuned.factor
  refine truncate_mono (mul_le_mul_of_nonneg_right ?_ (by linarith))
  exact_mod_cast (by omega : (t : ℤ) - d.mLastTsc ≤ t' - d.mLastTsc)

/-- The PTP time of a system time is one: not before the clock was at zero. -/
def HasPtpTime (d : IasLibPtpDaemon) (t : Nat) : Prop :=
  0 ≤ d.mLastTime + d.ptpDistance t

/-- A system time in reach that has a PTP time is sent to it. -/
theorem sysToPtp_toInt (hfits : Fits d) {t : Nat} (h : InReach d t) (hptp : d.HasPtpTime t) :
    (d.sysToPtp t : ℤ) = d.mLastTime + d.ptpDistance t := by
  obtain ⟨hlower, hupper⟩ := h.ptp
  have hlast := hfits.lastTime
  unfold HasPtpTime at hptp
  rw [sysToPtp_eq h]
  generalize d.ptpDistance t = k at hlower hupper hptp
  unfold add64 ofInt64
  omega

/-- The order is kept from the first system time on that has a PTP time. -/
theorem sysToPtp_mono (htuned : Tuned d) (hfits : Fits d) {t t' : Nat} (h : InReach d t)
    (h' : InReach d t') (hptp : d.HasPtpTime t) (hle : t ≤ t') : d.sysToPtp t ≤ d.sysToPtp t' := by
  have hmono := ptpDistance_mono htuned hle
  have hptp' : d.HasPtpTime t' := by
    unfold HasPtpTime at hptp ⊢
    omega
  have hsent := sysToPtp_toInt hfits h hptp
  have hsent' := sysToPtp_toInt hfits h' hptp'
  omega

/-- **The conversions.** In every state the factor is in range, a system time comes back from
PTP time with less than three nanoseconds lost, and the distance from the last reading keeps the
order. The registers themselves keep it from the first system time on that has a PTP time. -/
theorem conversions_hold (es : List Event) :
    (exec step {} es).mTscToLocalFactor ∈ Set.Icc (2 / 3 : ℚ) (3 / 2)
      ∧ (∀ t, InReach (exec step {} es) t →
        |((exec step {} es).ptpToSys ((exec step {} es).sysToPtp t) : ℤ) - t| < 3)
      ∧ ∀ t t', InReach (exec step {} es) t → InReach (exec step {} es) t' → t ≤ t' →
        toInt64 (sub64 ((exec step {} es).sysToPtp t) (exec step {} es).mLastTime)
            ≤ toInt64 (sub64 ((exec step {} es).sysToPtp t') (exec step {} es).mLastTime)
          ∧ ((exec step {} es).HasPtpTime t →
            (exec step {} es).sysToPtp t ≤ (exec step {} es).sysToPtp t') := by
  obtain ⟨htuned, hfits⟩ := tuned_exec es
  refine ⟨htuned.factor, fun t h => round_trip htuned hfits h, ?_⟩
  intro t t' h h' hle
  rw [sysToPtp_distance h, sysToPtp_distance h']
  exact ⟨ptpDistance_mono htuned hle, fun hptp => sysToPtp_mono htuned hfits h h' hptp hle⟩

/-- The network card has been up for one second, the system for ten. -/
def youngCard : Event := .init {
  opened := true
  mIgbDevice := true
  tsc := ⟨10, 0, by decide⟩
  gettime := some oneSecond }

theorem ptpDistance_youngCard (t : Nat) :
    (exec step {} [youngCard]).ptpDistance t = (t : ℤ) - 10000000000 := by
  have hscale : ((((t : ℤ) - 10000000000 : ℤ) : ℚ) * 1) = (((t : ℤ) - 10000000000 : ℤ) : ℚ) :=
    mul_one _
  exact (congrArg truncate hscale).trans (truncate_intCast _)

theorem inReach_youngCard {t : Nat} (h : t < 9223372036854775808) :
    InReach (exec step {} [youngCard]) t := by
  have htsc : (exec step {} [youngCard]).mLastTsc = 10000000000 := rfl
  refine ⟨by omega, by rw [htsc]; omega, ?_⟩
  rw [ptpDistance_youngCard]
  omega

/-- The round trip of the second before the card was up, and the order from there on. -/
theorem conversions_hold_youngCard :
    |((exec step {} [youngCard]).ptpToSys ((exec step {} [youngCard]).sysToPtp 8000000000) : ℤ)
        - 8000000000| < 3
      ∧ (exec step {} [youngCard]).sysToPtp 9000000000
        ≤ (exec step {} [youngCard]).sysToPtp 10000000000 := by
  obtain ⟨-, hback, hmono⟩ := conversions_hold [youngCard]
  refine ⟨hback 8000000000 (inReach_youngCard (by decide)), ?_⟩
  refine (hmono 9000000000 10000000000 (inReach_youngCard (by decide))
    (inReach_youngCard (by decide)) (by decide)).2 ?_
  unfold HasPtpTime
  rw [ptpDistance_youngCard]
  decide

/-- A system time from before the card was up has no PTP time: its register is beyond those of
all later times. -/
theorem older_than_card :
    InReach (exec step {} [youngCard]) 8000000000
      ∧ InReach (exec step {} [youngCard]) 10000000000
      ∧ (exec step {} [youngCard]).sysToPtp 8000000000 = 18446744072709551616
      ∧ (exec step {} [youngCard]).sysToPtp 10000000000 = 1000000000
      ∧ ¬ ∀ t t', InReach (exec step {} [youngCard]) t → InReach (exec step {} [youngCard]) t' →
        t ≤ t' → (exec step {} [youngCard]).sysToPtp t ≤ (exec step {} [youngCard]).sysToPtp t' := by
  have hold := inReach_youngCard (show 8000000000 < 9223372036854775808 by decide)
  have hnow := inReach_youngCard (show 10000000000 < 9223372036854775808 by decide)
  have hsent : (exec step {} [youngCard]).sysToPtp 8000000000 = 18446744072709551616 := by
    rw [sysToPtp_eq hold, ptpDistance_youngCard]
    rfl
  have hsent' : (exec step {} [youngCard]).sysToPtp 10000000000 = 1000000000 := by
    rw [sysToPtp_eq hnow, ptpDistance_youngCard]
    rfl
  refine ⟨hold, hnow, hsent, hsent', ?_⟩
  intro hmono
  have h := hmono _ _ hold hnow (by decide)
  rw [hsent, hsent'] at h
  exact absurd h (by decide)

end IasLibPtpDaemon

end AvbStreamHandler
