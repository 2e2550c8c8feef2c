import AvbStreamHandler.Audio.AlsaHandlerWorkerThread
import AvbStreamHandler.Kit.FixedPoint
import Mathlib.Data.Int.ModEq
import Mathlib.Tactic.NormNum

/-!
# What the fill estimate is worth

The number of virtual frames against what the sample rate comes to over the difference of the two
time stamps, and what is done with that number against the fill level.

The rate with 16 bits behind the point is formed in 32 bits: it is the one that was meant just
below 65536 Hz. The product is one of unsigned registers, so the device must not have been served
before the other side of the ASRC buffer. The rest needs sizes: as long as the buffer has two
periods and its length is far from 32 bits, an accepted number of virtual frames neither wraps a
total nor lies above the target level.
-/

namespace AvbStreamHandler

open Kit.FixedPoint

/-- The time between the two accesses, in microseconds. -/
def AsrcReadings.difference (r : AsrcReadings) : ℤ :=
  r.timestampDeviceBuffer.toNat - r.timestampAsrcBufferRemote.toNat

/-- The rate in MHz with 16 bits behind the point, as a number. -/
def q16 (samplerate : ℕ) : ℕ := samplerate * 65536 / 1000000

/-- The estimate of a pass is good, and so is what it is used for. -/
structure Estimated (samplerate : UInt32) (r : AsrcReadings) (p : AsrcPass) : Prop where
  /-- One frame, and the rounding of the rate over the difference. -/
  virtual : |(p.estimate.numVirtualFrames : ℚ) - samplerate.toNat / 1000000 * r.difference| ≤
    1 + |(samplerate.toNat / 1000000 : ℚ) - q16 samplerate.toNat / 65536| * |(r.difference : ℚ)|
  total : p.estimate.numVirtualFramesValid = true →
    (p.estimate.numTotalFrames.toNat : ℤ) = p.available.toNat + p.estimate.numVirtualFrames
  adjust : p.numFramesToAdjust ≤ p.available
  left : p.loop.asrcBufferNumFramesAvailable.toNat + p.numFramesToAdjust.toNat = p.available.toNat

/-- Where the count of virtual frames is near. Above 65535 Hz that is left to differences of
less than a frame, and where the difference is negative to rates of which nothing is left. -/
inductive CountFits (samplerate : ℕ) (d : ℤ) : Prop
  | whole (hd : 0 ≤ d) (hrate : samplerate < 65536)
      (hprod : q16 samplerate * d < 18446744073709551616)
  | short (hd : 0 ≤ d) (hrate : 65536 ≤ samplerate) (hshort : q16 samplerate * d ≤ 65536)
  | back (hd : d < 0) (hrate : samplerate * 65536 % 4294967296 < 1000000)
      (hshort : q16 samplerate * -d ≤ 65536)

namespace IasAlsaHandlerWorkerThread

/-! ## The registers as numbers -/

theorem product_toNat (a b s : UInt64) :
    (((a - b) * s).toNat : ℤ) = s.toNat * ((a.toNat : ℤ) - b.toNat) % 18446744073709551616 := by
  have hb : b.toNat < 18446744073709551616 := b.toNat_lt
  rw [UInt64.toNat_mul, UInt64.toNat_sub, Nat.mod_mul_mod]
  push_cast [hb.le]
  apply Int.ModEq.symm
  rw [Int.modEq_iff_dvd]
  exact ⟨s.toNat, by ring⟩

theorem shift_toInt (w : UInt64) : (w >>> 16).toInt64.toInt = (w.toNat : ℤ) / 65536 := by
  have hw : (w >>> 16).toNat = w.toNat / 65536 := by
    rw [UInt64.toNat_shiftRight, Nat.shiftRight_eq_div_pow]
    rfl
  have hlt : w.toNat < 18446744073709551616 := w.toNat_lt
  -- nothing of the sign is left behind the shift
  have hsign : (w >>> 16).toInt64.toInt = ((w >>> 16).toNat : ℤ) := by
    show (w >>> 16).toBitVec.toInt = _
    rw [BitVec.toInt_eq_toNat_of_lt]
    · rfl
    · show 2 * (w >>> 16).toNat < _
      omega
  rw [hsign, hw]
  omega

variable (params : IasAlsaHandlerWorkerThreadParams) (deviceType : IasDeviceType)
  (avbSampleRate : UInt32)

/-- It is the rate of the device for either type. -/
theorem samplerateMHz_toNat : (init params deviceType avbSampleRate).samplerateMHz.toNat =
    params.samplerate.toNat * 65536 % 4294967296 / 1000000 := by
  cases deviceType <;> simp [samplerateMHz, init]

variable (t : IasAlsaHandlerWorkerThread) (l : AsrcLoop) (r : AsrcReadings)

theorem numVirtualFrames_eq : t.numVirtualFrames r =
    count 65536 18446744073709551616 t.samplerateMHz.toNat r.difference := by
  rw [numVirtualFrames, count, shift_toInt, Int64.toUInt64_sub, UInt64.toUInt64_toInt64,
    UInt64.toUInt64_toInt64, product_toNat]
  rfl

/-! ## The count -/

/-- The rate in its register is a part of the one that was meant. -/
theorem lost_le (n : ℕ) : n * 65536 % 4294967296 / 1000000 ≤ q16 n :=
  Nat.div_le_div_right (Nat.mod_le _ _)

/-- Of a rate that does not fit, thousands of parts of a frame are lost in every microsecond. -/
theorem lost_of_le {n : ℕ} (hn : 65536 ≤ n) :
    n * 65536 % 4294967296 / 1000000 + 4294 ≤ q16 n := by
  have hmod : n * 65536 % 4294967296 + 4294967296 ≤ n * 65536 := by omega
  unfold q16
  generalize n * 65536 % 4294967296 = rest at hmod ⊢
  omega

theorem count_near_iff (n : ℕ) (d : ℤ) :
    |((65536 : ℕ) : ℤ) * count 65536 18446744073709551616 (n * 65536 % 4294967296 / 1000000) d
        - q16 n * d| ≤ ((65536 : ℕ) : ℤ) ↔ CountFits n d := by
  have hle := lost_le n
  rcases lt_or_ge d 0 with hd | hd
  · rw [count_near_iff_of_neg (by norm_num) (by norm_num) hle hd]
    constructor
    · rintro ⟨hzero, hshort⟩
      exact .back hd (by omega) (by exact_mod_cast hshort)
    · rintro (⟨h, -, -⟩ | ⟨h, -, -⟩ | ⟨-, hrate, hshort⟩)
      · omega
      · omega
      · exact ⟨by omega, by exact_mod_cast hshort⟩
  · rw [count_near_iff_of_nonneg (by norm_num) (by norm_num) hle hd]
    rcases lt_or_ge n 65536 with hn | hn
    · have hrate : n * 65536 % 4294967296 / 1000000 = q16 n := by
        rw [q16, Nat.mod_eq_of_lt (by omega)]
      rw [hrate, lt_mul_count_iff (by norm_num) (by norm_num) hd]
      constructor
      · intro hprod
        exact .whole hd hn (by exact_mod_cast hprod)
      · rintro (⟨-, -, hprod⟩ | ⟨-, h, -⟩ | ⟨h, -, -⟩)
        · exact_mod_cast hprod
        · omega
        · omega
    · have hlost := lost_of_le hn
      rw [lt_mul_count_iff_of_lost (n := 15) (by norm_num) (by norm_num) (by omega) (by omega)
        (by norm_num) hd]
      constructor
      · intro hshort
        exact .short hd hn (by exact_mod_cast hshort)
      · rintro (⟨-, h, -⟩ | ⟨-, -, hshort⟩ | ⟨h, -, -⟩)
        · omega
        · exact_mod_cast hshort
        · omega

/-- As numbers, the count is the product that was meant for it. -/
theorem count_eq {n : ℕ} {d : ℤ} (h : CountFits n d) :
    count 65536 18446744073709551616 (n * 65536 % 4294967296 / 1000000) d =
      (n * 65536 % 4294967296 / 1000000 : ℕ) * d / 65536 := by
  have hle : ((n * 65536 % 4294967296 / 1000000 : ℕ) : ℤ) ≤ q16 n := by
    exact_mod_cast lost_le n
  have hfits : ∀ hd : 0 ≤ d, q16 n * d < 18446744073709551616 →
      count 65536 18446744073709551616 (n * 65536 % 4294967296 / 1000000) d =
        (n * 65536 % 4294967296 / 1000000 : ℕ) * d / 65536 := by
    intro hd hlt
    have hmono := mul_le_mul_of_nonneg_right hle hd
    have hred : ((n * 65536 % 4294967296 / 1000000 : ℕ) * d) % ((18446744073709551616 : ℕ) : ℤ) =
        (n * 65536 % 4294967296 / 1000000 : ℕ) * d :=
      Int.emod_eq_of_lt (mul_nonneg (by omega) hd) (hmono.trans_lt (by exact_mod_cast hlt))
    rw [count, hred]
    rfl
  cases h with
  | whole hd _ hprod => exact hfits hd hprod
  | short hd _ hshort => exact hfits hd (by omega)
  | back _ hrate _ =>
      have hzero : n * 65536 % 4294967296 / 1000000 = 0 := by omega
      simp [hzero]

/-! ## A pass -/

/-- The sizes a pass works with, where its count is near. -/
structure Fits (t : IasAlsaHandlerWorkerThread) (samplerate : UInt32) (l : AsrcLoop)
    (r : AsrcReadings) : Prop where
  virtual : CountFits samplerate.toNat r.difference
  total : (t.estimate l r).numVirtualFramesValid = true →
    l.asrcBufferNumFramesAvailable.toNat + t.samplerateMHz.toNat * r.difference / 65536 <
      4294967296
  target : endsStartup l (t.estimate l r) = true →
    t.samplerateMHz.toNat * r.difference / 65536 ≤ (t.asrcBufferTargetLevel.toNat : ℤ)

theorem virtual_iff : |((init params deviceType avbSampleRate).numVirtualFrames r : ℚ) -
      params.samplerate.toNat / 1000000 * r.difference| ≤
        1 + |(params.samplerate.toNat / 1000000 : ℚ) - q16 params.samplerate.toNat / 65536| *
          |(r.difference : ℚ)| ↔ CountFits params.samplerate.toNat r.difference := by
  have hrate : ((q16 params.samplerate.toNat : ℚ) / (65536 : ℕ)) ≤
      params.samplerate.toNat / 1000000 := by
    have hmul : (q16 params.samplerate.toNat : ℚ) * 1000000 ≤ params.samplerate.toNat * 65536 := by
      exact_mod_cast Nat.div_mul_le_self _ _
    push_cast
    rw [div_le_div_iff₀ (by norm_num) (by norm_num)]
    exact hmul
  rw [← count_near_iff, numVirtualFrames_eq, samplerateMHz_toNat]
  exact_mod_cast count_near_exact_iff (M := 18446744073709551616) (d := r.difference)
    (by norm_num) (by norm_num) (lost_le params.samplerate.toNat) hrate

theorem numTotalFrames_toNat : ((t.estimate l r).numTotalFrames.toNat : ℤ) =
    (l.asrcBufferNumFramesAvailable.toNat + t.numVirtualFrames r) % 4294967296 := by
  have hadd : (t.estimate l r).numTotalFrames =
      l.asrcBufferNumFramesAvailable + UInt32.ofInt (t.numVirtualFrames r) := rfl
  rw [hadd, UInt32.toNat_add, UInt32.ofInt, UInt32.toNat_ofNat']
  omega

/-- What the validity of the count comes to for its size. -/
theorem bounded_of_valid (h : (t.estimate l r).numVirtualFramesValid = true) :
    0 ≤ t.numVirtualFrames r ∧ t.numVirtualFrames r ≤ t.cNumVirtualFramesUpperLimit := by
  simp only [estimate, Bool.and_eq_true, decide_eq_true_eq] at h
  exact h.1

theorem total_iff (hvalid : (t.estimate l r).numVirtualFramesValid = true) :
    ((t.estimate l r).numTotalFrames.toNat : ℤ) =
        l.asrcBufferNumFramesAvailable.toNat + t.numVirtualFrames r ↔
      l.asrcBufferNumFramesAvailable.toNat + t.numVirtualFrames r < 4294967296 := by
  obtain ⟨hnonneg, -⟩ := bounded_of_valid t l r hvalid
  rw [numTotalFrames_toNat]
  omega

theorem valid_of_endsStartup {e : AsrcEstimate} (h : endsStartup l e = true) :
    e.numVirtualFramesValid = true := by
  simp only [endsStartup, Bool.and_eq_true] at h
  exact h.2

theorem adjust_iff (htotal : (t.estimate l r).numVirtualFramesValid = true →
      ((t.estimate l r).numTotalFrames.toNat : ℤ) =
        l.asrcBufferNumFramesAvailable.toNat + t.numVirtualFrames r) :
    t.numFramesToAdjust l (t.estimate l r) ≤ l.asrcBufferNumFramesAvailable ↔
      (endsStartup l (t.estimate l r) = true →
        t.numVirtualFrames r ≤ (t.asrcBufferTargetLevel.toNat : ℤ)) := by
  rw [numFramesToAdjust]
  by_cases hends : endsStartup l (t.estimate l r) = true
  · have hsum := htotal (valid_of_endsStartup l hends)
    by_cases habove : t.asrcBufferTargetLevel < (t.estimate l r).numTotalFrames
    · rw [if_pos ⟨hends, habove⟩, UInt32.le_iff_toNat_le,
        UInt32.toNat_sub_of_le _ _ (UInt32.le_of_lt habove)]
      have habove := UInt32.lt_iff_toNat_lt.mp habove
      constructor
      · intro hle _
        omega
      · intro hle
        have := hle hends
        omega
    · rw [if_neg (fun h => habove h.2), UInt32.le_iff_toNat_le]
      rw [UInt32.lt_iff_toNat_lt] at habove
      constructor
      · intro _ _
        omega
      · intro _
        exact Nat.zero_le _
  · rw [if_neg (fun h => hends h.1)]
    exact iff_of_true (by simp [UInt32.le_iff_toNat_le]) (fun h => absurd h hends)

theorem left_of_adjust {p : AsrcPass} (hloop : p.loop.asrcBufferNumFramesAvailable =
    p.available - p.numFramesToAdjust) (h : p.numFramesToAdjust ≤ p.available) :
    p.loop.asrcBufferNumFramesAvailable.toNat + p.numFramesToAdjust.toNat = p.available.toNat := by
  rw [hloop, UInt32.toNat_sub_of_le _ _ h]
  exact Nat.sub_add_cancel (UInt32.le_iff_toNat_le.mp h)

theorem numVirtualFrames_of_fits (h : CountFits params.samplerate.toNat r.difference) :
    (init params deviceType avbSampleRate).numVirtualFrames r =
      (init params deviceType avbSampleRate).samplerateMHz.toNat * r.difference / 65536 := by
  rw [numVirtualFrames_eq, samplerateMHz_toNat, count_eq h]

theorem passFrom_iff : Estimated params.samplerate r
    ((init params deviceType avbSampleRate).passFrom l r) ↔
      (init params deviceType avbSampleRate).Fits params.samplerate l r := by
  have hcount := numVirtualFrames_of_fits params deviceType avbSampleRate r
  have hvirtual := virtual_iff params deviceType avbSampleRate r
  generalize init params deviceType avbSampleRate = t at hcount hvirtual ⊢
  constructor
  · rintro ⟨hnear, htotal, hadjust, -⟩
    have hfits := hvirtual.mp hnear
    refine ⟨hfits, ?_, ?_⟩
    · intro hvalid
      rw [← hcount hfits]
      exact (total_iff t l r hvalid).mp (htotal hvalid)
    · rw [← hcount hfits]
      exact (adjust_iff t l r htotal).mp hadjust
  · rintro ⟨hfits, htotal, htarget⟩
    rw [← hcount hfits] at htotal htarget
    have hsum := fun hvalid => (total_iff t l r hvalid).mpr (htotal hvalid)
    have hadjust := (adjust_iff t l r hsum).mpr htarget
    exact ⟨hvirtual.mpr hfits, hsum, hadjust, left_of_adjust rfl hadjust⟩

/-- **The estimate.** A pass of the thread is good exactly if its sizes fit: the count is near
where the registers hold what it is made of, and an accepted count neither wraps the total nor,
where the start-up phase ends, lies above the target level. -/
theorem estimate_iff :
    (∀ p ∈ (init params deviceType avbSampleRate).pass l r, Estimated params.samplerate r p) ↔
      ∀ l' ∈ (init params deviceType avbSampleRate).countPeriods l r,
        (init params deviceType avbSampleRate).Fits params.samplerate l' r := by
  generalize ht : init params deviceType avbSampleRate = t
  have hpass : (∀ p ∈ t.pass l r, Estimated params.samplerate r p) ↔
      ∀ l' ∈ t.countPeriods l r, Estimated params.samplerate r (t.passFrom l' r) := by
    simp [pass]
  rw [hpass]
  refine forall₂_congr fun l' _ => ?_
  subst ht
  exact passFrom_iff params deviceType avbSampleRate l' r

/-- A device of 96 kHz. -/
def device96k : IasAlsaHandlerWorkerThread :=
  init {
    samplerate := 96000
    deviceBufferParams := { periodSize := 256, numPeriods := 3 }
    asrcBufferParams := { periodSize := 256, numPeriods := 4 } } .eIasDeviceTypeSource 48000

/-- A period of such a device, 2.666 ms, is taken for 81 frames. -/
def period96k : AsrcReadings where
  asrcBufferNumFramesAvailable := 512
  timestampDeviceBuffer := 1002666
  timestampAsrcBufferRemote := 1000000

theorem virtual_frames_of_96k :
    ¬ ∀ p ∈ device96k.pass {} period96k, Estimated 96000 period96k p := by
  intro h
  have hvirtual := (h _ rfl).virtual
  have hcount : device96k.numVirtualFrames period96k = 81 := by decide +kernel
  have hdifference : period96k.difference = 2666 := by decide +kernel
  have hrate : (96000 : UInt32).toNat = 96000 := rfl
  rw [hdifference, hrate] at hvirtual
  change |(device96k.numVirtualFrames period96k : ℚ) - _| ≤ _ at hvirtual
  rw [hcount, abs_of_nonpos (by norm_num), abs_of_nonneg (by norm_num [q16])] at hvirtual
  norm_num [q16] at hvirtual

section Geometry

variable {samplerate periodSize numPeriods numPeriodsAsrcBuffer : UInt32}

theorem length_toNat (hlength : (numPeriodsAsrcBuffer.toNat + 2) * periodSize.toNat < 4294967296) :
    (numPeriodsAsrcBuffer * periodSize).toNat = numPeriodsAsrcBuffer.toNat * periodSize.toNat := by
  rw [UInt32.toNat_mul, Nat.mod_eq_of_lt]
  rw [Nat.add_mul] at hlength
  omega

/-- The upper limit is below the target level, and far from the end of a register. -/
theorem limit_le_target (hparams : IasAlsaHwDeviceHandler.workerParams samplerate periodSize
      numPeriods numPeriodsAsrcBuffer = some params)
    (htwo : 2 ≤ numPeriodsAsrcBuffer.toNat)
    (hlength : (numPeriodsAsrcBuffer.toNat + 2) * periodSize.toNat < 4294967296) :
    (init params deviceType avbSampleRate).cNumVirtualFramesUpperLimit ≤
        (init params deviceType avbSampleRate).asrcBufferTargetLevel.toNat
      ∧ (init params deviceType avbSampleRate).cNumVirtualFramesUpperLimit ≤
        2 * periodSize.toNat := by
  unfold IasAlsaHwDeviceHandler.workerParams at hparams
  split at hparams
  · cases hparams
  cases hparams
  have hlen := length_toNat hlength
  have hmul : 2 * periodSize.toNat ≤ numPeriodsAsrcBuffer.toNat * periodSize.toNat :=
    Nat.mul_le_mul_right _ htwo
  rw [Nat.add_mul] at hlength
  have hlimit : (periodSize + periodSize >>> 2).toNat = periodSize.toNat + periodSize.toNat / 4 := by
    have hquarter : (periodSize >>> 2).toNat = periodSize.toNat / 4 := by
      rw [UInt32.toNat_shiftRight, Nat.shiftRight_eq_div_pow]
      rfl
    rw [UInt32.toNat_add, hquarter]
    omega
  have htarget : ((numPeriodsAsrcBuffer * periodSize + periodSize) >>> 1).toNat =
      (numPeriodsAsrcBuffer.toNat * periodSize.toNat + periodSize.toNat) / 2 := by
    have hsum : (numPeriodsAsrcBuffer * periodSize + periodSize).toNat =
        numPeriodsAsrcBuffer.toNat * periodSize.toNat + periodSize.toNat := by
      rw [UInt32.toNat_add, hlen]
      omega
    rw [UInt32.toNat_shiftRight, hsum, Nat.shiftRight_eq_div_pow]
    rfl
  cases deviceType <;>
    · simp only [cNumVirtualFramesUpperLimit, asrcBufferTargetLevel, asrcBufferLength,
        IasAlsaHandlerWorkerThread.periodSize, init]
      rw [hlimit, htarget]
      omega

/-- The devices of the handler: with two periods of ASRC buffer or more, and a length far from
32 bits, all that is left to ask for is a count that is near. -/
theorem fits_of_workerParams (hparams : IasAlsaHwDeviceHandler.workerParams samplerate periodSize
      numPeriods numPeriodsAsrcBuffer = some params)
    (htwo : 2 ≤ numPeriodsAsrcBuffer.toNat)
    (hlength : (numPeriodsAsrcBuffer.toNat + 2) * periodSize.toNat < 4294967296)
    (hlevel : l.asrcBufferNumFramesAvailable.toNat ≤
      numPeriodsAsrcBuffer.toNat * periodSize.toNat)
    (hcount : CountFits params.samplerate.toNat r.difference) :
    (init params deviceType avbSampleRate).Fits params.samplerate l r := by
  obtain ⟨htarget, hsize⟩ := limit_le_target params deviceType avbSampleRate hparams htwo hlength
  have hframes := numVirtualFrames_of_fits params deviceType avbSampleRate r hcount
  rw [Nat.add_mul] at hlength
  refine ⟨hcount, fun hvalid => ?_, fun hends => ?_⟩
  · obtain ⟨-, hle⟩ := bounded_of_valid _ l r hvalid
    rw [hframes] at hle
    omega
  · obtain ⟨-, hle⟩ := bounded_of_valid _ l r (valid_of_endsStartup l hends)
    rw [hframes] at hle
    omega

end Geometry

end IasAlsaHandlerWorkerThread

end AvbStreamHandler
