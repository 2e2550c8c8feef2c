import AvbStreamHandler.Alsa.AlsaPacing
import Mathlib.Tactic.NormNum

/-!
# What the pace is worth

What a pass of the control loop owes: only a thread that woke up too late starts anew for it, the
interval stays positive and takes the whole correction, which goes in the right direction, and a
reference that becomes available is the difference of the two counts.

Four things get in the way. Lateness is an unsigned difference, so a thread that was woken up early
is taken for a very late one; and it is looked at only from an interval on, also where the
threshold is lower. The correction is added to an interval of 32 bits, and nothing keeps a long row
of deviations from eating it up. The extrapolated count is made unsigned, and may be negative right
after the master has begun to count.
-/

namespace AvbStreamHandler

open Kit Kit.Run

namespace Casts

/-- The conversions, with a value of choice where the language leaves it open. -/
def withValues (v : Int32) (w : UInt64) : Casts where
  toInt32 x := if FitsInt32 x then Int32.ofInt (truncate x) else v
  toUInt64 x := if FitsUInt64 x then UInt64.ofInt (truncate x) else w
  toInt32_toInt := by
    intro x h
    rw [if_pos h, Int32.toInt_ofInt]
    obtain ⟨hle, hlt⟩ := h
    exact Int.bmod_eq_of_le (by norm_num [Int32.size]; omega) (by norm_num [Int32.size]; omega)
  toUInt64_toNat := by
    intro x h
    rw [if_pos h, UInt64.ofInt, UInt64.toNat_ofNat']
    obtain ⟨hle, hlt⟩ := h
    omega

end Casts

namespace IasAlsaWorkerThread

variable (t : IasAlsaWorkerThread) (c : AlsaClockConfig) (k : Casts) (s : PacingLoop)
  (r : PacingReadings)

/-- The loop as the control loop takes it up, where it is time for an adjustment. -/
def dueLoop : PacingLoop :=
  let s := takeTarget (t.prepared c s r) r
  { s with lastAdjustment := s.slaveTime }

/-- The control loop goes on, and it is time for an adjustment. -/
def Controls : Prop :=
  (t.prepared c s r).initInterval = false ∧ Due c (takeTarget (t.prepared c s r) r)

/-- The reference becomes available. -/
def Regains : Prop :=
  t.Controls c s r ∧ deltaTM (t.dueLoop c s r) r ≠ 0 ∧ (t.dueLoop c s r).lastMasterUpdate = 0

/-- The loop with the reference of this pass. -/
def referenced : PacingLoop := t.updateReference c k (t.dueLoop c s r) r

/-- The interval is corrected. -/
def Adjusts : Prop :=
  t.Controls c s r ∧ (t.referenced c k s r).lastMasterUpdate ≠ 0
    ∧ |t.deviation (t.referenced c k s r) r| ≤ c.cAlsaClockUnlock.toNat
    ∧ 0 < deltaTM (t.dueLoop c s r) r

/-- What the interval is to be corrected by. -/
def correction : ℚ := t.deviation (t.referenced c k s r) r * c.cGain

/-- What a pass owes. -/
structure Paced : Prop where
  /-- The loop starts anew for a late wake-up, and only for one. -/
  oversleep : (s.initInterval = false ∧ (wakeUp c s r).initInterval = true) ↔
    (s.initInterval = false
      ∧ s.slaveTime.toNat + (cMaxSleepInterval c s).toNat < r.now.toNat)
  positive : 0 < (t.paced c k s r).sleepInterval.toNat
  /-- The interval takes the whole correction. -/
  exact : t.Adjusts c k s r → ((t.paced c k s r).sleepInterval.toNat : ℤ) =
    (t.prepared c s r).sleepInterval.toNat + truncate (t.correction c k s r)
  ahead : t.Adjusts c k s r →
    t.extrapolated (t.referenced c k s r) r + (t.referenced c k s r).offset <
      (t.referenced c k s r).slaveCount →
    (t.prepared c s r).sleepInterval ≤ (t.paced c k s r).sleepInterval
  behind : t.Adjusts c k s r →
    ((t.referenced c k s r).slaveCount : ℚ) <
      t.extrapolated (t.referenced c k s r) r + (t.referenced c k s r).offset →
    (t.paced c k s r).sleepInterval ≤ (t.prepared c s r).sleepInterval
  offset : t.Regains c s r → (t.paced c k s r).offset =
    s.slaveCount - truncate (t.extrapolated (t.dueLoop c s r) r)

/-- A wake-up that is taken for what it is. -/
def WakesUp : Prop :=
  (s.slaveTime.toNat ≤ r.now.toNat ∧
      (r.now.toNat ≤ s.slaveTime.toNat + (cMaxSleepInterval c s).toNat
        ∨ s.slaveTime.toNat + s.sleepInterval.toNat < r.now.toNat))
    ∨ (r.now.toNat < s.slaveTime.toNat ∧
      18446744073709551616 + r.now.toNat ≤
        s.slaveTime.toNat + max s.sleepInterval.toNat (cMaxSleepInterval c s).toNat)

/-- What a pass needs for it. -/
structure Fits : Prop where
  wakesUp : s.initInterval = false → WakesUp c s r
  estimate : (t.prepared c s r).initInterval = true → 0 < t.sleepEstimate.toNat
  reference : t.Regains c s r →
    FitsUInt64 (t.extrapolated (t.dueLoop c s r) r)
      ∧ -9223372036854775808 ≤ s.slaveCount - truncate (t.extrapolated (t.dueLoop c s r) r)
      ∧ s.slaveCount - truncate (t.extrapolated (t.dueLoop c s r) r) < 9223372036854775808
  correction : t.Adjusts c k s r →
    FitsInt32 (t.correction c k s r)
      ∧ 0 < (t.prepared c s r).sleepInterval.toNat + truncate (t.correction c k s r)
      ∧ (t.prepared c s r).sleepInterval.toNat + truncate (t.correction c k s r) < 4294967296

/-! ## Waking up -/

variable {t c k s r}

@[simp] theorem wakeUp_sleepInterval : (wakeUp c s r).sleepInterval = s.sleepInterval := by
  unfold wakeUp
  dsimp only
  split
  · split <;> rfl
  · rfl

@[simp] theorem wakeUp_slaveCount : (wakeUp c s r).slaveCount = s.slaveCount := by
  unfold wakeUp
  dsimp only
  split
  · split <;> rfl
  · rfl

theorem wakeUp_initInterval (h : s.initInterval = false) : (wakeUp c s r).initInterval = true ↔
    max s.sleepInterval.toNat (cMaxSleepInterval c s).toNat < (r.now - s.slaveTime).toNat := by
  unfold wakeUp
  dsimp only
  simp only [UInt64.lt_iff_toNat_lt, UInt32.toNat_toUInt64, h, true_and, max_lt_iff]
  split
  · rename_i hinterval
    split
    · rename_i hthreshold
      simp [hinterval, hthreshold]
    · rename_i hthreshold
      simp [hthreshold]
  · rename_i hinterval
    simp [hinterval, h]

/-- What the thread takes for its lateness. -/
theorem late_toNat : (r.now - s.slaveTime).toNat =
    if s.slaveTime.toNat ≤ r.now.toNat then r.now.toNat - s.slaveTime.toNat
    else 18446744073709551616 + r.now.toNat - s.slaveTime.toNat := by
  have hslave : s.slaveTime.toNat < 18446744073709551616 := s.slaveTime.toNat_lt
  have hnow : r.now.toNat < 18446744073709551616 := r.now.toNat_lt
  rw [UInt64.toNat_sub]
  split <;> omega

theorem oversleep_iff : ((s.initInterval = false ∧ (wakeUp c s r).initInterval = true) ↔
      (s.initInterval = false
        ∧ s.slaveTime.toNat + (cMaxSleepInterval c s).toNat < r.now.toNat)) ↔
    (s.initInterval = false → WakesUp c s r) := by
  rcases Bool.eq_false_or_eq_true s.initInterval with h | h
  · simp [h]
  · simp only [h, true_and, forall_const]
    rw [wakeUp_initInterval h, late_toNat, WakesUp]
    split <;> omega

theorem prepared_eq (h : (t.prepared c s r).initInterval = false) :
    s.initInterval = false ∧ (t.prepared c s r).sleepInterval = s.sleepInterval := by
  unfold prepared readMaster at h ⊢
  split at h
  · cases h
  · rename_i hcount
    rw [if_neg hcount]
    refine ⟨?_, wakeUp_sleepInterval⟩
    unfold wakeUp at h
    dsimp only at h
    split at h
    · rename_i hover
      exact hover.1
    · exact h

@[simp] theorem prepared_slaveCount : (t.prepared c s r).slaveCount = s.slaveCount := by
  unfold prepared readMaster
  split <;> simp

/-! ## The control loop -/

theorem paced_of_init (h : (t.prepared c s r).initInterval = true) :
    t.paced c k s r = t.initLoop (t.prepared c s r) r := by
  simp [paced, h]

theorem paced_of_controls (h : t.Controls c s r) :
    t.paced c k s r = t.adjust c k (t.referenced c k s r) r (deltaTM (t.dueLoop c s r) r) := by
  simp only [paced, h.1, control, if_pos h.2]
  rfl

theorem paced_of_not_due (h : (t.prepared c s r).initInterval = false)
    (hdue : ¬ Due c (takeTarget (t.prepared c s r) r)) :
    t.paced c k s r = takeTarget (t.prepared c s r) r := by
  simp only [paced, h, control, if_neg hdue]
  rfl

@[simp] theorem updateReference_sleepInterval :
    (t.updateReference c k s r).sleepInterval = s.sleepInterval := by
  unfold updateReference
  split
  · split <;> rfl
  · split <;> rfl

@[simp] theorem updateReference_slaveCount :
    (t.updateReference c k s r).slaveCount = s.slaveCount := by
  unfold updateReference
  split
  · split <;> rfl
  · split <;> rfl

@[simp] theorem adjust_offset (delta : ℤ) : (t.adjust c k s r delta).offset = s.offset := by
  unfold adjust
  split
  · rfl
  · dsimp only
    split
    · rfl
    · split <;> rfl

theorem referenced_sleepInterval :
    (t.referenced c k s r).sleepInterval = (t.prepared c s r).sleepInterval := by
  simp [referenced, dueLoop, takeTarget]

theorem paced_of_adjusts (h : t.Adjusts c k s r) : (t.paced c k s r).sleepInterval =
    (t.prepared c s r).sleepInterval + (k.toInt32 (t.correction c k s r)).toUInt32 := by
  obtain ⟨hcontrols, hreference, hthreshold, hdelta⟩ := h
  rw [paced_of_controls hcontrols, adjust, if_neg hreference]
  dsimp only
  rw [if_neg (not_lt.mpr hthreshold), if_pos hdelta, ← referenced_sleepInterval]
  rfl

theorem paced_of_not_adjusts (hinit : (t.prepared c s r).initInterval = false)
    (h : ¬ t.Adjusts c k s r) : (t.paced c k s r).sleepInterval = s.sleepInterval := by
  rw [← (prepared_eq hinit).2]
  by_cases hdue : Due c (takeTarget (t.prepared c s r) r)
  · rw [paced_of_controls ⟨hinit, hdue⟩, adjust]
    split
    · exact referenced_sleepInterval
    · rename_i hreference
      dsimp only
      split
      · exact referenced_sleepInterval
      · rename_i hthreshold
        split
        · rename_i hdelta
          exact absurd ⟨⟨hinit, hdue⟩, hreference, not_lt.mp hthreshold, hdelta⟩ h
        · exact referenced_sleepInterval
  · rw [paced_of_not_due hinit hdue]
    rfl

theorem referenced_of_regains (h : t.Regains c s r) : t.referenced c k s r =
    { t.dueLoop c s r with
      offset := (UInt64.ofInt (t.dueLoop c s r).slaveCount -
        k.toUInt64 (t.extrapolated (t.dueLoop c s r) r)).toInt64.toInt
      lastMasterUpdate := r.now
      isRefClkAvail := true } := by
  rw [referenced, updateReference, if_neg h.2.1, if_pos h.2.2]

@[simp] theorem dueLoop_slaveCount : (t.dueLoop c s r).slaveCount = s.slaveCount := by
  simp [dueLoop, takeTarget]

theorem paced_offset (h : t.Regains c s r) : (t.paced c k s r).offset =
    (UInt64.ofInt s.slaveCount -
      k.toUInt64 (t.extrapolated (t.dueLoop c s r) r)).toInt64.toInt := by
  rw [paced_of_controls h.1, adjust_offset, referenced_of_regains h, dueLoop_slaveCount]

/-- A conversion the language defines is the same for everyone. -/
theorem toUInt64_congr {x : ℚ} (k k' : Casts) (h : FitsUInt64 x) :
    k.toUInt64 x = k'.toUInt64 x := by
  rw [← UInt64.toNat_inj]
  have heq := (k.toUInt64_toNat h).trans (k'.toUInt64_toNat h).symm
  exact_mod_cast heq

theorem referenced_congr (k k' : Casts) (hcontrols : t.Controls c s r)
    (h : t.Regains c s r → FitsUInt64 (t.extrapolated (t.dueLoop c s r) r)) :
    t.referenced c k s r = t.referenced c k' s r := by
  by_cases hregains : t.Regains c s r
  · rw [referenced_of_regains hregains, referenced_of_regains hregains,
      toUInt64_congr k k' (h hregains)]
  · unfold referenced updateReference
    split
    · rfl
    · rename_i hdelta
      rw [if_neg fun hmaster => hregains ⟨hcontrols, hdelta, hmaster⟩,
        if_neg fun hmaster => hregains ⟨hcontrols, hdelta, hmaster⟩]

/-! ## A pass -/

theorem toInt64_toInt (w : UInt64) : w.toInt64.toInt =
    if w.toNat < 9223372036854775808 then (w.toNat : ℤ)
    else (w.toNat : ℤ) - 18446744073709551616 := by
  have hlt : w.toNat < 18446744073709551616 := w.toNat_lt
  show w.toBitVec.toInt = _
  rw [BitVec.toInt_eq_toNat_cond]
  show (if 2 * w.toNat < 2 ^ 64 then (w.toNat : ℤ) else (w.toNat : ℤ) - (2 ^ 64 : ℕ)) = _
  split <;> split <;> omega

theorem toUInt32_toNat (v : Int32) : (v.toUInt32.toNat : ℤ) =
    if 0 ≤ v.toInt then v.toInt else v.toInt + 4294967296 := by
  have hlt : v.toUInt32.toNat < 4294967296 := v.toUInt32.toNat_lt
  have hint : v.toInt = if 2 * v.toUInt32.toNat < 2 ^ 32 then (v.toUInt32.toNat : ℤ)
      else (v.toUInt32.toNat : ℤ) - (2 ^ 32 : ℕ) := BitVec.toInt_eq_toNat_cond _
  split at hint <;> split <;> omega

/-- The offset, from a count that is converted as the language defines it. -/
theorem offset_iff {x : ℚ} (n : ℤ) (h : FitsUInt64 x) :
    (UInt64.ofInt n - k.toUInt64 x).toInt64.toInt = n - truncate x ↔
      -9223372036854775808 ≤ n - truncate x ∧ n - truncate x < 9223372036854775808 := by
  have hk := k.toUInt64_toNat h
  have hcount : ((UInt64.ofInt n).toNat : ℤ) = n % 18446744073709551616 := by
    rw [UInt64.ofInt, UInt64.toNat_ofNat']
    omega
  have hlt : (k.toUInt64 x).toNat < 18446744073709551616 := (k.toUInt64 x).toNat_lt
  rw [toInt64_toInt, UInt64.toNat_sub]
  split <;> omega

theorem correction_iff {x : ℚ} {i : UInt32} (h : FitsInt32 x) :
    ((i + (k.toInt32 x).toUInt32).toNat : ℤ) = i.toNat + truncate x ↔
      0 ≤ i.toNat + truncate x ∧ i.toNat + truncate x < 4294967296 := by
  have hk := toUInt32_toNat (k.toInt32 x)
  rw [k.toInt32_toInt h] at hk
  have hlt : i.toNat < 4294967296 := i.toNat_lt
  obtain ⟨hle, hlt'⟩ := h
  rw [UInt32.toNat_add]
  split at hk <;> omega

theorem cGain_nonneg : 0 ≤ c.cGain := by
  unfold AlsaClockConfig.cGain
  split
  · norm_num
  · positivity

/-- The correction has the direction of the deviation. -/
theorem truncate_correction (d : ℚ) :
    (0 < d → 0 ≤ truncate (d * c.cGain)) ∧ (d < 0 → truncate (d * c.cGain) ≤ 0) :=
  ⟨fun h => truncate_nonneg (mul_nonneg h.le cGain_nonneg),
    fun h => truncate_nonpos (mul_nonpos_of_nonpos_of_nonneg h.le cGain_nonneg)⟩

/-- The deviation is what the slave count has over the master's. -/
theorem deviation_eq :
    t.deviation s r = s.slaveCount - (t.extrapolated s r + s.offset) := by
  rw [deviation, extrapolated]
  push_cast
  ring

theorem paced_of_fits (hpositive : s.initInterval = false → 0 < s.sleepInterval.toNat)
    (h : t.Fits c k s r) (k' : Casts) : t.Paced c k' s r := by
  obtain ⟨hwakes, hestimate, hreference, hcorrection⟩ := h
  have hadjusts : t.Adjusts c k' s r → t.Adjusts c k s r := by
    rintro ⟨hcontrols, hrest⟩
    rw [referenced_congr k' k hcontrols fun hregains => (hreference hregains).1] at hrest
    exact ⟨hcontrols, hrest⟩
  have hexact : t.Adjusts c k' s r → ((t.paced c k' s r).sleepInterval.toNat : ℤ) =
      (t.prepared c s r).sleepInterval.toNat + truncate (t.correction c k' s r)
        ∧ 0 < (t.paced c k' s r).sleepInterval.toNat := by
    intro hadj
    have hsame : t.correction c k' s r = t.correction c k s r := by
      rw [correction, correction,
        referenced_congr k' k hadj.1 fun hregains => (hreference hregains).1]
    obtain ⟨hfits, hlow, hhigh⟩ := hcorrection (hadjusts hadj)
    have hsum := (correction_iff (k := k') (i := (t.prepared c s r).sleepInterval) hfits).mpr
      ⟨hlow.le, hhigh⟩
    rw [paced_of_adjusts hadj, hsame]
    refine ⟨hsum, ?_⟩
    omega
  refine ⟨oversleep_iff.mpr hwakes, ?_, fun hadj => (hexact hadj).1, ?_, ?_, ?_⟩
  · rcases Bool.eq_false_or_eq_true (t.prepared c s r).initInterval with hinit | hinit
    · rw [paced_of_init hinit]
      exact hestimate hinit
    · by_cases hadj : t.Adjusts c k' s r
      · exact (hexact hadj).2
      · rw [paced_of_not_adjusts hinit hadj]
        exact hpositive (prepared_eq hinit).1
  · intro hadj hahead
    have hsign := (truncate_correction (c := c) (t.deviation (t.referenced c k' s r) r)).1
      (by rw [deviation_eq]; linarith)
    rw [UInt32.le_iff_toNat_le]
    have hsum := (hexact hadj).1
    rw [correction] at hsum
    omega
  · intro hadj hbehind
    have hsign := (truncate_correction (c := c) (t.deviation (t.referenced c k' s r) r)).2
      (by rw [deviation_eq]; linarith)
    rw [UInt32.le_iff_toNat_le]
    have hsum := (hexact hadj).1
    rw [correction] at hsum
    omega
  · intro hregains
    obtain ⟨hfits, hlow, hhigh⟩ := hreference hregains
    rw [paced_offset hregains]
    exact (offset_iff s.slaveCount hfits).mpr ⟨hlow, hhigh⟩

/-- A value of choice gives away a count that cannot be converted. -/
theorem fitsUInt64_of_offset {x : ℚ} {n m : ℤ}
    (h : ∀ k : Casts, (UInt64.ofInt n - k.toUInt64 x).toInt64.toInt = m) : FitsUInt64 x := by
  by_contra hfits
  have hzero := h (.withValues 0 0)
  have hone := h (.withValues 0 1)
  simp only [Casts.withValues, if_neg hfits] at hzero hone
  rw [toInt64_toInt, UInt64.toNat_sub] at hzero hone
  have hlt : (UInt64.ofInt n).toNat < 18446744073709551616 := (UInt64.ofInt n).toNat_lt
  have h0 : (0 : UInt64).toNat = 0 := rfl
  have h1 : (1 : UInt64).toNat = 1 := rfl
  rw [h0] at hzero
  rw [h1] at hone
  split at hzero <;> split at hone <;> omega

theorem fits_of_paced (h : ∀ k' : Casts, t.Paced c k' s r) : t.Fits c k s r := by
  -- whatever an undefined cast gives, the offset is right: so the cast is defined
  have hreference : t.Regains c s r → FitsUInt64 (t.extrapolated (t.dueLoop c s r) r) := by
    intro hregains
    have hoffset : ∀ k' : Casts, (UInt64.ofInt s.slaveCount -
        k'.toUInt64 (t.extrapolated (t.dueLoop c s r) r)).toInt64.toInt =
        s.slaveCount - truncate (t.extrapolated (t.dueLoop c s r) r) := by
      intro k'
      rw [← paced_offset hregains]
      exact (h k').offset hregains
    exact fitsUInt64_of_offset hoffset
  refine ⟨oversleep_iff.mp (h k).oversleep, ?_, ?_, ?_⟩
  · intro hinit
    have hpositive := (h k).positive
    rwa [paced_of_init hinit] at hpositive
  · intro hregains
    have hoffset := (h k).offset hregains
    rw [paced_offset hregains] at hoffset
    exact ⟨hreference hregains, (offset_iff s.slaveCount (hreference hregains)).mp hoffset⟩
  · intro hadj
    -- then the reference, and with it the correction, does not depend on the casts
    have hcongr : ∀ k', t.referenced c k' s r = t.referenced c k s r :=
      fun k' => referenced_congr k' k hadj.1 hreference
    have hadj' : ∀ k', t.Adjusts c k' s r := by
      intro k'
      refine ⟨hadj.1, ?_⟩
      rw [hcongr k']
      exact hadj.2
    have hsame : ∀ k', t.correction c k' s r = t.correction c k s r := by
      intro k'
      rw [correction, correction, hcongr k']
    have hexact : ∀ k' : Casts, (((t.prepared c s r).sleepInterval +
        (k'.toInt32 (t.correction c k s r)).toUInt32).toNat : ℤ) =
        (t.prepared c s r).sleepInterval.toNat + truncate (t.correction c k s r) := by
      intro k'
      have hk := (h k').exact (hadj' k')
      rwa [paced_of_adjusts (hadj' k'), hsame k'] at hk
    -- an undefined cast might give zero, and a correction of zero is in range
    have hfits : FitsInt32 (t.correction c k s r) := by
      by_contra hfits
      have hzero := hexact (.withValues 0 0)
      have hnone : ((0 : Int32).toUInt32) = 0 := rfl
      simp only [Casts.withValues, if_neg hfits] at hzero
      rw [hnone, UInt32.add_zero] at hzero
      exact hfits ⟨by omega, by omega⟩
    have hpositive := (h k).positive
    rw [paced_of_adjusts hadj] at hpositive
    obtain ⟨-, hhigh⟩ := (correction_iff hfits).mp (hexact k)
    refine ⟨hfits, ?_, hhigh⟩
    rw [← hexact k]
    exact_mod_cast hpositive

/-! ## Runs -/

/-- A loop that is controlled has an interval. -/
def HasInterval (s : PacingLoop) : Prop :=
  s.initInterval = false → 0 < s.sleepInterval.toNat

theorem nextTarget_sleepInterval : (t.nextTarget s r).sleepInterval = s.sleepInterval := by
  unfold nextTarget
  generalize (if s.isRefClkAvail then s.slaveTimePtp else 0) = timestamp
  dsimp only
  split <;> rfl

theorem checkEpoch_sleepInterval : (checkEpoch s r).sleepInterval = s.sleepInterval := by
  unfold checkEpoch
  dsimp only
  split <;> rfl

/-- What comes after the control loop leaves the interval alone. -/
theorem pass_sleepInterval :
    (t.pass c k s r).sleepInterval = (t.paced c k s r).sleepInterval := by
  unfold pass
  dsimp only
  rw [checkEpoch_sleepInterval, nextTarget_sleepInterval]

theorem hasInterval_pass (h : t.Paced c k s r) : HasInterval (t.pass c k s r) := by
  intro _
  rw [pass_sleepInterval]
  exact h.positive

/-- **The pace of a worker thread.** The passes of a run keep what they owe, whatever the language
leaves open, exactly if each of them gets what it needs. -/
theorem pacing_iff (t : IasAlsaWorkerThread) (c : AlsaClockConfig) (k : Casts)
    (lastEpoch : UInt32) (rs : List PacingReadings) :
    Always (t.pass c k) (fun s r => ∀ k', t.Paced c k' s r) { lastEpoch := lastEpoch } rs ↔
      Always (t.pass c k) (t.Fits c k) { lastEpoch := lastEpoch } rs := by
  have hiff : ∀ s r, HasInterval s → ((∀ k', t.Paced c k' s r) ↔ t.Fits c k s r) :=
    fun s r hs => ⟨fits_of_paced, fun h k' => paced_of_fits hs h k'⟩
  have hstep : ∀ s r, HasInterval s → (∀ k', t.Paced c k' s r) → HasInterval (t.pass c k s r) :=
    fun s r _ h => hasInterval_pass (h k)
  exact always_congr hiff hstep (fun h => Bool.noConfusion h)

/-- A thread at 48 kHz with periods of 256 samples. -/
def thread48k : IasAlsaWorkerThread where
  mClockDomain := 0
  mAlsaPeriodSize := 256
  mSampleFrequency := 48000

/-- A wake-up without a master clock. -/
def wakeUpAt (now : UInt64) : PacingReadings where
  now := now
  masterTime := 0
  eventCount := 0
  eventRate := 48000
  ptp := none

/-- The thread is woken up a nanosecond early, and starts anew for having overslept. -/
theorem woken_up_early : ¬ Always (thread48k.pass {} (.withValues 0 0))
    (fun s r => ∀ k, thread48k.Paced {} k s r) {} [wakeUpAt 1000000000, wakeUpAt 1005333332] := by
  rintro ⟨-, hsecond, -⟩
  have hover := (hsecond (.withValues 0 0)).oversleep.mp
    ⟨by decide +kernel, by decide +kernel⟩
  exact absurd hover.2 (by decide +kernel)

end IasAlsaWorkerThread

end AvbStreamHandler
