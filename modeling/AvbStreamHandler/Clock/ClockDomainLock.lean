import AvbStreamHandler.Clock.AvbClockDomain
import Mathlib.Tactic.Ring

/-!
# What a clock domain promises

The reported rate ratio stays within the band around the slow filter; the domain is locked only
by a measured value that is close to filters that are close to each other; and its client hears
of it whenever the domain comes to be locked or is no longer.

The last two hold of every call. The first one breaks where the first measured value starts the
filters: the bounds are taken before, and the slow filter is set afterwards.
-/

namespace AvbStreamHandler

open Kit Kit.Run IasAvbLockState

namespace AvbClockDomain

variable {d d' : AvbClockDomain} {newRatio : ℚ}

/-! ## The promises -/

/-- The reported rate ratio is in the band around the slow filter. -/
structure InBand (d : AvbClockDomain) : Prop where
  low : d.mThresholdSlowLow * d.mRateRatioSlow * d.mCompensation ≤ d.mRateRatio
  high : d.mRateRatio ≤ d.mThresholdSlowHigh * d.mRateRatioSlow * d.mCompensation

/-- The client was notified once, and was given the state that is reached. -/
def Told (d d' : AvbClockDomain) : Prop :=
  d'.notified = d.mClient.toList.map (fun client => (client, d'.mLockState)) ++ d.notified

/-- A call that enters or leaves the locked state notifies once. No other call notifies, but for
one that takes the domain back from locking. -/
structure Reports (d d' : AvbClockDomain) : Prop where
  once : ¬ (d.mLockState = eIasAvbLockStateLocked ↔ d'.mLockState = eIasAvbLockStateLocked) →
    Told d d'
  silent : (d.mLockState = eIasAvbLockStateLocked ↔ d'.mLockState = eIasAvbLockStateLocked) →
    d'.notified = d.notified ∨ (d.mLockState = eIasAvbLockStateLocking
      ∧ d'.mLockState = eIasAvbLockStateUnlocked ∧ Told d d')

/-- What a call owes. -/
structure Keeps (d : AvbClockDomain) (call : ClockDomainCall) : Prop where
  band : ∀ newRatio, call = .updateRateRatio newRatio → Accepts newRatio → InBand (d.step call)
  locks : d.mLockState ≠ eIasAvbLockStateLocked →
    (d.step call).mLockState = eIasAvbLockStateLocked →
    ∃ newRatio, call = .updateRateRatio newRatio ∧ Accepts newRatio
      ∧ d.locked1 newRatio = true ∧ (d.smoothed newRatio).locked2 = true
  reports : Reports d (d.step call)

/-- The initial value and what the slow filter would come to with the first measured value are
not further apart than the band is wide. -/
def StartsClose (d : AvbClockDomain) : ClockDomainCall → Prop
  | .updateRateRatio newRatio => Accepts newRatio → d.mLockState = eIasAvbLockStateInit →
      d.mThresholdSlowHigh ≠ 0 →
      d.mInitialValue ≤ d.mThresholdSlowHigh ^ 2
          * d.coefficients.mCoeffSlowUnlocked.smooth 1 newRatio
        ∧ d.coefficients.mCoeffSlowUnlocked.smooth 1 newRatio
          ≤ d.mThresholdSlowHigh ^ 2 * d.mInitialValue
  | _ => True

/-! ## Filters and bounds -/

theorem smooth_nonneg (coeff : Coefficient) {stateBuf newVal : ℚ} (h : 0 ≤ stateBuf)
    (h' : 0 ≤ newVal) : 0 ≤ coeff.smooth stateBuf newVal := by
  have hrest : 0 ≤ 1 - coeff.val := sub_nonneg.mpr (le_of_lt coeff.lt_one)
  exact add_nonneg (mul_nonneg coeff.nonneg h) (mul_nonneg hrest h')

theorem clamp_mem {x lo hi : ℚ} (h : lo ≤ hi) : lo ≤ clamp x lo hi ∧ clamp x lo hi ≤ hi := by
  unfold clamp
  split
  · exact ⟨h, le_refl _⟩
  · split
    · exact ⟨le_refl _, h⟩
    · exact ⟨le_of_not_gt ‹_›, le_of_not_gt ‹_›⟩

/-- A value kept in the band around another one is in the band around itself, if the two are not
further apart than the band is wide. -/
theorem clamp_mem_iff {x s high : ℚ} (hhigh : 1 ≤ high) (hx : 0 ≤ x) (hs : 0 ≤ s) :
    (1 / high * x ≤ clamp x (1 / high * s) (high * s) ∧ clamp x (1 / high * s) (high * s) ≤ high * x)
      ↔ x ≤ high ^ 2 * s ∧ s ≤ high ^ 2 * x := by
  have hpos : 0 < high := lt_of_lt_of_le one_pos hhigh
  have hdiv : ∀ a b : ℚ, 1 / high * a ≤ b ↔ a ≤ high * b := fun a b => by
    rw [one_div, inv_mul_le_iff₀ hpos]
  have hless : ∀ a b : ℚ, a < 1 / high * b ↔ high * a < b := fun a b => by
    rw [one_div, lt_inv_mul_iff₀ hpos]
  have hsq : ∀ a : ℚ, high ^ 2 * a = high * (high * a) := fun a => by ring
  have hgrows : ∀ {a : ℚ}, 0 ≤ a → a ≤ high * a := fun ha => le_mul_of_one_le_left ha hhigh
  have hgrows2 : ∀ {a : ℚ}, 0 ≤ a → a ≤ high * (high * a) := fun ha =>
    (hgrows ha).trans (hgrows (mul_nonneg hpos.le ha))
  rw [hsq, hsq]
  unfold clamp
  split
  · -- the value is above the band
    rename_i habove
    rw [hdiv]
    have hle : s ≤ high * (high * x) :=
      (hgrows hs).trans ((le_of_lt habove).trans (hgrows2 hx))
    exact ⟨fun h => ⟨h.1, hle⟩, fun h => ⟨h.1, (le_of_lt habove).trans (hgrows hx)⟩⟩
  · split
    · -- the value is below the band
      rename_i hbelow
      rw [hless] at hbelow
      have hxs : x ≤ s := (hgrows hx).trans (le_of_lt hbelow)
      have hle : x ≤ high * (high * s) := hxs.trans (hgrows2 hs)
      have hlow : 1 / high * x ≤ 1 / high * s :=
        mul_le_mul_of_nonneg_left hxs (one_div_pos.mpr hpos).le
      rw [hdiv s]
      exact ⟨fun h => ⟨hle, h.2⟩, fun h => ⟨hlow, h.2⟩⟩
    · rename_i habove hbelow
      rw [hless, not_lt] at hbelow
      rw [not_lt] at habove
      rw [hdiv]
      exact iff_of_true ⟨hgrows hx, hgrows hx⟩
        ⟨habove.trans (hgrows (mul_nonneg hpos.le hs)), hbelow.trans (hgrows (mul_nonneg hpos.le hx))⟩

/-! ## The lock state -/

/-- The filters, once the first measured value has started them. -/
def started (d : AvbClockDomain) : AvbClockDomain :=
  if d.mLockState = eIasAvbLockStateInit then d.setFilters d.mInitialValue else d

/-- A change of the lock state, and what the client was told of it. -/
structure Moves (d d' : AvbClockDomain) : Prop where
  same : ∃ s n, d' = { d with mLockState := s, notified := n }
  reports : Reports d d'

theorem moves_told (s : IasAvbLockState)
    (hdown : (d.mLockState = eIasAvbLockStateLocked ↔ s = eIasAvbLockStateLocked) →
      d.mLockState = eIasAvbLockStateLocking ∧ s = eIasAvbLockStateUnlocked) :
    Moves d (d.setLockState s).lockStateChanged where
  same := ⟨_, _, rfl⟩
  reports :=
    { once := fun _ => rfl
      silent := fun hsame => Or.inr ⟨(hdown hsame).1, (hdown hsame).2, rfl⟩ }

theorem moves_silent {s : IasAvbLockState} (hd : d.mLockState ≠ eIasAvbLockStateLocked)
    (hs : s ≠ eIasAvbLockStateLocked) : Moves d (d.setLockState s) where
  same := ⟨s, d.notified, rfl⟩
  reports :=
    { once := fun hdiffer => absurd (iff_of_false hd hs) hdiffer
      silent := fun _ => Or.inl rfl }

theorem moves_refl (d : AvbClockDomain) : Moves d d where
  same := ⟨_, _, rfl⟩
  reports := ⟨fun hdiffer => absurd Iff.rfl hdiffer, fun _ => Or.inl rfl⟩

theorem lock_moves (hd : d.mLockState ≠ eIasAvbLockStateLocked) (locked1 locked2 : Bool) :
    Moves d (d.lock locked1 locked2)
      ∧ ((d.lock locked1 locked2).mLockState = eIasAvbLockStateLocked ↔
        locked1 = true ∧ locked2 = true)
      ∧ (d.lock locked1 locked2).mLockState ≠ eIasAvbLockStateInit := by
  unfold lock
  split
  · rename_i hboth
    rw [Bool.and_eq_true] at hboth
    exact ⟨moves_told _ fun hsame => absurd (hsame.mpr rfl) hd, iff_of_true rfl hboth,
      (by decide : eIasAvbLockStateLocked ≠ eIasAvbLockStateInit)⟩
  · rename_i hnot
    rw [Bool.and_eq_true] at hnot
    have hlocking : eIasAvbLockStateLocking ≠ eIasAvbLockStateLocked := by decide
    exact ⟨moves_silent hd hlocking, iff_of_false hlocking hnot,
      (by decide : eIasAvbLockStateLocking ≠ eIasAvbLockStateInit)⟩

/-- **The `switch`** starts the filters at first, and the lock state moves by the two tests. -/
theorem switchLockState_moves (d : AvbClockDomain) (locked1 locked2 : Bool) :
    Moves d.started (d.switchLockState locked1 locked2)
      ∧ (d.mLockState ≠ eIasAvbLockStateLocked →
        (d.switchLockState locked1 locked2).mLockState = eIasAvbLockStateLocked →
          locked1 = true ∧ locked2 = true)
      ∧ (d.switchLockState locked1 locked2).mLockState ≠ eIasAvbLockStateInit := by
  unfold switchLockState started
  cases hstate : d.mLockState with
  | eIasAvbLockStateInit =>
      obtain ⟨hmoves, hlocked, hinit⟩ := @lock_moves (d.setFilters d.mInitialValue)
        (ne_of_eq_of_ne hstate (by decide)) locked1 locked2
      rw [if_pos rfl]
      exact ⟨hmoves, fun _ => hlocked.mp, hinit⟩
  | eIasAvbLockStateUnlocked =>
      obtain ⟨hmoves, hlocked, hinit⟩ := @lock_moves d
        (ne_of_eq_of_ne hstate (by decide)) locked1 locked2
      rw [if_neg (by decide)]
      exact ⟨hmoves, fun _ => hlocked.mp, hinit⟩
  | eIasAvbLockStateLocking =>
      obtain ⟨hmoves, hlocked, hinit⟩ := @lock_moves d
        (ne_of_eq_of_ne hstate (by decide)) locked1 locked2
      rw [if_neg (by decide)]
      exact ⟨hmoves, fun _ => hlocked.mp, hinit⟩
  | eIasAvbLockStateLocked =>
      rw [if_neg (by decide)]
      refine ⟨?_, fun hne => absurd rfl hne, ?_⟩
      · dsimp only
        split
        · exact moves_refl d
        · exact moves_told _ fun hsame => absurd (hsame.mp hstate) (by decide)
      · dsimp only
        split
        · exact ne_of_eq_of_ne hstate (by decide)
        · exact (by decide : eIasAvbLockStateUnlocked ≠ eIasAvbLockStateInit)

/-! ## Calls -/

/-- What the calls leave to rely on. -/
structure Inv (d : AvbClockDomain) : Prop where
  slow : 0 ≤ d.mRateRatioSlow
  initial : 0 ≤ d.mInitialValue
  compensation : 0 < d.mCompensation
  thresholds : (d.mThresholdSlowHigh = 0 ∧ d.mThresholdSlowLow = 0)
    ∨ (1 ≤ d.mThresholdSlowHigh ∧ d.mThresholdSlowLow = 1 / d.mThresholdSlowHigh)
  untouched : d.mLockState = eIasAvbLockStateInit → d.mRateRatioSlow = 1

theorem inv_init : Inv {} where
  slow := by decide
  initial := by decide
  compensation := by decide
  thresholds := Or.inl ⟨rfl, rfl⟩
  untouched _ := rfl

theorem one_le_thresholdHigh (ppm : Nat) : 1 ≤ thresholdHigh ppm := by
  unfold thresholdHigh
  have : (0 : ℚ) ≤ 1 / 1000000 * ppm := by positivity
  linarith

theorem Inv.of_moves (h : Inv d) (hmoves : Moves d d')
    (hinit : d'.mLockState = eIasAvbLockStateInit → d.mLockState = eIasAvbLockStateInit) :
    Inv d' := by
  obtain ⟨s, n, rfl⟩ := hmoves.same
  exact ⟨h.slow, h.initial, h.compensation, h.thresholds, fun hs => h.untouched (hinit hs)⟩

/-- The filters follow a measured value. -/
theorem smoothed_eq (d : AvbClockDomain) (newRatio : ℚ) : ∃ coeff coeff' : Coefficient,
    d.smoothed newRatio = { d with
      mRateRatioSlow := coeff.smooth d.mRateRatioSlow newRatio
      mRateRatioFast := coeff'.smooth d.mRateRatioFast newRatio }
    ∧ (d.mLockState = eIasAvbLockStateInit → coeff = d.coefficients.mCoeffSlowUnlocked) := by
  unfold smoothed
  split
  · rename_i hlocked
    refine ⟨_, _, rfl, fun hinit => ?_⟩
    rw [hlocked] at hinit
    exact absurd hinit (by decide)
  · exact ⟨_, _, rfl, fun _ => rfl⟩

theorem smoothed_state (d : AvbClockDomain) (newRatio : ℚ) :
    (d.smoothed newRatio).mLockState = d.mLockState := by
  obtain ⟨_, _, hsmoothed, -⟩ := d.smoothed_eq newRatio
  rw [hsmoothed]

/-- A value that is accepted goes through the filters, may start them, moves the lock state and
is reported within the bounds. -/
theorem updateRateRatio_eq (haccepts : Accepts newRatio) : ∃ s',
    d.updateRateRatio newRatio = { s' with
      mRateRatio := clamp s'.mRateRatioFast (d.smoothed newRatio).rateRatioMin
        (d.smoothed newRatio).rateRatioMax * s'.mCompensation }
    ∧ Moves (d.smoothed newRatio).started s'
    ∧ (d.mLockState ≠ eIasAvbLockStateLocked → s'.mLockState = eIasAvbLockStateLocked →
      d.locked1 newRatio = true ∧ (d.smoothed newRatio).locked2 = true)
    ∧ s'.mLockState ≠ eIasAvbLockStateInit := by
  obtain ⟨hmoves, hlocks, hinit⟩ := (d.smoothed newRatio).switchLockState_moves
    (d.locked1 newRatio) (d.smoothed newRatio).locked2
  rw [smoothed_state] at hlocks
  exact ⟨_, if_pos haccepts, hmoves, hlocks, hinit⟩

theorem Inv.filtered (h : Inv d) (hratio : 0 ≤ newRatio) :
    0 ≤ (d.smoothed newRatio).started.mRateRatioSlow := by
  obtain ⟨coeff, _, hsmoothed, -⟩ := d.smoothed_eq newRatio
  rw [hsmoothed]
  unfold started
  split
  · exact h.initial
  · exact smooth_nonneg coeff h.slow hratio

/-- The settings stay, whatever is measured. -/
theorem started_settings (d : AvbClockDomain) (newRatio : ℚ) :
    (d.smoothed newRatio).started.mThresholdSlowHigh = d.mThresholdSlowHigh
      ∧ (d.smoothed newRatio).started.mThresholdSlowLow = d.mThresholdSlowLow
      ∧ (d.smoothed newRatio).started.mInitialValue = d.mInitialValue
      ∧ (d.smoothed newRatio).started.mCompensation = d.mCompensation := by
  obtain ⟨_, _, hsmoothed, -⟩ := d.smoothed_eq newRatio
  rw [hsmoothed]
  unfold started
  split <;> exact ⟨rfl, rfl, rfl, rfl⟩

theorem inv_updateRateRatio (h : Inv d) (newRatio : ℚ) : Inv (d.updateRateRatio newRatio) := by
  by_cases haccepts : Accepts newRatio
  · obtain ⟨s', hupdate, hmoves, -, hinit⟩ := @updateRateRatio_eq d newRatio haccepts
    obtain ⟨hhigh, hlow, hinitial, hcompensation⟩ := d.started_settings newRatio
    have hslow := h.filtered haccepts.1
    obtain ⟨s, n, rfl⟩ := hmoves.same
    rw [hupdate]
    exact {
      slow := hslow
      initial := hinitial.symm ▸ h.initial
      compensation := hcompensation.symm ▸ h.compensation
      thresholds := by
        show ((d.smoothed newRatio).started.mThresholdSlowHigh = 0 ∧ _ = _) ∨ _
        rw [hhigh, hlow]
        exact h.thresholds
      untouched := fun hs => absurd hs hinit }
  · rw [show d.updateRateRatio newRatio = d from if_neg haccepts]
    exact h

/-- **The bounds**: a measured value keeps the reported ratio in the band, and the first one does
if it is close enough to the initial value. -/
theorem inBand_iff (h : Inv d) (haccepts : Accepts newRatio) :
    InBand (d.updateRateRatio newRatio) ↔ d.StartsClose (.updateRateRatio newRatio) := by
  obtain ⟨s', hupdate, hmoves, -, -⟩ := @updateRateRatio_eq d newRatio haccepts
  obtain ⟨hhigh, hlow, -, hcompensation⟩ := d.started_settings newRatio
  obtain ⟨coeff, coeff', hsmoothed, hcoeff⟩ := d.smoothed_eq newRatio
  obtain ⟨s, n, rfl⟩ := hmoves.same
  have hslow : 0 ≤ coeff.smooth d.mRateRatioSlow newRatio :=
    smooth_nonneg coeff h.slow haccepts.1
  -- the compensation is a factor of both bounds and of the reported ratio
  have hband : InBand (d.updateRateRatio newRatio) ↔
      d.mThresholdSlowLow * (d.smoothed newRatio).started.mRateRatioSlow
          ≤ clamp (d.smoothed newRatio).started.mRateRatioFast
            (d.mThresholdSlowLow * coeff.smooth d.mRateRatioSlow newRatio)
            (d.mThresholdSlowHigh * coeff.smooth d.mRateRatioSlow newRatio)
        ∧ clamp (d.smoothed newRatio).started.mRateRatioFast
            (d.mThresholdSlowLow * coeff.smooth d.mRateRatioSlow newRatio)
            (d.mThresholdSlowHigh * coeff.smooth d.mRateRatioSlow newRatio)
          ≤ d.mThresholdSlowHigh * (d.smoothed newRatio).started.mRateRatioSlow := by
    have hmin : (d.smoothed newRatio).rateRatioMin
        = d.mThresholdSlowLow * coeff.smooth d.mRateRatioSlow newRatio := by rw [hsmoothed]; rfl
    have hmax : (d.smoothed newRatio).rateRatioMax
        = d.mThresholdSlowHigh * coeff.smooth d.mRateRatioSlow newRatio := by rw [hsmoothed]; rfl
    rw [hupdate, hmin, hmax]
    refine ⟨fun hin => ?_, fun hin => ?_⟩
    · have hl := hin.low
      have hh := hin.high
      dsimp only at hl hh
      rw [hlow, hcompensation] at hl
      rw [hhigh, hcompensation] at hh
      exact ⟨le_of_mul_le_mul_right hl h.compensation, le_of_mul_le_mul_right hh h.compensation⟩
    · constructor
      · dsimp only
        rw [hlow, hcompensation]
        exact mul_le_mul_of_nonneg_right hin.1 h.compensation.le
      · dsimp only
        rw [hhigh, hcompensation]
        exact mul_le_mul_of_nonneg_right hin.2 h.compensation.le
  rw [hband, hsmoothed]
  unfold StartsClose started
  by_cases hinit : d.mLockState = eIasAvbLockStateInit
  · rw [if_pos hinit, hcoeff hinit, h.untouched hinit]
    have hs : 0 ≤ d.coefficients.mCoeffSlowUnlocked.smooth 1 newRatio :=
      smooth_nonneg _ one_pos.le haccepts.1
    obtain ⟨hzero, hzero'⟩ | ⟨hone, hinverse⟩ := h.thresholds
    · -- no threshold has been set, and the band is empty
      rw [hzero, hzero', zero_mul, zero_mul]
      exact iff_of_true (clamp_mem (le_refl _)) fun _ _ hne => absurd rfl hne
    · rw [hinverse]
      refine (clamp_mem_iff hone h.initial hs).trans ⟨fun hclose _ _ _ => hclose, fun hclose => ?_⟩
      exact hclose haccepts hinit (ne_of_gt (lt_of_lt_of_le one_pos hone))
  · rw [if_neg hinit]
    refine iff_of_true (clamp_mem ?_) fun _ hinit' => absurd hinit' hinit
    obtain ⟨hzero, hzero'⟩ | ⟨hone, hinverse⟩ := h.thresholds
    · rw [hzero, hzero']
    · rw [hinverse]
      have hle : 1 / d.mThresholdSlowHigh ≤ 1 :=
        (div_le_one (lt_of_lt_of_le one_pos hone)).mpr hone
      exact mul_le_mul_of_nonneg_right (hle.trans hone) hslow

/-! ## Settings -/

/-- A call that neither locks the domain nor notifies. -/
theorem reports_of_silent (hstate : d'.mLockState = d.mLockState)
    (hnotified : d'.notified = d.notified) : Reports d d' where
  once hdiffer := absurd (by rw [hstate]) hdiffer
  silent _ := Or.inl hnotified

/-- New filters take the domain back to where it is not locked. -/
theorem setFilter_spec (h : Inv d) (timeConstant : ℚ) (coefficients : FilterCoefficients) :
    Inv (d.setFilter timeConstant coefficients)
      ∧ Reports d (d.setFilter timeConstant coefficients)
      ∧ (d.mLockState ≠ eIasAvbLockStateLocked →
        (d.setFilter timeConstant coefficients).mLockState ≠ eIasAvbLockStateLocked) := by
  unfold setFilter
  split
  · dsimp only
    have hset : Inv { d with mTimeConstant := timeConstant, coefficients := coefficients } :=
      ⟨h.slow, h.initial, h.compensation, h.thresholds, h.untouched⟩
    split
    · rename_i habove
      have hunlocked : eIasAvbLockStateUnlocked ≠ eIasAvbLockStateInit := by decide
      have hmoves : Moves { d with mTimeConstant := timeConstant, coefficients := coefficients }
          _ := moves_told eIasAvbLockStateUnlocked fun hsame => by
        refine ⟨habove.resolve_right fun hlocked => ?_, rfl⟩
        exact absurd (hsame.mp hlocked) (by decide)
      exact ⟨hset.of_moves hmoves fun hs => absurd hs hunlocked,
        ⟨hmoves.reports.once, hmoves.reports.silent⟩,
        fun _ => (by decide : eIasAvbLockStateUnlocked ≠ eIasAvbLockStateLocked)⟩
    · exact ⟨hset, reports_of_silent rfl rfl, fun hne => hne⟩
  · exact ⟨h, reports_of_silent rfl rfl, fun hne => hne⟩

/-- **A setting** keeps the invariant, and does not lock the domain. -/
theorem setting_spec (h : Inv d) {call : ClockDomainCall}
    (hcall : ∀ newRatio, call ≠ .updateRateRatio newRatio) :
    Inv (d.step call) ∧ Reports d (d.step call)
      ∧ (d.mLockState ≠ eIasAvbLockStateLocked →
        (d.step call).mLockState ≠ eIasAvbLockStateLocked) := by
  -- all but the filters leave the lock state alone
  have hkept : ∀ {d' : AvbClockDomain}, Inv d' → d'.mLockState = d.mLockState →
      d'.notified = d.notified → Inv d' ∧ Reports d d'
        ∧ (d.mLockState ≠ eIasAvbLockStateLocked → d'.mLockState ≠ eIasAvbLockStateLocked) := by
    intro d' hinv hstate hnotified
    refine ⟨hinv, reports_of_silent hstate hnotified, fun hd => ?_⟩
    rw [hstate]
    exact hd
  cases call with
  | updateRateRatio newRatio => exact absurd rfl (hcall newRatio)
  | setFilter timeConstant coefficients => exact setFilter_spec h timeConstant coefficients
  | setDerivationFactors coefficients => exact setFilter_spec h d.mTimeConstant coefficients
  | setLockThreshold1 ppm =>
      unfold step setLockThreshold1
      dsimp only
      split
      · exact hkept ⟨h.slow, h.initial, h.compensation, h.thresholds, h.untouched⟩ rfl rfl
      · exact hkept h rfl rfl
  | setLockThreshold2 ppm =>
      unfold step setLockThreshold2
      dsimp only
      split
      · exact hkept ⟨h.slow, h.initial, h.compensation,
          Or.inr ⟨one_le_thresholdHigh ppm, rfl⟩, h.untouched⟩ rfl rfl
      · exact hkept h rfl rfl
  | setInitialValue initVal =>
      unfold step setInitialValue
      dsimp only
      split
      · exact hkept ⟨h.slow, ‹_›, h.compensation, h.thresholds, h.untouched⟩ rfl rfl
      · exact hkept h rfl rfl
  | setDriftCompensation val =>
      unfold step setDriftCompensation
      dsimp only
      split
      · rename_i hval
        have hpos : (0 : ℚ) ≤ val := Int.cast_nonneg hval.1
        have hcompensation : (0 : ℚ) < 1 / (1 + val * (1 / 1000000)) := by positivity
        exact hkept ⟨h.slow, h.initial, hcompensation, h.thresholds, h.untouched⟩ rfl rfl
      · split
        · rename_i hval
          have hpos : (0 : ℚ) ≤ (-val : Int) := Int.cast_nonneg (by omega)
          have hcompensation : (0 : ℚ) < 1 + (-val : Int) * (1 / 1000000) := by positivity
          exact hkept ⟨h.slow, h.initial, hcompensation, h.thresholds, h.untouched⟩ rfl rfl
        · exact hkept h rfl rfl
  | registerClient client =>
      unfold step registerClient
      dsimp only
      split
      · exact hkept ⟨h.slow, h.initial, h.compensation, h.thresholds, h.untouched⟩ rfl rfl
      · exact hkept h rfl rfl
  | unregisterClient client =>
      unfold step unregisterClient
      dsimp only
      split
      · exact hkept ⟨h.slow, h.initial, h.compensation, h.thresholds, h.untouched⟩ rfl rfl
      · exact hkept h rfl rfl

theorem updateRateRatio_reports (d : AvbClockDomain) (newRatio : ℚ) :
    Reports d (d.updateRateRatio newRatio) := by
  by_cases haccepts : Accepts newRatio
  · obtain ⟨s', hupdate, hmoves, -, -⟩ := @updateRateRatio_eq d newRatio haccepts
    obtain ⟨coeff, coeff', hsmoothed, -⟩ := d.smoothed_eq newRatio
    have hsame : (d.smoothed newRatio).started.mLockState = d.mLockState
        ∧ (d.smoothed newRatio).started.mClient = d.mClient
        ∧ (d.smoothed newRatio).started.notified = d.notified := by
      rw [hsmoothed]
      unfold started
      split <;> exact ⟨rfl, rfl, rfl⟩
    obtain ⟨hstate, hclient, hnotified⟩ := hsame
    have honce := hmoves.reports.once
    have hsilent := hmoves.reports.silent
    unfold Told at honce hsilent
    rw [hstate, hclient, hnotified] at honce hsilent
    rw [hupdate]
    exact ⟨honce, hsilent⟩
  · rw [show d.updateRateRatio newRatio = d from if_neg haccepts]
    exact reports_of_silent rfl rfl

/-! ## Runs -/

theorem inv_step (h : Inv d) (call : ClockDomainCall) : Inv (d.step call) := by
  by_cases hcall : ∃ newRatio, call = .updateRateRatio newRatio
  · obtain ⟨newRatio, rfl⟩ := hcall
    exact inv_updateRateRatio h newRatio
  · exact (setting_spec h (not_exists.mp hcall)).1

/-- **One call** keeps all promises, unless it starts the filters too far from the first value. -/
theorem keeps_iff (h : Inv d) (call : ClockDomainCall) : Keeps d call ↔ d.StartsClose call := by
  by_cases hcall : ∃ newRatio, call = .updateRateRatio newRatio
  · obtain ⟨newRatio, rfl⟩ := hcall
    refine ⟨fun hkeeps haccepts => ?_, fun hclose => ?_⟩
    · exact (inBand_iff h haccepts).mp (hkeeps.band newRatio rfl haccepts) haccepts
    · refine ⟨?_, fun hd hd' => ?_, d.updateRateRatio_reports newRatio⟩
      · intro newRatio' hcall haccepts
        obtain rfl : newRatio = newRatio' := ClockDomainCall.updateRateRatio.inj hcall
        exact (inBand_iff h haccepts).mpr hclose
      · by_cases haccepts : Accepts newRatio
        · obtain ⟨s', hupdate, -, hlocks, -⟩ := @updateRateRatio_eq d newRatio haccepts
          have hlocked : (d.updateRateRatio newRatio).mLockState = eIasAvbLockStateLocked := hd'
          rw [hupdate] at hlocked
          obtain ⟨hfirst, hsecond⟩ := hlocks hd hlocked
          exact ⟨newRatio, rfl, haccepts, hfirst, hsecond⟩
        · have hsame : d.step (.updateRateRatio newRatio) = d := if_neg haccepts
          rw [hsame] at hd'
          exact absurd hd' hd
  · -- a setting measures nothing
    have hnone : ∀ newRatio, call ≠ .updateRateRatio newRatio := not_exists.mp hcall
    obtain ⟨-, hreports, hlocked⟩ := setting_spec h hnone
    refine iff_of_true ⟨fun newRatio hratio => absurd hratio (hnone newRatio),
      fun hd hd' => absurd hd' (hlocked hd), hreports⟩ ?_
    cases call with
    | updateRateRatio newRatio => exact absurd rfl (hnone newRatio)
    | _ => trivial

/--
**What a clock domain promises.**

For every sequence of calls from construction on: the reported ratio is in its band after every
accepted value, the domain is locked only by a value within both thresholds, and the client is
told once of every way into and out of the locked state, if and only if the first accepted value
meets an initial value that is close to it.
-/
theorem clockDomain_keeps_iff (calls : List ClockDomainCall) :
    Always step Keeps {} calls ↔ Always step StartsClose {} calls := by
  have hiff : ∀ d call, Inv d → (Keeps d call ↔ StartsClose d call) :=
    fun _ call h => keeps_iff h call
  exact always_congr hiff (fun _ call h _ => inv_step h call) inv_init

/-- **A band that is not there any more.** Filters that follow at once, a threshold of ten percent
and a first value of four: the ratio is kept near four, while the filters start at one. -/
theorem first_ratio_out_of_band :
    ¬ Always step Keeps {} [.setLockThreshold1 100000, .setLockThreshold2 100000,
      .updateRateRatio 4] := by
  rw [clockDomain_keeps_iff]
  intro h
  exact absurd (h.2.2.1 (by decide +kernel) rfl (by decide +kernel)).2 (by decide +kernel)

end AvbClockDomain

end AvbStreamHandler
