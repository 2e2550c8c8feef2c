import AvbStreamHandler.Clock.LibPtpDaemon
import Mathlib.Tactic.IntervalCases

/-!
# The rounds of the loop that reads the PTP clock

`getRealLocalTime` leaves its loop as soon as it has a time that differs from `mLastTime`. A
reading that is behind the last one, or the same, is not such a time; after two or three of
them (`tries`) the loop assumes a new epoch. It sets `mLastTime` and the time to zero, which are
equal, so it does not end there: it goes on until a reading is not zero, and counts an epoch
in every round.

A loop is in one of three states: it `Waits` with a last time, it is `Lost` without one, or it
has `Left`. There is one lemma for each way from one to another, and `run_waits` puts them
together. All times fit into 63 bits (`fits_step`), so a negative difference is a time that goes
back.
-/

namespace AvbStreamHandler

open Kit Kit.Word Kit.Run

namespace IasLibPtpDaemon

/-! ## What a round finds -/

/-- The time round `i` reads. -/
def timeOf (d : IasLibPtpDaemon) (readings : Nat → Readings) (i : Nat) : Nat :=
  (d.readClock (readings i)).1

def tscOf (d : IasLibPtpDaemon) (readings : Nat → Readings) (i : Nat) : Nat :=
  (d.readClock (readings i)).2

/-- The time is one to go on with: it is ahead of the last one, or out of phase and not
behind it. -/
def Decides (d : IasLibPtpDaemon) (lt tsc1 : Nat) : Prop :=
  d.mLastTime < lt ∨ d.mLastTime = lt ∧ d.EpochChange lt tsc1

instance (d : IasLibPtpDaemon) (lt tsc1 : Nat) : Decidable (d.Decides lt tsc1) :=
  inferInstanceAs (Decidable (_ ∨ _ ∧ _))

/-- The rounds before the last time is given up. -/
def tries (d : IasLibPtpDaemon) (readings : Nat → Readings) : Nat :=
  if d.timeOf readings 0 < d.mLastTime ∨ d.timeOf readings 1 < d.mLastTime then 2 else 3

/-! ## Times fit -/

/-- The registers have 32 bits of seconds. -/
theorem getIgbTimeFrom_lt (d : IasLibPtpDaemon) (samples : Nat → IgbSample) (n i intervalMin : Nat)
    {found : Nat × Nat} (h : found.1 < 9223372036854775808 ∧ found.2 < 9223372036854775808) :
    (d.getIgbTimeFrom samples n i intervalMin found).2.1 < 9223372036854775808
      ∧ (d.getIgbTimeFrom samples n i intervalMin found).2.2 < 9223372036854775808 := by
  induction n generalizing i intervalMin found with
  | zero => exact h
  | succ n ih =>
      have hh := (samples i).stmph0Reg.toNat_lt
      have hl := (samples i).stmpl0Reg.toNat_lt
      have hsys₁ : convertTimespecToNs (samples i).sys1 < 9223372036854775808 := (samples i).sys1.fits
      have hsys₂ : convertTimespecToNs (samples i).sys2 < 9223372036854775808 := (samples i).sys2.fits
      have hfound : (samples i).stmph0Reg.toNat * 1000000000 + (samples i).stmpl0Reg.toNat
            < 9223372036854775808
          ∧ convertTimespecToNs (samples i).sys1 / 2 + convertTimespecToNs (samples i).sys2 / 2
            < 9223372036854775808 := by omega
      unfold getIgbTimeFrom
      dsimp only
      split
      · exact h
      · split
        · split
          · exact hfound
          · exact ih _ _ hfound
        · exact ih _ _ h

theorem readClock_lt (d : IasLibPtpDaemon) (r : Readings) :
    (d.readClock r).1 < 9223372036854775808 ∧ (d.readClock r).2 < 9223372036854775808 := by
  have higb : (d.getIgbTime r.samples).2.1 < 9223372036854775808
      ∧ (d.getIgbTime r.samples).2.2 < 9223372036854775808 :=
    d.getIgbTimeFrom_lt r.samples _ 0 _ ⟨by decide, by decide⟩
  have htsc₁ : convertTimespecToNs r.tsc1 < 9223372036854775808 := r.tsc1.fits
  have htsc₂ : convertTimespecToNs r.tsc2 < 9223372036854775808 := r.tsc2.fits
  unfold readClock
  dsimp only
  split
  · exact higb
  · refine ⟨?_, by dsimp only; omega⟩
    dsimp only
    split
    · exact higb.1
    · rename_i tp _
      exact tp.fits

/-- Every number of the daemon fits. -/
structure Fits (d : IasLibPtpDaemon) : Prop where
  lastTime : d.mLastTime < 9223372036854775808
  lastTsc : d.mLastTsc < 9223372036854775808
  epoch : d.mEpochCounter < 4294967296

/-- So does every number of the loop. -/
structure Bounded (s : Attempt) : Prop where
  daemon : Fits s.daemon
  ret : s.ret < 9223372036854775808
  lt : s.lt < 9223372036854775808
  tsc1 : s.tsc1 < 9223372036854775808

theorem zero_fits : 0 < 9223372036854775808 := by decide

theorem fits_new : Fits {} := ⟨zero_fits, zero_fits, by decide⟩

theorem fits_init {d : IasLibPtpDaemon} (h : Fits d) (env : PtpEnvironment) :
    Fits (d.init env) := by
  unfold init
  split
  · exact h
  · split
    · exact ⟨h.lastTime, h.lastTsc, h.epoch⟩
    · dsimp only
      cases env.gettime with
      | none => exact ⟨h.lastTime, env.tsc.fits, h.epoch⟩
      | some tp => exact ⟨tp.fits, env.tsc.fits, h.epoch⟩

theorem fits_beginEpoch {d : IasLibPtpDaemon} (h : Fits d) : Fits d.beginEpoch :=
  ⟨zero_fits, h.lastTsc, Nat.mod_lt _ (by decide)⟩

theorem bounded_read {s : Attempt} (h : Bounded s) (r : Readings) : Bounded (s.read r) := by
  unfold Attempt.read
  split
  · exact ⟨h.daemon, h.ret, (s.daemon.readClock_lt r).1, (s.daemon.readClock_lt r).2⟩
  · exact ⟨h.daemon, zero_fits, h.lt, h.tsc1⟩

theorem bounded_judge {s : Attempt} (h : Bounded s) : Bounded s.judge := by
  unfold Attempt.judge
  split
  · split
    · exact ⟨h.daemon, h.ret, h.lt, h.tsc1⟩
    · split
      · exact ⟨fits_beginEpoch h.daemon, h.lt, h.lt, h.tsc1⟩
      · exact ⟨h.daemon, h.lt, h.lt, h.tsc1⟩
  · exact ⟨h.daemon, h.lt, h.lt, h.tsc1⟩

theorem bounded_body {s : Attempt} (readings : Nat → Readings) (h : Bounded s) :
    Bounded (s.body readings) := by
  have hjudged := bounded_judge (bounded_read h (readings s.round))
  unfold Attempt.body Attempt.giveUp
  split
  · exact ⟨fits_beginEpoch hjudged.daemon, zero_fits, hjudged.lt, hjudged.tsc1⟩
  · exact ⟨hjudged.daemon, hjudged.ret, hjudged.lt, hjudged.tsc1⟩

theorem fits_updateCoeffs {s : Attempt} (h : Bounded s) (force : Bool) :
    Fits (s.updateCoeffs force) := by
  unfold Attempt.updateCoeffs updateFactor
  dsimp only
  split
  · exact ⟨h.ret, h.tsc1, h.daemon.epoch⟩
  · split
    · split
      · exact ⟨h.ret, h.tsc1, h.daemon.epoch⟩
      · exact ⟨h.ret, h.tsc1, h.daemon.epoch⟩
    · exact h.daemon

theorem fits_call {d : IasLibPtpDaemon} (h : Fits d) (force : Bool) (readings : Nat → Readings)
    (patience : Nat) : Fits (d.call force readings patience) := by
  unfold call
  split
  · exact h
  · split
    · rename_i ret d' hcall
      obtain ⟨s, hrun, heq⟩ := Option.map_eq_some_iff.mp hcall
      obtain ⟨-, rfl⟩ := Prod.mk.inj heq
      have hfirst : Bounded d.firstAttempt := ⟨h, h.lastTime, zero_fits, zero_fits⟩
      exact fits_updateCoeffs (While.loop_inv (fun _ hs _ => bounded_body readings hs) hfirst hrun).1
        force
    · exact ⟨h.lastTime, h.lastTsc, h.epoch⟩

theorem fits_step {d : IasLibPtpDaemon} (h : Fits d) (e : Event) : Fits (d.step e) := by
  cases e with
  | init env => exact fits_init h env
  | cleanUp => exact ⟨h.lastTime, h.lastTsc, h.epoch⟩
  | getRealLocalTime force readings patience => exact fits_call h force readings patience
  | getLocalTime now readings patience =>
      unfold step
      dsimp only
      split
      · exact fits_call h false readings patience
      · exact h

/-! ### What the loop leaves alone -/

/-- What neither a round nor the update of the coefficients writes. -/
structure SameSetup (d d' : IasLibPtpDaemon) : Prop where
  factor : d'.mTscToLocalFactor = d.mTscToLocalFactor
  coeff : d'.mAvgCoeff = d.mAvgCoeff
  mutex : d'.mLastTimeMutex = d.mLastTimeMutex

theorem body_sameSetup (readings : Nat → Readings) (s : Attempt) :
    SameSetup s.daemon (s.body readings).daemon := by
  have hread : (s.read (readings s.round)).daemon = s.daemon := by
    unfold Attempt.read
    split <;> rfl
  have hjudge : SameSetup s.daemon (s.read (readings s.round)).judge.daemon := by
    rw [← hread]
    unfold Attempt.judge
    split
    · split
      · exact ⟨rfl, rfl, rfl⟩
      · split
        · exact ⟨rfl, rfl, rfl⟩
        · exact ⟨rfl, rfl, rfl⟩
    · exact ⟨rfl, rfl, rfl⟩
  unfold Attempt.body Attempt.giveUp
  split
  · exact ⟨hjudge.factor, hjudge.coeff, hjudge.mutex⟩
  · exact hjudge

theorem retry_sameSetup {d : IasLibPtpDaemon} {readings : Nat → Readings} {rounds : Nat}
    {s : Attempt} (h : d.retry readings rounds = some s) : SameSetup d s.daemon := by
  have hstep : ∀ s' : Attempt, SameSetup d s'.daemon → s'.goesOn = true →
      SameSetup d (s'.body readings).daemon := by
    intro s' hs _
    have hbody := body_sameSetup readings s'
    exact ⟨hbody.factor.trans hs.factor, hbody.coeff.trans hs.coeff, hbody.mutex.trans hs.mutex⟩
  exact (While.loop_inv hstep (show SameSetup d d.firstAttempt.daemon from ⟨rfl, rfl, rfl⟩) h).1

theorem updateCoeffs_frame (s : Attempt) (force : Bool) :
    (s.updateCoeffs force).mLastTimeMutex = s.daemon.mLastTimeMutex
      ∧ (s.updateCoeffs force).mEpochCounter = s.daemon.mEpochCounter := by
  unfold Attempt.updateCoeffs updateFactor
  dsimp only
  split
  · exact ⟨rfl, rfl⟩
  · split
    · split <;> exact ⟨rfl, rfl⟩
    · exact ⟨rfl, rfl⟩

theorem init_mutex (d : IasLibPtpDaemon) (env : PtpEnvironment) :
    (d.init env).mLastTimeMutex = d.mLastTimeMutex := by
  unfold init
  split
  · rfl
  · split
    · rfl
    · dsimp only
      cases env.gettime <;> rfl

/-! ## Against the last time -/

/-- A reading is behind the last one exactly if its difference is negative. -/
theorem delta_neg_iff {d : IasLibPtpDaemon} {lt : Nat} (hd : d.mLastTime < 9223372036854775808)
    (hlt : lt < 9223372036854775808) : d.delta lt < 0 ↔ lt < d.mLastTime := by
  unfold delta toInt64 sub64
  split <;> omega

/-! ## One round -/

variable {d : IasLibPtpDaemon} {readings : Nat → Readings} {s : Attempt}

/-- Neither the last time nor the epoch has to do with the reading. -/
theorem getIgbTimeFrom_congr {d d' : IasLibPtpDaemon} (hdevice : d'.mIgbDevice = d.mIgbDevice)
    (hthreshold : d'.mSysTimeMeasurementThreshold = d.mSysTimeMeasurementThreshold)
    (samples : Nat → IgbSample) (n i intervalMin : Nat) (found : Nat × Nat) :
    d'.getIgbTimeFrom samples n i intervalMin found
      = d.getIgbTimeFrom samples n i intervalMin found := by
  induction n generalizing i intervalMin found with
  | zero => rfl
  | succ n ih =>
      unfold getIgbTimeFrom
      simp only [hdevice, hthreshold, ih]

/-- The daemon without a last time. -/
def lost (d : IasLibPtpDaemon) (epoch : Nat) : IasLibPtpDaemon :=
  { d with mLastTime := 0, mEpochCounter := epoch }

theorem readClock_lost (d : IasLibPtpDaemon) (epoch : Nat) (r : Readings) :
    (d.lost epoch).readClock r = d.readClock r := by
  have higb : (d.lost epoch).getIgbTime r.samples = d.getIgbTime r.samples :=
    @getIgbTimeFrom_congr d (d.lost epoch) rfl rfl r.samples _ 0 _ _
  unfold readClock
  rw [higb]

/-- Before round `i`, with the last time still there. -/
structure Waits (d : IasLibPtpDaemon) (i attempt : Nat) (s : Attempt) : Prop where
  daemon : s.daemon = d
  ret : s.ret = d.mLastTime
  attempt : s.attempt = attempt
  round : s.round = i

/-- Before round `i`, without a last time. -/
structure Lost (d : IasLibPtpDaemon) (i attempt epoch : Nat) (s : Attempt) : Prop where
  daemon : s.daemon = d.lost epoch
  ret : s.ret = 0
  attempt : s.attempt = attempt
  round : s.round = i

/-- Behind the loop, with the time `lt`. -/
structure Left (d : IasLibPtpDaemon) (lt : Nat) (s : Attempt) : Prop where
  daemon : s.daemon = d
  ret : s.ret = lt
  lt : s.lt = lt
  ended : s.goesOn = false

theorem Waits.goesOn {i attempt : Nat} (h : Waits d i attempt s) : s.goesOn = true := by
  unfold Attempt.goesOn
  rw [h.ret, h.daemon]
  exact decide_eq_true rfl

theorem Lost.goesOn {i attempt epoch : Nat} (h : Lost d i attempt epoch s) : s.goesOn = true := by
  unfold Attempt.goesOn
  rw [h.ret, h.daemon]
  exact decide_eq_true rfl

/-- A reading behind the last one is an attempt of its own. -/
def counted (d : IasLibPtpDaemon) (lt attempt : Nat) : Nat :=
  if lt < d.mLastTime then attempt + 1 else attempt

theorem counted_le (d : IasLibPtpDaemon) (lt attempt : Nat) :
    attempt ≤ d.counted lt attempt ∧ d.counted lt attempt ≤ attempt + 1 := by
  unfold counted
  split <;> omega

section Rounds

variable (hopen : d.mClockId = true) {i attempt epoch : Nat}

include hopen

/-- Without a last time, any time will do. -/
theorem Lost.leaves (h : Lost d i attempt epoch s) (htime : d.timeOf readings i ≠ 0) :
    Left (d.lost epoch) (d.timeOf readings i) (s.body readings) := by
  obtain ⟨daemon, ret, lt, tsc1, a, r⟩ := s
  obtain ⟨rfl, rfl, rfl, rfl⟩ := h
  have hread : ((d.lost epoch).readClock (readings r)).1 = d.timeOf readings r :=
    congrArg Prod.fst (readClock_lost d epoch _)
  have hzero : (d.lost epoch).mLastTime = 0 := rfl
  simp only [Attempt.body, Attempt.read, Attempt.judge, Attempt.giveUp, Attempt.next, hread,
    show (d.lost epoch).mClockId = true from hopen, if_true, hzero, ne_eq, not_true, if_false,
    htime, false_and]
  refine ⟨rfl, rfl, rfl, ?_⟩
  exact decide_eq_false htime

/-- A round that reads nothing counts an epoch, from the third attempt on. -/
theorem Lost.stays (h : Lost d i attempt epoch s) (htime : d.timeOf readings i = 0)
    (hsmall : attempt < 100) :
    Lost d (i + 1) (attempt + 1) (if 3 ≤ attempt then add32 epoch 1 else epoch)
      (s.body readings) := by
  obtain ⟨daemon, ret, lt, tsc1, a, r⟩ := s
  obtain ⟨rfl, rfl, rfl, rfl⟩ := h
  have hread : ((d.lost epoch).readClock (readings r)).1 = 0 :=
    (congrArg Prod.fst (readClock_lost d epoch _)).trans htime
  have hzero : (d.lost epoch).mLastTime = 0 := rfl
  have hnext : add32 a 1 = a + 1 := add32_of_lt (by dsimp only at hsmall; omega)
  simp only [Attempt.body, Attempt.read, Attempt.judge, Attempt.giveUp, Attempt.next, hread,
    show (d.lost epoch).mClockId = true from hopen, if_true, hzero, ne_eq, not_true, if_false,
    true_and]
  split
  · exact ⟨rfl, rfl, hnext, rfl⟩
  · exact ⟨rfl, rfl, hnext, rfl⟩

/-- Where a round that reads nothing new has got to. -/
theorem Waits.judged (hd : d.mLastTime < 9223372036854775808) (hlast : d.mLastTime ≠ 0)
    (h : Waits d i attempt s) (hno : ¬ d.Decides (d.timeOf readings i) (d.tscOf readings i))
    (hsmall : attempt < 100) :
    ∃ lt tsc1, (s.read (readings s.round)).judge
      = ⟨d, d.mLastTime, lt, tsc1,
          d.counted (d.timeOf readings i) attempt, i⟩ := by
  obtain ⟨daemon, ret, lt, tsc1, a, r⟩ := s
  obtain ⟨hdaemon, hret, hattempt, hround⟩ := h
  dsimp only at hdaemon hret hattempt hround
  subst hdaemon hret hattempt hround
  have htime : (daemon.readClock (readings r)).1 = daemon.timeOf readings r := rfl
  have hneg := delta_neg_iff hd (daemon.readClock_lt (readings r)).1
  have hnext : add32 a 1 = a + 1 := add32_of_lt (by omega)
  refine ⟨daemon.timeOf readings r, daemon.tscOf readings r, ?_⟩
  unfold Attempt.read
  rw [if_pos hopen]
  unfold Attempt.judge
  dsimp only
  rw [if_pos hlast]
  unfold counted
  by_cases hbehind : daemon.timeOf readings r < daemon.mLastTime
  · rw [if_pos (hneg.mpr hbehind), if_pos hbehind, hnext]
    rfl
  · -- not behind, and no new epoch: the same time once more
    have hsame : daemon.mLastTime = daemon.timeOf readings r := by
      have hahead : ¬ daemon.mLastTime < daemon.timeOf readings r := fun hlt => hno (Or.inl hlt)
      omega
    have hepoch : ¬ daemon.EpochChange (daemon.readClock (readings r)).1
        (daemon.readClock (readings r)).2 := fun hyes => hno (Or.inr ⟨hsame, hyes⟩)
    rw [if_neg (fun hlt => hbehind (hneg.mp hlt)), if_neg hepoch, if_neg hbehind, hsame]
    rfl

/-- The loop tries once more. -/
theorem Waits.stays (hd : d.mLastTime < 9223372036854775808) (hlast : d.mLastTime ≠ 0)
    (h : Waits d i attempt s) (hno : ¬ d.Decides (d.timeOf readings i) (d.tscOf readings i))
    (hsmall : d.counted (d.timeOf readings i) attempt < 3) :
    Waits d (i + 1) (d.counted (d.timeOf readings i) attempt + 1) (s.body readings) := by
  have hle := d.counted_le (d.timeOf readings i) attempt
  obtain ⟨lt, tsc1, hjudged⟩ := h.judged hopen hd hlast hno (by omega)
  unfold Attempt.body Attempt.giveUp
  rw [hjudged, if_neg (fun hlate => absurd hlate.2 (Nat.not_le.mpr hsmall))]
  exact ⟨rfl, rfl, add32_of_lt (by dsimp only; omega), rfl⟩

/-- The loop gives up. -/
theorem Waits.gaveUp (hd : d.mLastTime < 9223372036854775808) (hlast : d.mLastTime ≠ 0)
    (h : Waits d i attempt s) (hno : ¬ d.Decides (d.timeOf readings i) (d.tscOf readings i))
    (hless : attempt < 100)
    (hlate : 3 ≤ d.counted (d.timeOf readings i) attempt) :
    Lost d (i + 1) (d.counted (d.timeOf readings i) attempt + 1) (add32 d.mEpochCounter 1)
      (s.body readings) := by
  have hle := d.counted_le (d.timeOf readings i) attempt
  obtain ⟨lt, tsc1, hjudged⟩ := h.judged hopen hd hlast hno hless
  unfold Attempt.body Attempt.giveUp
  rw [hjudged, if_pos ⟨rfl, hlate⟩]
  exact ⟨rfl, rfl, add32_of_lt (by dsimp only; omega), rfl⟩

/-- A time to go on with ends the loop; out of phase, it begins an epoch. -/
theorem Waits.leaves (hd : d.mLastTime < 9223372036854775808) (hlast : d.mLastTime ≠ 0)
    (h : Waits d i attempt s) (hyes : d.Decides (d.timeOf readings i) (d.tscOf readings i)) :
    Left (if d.EpochChange (d.timeOf readings i) (d.tscOf readings i) then d.beginEpoch else d)
      (d.timeOf readings i) (s.body readings) := by
  obtain ⟨daemon, ret, lt, tsc1, a, r⟩ := s
  obtain ⟨hdaemon, hret, hattempt, hround⟩ := h
  dsimp only at hdaemon hret hattempt hround
  subst hdaemon hret hattempt hround
  have hle : daemon.mLastTime ≤ daemon.timeOf readings r := by
    rcases hyes with hlt | ⟨heq, -⟩
    · exact hlt.le
    · exact heq.le
  have hneg : ¬ daemon.delta (daemon.timeOf readings r) < 0 := fun hlt =>
    absurd ((delta_neg_iff hd (daemon.readClock_lt (readings r)).1).mp hlt) (Nat.not_lt.mpr hle)
  unfold Attempt.body Attempt.read
  rw [if_pos hopen]
  unfold Attempt.judge
  dsimp only
  rw [if_pos hlast]
  change Left _ _ (Attempt.next (Attempt.giveUp (if daemon.delta (daemon.timeOf readings r) < 0
    then _ else if daemon.EpochChange (daemon.timeOf readings r) (daemon.tscOf readings r) then _
    else _)))
  rw [if_neg hneg]
  by_cases hepoch : daemon.EpochChange (daemon.timeOf readings r) (daemon.tscOf readings r)
  · -- a new epoch: the last time is gone, and the time is not zero
    have hne : daemon.timeOf readings r ≠ 0 := by omega
    rw [if_pos hepoch, if_pos hepoch]
    unfold Attempt.giveUp
    rw [if_neg (fun hlate => hne hlate.1)]
    exact ⟨rfl, rfl, rfl, decide_eq_false hne⟩
  · have hne : daemon.timeOf readings r ≠ daemon.mLastTime := by
      rcases hyes with hlt | ⟨-, hchange⟩
      · omega
      · exact absurd hchange hepoch
    rw [if_neg hepoch, if_neg hepoch]
    unfold Attempt.giveUp
    rw [if_neg (fun hlate => hne hlate.1)]
    exact ⟨rfl, rfl, rfl, decide_eq_false hne⟩

end Rounds

/-! ## One call -/

theorem waits_first (d : IasLibPtpDaemon) : Waits d 0 1 d.firstAttempt :=
  ⟨rfl, rfl, rfl, rfl⟩

theorem lost_first (hlast : d.mLastTime = 0) : Lost d 0 1 d.mEpochCounter d.firstAttempt := by
  refine ⟨?_, hlast, rfl, rfl⟩
  show d = d.lost d.mEpochCounter
  unfold lost
  rw [← hlast]

/-- The loop as a function of the rounds that are left. -/
def run (readings : Nat → Readings) (rounds : Nat) (s : Attempt) : Option Attempt :=
  While.loop Attempt.goesOn (Attempt.body readings) rounds s

theorem run_goes {n : Nat} (h : s.goesOn = true) :
    run readings (n + 1) s = run readings n (s.body readings) := by
  unfold run
  rw [While.loop, if_pos h]

theorem run_over {n : Nat} (h : s.goesOn = false) : run readings (n + 1) s = some s := by
  unfold run
  rw [While.loop, if_neg (by rw [h]; exact Bool.false_ne_true)]

/-- A round that ends the loop. -/
theorem run_left {n lt : Nat} {d' : IasLibPtpDaemon} (hgoes : s.goesOn = true)
    (hleft : Left d' lt (s.body readings)) :
    run readings (n + 2) s = some (s.body readings) := by
  rw [run_goes hgoes, run_over hleft.ended]

section Call

variable (hopen : d.mClockId = true) {i attempt epoch : Nat}

include hopen

/-- Rounds that read nothing, without a last time. -/
theorem Lost.idles (k m : Nat)
    (h : Lost d i attempt (add32 epoch m) s) (hzero : ∀ j, j < k → d.timeOf readings (i + j) = 0)
    (hsmall : attempt + k < 100) :
    ∃ s', Lost d (i + k) (attempt + k) (add32 epoch (m + (attempt + k - 3 - (attempt - 3)))) s'
      ∧ ∀ n, run readings (n + k) s = run readings n s' := by
  induction k generalizing s i attempt m with
  | zero =>
      have hnone : m + (attempt + 0 - 3 - (attempt - 3)) = m := by omega
      rw [hnone]
      exact ⟨s, h, fun _ => rfl⟩
  | succ k ih =>
      have hstays := h.stays hopen (hzero 0 (Nat.succ_pos k)) (by omega)
      have hcount : (if 3 ≤ attempt then add32 (add32 epoch m) 1 else add32 epoch m)
          = add32 epoch (m + (attempt + 1 - 3 - (attempt - 3))) := by
        unfold add32
        split <;> omega
      rw [hcount] at hstays
      obtain ⟨s', hlost, hrun⟩ := ih _ hstays
        (fun j hj => by
          have hnext := hzero (j + 1) (by omega)
          rwa [show i + 1 + j = i + (j + 1) by omega])
        (by omega)
      refine ⟨s', ?_, fun n => ?_⟩
      · rwa [show i + 1 + k = i + (k + 1) by omega,
          show attempt + 1 + k = attempt + (k + 1) by omega,
          show m + (attempt + 1 - 3 - (attempt - 3)) + (attempt + (k + 1) - 3 - (attempt + 1 - 3))
            = m + (attempt + (k + 1) - 3 - (attempt - 3)) by omega] at hlost
      · rw [show n + (k + 1) = n + k + 1 by omega, run_goes h.goesOn]
        exact hrun n

/-- Two or three rounds with a last time: one of them is enough, or it is given up. -/
theorem run_waits (readings : Nat → Readings) (hd : d.mLastTime < 9223372036854775808)
    (hlast : d.mLastTime ≠ 0) :
    (∃ k, k < d.tries readings ∧ d.Decides (d.timeOf readings k) (d.tscOf readings k)
        ∧ ∃ s, (∀ n, run readings (n + k + 2) d.firstAttempt = some s)
          ∧ Left (if d.EpochChange (d.timeOf readings k) (d.tscOf readings k) then d.beginEpoch
            else d) (d.timeOf readings k) s)
      ∨ ((∀ k, k < d.tries readings →
            ¬ d.Decides (d.timeOf readings k) (d.tscOf readings k))
        ∧ ∃ s a, 3 ≤ a ∧ a < 10
          ∧ Lost d (d.tries readings) a (add32 d.mEpochCounter 1) s
          ∧ ∀ n, run readings (n + d.tries readings) d.firstAttempt = run readings n s) := by
  have hfirst := waits_first d
  by_cases hyes₀ : d.Decides (d.timeOf readings 0) (d.tscOf readings 0)
  · have hleft := hfirst.leaves hopen hd hlast hyes₀
    refine Or.inl ⟨0, ?_, hyes₀, _, fun n => run_left hfirst.goesOn hleft, hleft⟩
    unfold tries
    split <;> omega
  by_cases hbehind₀ : d.timeOf readings 0 < d.mLastTime
  · -- the first reading is behind: there is one more attempt
    have htries : d.tries readings = 2 := if_pos (Or.inl hbehind₀)
    have hcount₀ : d.counted (d.timeOf readings 0) 1 = 2 := if_pos hbehind₀
    have hsecond : Waits d 1 3 (d.firstAttempt.body readings) := by
      have h := hfirst.stays hopen hd hlast hyes₀ (by rw [hcount₀]; decide)
      rwa [hcount₀] at h
    by_cases hyes₁ : d.Decides (d.timeOf readings 1) (d.tscOf readings 1)
    · have hleft := hsecond.leaves hopen hd hlast hyes₁
      refine Or.inl ⟨1, by rw [htries]; decide, hyes₁, _, fun n => ?_, hleft⟩
      rw [show n + 1 + 2 = n + 2 + 1 by omega, run_goes hfirst.goesOn]
      exact run_left hsecond.goesOn hleft
    · have hcount₁ := d.counted_le (d.timeOf readings 1) 3
      have hlost := hsecond.gaveUp hopen hd hlast hyes₁ (by decide) hcount₁.1
      rw [htries]
      refine Or.inr ⟨?_, _, _, by omega, by omega, hlost, fun n => ?_⟩
      · intro k hk
        interval_cases k
        · exact hyes₀
        · exact hyes₁
      · rw [run_goes hfirst.goesOn, run_goes hsecond.goesOn]
  · have hcount₀ : d.counted (d.timeOf readings 0) 1 = 1 := if_neg hbehind₀
    have hsecond := hfirst.stays hopen hd hlast hyes₀ (by rw [hcount₀]; decide)
    rw [hcount₀] at hsecond
    by_cases hyes₁ : d.Decides (d.timeOf readings 1) (d.tscOf readings 1)
    · have hleft := hsecond.leaves hopen hd hlast hyes₁
      refine Or.inl ⟨1, by unfold tries; split <;> omega, hyes₁, _, fun n => ?_, hleft⟩
      rw [show n + 1 + 2 = n + 2 + 1 by omega, run_goes hfirst.goesOn]
      exact run_left hsecond.goesOn hleft
    by_cases hbehind₁ : d.timeOf readings 1 < d.mLastTime
    · have htries : d.tries readings = 2 := if_pos (Or.inr hbehind₁)
      have hcount₁ : d.counted (d.timeOf readings 1) 2 = 3 := if_pos hbehind₁
      have hlost := hsecond.gaveUp hopen hd hlast hyes₁ (by decide) (by rw [hcount₁])
      rw [hcount₁] at hlost
      rw [htries]
      refine Or.inr ⟨?_, _, _, by omega, by omega, hlost, fun n => ?_⟩
      · intro k hk
        interval_cases k
        · exact hyes₀
        · exact hyes₁
      · rw [run_goes hfirst.goesOn, run_goes hsecond.goesOn]
    · -- the same time twice: a third attempt
      have htries : d.tries readings = 3 := if_neg (by
        rintro (h | h)
        · exact hbehind₀ h
        · exact hbehind₁ h)
      have hcount₁ : d.counted (d.timeOf readings 1) 2 = 2 := if_neg hbehind₁
      have hthird : Waits d 2 3 ((d.firstAttempt.body readings).body readings) := by
        have h := hsecond.stays hopen hd hlast hyes₁ (by rw [hcount₁]; decide)
        rwa [hcount₁] at h
      by_cases hyes₂ : d.Decides (d.timeOf readings 2) (d.tscOf readings 2)
      · have hleft := hthird.leaves hopen hd hlast hyes₂
        refine Or.inl ⟨2, by rw [htries]; decide, hyes₂, _, fun n => ?_, hleft⟩
        rw [show n + 2 + 2 = n + 2 + 1 + 1 by omega, run_goes hfirst.goesOn,
          run_goes hsecond.goesOn]
        exact run_left hthird.goesOn hleft
      · have hcount₂ := d.counted_le (d.timeOf readings 2) 3
        have hlost := hthird.gaveUp hopen hd hlast hyes₂ (by decide) hcount₂.1
        rw [htries]
        refine Or.inr ⟨?_, _, _, by omega, by omega, hlost, fun n => ?_⟩
        · intro k hk
          interval_cases k
          · exact hyes₀
          · exact hyes₁
          · exact hyes₂
        · rw [run_goes hfirst.goesOn, run_goes hsecond.goesOn, run_goes hthird.goesOn]

/-- Whatever a loop that has given up ends with, it has counted all its epochs. -/
theorem Lost.counts {n m : Nat} {s' : Attempt} (h : Lost d i attempt (add32 epoch m) s)
    (hlate : 3 ≤ attempt) (hsmall : attempt + n < 100) (hrun : run readings n s = some s') :
    ∃ m' lt, m' ≤ n ∧ Left (d.lost (add32 epoch (m + m'))) lt s' := by
  induction n generalizing s i attempt m with
  | zero => exact nomatch hrun
  | succ n ih =>
      rw [run_goes h.goesOn] at hrun
      by_cases htime : d.timeOf readings i = 0
      · have hstays := h.stays hopen htime (by omega)
        rw [if_pos hlate, show add32 (add32 epoch m) 1 = add32 epoch (m + 1) by
          unfold add32; omega] at hstays
        obtain ⟨m', lt, hle, hleft⟩ := ih hstays (by omega) (by omega) hrun
        exact ⟨m' + 1, lt, by omega, by rwa [show m + (m' + 1) = m + 1 + m' by omega]⟩
      · have hleft := h.leaves hopen htime
        cases n with
        | zero => exact nomatch hrun
        | succ n =>
            rw [run_over hleft.ended] at hrun
            obtain rfl := Option.some.inj hrun
            exact ⟨0, _, Nat.zero_le _, hleft⟩

end Call

end IasLibPtpDaemon

end AvbStreamHandler
