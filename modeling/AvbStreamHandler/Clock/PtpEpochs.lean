import AvbStreamHandler.Clock.PtpRounds

/-!
# The epochs of the PTP clock

When a call of `getRealLocalTime` comes to an end, gives a time and accounts for its epochs. A
round of its loop reads zero if neither the card nor the kernel gives a time. Once the last time
is given up, every such round counts a new epoch, and if the clock never comes back the loop
never ends, with the mutex held.

`accounted_of_clockReads` and `clockReads_of_accounted` are about one call,
`epochs_accounted_iff` is about runs.
-/

namespace AvbStreamHandler

open Kit Kit.Word Kit.Run

namespace IasLibPtpDaemon

/-! ## What a call is to do -/

variable {d : IasLibPtpDaemon} {readings : Nat → Readings} {s : Attempt}

/-- The clock is open and gives a time before the loop has given up twice. -/
def ClockReads (d : IasLibPtpDaemon) (readings : Nat → Readings) : Prop :=
  d.mClockId = true ∧
    if d.mLastTime = 0 then ∃ i, i < 4 ∧ d.timeOf readings i ≠ 0
    else (∃ i, i < d.tries readings ∧ d.Decides (d.timeOf readings i) (d.tscOf readings i))
      ∨ d.timeOf readings (d.tries readings) ≠ 0

/-- A call that ended well. -/
structure Accounted (d : IasLibPtpDaemon) (force : Bool) (readings : Nat → Readings) : Prop where
  /-- No other call is in its loop. -/
  free : d.mLastTimeMutex = false
  /-- It is over after four rounds, -/
  leaves : ∃ ret d', d.getRealLocalTime force readings 5 = some (ret, d')
    -- gives a time if there is one to be read,
    ∧ (d.mClockId = true → ret ≠ 0)
    -- counts one epoch at most,
    ∧ (d'.mEpochCounter = d.mEpochCounter ∨ d'.mEpochCounter = add32 d.mEpochCounter 1)
    -- and counts one if time does not go forward.
    ∧ (ret ≤ d.mLastTime → d'.mEpochCounter = add32 d.mEpochCounter 1)

/-! ## One call -/

/-- How a call that leaves the loop ends. -/
theorem realLocalTime_of_left (force : Bool) {rounds : Nat} {d' : IasLibPtpDaemon} {lt : Nat}
    (h : run readings rounds d.firstAttempt = some s) (hleft : Left d' lt s) :
    ∃ d'', d.getRealLocalTime force readings rounds = some (lt, d'')
      ∧ d''.mEpochCounter = d'.mEpochCounter := by
  refine ⟨s.updateCoeffs force, ?_, ?_⟩
  · unfold getRealLocalTime retry
    rw [show While.loop Attempt.goesOn (Attempt.body readings) rounds d.firstAttempt = some s from h,
      Option.map_some, hleft.ret]
  · rw [(updateCoeffs_frame s force).2, hleft.daemon]

/-- A call that comes to an end has left its loop. -/
theorem run_of_realLocalTime {force : Bool} {rounds ret : Nat} {d' : IasLibPtpDaemon}
    (h : d.getRealLocalTime force readings rounds = some (ret, d')) :
    ∃ s, run readings rounds d.firstAttempt = some s := by
  unfold getRealLocalTime retry at h
  obtain ⟨s, hs, -⟩ := Option.map_eq_some_iff.mp h
  exact ⟨s, hs⟩

/-- Without a clock and a last time the loop runs in place. -/
theorem run_closed (hclosed : s.daemon.mClockId = false) (hlast : s.daemon.mLastTime = 0)
    (hret : s.ret = 0) (hlt : s.lt = 0) (n : Nat) : run readings n s = none := by
  induction n generalizing s with
  | zero => rfl
  | succ n ih =>
      have hgoes : s.goesOn = true := decide_eq_true (hret.trans hlast.symm)
      have hread : s.read (readings s.round) = { s with ret := 0 } := by
        unfold Attempt.read
        rw [hclosed]
        rfl
      rw [run_goes hgoes]
      unfold Attempt.body
      rw [hread]
      unfold Attempt.judge
      dsimp only
      rw [if_neg (not_not.mpr hlast)]
      unfold Attempt.giveUp
      dsimp only
      split
      · exact ih hclosed rfl rfl hlt
      · exact ih hclosed hlast hlt hlt

/-- Without a clock, but with a last time, the call gives zero for a time. -/
theorem realLocalTime_closed (readings : Nat → Readings) (force : Bool) (n : Nat)
    (hclosed : d.mClockId = false)
    (hd : d.mLastTime < 9223372036854775808) (hlast : d.mLastTime ≠ 0) :
    ∃ d', d.getRealLocalTime force readings (n + 2) = some (0, d')
      ∧ d'.mEpochCounter = d.mEpochCounter := by
  have hneg : d.delta 0 < 0 := (delta_neg_iff hd (by decide)).mpr (by omega)
  have hread : d.firstAttempt.read (readings d.firstAttempt.round) = ⟨d, 0, 0, 0, 1, 0⟩ := by
    unfold Attempt.read
    rw [show d.firstAttempt.daemon.mClockId = false from hclosed]
    rfl
  have hleft : Left d 0 (d.firstAttempt.body readings) := by
    unfold Attempt.body Attempt.judge
    rw [hread]
    dsimp only
    rw [if_pos hlast, if_pos hneg]
    unfold Attempt.giveUp
    rw [if_neg (fun hlate => hlast hlate.1.symm)]
    exact ⟨rfl, rfl, rfl, decide_eq_false hlast.symm⟩
  exact realLocalTime_of_left force (run_left (waits_first d).goesOn hleft) hleft

/-- A call with an open clock that is left with a time. -/
theorem accounted_of_left {force : Bool} {lt : Nat} (epochs : Nat) (hfree : d.mLastTimeMutex = false)
    (hne : lt ≠ 0) {d' : IasLibPtpDaemon} (hrun : run readings 5 d.firstAttempt = some s)
    (hleft : Left d' lt s) (hepoch : d'.mEpochCounter = add32 d.mEpochCounter epochs)
    (hcount : d.mEpochCounter < 4294967296) (hle : epochs ≤ 1)
    (hforward : epochs = 0 → d.mLastTime < lt) : Accounted d force readings := by
  obtain ⟨d'', hcall, hsame⟩ := realLocalTime_of_left force hrun hleft
  refine ⟨hfree, lt, d'', hcall, fun _ => hne, ?_, fun hback => ?_⟩
  · rw [hsame, hepoch]
    rcases Nat.le_one_iff_eq_zero_or_eq_one.mp hle with rfl | rfl
    · exact Or.inl (add32_of_lt hcount)
    · exact Or.inr rfl
  · rcases Nat.le_one_iff_eq_zero_or_eq_one.mp hle with rfl | rfl
    · exact absurd (hforward rfl) (Nat.not_lt.mpr hback)
    · rw [hsame, hepoch]

theorem add32_zero {a : Nat} (h : a < 4294967296) : add32 a 0 = a := add32_of_lt h

theorem exists_first {p : Nat → Prop} [DecidablePred p] (h : ∃ i, p i) :
    ∃ k, p k ∧ ∀ j, j < k → ¬ p j :=
  ⟨Nat.find h, Nat.find_spec h, fun _ hj => Nat.find_min h hj⟩

theorem tries_le (d : IasLibPtpDaemon) (readings : Nat → Readings) :
    2 ≤ d.tries readings ∧ d.tries readings ≤ 3 := by
  unfold tries
  split <;> omega

section Exact

variable {force : Bool} (hfree : d.mLastTimeMutex = false)
  (hd : d.mLastTime < 9223372036854775808) (hcount : d.mEpochCounter < 4294967296)

include hd hcount

/-- A call that ended well had a clock. -/
theorem clockReads_of_accounted (h : Accounted d force readings) : d.ClockReads readings := by
  obtain ⟨-, ret, d', hcall, -, honce, hback⟩ := h
  obtain ⟨s, hrun⟩ := run_of_realLocalTime hcall
  by_cases hopen : d.mClockId = true
  · refine ⟨hopen, ?_⟩
    split
    · rename_i hlast
      by_contra hnone
      have hzero : ∀ j, j < 4 → d.timeOf readings (0 + j) = 0 := by
        intro j hj
        rw [Nat.zero_add]
        by_contra hne
        exact hnone ⟨j, hj, hne⟩
      have hlost := lost_first hlast
      rw [← add32_zero hcount] at hlost
      obtain ⟨s', hlost', hsame⟩ := Lost.idles hopen 4 0 hlost hzero (by decide)
      rw [show 5 = 1 + 4 from rfl, hsame 1, run_goes hlost'.goesOn] at hrun
      exact nomatch hrun
    · rename_i hlast
      rcases run_waits hopen readings hd hlast with
        ⟨k, hk, hyes, -⟩ | ⟨-, s₁, a, hlate, hsmall, hlost, hsame⟩
      · exact Or.inl ⟨k, hk, hyes⟩
      · refine Or.inr fun htime => ?_
        -- one more epoch, and the rest only adds to it
        have htries := d.tries_le readings
        have hstays := hlost.stays hopen htime (by omega)
        rw [if_pos hlate, show add32 (add32 d.mEpochCounter 1) 1 = add32 d.mEpochCounter 2 by
          unfold add32; omega] at hstays
        rw [show 5 = 4 - d.tries readings + 1 + d.tries readings by omega, hsame,
          run_goes hlost.goesOn] at hrun
        have hrun₅ : run readings 5 d.firstAttempt = some s := by
          rw [show 5 = 4 - d.tries readings + 1 + d.tries readings by omega, hsame,
            run_goes hlost.goesOn]
          exact hrun
        obtain ⟨m, lt, hm, hleft⟩ := hstays.counts hopen (by omega) (by omega) hrun
        obtain ⟨d'', hcall', hepoch⟩ := realLocalTime_of_left force hrun₅ hleft
        obtain ⟨-, rfl⟩ := Prod.mk.inj (Option.some.inj (hcall.symm.trans hcall'))
        change d'.mEpochCounter = add32 d.mEpochCounter (2 + m) at hepoch
        rw [hepoch] at honce
        unfold add32 at honce
        omega
  · have hclosed : d.mClockId = false := Bool.not_eq_true _ ▸ hopen
    by_cases hlast : d.mLastTime = 0
    · rw [run_closed (s := d.firstAttempt) hclosed hlast hlast rfl] at hrun
      exact nomatch hrun
    · obtain ⟨d'', hcall', hepoch⟩ :=
        realLocalTime_closed readings force 3 hclosed hd hlast
      obtain ⟨rfl, rfl⟩ := Prod.mk.inj (Option.some.inj (hcall.symm.trans hcall'))
      have hone := hback (Nat.zero_le _)
      rw [hepoch] at hone
      unfold add32 at hone
      omega

include hfree

/-- A call with a clock ends well. -/
theorem accounted_of_clockReads (h : d.ClockReads readings) : Accounted d force readings := by
  obtain ⟨hopen, hreads⟩ := h
  split at hreads
  · rename_i hlast
    -- no last time yet: the first reading that is not zero is taken
    have hex : ∃ i, d.timeOf readings i ≠ 0 := by
      obtain ⟨i, -, hi⟩ := hreads
      exact ⟨i, hi⟩
    obtain ⟨k, htime, hmin⟩ := exists_first hex
    have hk : k < 4 := by
      obtain ⟨i, hi, hne⟩ := hreads
      by_contra hge
      exact hmin i (by omega) hne
    have hlost := lost_first hlast
    rw [← add32_zero hcount] at hlost
    obtain ⟨s', hlost', hsame⟩ := Lost.idles hopen k 0 hlost
      (fun j hj => by rw [Nat.zero_add]; exact not_not.mp (hmin j hj)) (by omega)
    rw [Nat.zero_add] at hlost'
    have hleft := hlost'.leaves hopen htime
    have hrun : run readings 5 d.firstAttempt = some (s'.body readings) := by
      rw [show 5 = 3 - k + 2 + k by omega, hsame]
      exact run_left hlost'.goesOn hleft
    exact accounted_of_left _ hfree htime hrun hleft rfl hcount (by omega) fun _ => by omega
  · rename_i hlast
    -- with a last time: a reading decides, or all tries are lost and the next is taken
    have htries := d.tries_le readings
    rcases run_waits hopen readings hd hlast with
      ⟨k, hk, hyes, s, hrun, hleft⟩ | ⟨hno, s, a, -, -, hlost, hsame⟩
    · have hne : d.timeOf readings k ≠ 0 := by
        rcases hyes with hlt | ⟨heq, -⟩ <;> omega
      have hrun₅ := hrun (3 - k)
      rw [show 3 - k + k + 2 = 5 by omega] at hrun₅
      -- the decision is a new epoch, or that nothing has changed
      by_cases hchange : d.EpochChange (d.timeOf readings k) (d.tscOf readings k)
      · rw [if_pos hchange] at hleft
        exact accounted_of_left 1 hfree hne hrun₅ hleft rfl hcount (Nat.le_refl 1)
          fun h => absurd h Nat.one_ne_zero
      · rw [if_neg hchange] at hleft
        refine accounted_of_left 0 hfree hne hrun₅ hleft (add32_zero hcount).symm hcount
          (Nat.zero_le 1) fun _ => ?_
        rcases hyes with hlt | ⟨-, hepoch⟩
        · exact hlt
        · exact absurd hepoch hchange
    · have htime : d.timeOf readings (d.tries readings) ≠ 0 := by
        rcases hreads with ⟨k, hk, hyes⟩ | hne
        · exact absurd hyes (hno k hk)
        · exact hne
      have hleft := hlost.leaves hopen htime
      have hrun : run readings 5 d.firstAttempt = some (s.body readings) := by
        rw [show 5 = 3 - d.tries readings + 2 + d.tries readings by omega, hsame]
        exact run_left hlost.goesOn hleft
      exact accounted_of_left 1 hfree htime hrun hleft rfl hcount (Nat.le_refl 1)
        fun h => absurd h Nat.one_ne_zero

end Exact

/-! ## Runs -/

/-- The mutex is free, and all numbers fit. -/
structure Inv (d : IasLibPtpDaemon) : Prop where
  free : d.mLastTimeMutex = false
  fits : Fits d

/-- The call the event makes, if it does, ends well. -/
def GoodEvent (d : IasLibPtpDaemon) : Event → Prop
  | .init _ => True
  | .cleanUp => True
  | .getRealLocalTime force readings _ => Accounted d force readings
  | .getLocalTime now readings _ =>
      cUpdateThreshold < d.elapsed now → Accounted d false readings

/-- The call the event makes, if it does, finds a clock. -/
def ClockOk (d : IasLibPtpDaemon) : Event → Prop
  | .init _ => True
  | .cleanUp => True
  | .getRealLocalTime _ readings _ => d.ClockReads readings
  | .getLocalTime now readings _ => cUpdateThreshold < d.elapsed now → d.ClockReads readings

theorem goodEvent_iff (h : Inv d) (e : Event) : d.GoodEvent e ↔ d.ClockOk e := by
  have hiff : ∀ force readings, Accounted d force readings ↔ d.ClockReads readings :=
    fun _ _ => ⟨clockReads_of_accounted h.fits.lastTime h.fits.epoch,
      accounted_of_clockReads h.free h.fits.lastTime h.fits.epoch⟩
  cases e with
  | init env => exact Iff.rfl
  | cleanUp => exact Iff.rfl
  | getRealLocalTime force readings patience => exact hiff force readings
  | getLocalTime now readings patience => exact imp_congr_right fun _ => hiff false readings

/-- A call that ends well leaves the mutex to the next one. -/
theorem free_call {force : Bool} (hfree : d.mLastTimeMutex = false)
    (hgood : Accounted d force readings) (patience : Nat) :
    (d.call force readings patience).mLastTimeMutex = false := by
  obtain ⟨-, ret, d', hcall, -⟩ := hgood
  obtain ⟨s, hrun⟩ := run_of_realLocalTime hcall
  have hmore : d.retry readings (5 + patience) = some s :=
    While.loop_mono (Nat.le_add_right 5 patience) hrun
  unfold call getRealLocalTime
  rw [if_neg (by rw [hfree]; exact Bool.false_ne_true), hmore]
  exact (updateCoeffs_frame s force).1.trans ((retry_sameSetup hmore).mutex.trans hfree)

theorem inv_step (h : Inv d) {e : Event} (hgood : d.GoodEvent e) : Inv (d.step e) := by
  refine ⟨?_, fits_step h.fits e⟩
  cases e with
  | init env => exact (init_mutex d env).trans h.free
  | cleanUp => exact h.free
  | getRealLocalTime force readings patience => exact free_call h.free hgood patience
  | getLocalTime now readings patience =>
      unfold step
      dsimp only
      split
      · rename_i hdue
        exact free_call h.free (hgood hdue) patience
      · exact h.free

theorem inv_new : Inv {} := ⟨rfl, fits_new⟩

/--
**Reading the PTP clock ends, and accounts for its epochs, as long as there is a clock.**

In every run of a daemon, with any readings in every call: all calls are over after four
rounds of the loop, give a time, count one epoch at most and one whenever time does not go
forward, exactly if every call finds the clock open and does not give it up twice.
-/
theorem epochs_accounted_iff (es : List Event) :
    Always step GoodEvent {} es ↔ Always step ClockOk {} es :=
  always_congr (fun _ e h => goodEvent_iff h e) (fun _ _ h hgood => inv_step h hgood) inv_new

/-! ## A clock that cannot be read -/

/-- Without a last time, a loop that reads nothing goes on forever. -/
theorem run_blind {epoch : Nat} (hopen : d.mClockId = true) (hdaemon : s.daemon = d.lost epoch)
    (hret : s.ret = 0) (hblind : ∀ i, d.timeOf readings i = 0) (n : Nat) :
    run readings n s = none := by
  induction n generalizing s epoch with
  | zero => rfl
  | succ n ih =>
      obtain ⟨daemon, ret, lt, tsc1, a, r⟩ := s
      dsimp only at hdaemon hret
      subst hdaemon hret
      have hread : ((d.lost epoch).readClock (readings r)).1 = 0 :=
        (congrArg Prod.fst (readClock_lost d epoch _)).trans (hblind r)
      rw [run_goes (decide_eq_true rfl)]
      unfold Attempt.body Attempt.read
      rw [if_pos (show (d.lost epoch).mClockId = true from hopen)]
      unfold Attempt.judge
      dsimp only
      rw [if_neg (show ¬ (d.lost epoch).mLastTime ≠ 0 from not_not.mpr rfl)]
      unfold Attempt.giveUp
      split
      · exact ih rfl rfl
      · exact ih rfl hread

/-- The same with a last time, which is given up first. -/
theorem never_ends (hopen : d.mClockId = true) (hd : d.mLastTime < 9223372036854775808)
    (hblind : ∀ i, d.timeOf readings i = 0) (n : Nat) : run readings n d.firstAttempt = none := by
  by_cases hlast : d.mLastTime = 0
  · exact run_blind hopen (lost_first hlast).daemon (lost_first hlast).ret hblind n
  rcases run_waits hopen readings hd hlast with
    ⟨k, -, hyes, -⟩ | ⟨-, s, a, -, -, hlost, hsame⟩
  · unfold Decides at hyes
    rw [hblind] at hyes
    omega
  · cases hrun : run readings n d.firstAttempt with
    | none => rfl
    | some s' =>
        have hmore : run readings (n + d.tries readings) d.firstAttempt = some s' :=
          While.loop_mono (Nat.le_add_right _ _) hrun
        rw [hsame, run_blind hopen hlost.daemon hlost.ret hblind] at hmore
        exact nomatch hmore

/-- Neither the card nor the kernel answers. -/
def blind (_ : Nat) : Readings where
  samples := fun _ => ⟨false, ⟨0, 0, by decide⟩, ⟨0, 0, by decide⟩, 0, 0⟩
  tsc1 := ⟨2, 0, by decide⟩
  tsc2 := ⟨2, 0, by decide⟩
  gettime := none

/-- A daemon that was set up one second after the clock was started. -/
def sampleInit : Event := .init {
  opened := true
  mIgbDevice := true
  tsc := oneSecond
  gettime := some oneSecond }

/-- The clock is lost after the start. The loop gives up the last time and goes on, and neither
ends nor stops counting epochs. -/
theorem lost_clock_never_ends :
    ¬ Always step GoodEvent {} [sampleInit, .getRealLocalTime false blind 0]
      ∧ ∀ rounds, (step {} sampleInit).getRealLocalTime false blind rounds = none := by
  have hnever : ∀ n, run blind n (step {} sampleInit).firstAttempt = none :=
    never_ends rfl (by decide) fun _ => rfl
  constructor
  · rintro ⟨-, ⟨-, ret, d', hcall, -⟩, -⟩
    obtain ⟨s, hrun⟩ := run_of_realLocalTime hcall
    exact nomatch (hnever 5).symm.trans hrun
  · intro rounds
    unfold getRealLocalTime retry
    rw [show While.loop Attempt.goesOn (Attempt.body blind) rounds
      (step {} sampleInit).firstAttempt = none from hnever rounds]
    rfl

end IasLibPtpDaemon

end AvbStreamHandler
