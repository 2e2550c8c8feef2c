import AvbStreamHandler.Kit.Run
import AvbStreamHandler.Kit.Word
import AvbStreamHandler.Clock.AvbClockDomain
import Mathlib.Tactic.Linarith

/-!
# The PTP clock domain

`IasAvbPtpClockDomain` pretends to be a 48 kHz clock that is in step with PTP time. It keeps no
thread: whoever asks for the event count makes it look at the time, round it down to whole
granules of 125 µs and count six events for each granule since the first time it was asked.

So a reading is on the line through the start, it is behind the time by no more than a granule,
and no error adds up, whenever it is asked; but a time that falls below the start, after a step
of the grandmaster, gives a difference that wraps round, and the count is off for good.
-/

namespace AvbStreamHandler

open Kit Kit.Run Kit.Word

/-- In nanoseconds, six periods of 48 kHz. -/
def cGranularity : Nat := 125000

/-- The events of a 48 kHz clock between two times; the difference is unsigned. -/
def eventsBetween (startTime lastUpdate : Nat) : Nat := sub64 lastUpdate startTime / 62500 * 3

structure IasAvbPtpClockDomain where
  clockDomain : AvbClockDomain
  mEventRate : Nat
  mEventCount : Nat := 0
  mEventTimeStamp : Nat := 0
  mStartTime : Nat := 0
  mLastUpdate : Nat := 0

namespace IasAvbPtpClockDomain

/-- The constructor. -/
def construct : IasAvbPtpClockDomain where
  clockDomain := [ClockDomainCall.setInitialValue 1, .setLockThreshold1 100000,
    .setLockThreshold2 100000, .updateRateRatio 1, .updateRateRatio 1].foldl AvbClockDomain.step {}
  mEventRate := 48000

def setEventCount (d : IasAvbPtpClockDomain) (newValue timestamp : Nat) : IasAvbPtpClockDomain :=
  { d with mEventCount := newValue, mEventTimeStamp := timestamp }

/-- `onGetEventCount`, with what `getPtpTime` returns, if there is a PTP proxy. -/
def onGetEventCount (d : IasAvbPtpClockDomain) : Option Nat → IasAvbPtpClockDomain
  | none => d
  | some now =>
      let d := if d.mStartTime = 0 then { d with mStartTime := now - now % cGranularity } else d
      if cGranularity < sub64 now d.mLastUpdate then
        let lastUpdate := now - now % cGranularity
        { d.setEventCount (eventsBetween d.mStartTime lastUpdate) lastUpdate with
          mLastUpdate := lastUpdate }
      else d

/-- The assertion at the end of the constructor, and the rate ratio it leaves for good. -/
theorem construct_locked :
    construct.clockDomain.mLockState = .eIasAvbLockStateLocked ∧
      construct.clockDomain.mRateRatio = 1 := by
  constructor <;> decide +kernel

/-! ## Runs -/

/-- The domain and the time it looked at last. -/
structure PtpClock where
  domain : IasAvbPtpClockDomain := construct
  now : Nat := 0

def PtpClock.step (w : PtpClock) (ptpTime : Option Nat) : PtpClock where
  domain := w.domain.onGetEventCount ptpTime
  now := ptpTime.getD w.now

/-- **The reading is on the line** of a 48 kHz clock that started at `mStartTime`. -/
def OnLine (d : IasAvbPtpClockDomain) : Prop :=
  d.mEventTimeStamp = 0 ∨
    3 * ((d.mEventTimeStamp : Int) - d.mStartTime) = 62500 * d.mEventCount

/-- A reading is what it should be: on the line, at a whole granule, and behind the time by no
more than one. -/
structure PtpClock.Steady (w : PtpClock) : Prop where
  line : w.domain.OnLine
  granule : cGranularity ∣ w.domain.mEventTimeStamp
  lag : sub64 w.now w.domain.mEventTimeStamp ≤ cGranularity

/-- The time does not fall below the start, if it is looked at to count; in the first granule of
all it does no harm. -/
def PtpClock.NotBefore (w : PtpClock) : Option Nat → Prop
  | none => True
  | some now =>
      w.domain.mStartTime ≠ 0 → cGranularity < sub64 now w.domain.mLastUpdate →
        w.domain.mStartTime ≤ now ∨ now < cGranularity

structure PtpClock.Inv (w : PtpClock) : Prop where
  steady : w.Steady
  last : w.domain.mLastUpdate = w.domain.mEventTimeStamp
  start : cGranularity ∣ w.domain.mStartTime
  /-- As long as there was no reading the start may be undecided. -/
  started : w.domain.mStartTime = 0 → w.domain.mEventTimeStamp = 0
  range : w.domain.mStartTime < 18446744073709551616 ∧ w.domain.mEventTimeStamp < 18446744073709551616

variable {w : PtpClock}

theorem granule_dvd (now : Nat) : cGranularity ∣ now - now % cGranularity :=
  Nat.dvd_sub_mod now

/-- Six events for each granule. -/
theorem events_on_line {startTime lastUpdate : Nat} (hstart : cGranularity ∣ startTime)
    (hupdate : cGranularity ∣ lastUpdate) (hle : startTime ≤ lastUpdate)
    (hrange : lastUpdate < 18446744073709551616) :
    3 * ((lastUpdate : Int) - startTime) = 62500 * eventsBetween startTime lastUpdate := by
  obtain ⟨a, rfl⟩ := hstart
  obtain ⟨b, rfl⟩ := hupdate
  unfold eventsBetween sub64 cGranularity at *
  omega

theorem inv_init : PtpClock.Inv {} where
  steady := ⟨.inl rfl, ⟨0, rfl⟩, by decide⟩
  last := rfl
  start := ⟨0, rfl⟩
  started _ := rfl
  range := ⟨by decide, by decide⟩

/-- The start, once the time `now` is looked at. -/
def startAt (d : IasAvbPtpClockDomain) (now : Nat) : Nat :=
  if d.mStartTime = 0 then now - now % cGranularity else d.mStartTime

/-- **What a look at the time does.** -/
theorem onGetEventCount_some (d : IasAvbPtpClockDomain) (now : Nat) :
    d.onGetEventCount (some now) =
      if cGranularity < sub64 now d.mLastUpdate then
        { d with
          mStartTime := d.startAt now
          mEventCount := eventsBetween (d.startAt now) (now - now % cGranularity)
          mEventTimeStamp := now - now % cGranularity
          mLastUpdate := now - now % cGranularity }
      else { d with mStartTime := d.startAt now } := by
  unfold onGetEventCount startAt
  dsimp only
  split <;> rfl

theorem startAt_dvd (h : w.Inv) (now : Nat) : cGranularity ∣ w.domain.startAt now := by
  unfold startAt
  split
  · exact granule_dvd now
  · exact h.start

/-- A look that counts: the reading is good exactly if the time is not before the start. -/
theorem onLine_count_iff (h : w.Inv) {now : Nat} (hrange : now < 18446744073709551616)
    (hcount : cGranularity < sub64 now w.domain.mLastUpdate) :
    (w.domain.onGetEventCount (some now)).OnLine ↔ w.NotBefore (some now) := by
  have hdvd := startAt_dvd h now
  have hfloor := granule_dvd now
  have hstart := h.range.1
  rw [onGetEventCount_some, if_pos hcount]
  unfold OnLine
  dsimp only
  constructor
  · rintro (hzero | hline) hne -
    · exact .inr (by unfold cGranularity at *; omega)
    · rw [startAt, if_neg hne] at hline hdvd
      refine .inl ?_
      by_contra hbefore
      unfold eventsBetween sub64 at hline
      omega
  · intro hok
    by_cases hle : w.domain.startAt now ≤ now - now % cGranularity
    · exact .inr (events_on_line hdvd hfloor hle (by omega))
    · unfold startAt at hle hdvd
      split at hle
      · exact absurd le_rfl hle
      · rename_i hne
        rw [if_neg hne] at hdvd
        rcases hok hne hcount with hnot | hfirst
        · -- the start is at a whole granule
          obtain ⟨a, ha⟩ := hdvd
          unfold cGranularity at *
          omega
        · exact .inl (by unfold cGranularity at *; omega)

theorem inv_step (h : w.Inv) {ptpTime : Option Nat}
    (hrange : ∀ now ∈ ptpTime, now < 18446744073709551616) (hok : w.NotBefore ptpTime) :
    (w.step ptpTime).Inv := by
  cases ptpTime with
  | none => exact h
  | some now =>
      have hnow := hrange now rfl
      have hdvd := startAt_dvd h now
      have hfloor := granule_dvd now
      have hstart : w.domain.startAt now < 18446744073709551616 := by
        unfold startAt
        have := h.range.1
        split <;> omega
      have hunset : w.domain.startAt now = 0 → w.domain.mStartTime = 0 ∧ now < cGranularity := by
        unfold startAt
        split
        · unfold cGranularity
          omega
        · intro hzero
          contradiction
      by_cases hcount : cGranularity < sub64 now w.domain.mLastUpdate
      · have hline := (onLine_count_iff h hnow hcount).mpr hok
        unfold PtpClock.step
        rw [onGetEventCount_some, if_pos hcount] at hline ⊢
        refine ⟨⟨hline, hfloor, ?_⟩, rfl, hdvd, ?_, hstart, ?_⟩
        · show sub64 now (now - now % cGranularity) ≤ cGranularity
          unfold sub64 cGranularity
          omega
        · intro hzero
          have := (hunset hzero).2
          show now - now % cGranularity = 0
          rw [Nat.mod_eq_of_lt this, Nat.sub_self]
        · show now - now % cGranularity < 18446744073709551616
          omega
      · unfold PtpClock.step
        rw [onGetEventCount_some, if_neg hcount]
        have hlast := h.last
        refine ⟨⟨?_, h.steady.granule, ?_⟩, h.last, hdvd, ?_, hstart, h.range.2⟩
        · by_cases hzero : w.domain.mStartTime = 0
          · exact .inl (h.started hzero)
          · have hsame : w.domain.startAt now = w.domain.mStartTime := if_neg hzero
            unfold OnLine
            dsimp only
            rw [hsame]
            exact h.steady.line
        · rw [← hlast]
          exact Nat.le_of_not_lt hcount
        · exact fun hzero => h.started (hunset hzero).1

theorem not_steady_of_before (h : w.Inv) {ptpTime : Option Nat}
    (hrange : ∀ now ∈ ptpTime, now < 18446744073709551616) (hok : ¬ w.NotBefore ptpTime) :
    ¬ (w.step ptpTime).Steady := by
  cases ptpTime with
  | none => exact absurd trivial hok
  | some now =>
      intro hsteady
      have hcount : cGranularity < sub64 now w.domain.mLastUpdate := by
        by_contra hnot
        exact hok fun _ hcount => absurd hcount hnot
      exact hok ((onLine_count_iff h (hrange now rfl) hcount).mp hsteady.line)

/-- The PTP time is a 64-bit number. -/
def Reads64 (_ : PtpClock) (ptpTime : Option Nat) : Prop :=
  ∀ now ∈ ptpTime, now < 18446744073709551616

/-- **The clock is steady exactly as long as the time does not fall below the start.** -/
theorem steady_iff (ptpTimes : List (Option Nat))
    (hrange : ∀ t ∈ ptpTimes, ∀ now ∈ t, now < 18446744073709551616) :
    (∀ pre, pre <+: ptpTimes → (exec PtpClock.step {} pre).Steady) ↔
      Always PtpClock.step PtpClock.NotBefore {} ptpTimes := by
  have hrun : Always PtpClock.step Reads64 {} ptpTimes := by
    have hfree : Always PtpClock.step (fun _ _ => True) {} ptpTimes :=
      always_of_forall (fun _ _ => trivial) _ ptpTimes
    exact always_imp (fun _ _ (_ : True) h => h.2) (fun _ _ _ _ => trivial) trivial
      (always_and_mem hfree hrange)
  exact good_iff_always_of_promised (fun _ h => h.steady)
    (fun _ _ h hrange hok => inv_step h hrange hok)
    (fun _ _ h hrange hok => not_steady_of_before h hrange hok) inv_init hrun

instance (w : PtpClock) : (ptpTime : Option Nat) → Decidable (w.NotBefore ptpTime)
  | none => inferInstanceAs (Decidable True)
  | some _ => inferInstanceAs (Decidable (_ → _))

/-- The time may be set back a little, as long as it stays behind the start. -/
theorem steady_set_back :
    (exec PtpClock.step {} [some 1000000000, none, some 2000000000]).Steady ∧
      (exec PtpClock.step {}
        [some 1000000000, none, some 2000000000, some 1500000000]).Steady := by
  have hsteady :=
    (steady_iff [some 1000000000, none, some 2000000000, some 1500000000] (by decide)).mpr
      (by decide +kernel)
  exact ⟨hsteady _ ⟨[some 1500000000], rfl⟩, hsteady _ List.prefix_rfl⟩

end IasAvbPtpClockDomain

end AvbStreamHandler
