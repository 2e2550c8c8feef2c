import AvbStreamHandler.Kit.Run
import AvbStreamHandler.Kit.Truncate
import AvbStreamHandler.Kit.While
import AvbStreamHandler.Kit.Word
import Mathlib.Algebra.Order.Field.Rat
import Mathlib.Data.Rat.Floor

/-!
# Access to the PTP clock

`IasLibPtpDaemon`: the time of the network card's clock and the conversion between that time
and the system time. `getRealLocalTime` reads the clock in a loop until it has a time it can
use, takes a time that does not fit the conversion for a new epoch, and brings the conversion
up to date.

A round of the loop reads up to `mMaxCrossTimestampSamples` pairs of the two times from the
registers of the card, or asks the kernel if the registers cannot be reached. What it finds is
part of the call: one `Readings` for every round. The loop runs with `mLastTimeMutex` held. A
call that is not through with its loop keeps the mutex, and no other call gets anywhere.

The factor is rational where the code has a `double`. The raw clock, which has a conversion of
its own, and the statistics for the log are left out.
-/

namespace AvbStreamHandler

open Kit Kit.Word Kit.Run

/-! ## What the system answers -/

/-- A time of `clock_gettime`. The kernel counts nanoseconds in 63 bits. -/
structure Timespec where
  tv_sec : Nat
  tv_nsec : Nat
  fits : tv_sec * 1000000000 + tv_nsec < 9223372036854775808

def oneSecond : Timespec := ⟨1, 0, by decide⟩

def convertTimespecToNs (tp : Timespec) : Nat := tp.tv_sec * 1000000000 + tp.tv_nsec

/-- One look at the registers, with the system time before and after. -/
structure IgbSample where
  /-- `igb_lock` has the device. -/
  locked : Bool
  sys1 : Timespec
  sys2 : Timespec
  stmph0Reg : UInt32
  stmpl0Reg : UInt32

/-- What a round of the loop reads. -/
structure Readings where
  samples : Nat → IgbSample
  /-- The system time before and after `clock_gettime`. -/
  tsc1 : Timespec
  tsc2 : Timespec
  /-- `clock_gettime`, if it does not fail. -/
  gettime : Option Timespec

/-- What `init` finds. -/
structure PtpEnvironment where
  /-- Shared memory and clock device could be opened. -/
  opened : Bool
  mIgbDevice : Bool
  /-- What the configuration says about the cross time stamps. -/
  loopCount : Option Nat := none
  threshold : Option Nat := none
  tsc : Timespec
  gettime : Option Timespec

structure IasLibPtpDaemon where
  mInitialized : Bool := false
  /-- `mClockId` is not -1. -/
  mClockId : Bool := false
  mIgbDevice : Bool := false
  mMaxCrossTimestampSamples : Nat := 3
  mSysTimeMeasurementThreshold : Nat := 3000
  mTscToLocalFactor : ℚ := 1
  mAvgCoeff : ℚ := 1
  mLastTime : Nat := 0
  mLastTsc : Nat := 0
  mEpochCounter : Nat := 0
  /-- A call is in its loop. -/
  mLastTimeMutex : Bool := false

namespace IasLibPtpDaemon

def cEpochChangeThreshold : Nat := 2000000

def cUpdateThreshold : Nat := 125000000

/-! ## Reading the clock -/

/-- The loop of `getIgbTime`, at sample `i`, with the smallest interval so far and the times of
that sample. -/
def getIgbTimeFrom (d : IasLibPtpDaemon) (samples : Nat → IgbSample) :
    Nat → Nat → Nat → Nat × Nat → Bool × Nat × Nat
  | 0, _, _, found => (true, found)
  | n + 1, i, intervalMin, found =>
      let sample := samples i
      if d.mIgbDevice = false ∨ sample.locked = false then (false, found)
      else
        let sys1 := convertTimespecToNs sample.sys1
        let sys2 := convertTimespecToNs sample.sys2
        let interval := sub64 sys2 sys1
        if interval < intervalMin then
          let ptpTime := sample.stmph0Reg.toNat * 1000000000 + sample.stmpl0Reg.toNat
          let found := (ptpTime, sys1 / 2 + sys2 / 2)
          if interval ≤ d.mSysTimeMeasurementThreshold then (true, found)
          else getIgbTimeFrom d samples n (i + 1) interval found
        else getIgbTimeFrom d samples n (i + 1) intervalMin found

/-- `getIgbTime` for the system clock: if it succeeds, the PTP time and the system time. -/
def getIgbTime (d : IasLibPtpDaemon) (samples : Nat → IgbSample) : Bool × Nat × Nat :=
  d.getIgbTimeFrom samples d.mMaxCrossTimestampSamples 0 18446744073709551615 (0, 0)

/-- `lt` and `tsc1` of a round. If the kernel fails, too, the PTP time stays what `getIgbTime`
has left in it. -/
def readClock (d : IasLibPtpDaemon) (r : Readings) : Nat × Nat :=
  let igb := d.getIgbTime r.samples
  if igb.1 then igb.2
  else
    (match r.gettime with
      | none => igb.2.1
      | some tp => convertTimespecToNs tp,
    convertTimespecToNs r.tsc1 / 2 + convertTimespecToNs r.tsc2 / 2)

/-! ## The loop -/

/-- What the loop works on. -/
structure Attempt where
  daemon : IasLibPtpDaemon
  ret : Nat
  lt : Nat := 0
  tsc1 : Nat := 0
  attempt : Nat := 1
  /-- The next round. -/
  round : Nat := 0

def delta (d : IasLibPtpDaemon) (lt : Nat) : ℤ := toInt64 (sub64 lt d.mLastTime)

def deltaTsc (d : IasLibPtpDaemon) (tsc1 : Nat) : ℤ := toInt64 (sub64 tsc1 d.mLastTsc)

def phaseError (d : IasLibPtpDaemon) (lt tsc1 : Nat) : ℤ :=
  d.delta lt - truncate ((d.deltaTsc tsc1 : ℚ) * d.mTscToLocalFactor)

/-- The phase error says that there is a new epoch. -/
def EpochChange (d : IasLibPtpDaemon) (lt tsc1 : Nat) : Prop :=
  (d.mAvgCoeff ≤ 1 / 10 ∧ cEpochChangeThreshold < (d.phaseError lt tsc1).natAbs)
    ∨ cEpochChangeThreshold * 10 < (d.phaseError lt tsc1).natAbs

instance (d : IasLibPtpDaemon) (lt tsc1 : Nat) : Decidable (d.EpochChange lt tsc1) :=
  inferInstanceAs (Decidable (_ ∨ _))

def beginEpoch (d : IasLibPtpDaemon) : IasLibPtpDaemon :=
  { d with mEpochCounter := add32 d.mEpochCounter 1, mLastTime := 0 }

/-- The head of the body. Without a clock there is nothing to read. -/
def Attempt.read (s : Attempt) (r : Readings) : Attempt :=
  if s.daemon.mClockId then
    { s with lt := (s.daemon.readClock r).1, tsc1 := (s.daemon.readClock r).2 }
  else { s with ret := 0 }

/-- The reading against the last one. -/
def Attempt.judge (s : Attempt) : Attempt :=
  if s.daemon.mLastTime ≠ 0 then
    if s.daemon.delta s.lt < 0 then { s with attempt := add32 s.attempt 1 }
    else if s.daemon.EpochChange s.lt s.tsc1 then
      { s with daemon := s.daemon.beginEpoch, ret := s.lt }
    else { s with ret := s.lt }
  else { s with ret := s.lt }

/-- After three attempts a new epoch is assumed. -/
def Attempt.giveUp (s : Attempt) : Attempt :=
  if s.ret = s.daemon.mLastTime ∧ 3 ≤ s.attempt then
    { s with daemon := s.daemon.beginEpoch, ret := 0 }
  else s

/-- The end of the round. -/
def Attempt.next (s : Attempt) : Attempt :=
  { s with attempt := add32 s.attempt 1, round := s.round + 1 }

def Attempt.body (readings : Nat → Readings) (s : Attempt) : Attempt :=
  ((s.read (readings s.round)).judge.giveUp).next

/-- There is no time yet. -/
def Attempt.goesOn (s : Attempt) : Bool := decide (s.ret = s.daemon.mLastTime)

def firstAttempt (d : IasLibPtpDaemon) : Attempt where
  daemon := d
  ret := d.mLastTime

/-- The loop, for less than `rounds` rounds. -/
def retry (d : IasLibPtpDaemon) (readings : Nat → Readings) (rounds : Nat) : Option Attempt :=
  While.loop Attempt.goesOn (Attempt.body readings) rounds d.firstAttempt

/-! ## The conversion -/

/-- The smoothed factor. A factor that is out of range is not used. -/
def updateFactor (d : IasLibPtpDaemon) (newFactor : ℚ) : IasLibPtpDaemon :=
  if 1 / (1 + 1 / 2) ≤ newFactor ∧ newFactor ≤ 1 + 1 / 2 then
    { d with
      mTscToLocalFactor := d.mAvgCoeff * newFactor + (1 - d.mAvgCoeff) * d.mTscToLocalFactor
      mAvgCoeff := if 1 / 10 < d.mAvgCoeff then d.mAvgCoeff * (99 / 100) else d.mAvgCoeff }
  else d

/-- What is behind the loop. -/
def Attempt.updateCoeffs (s : Attempt) (force : Bool) : IasLibPtpDaemon :=
  let d := s.daemon
  if d.mLastTime = 0 then
    { d with mLastTime := s.ret, mLastTsc := s.tsc1, mAvgCoeff := 1, mTscToLocalFactor := 1 }
  else if force = true ∨ cUpdateThreshold < sub64 s.lt d.mLastTime then
    { d.updateFactor ((d.delta s.lt : ℚ) / (d.deltaTsc s.tsc1 : ℚ)) with
      mLastTime := s.ret
      mLastTsc := s.tsc1 }
  else d

/-- The time and the daemon after the call, if it is through with its loop. -/
def getRealLocalTime (d : IasLibPtpDaemon) (force : Bool) (readings : Nat → Readings)
    (rounds : Nat) : Option (Nat × IasLibPtpDaemon) :=
  (d.retry readings rounds).map fun s => (s.ret, s.updateCoeffs force)

/-- The time since the last reading, as `getLocalTime` extrapolates it. -/
def elapsed (d : IasLibPtpDaemon) (now : Timespec) : Nat :=
  ofInt64 (truncate ((d.deltaTsc (convertTimespecToNs now) : ℚ) * d.mTscToLocalFactor))

def sysToPtp (d : IasLibPtpDaemon) (sysTime : Nat) : Nat :=
  add64 (ofInt64 (truncate ((toInt64 (sub64 sysTime d.mLastTsc) : ℚ) * d.mTscToLocalFactor)))
    d.mLastTime

def ptpToSys (d : IasLibPtpDaemon) (ptpTime : Nat) : Nat :=
  let factor := if d.mTscToLocalFactor ≠ 0 then 1 / d.mTscToLocalFactor else 0
  add64 (ofInt64 (truncate ((toInt64 (sub64 ptpTime d.mLastTime) : ℚ) * factor))) d.mLastTsc

/-! ## Setting up -/

def cleanUp (d : IasLibPtpDaemon) : IasLibPtpDaemon :=
  { d with mClockId := false, mInitialized := false }

/-- `calculateConversionCoeffs`, for an open clock. -/
def calculateConversionCoeffs (d : IasLibPtpDaemon) (tsc : Timespec) :
    Option Timespec → Option IasLibPtpDaemon
  | none => none
  | some tp => some { d with
      mLastTsc := convertTimespecToNs tsc
      mLastTime := convertTimespecToNs tp
      mTscToLocalFactor := 1
      mAvgCoeff := 1 }

def init (d : IasLibPtpDaemon) (env : PtpEnvironment) : IasLibPtpDaemon :=
  if d.mInitialized then d
  else if env.opened = false then d.cleanUp
  else
    let d := { d with
      mClockId := true
      mIgbDevice := env.mIgbDevice
      mMaxCrossTimestampSamples := env.loopCount.getD d.mMaxCrossTimestampSamples
      mSysTimeMeasurementThreshold := env.threshold.getD d.mSysTimeMeasurementThreshold }
    match d.calculateConversionCoeffs env.tsc env.gettime with
    | none => { d with mLastTsc := convertTimespecToNs env.tsc }.cleanUp
    | some d => { d with mInitialized := true }

/-! ## Runs -/

inductive Event
  | init (env : PtpEnvironment)
  | cleanUp
  | getRealLocalTime (force : Bool) (readings : Nat → Readings) (patience : Nat)
  | getLocalTime (now : Timespec) (readings : Nat → Readings) (patience : Nat)

/-- A call that is through in time leaves the daemon to the next one. -/
def call (d : IasLibPtpDaemon) (force : Bool) (readings : Nat → Readings) (patience : Nat) :
    IasLibPtpDaemon :=
  if d.mLastTimeMutex then d
  else
    match d.getRealLocalTime force readings (5 + patience) with
    | some (_, d') => d'
    | none => { d with mLastTimeMutex := true }

def step (d : IasLibPtpDaemon) : Event → IasLibPtpDaemon
  | .init env => d.init env
  | .cleanUp => d.cleanUp
  | .getRealLocalTime force readings patience => d.call force readings patience
  | .getLocalTime now readings patience =>
      if cUpdateThreshold < d.elapsed now then d.call false readings patience else d

end IasLibPtpDaemon

end AvbStreamHandler
