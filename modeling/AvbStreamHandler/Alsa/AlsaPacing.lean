import AvbStreamHandler.Alsa.AlsaEngine
import AvbStreamHandler.Kit.Run
import AvbStreamHandler.Kit.Truncate
import Mathlib.Data.Rat.Floor

/-!
# The pace of a worker thread

`IasAlsaWorkerThread::run`: the thread wakes up, looks how late it is, compares the samples it has
served with the events of the master clock at its target time, corrects the interval by a part of
the difference, serves a period and sleeps until its next target. The control loop starts anew
after the thread has overslept, when the master count goes backwards, when the difference gets
too large and when PTP time warps.

Floating point numbers are rationals, and signed counts of 64 bits are integers. Times and the
interval are registers. What the clocks answer is part of a reading, and what the language leaves
open of a conversion is a parameter: `Casts`. The loop ends where a clock cannot be read or the
watchdog cannot be registered; that, the service itself and the debug output are left out.
-/

namespace AvbStreamHandler

open Kit

/-- The settings of the control loop, with their defaults. -/
structure AlsaClockConfig where
  cAlsaClockTimeout : UInt64 := 1000000000
  cAlsaClockCycle : UInt64 := 5000000
  cAlsaClockUnlock : UInt32 := 50000
  cAlsaClockResetThresh : UInt32 := 0
  cAlsaClockGain : Option UInt32 := none

namespace AlsaClockConfig

def cGain (c : AlsaClockConfig) : ℚ :=
  match c.cAlsaClockGain with
  | none => 1 / 10
  | some val => val.toNat / 1000

end AlsaClockConfig

/-- A number that an `int32_t` can hold the whole part of. -/
def FitsInt32 (x : ℚ) : Prop := -2147483648 ≤ truncate x ∧ truncate x < 2147483648

/-- A number that a `uint64_t` can hold the whole part of. -/
def FitsUInt64 (x : ℚ) : Prop := 0 ≤ truncate x ∧ truncate x < 18446744073709551616

instance (x : ℚ) : Decidable (FitsInt32 x) := inferInstanceAs (Decidable (_ ∧ _))

instance (x : ℚ) : Decidable (FitsUInt64 x) := inferInstanceAs (Decidable (_ ∧ _))

/-- The conversions of a number to a register: its whole part, where the register can hold it. -/
structure Casts where
  toInt32 : ℚ → Int32
  toUInt64 : ℚ → UInt64
  toInt32_toInt : ∀ {x}, FitsInt32 x → (toInt32 x).toInt = truncate x
  toUInt64_toNat : ∀ {x}, FitsUInt64 x → ((toUInt64 x).toNat : ℤ) = truncate x

/-- What the PTP daemon answers. -/
structure PtpAnswers where
  sysToPtp : UInt64
  ptpToSys : UInt64
  epochCounter : UInt32

/-- What the thread reads in a pass. -/
structure PacingReadings where
  now : UInt64
  masterTime : UInt64
  eventCount : UInt64
  eventRate : UInt32
  ptp : Option PtpAnswers

/-- The local variables of `run` that outlive a pass. -/
structure PacingLoop where
  sleepInterval : UInt32 := 0
  initInterval : Bool := true
  slaveTime : UInt64 := 0
  slaveTimePtp : UInt64 := 0
  slaveCount : ℤ := 0
  offset : ℤ := 0
  lastCountMaster : ℤ := 0
  lastTimeMaster : UInt64 := 0
  lastMasterUpdate : UInt64 := 0
  lastAdjustment : UInt64 := 0
  deviation : ℚ := 0
  masterRate : ℚ := 0
  sleepUntilPtp : UInt64 := 0
  isRefClkAvail : Bool := false
  lastOversleep : UInt64 := 0
  lastEpoch : UInt32 := 0

namespace IasAlsaWorkerThread

/-- A period in nanoseconds. -/
def sleepEstimate (t : IasAlsaWorkerThread) : UInt32 :=
  ((t.mAlsaPeriodSize.toUInt64 * 1000000000) / t.mSampleFrequency.toUInt64).toUInt32

variable (t : IasAlsaWorkerThread) (c : AlsaClockConfig) (k : Casts) (s : PacingLoop)
  (r : PacingReadings)

/-! ## Oversleeping -/

/-- The configured threshold; by default it is an interval. -/
def cMaxSleepInterval : UInt32 :=
  if c.cAlsaClockResetThresh ≠ 0 then c.cAlsaClockResetThresh else s.sleepInterval

/-- The detection of a late wake-up. -/
def wakeUp : PacingLoop :=
  let late := r.now - s.slaveTime
  if s.initInterval = false ∧ s.sleepInterval.toUInt64 < late then
    if (cMaxSleepInterval c s).toUInt64 < late then
      { s with slaveTime := 0, initInterval := true, lastOversleep := 0 }
    else { s with lastOversleep := s.slaveTime }
  else s

/-! ## The master clock -/

/-- Events as samples of the thread's frequency. -/
def masterCount : ℤ :=
  if r.eventRate ≠ 0 then
    (r.eventCount.toInt64.toInt * t.mSampleFrequency.toNat).tdiv r.eventRate.toNat
  else r.eventCount.toInt64.toInt

/-- A count that goes backwards starts the loop anew. -/
def readMaster : PacingLoop :=
  if t.masterCount r < s.lastCountMaster then
    { s with initInterval := true, isRefClkAvail := false }
  else s

/-! ## The control loop -/

def initLoop : PacingLoop :=
  let slaveTime := if s.slaveTime = 0 then r.now else s.slaveTime
  { s with
    initInterval := false
    sleepInterval := t.sleepEstimate
    offset := s.slaveCount - t.masterCount r
    slaveTime := slaveTime
    lastAdjustment := slaveTime
    masterRate := t.mSampleFrequency.toNat / 1000000000
    deviation := 0
    slaveTimePtp := r.ptp.elim s.slaveTimePtp (·.sysToPtp)
    sleepUntilPtp := 0
    lastMasterUpdate := 0 }

/-- How far the target time is ahead of the master's time stamp. -/
def timeOffset : ℚ :=
  r.ptp.elim 0 fun p => (p.sysToPtp - r.masterTime).toInt64.toInt

/-- The master count, extrapolated to the target time. -/
def extrapolated : ℚ := t.masterCount r + timeOffset r * s.masterRate

/-- The time since the last master time stamp; without one there is none. -/
def deltaTM : ℤ :=
  let lastTimeMaster := if s.lastTimeMaster = 0 then r.masterTime else s.lastTimeMaster
  (r.masterTime - lastTimeMaster).toInt64.toInt

/-- What becomes of the reference clock. -/
def updateReference : PacingLoop :=
  if deltaTM s r = 0 then
    if s.lastMasterUpdate ≠ 0 ∧ c.cAlsaClockTimeout < r.now - s.lastMasterUpdate then
      { s with lastMasterUpdate := 0, lastTimeMaster := 0, isRefClkAvail := false }
    else s
  else if s.lastMasterUpdate = 0 then
    { s with
      offset := (UInt64.ofInt s.slaveCount - k.toUInt64 (t.extrapolated s r)).toInt64.toInt
      lastMasterUpdate := r.now
      isRefClkAvail := true }
  else
    { s with
      masterRate := ((t.masterCount r - s.lastCountMaster : ℤ) : ℚ) / deltaTM s r
      lastMasterUpdate := r.now
      isRefClkAvail := true }

/-- How far the slave count is ahead of the master's. -/
def deviation : ℚ :=
  ((s.slaveCount - t.masterCount r - s.offset : ℤ) : ℚ) - timeOffset r * s.masterRate

/-- The interval follows the deviation, up to a threshold. -/
def adjust (delta : ℤ) : PacingLoop :=
  if s.lastMasterUpdate = 0 then s
  else
    let s := { s with deviation := t.deviation s r }
    if (c.cAlsaClockUnlock.toNat : ℚ) < |s.deviation| then
      { s with initInterval := true, isRefClkAvail := false }
    else if 0 < delta then
      { s with
        sleepInterval := s.sleepInterval + (k.toInt32 (s.deviation * c.cGain)).toUInt32 }
    else s

/-- It is time for an adjustment. -/
def Due : Prop := c.cAlsaClockCycle ≤ s.slaveTime - s.lastAdjustment

instance : Decidable (Due c s) := inferInstanceAs (Decidable (_ ≤ _))

/-- The target time as the PTP clock has it. -/
def takeTarget : PacingLoop := { s with slaveTimePtp := r.ptp.elim s.slaveTimePtp (·.sysToPtp) }

def control : PacingLoop :=
  let s := takeTarget s r
  if Due c s then
    let s := { s with lastAdjustment := s.slaveTime }
    t.adjust c k (t.updateReference c k s r) r (deltaTM s r)
  else s

/-! ## A pass -/

/-- The interval is served, and the next target is an interval away. In PTP time intervals are
added up from the first time stamp. -/
def nextTarget : PacingLoop :=
  let timestamp := if s.isRefClkAvail then s.slaveTimePtp else 0
  let s := { s with
    slaveCount := s.slaveCount + t.mAlsaPeriodSize.toNat
    slaveTime := s.slaveTime + s.sleepInterval.toUInt64 }
  if s.initInterval = false ∧ timestamp ≠ 0 then
    let sleepUntilPtp :=
      if s.sleepUntilPtp = 0 then timestamp + s.sleepInterval.toUInt64
      else s.sleepUntilPtp + s.sleepInterval.toUInt64
    { s with
      sleepUntilPtp := sleepUntilPtp
      slaveTime := r.ptp.elim s.slaveTime (·.ptpToSys) }
  else { s with sleepUntilPtp := 0 }

/-- A new epoch starts the loop anew. -/
def checkEpoch : PacingLoop :=
  let epoch := r.ptp.elim 0 (·.epochCounter)
  if epoch ≠ s.lastEpoch then
    { s with lastEpoch := epoch, slaveTime := 0, initInterval := true, isRefClkAvail := false }
  else s

/-- The loop before it either starts anew or controls the interval. -/
def prepared : PacingLoop := t.readMaster (wakeUp c s r) r

/-- The loop once the interval of a pass is settled. -/
def paced : PacingLoop :=
  let s := t.prepared c s r
  if s.initInterval then t.initLoop s r else t.control c k s r

def pass : PacingLoop :=
  let s := t.paced c k s r
  let s := { s with lastCountMaster := t.masterCount r, lastTimeMaster := r.masterTime }
  checkEpoch (t.nextTarget s r) r

end IasAlsaWorkerThread

end AvbStreamHandler
