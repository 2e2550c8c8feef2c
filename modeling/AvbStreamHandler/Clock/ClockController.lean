import AvbStreamHandler.Kit.Run
import AvbStreamHandler.Kit.Word
import Mathlib.Algebra.Order.Field.Rat
import Mathlib.Tactic.Linarith
import Mathlib.Tactic.Positivity

/-!
# The clock controller

`IasAvbClockController`: a thread that compares a slave clock domain with a master clock domain
and corrects the clock driver, and the notifications by which the two domains tell it that
their lock state changed. Both write `mLockState`, and there is no lock.

One round of the thread is a sequence of steps, cut wherever it reads or writes `mLockState` or
asks the master for its own state; a notification can come between any two of them. What a
round reads from the domains is part of the step that reads it. Numbers are rational, and a
quotient by zero is nothing.

The request that the master reset itself, the debug output and the sleep are left out.
-/

namespace AvbStreamHandler

open Kit Kit.Word

/-- The lock state of a clock domain. -/
inductive IasAvbLockState
  | eIasAvbLockStateInit
  | eIasAvbLockStateUnlocked
  | eIasAvbLockStateLocking
  | eIasAvbLockStateLocked
deriving DecidableEq, Repr

/-- The lock state of the controller. -/
inductive LockState
  | eInit
  | eUnlocked
  | eLockingRate
  | eLockingPhase
  | eLocked
  | eOff
deriving DecidableEq, Repr

namespace LockState

/-- The number behind the name. -/
def toNat : LockState → Nat
  | eInit => 0
  | eUnlocked => 1
  | eLockingRate => 2
  | eLockingPhase => 3
  | eLocked => 4
  | eOff => 5

/-- `state > eUnlocked`. -/
def above (s : LockState) : Bool := decide (eUnlocked.toNat < s.toNat)

end LockState

open LockState

/-- What the registry says. The limits are given in ppm. -/
structure ClockControllerConfig where
  upperLimitPpm : Nat := 100
  lowerLimitPpm : Nat := 100
  mEngage : Bool := true
  holdOffTime : UInt64 := 60000000
  lockCountMax : Nat := 5
  gain : ℚ := 100 / 1000000000
  coeff1 : ℚ := 1 / 2
  coeff2 : ℚ := 1 / 2
  coeff3 : ℚ := 4 / 5
  coeff4 : ℚ := 0
  lockThreshold : ℚ := 2 / 1000000

def ClockControllerConfig.mUpperLimit (c : ClockControllerConfig) : ℚ :=
  1 + c.upperLimitPpm / 1000000

def ClockControllerConfig.mLowerLimit (c : ClockControllerConfig) : ℚ :=
  1 / (1 + c.lowerLimitPpm / 1000000)

/-- What a step of the thread reads from the two clock domains. -/
structure ClockReadings where
  masterCount : Int := 0
  masterTime : UInt64 := 0
  slaveCount : Int := 0
  slaveTime : UInt64 := 0
  masterRateRatio : ℚ := 1
  slaveRateRatio : ℚ := 1

/-- What is kept from one round to the next. -/
structure ControlVariables where
  lastCountMaster : Int := 0
  lastCountSlave : Int := 0
  lastTimeMaster : UInt64 := 0
  lastTimeSlave : UInt64 := 0
  offset : Int := 0
  holdOff : UInt64 := 0
  lockCount : Nat := 0
  lastDev : ℚ := 0
  bufDev : ℚ := 0
  bufRate : ℚ := 0

/-- What a round works with. -/
structure ControlRound where
  masterCount : Int
  masterTime : UInt64
  slaveCount : Int
  slaveTime : UInt64
  masterRate : ℚ
  slaveRate : ℚ
  timeOffset : ℚ
  deviation : ℚ
  correction0 : Option ℚ := some 1

/-- Where the thread is. -/
inductive ControlStep
  | waiting
  /-- Before the switch. -/
  | switching (i : ControlRound)
  /-- In the case `eUnlocked`, before the master is asked. -/
  | asking (i : ControlRound)
  /-- Before the branch that the cases of a locking and a locked controller share. -/
  | correcting (i : ControlRound)
  /-- Before the second look at `mLockState` in that branch. -/
  | comparing (i : ControlRound)
  /-- Before `mLockState` is written. -/
  | writing (s : LockState) (i : ControlRound)
  /-- After the switch. -/
  | output (i : ControlRound)

inductive ClockDomainRole
  | master
  | slave
deriving DecidableEq, Repr

structure IasAvbClockController where
  mLockState : LockState := eInit
  masterLockState : IasAvbLockState := .eIasAvbLockStateInit
  slaveLockState : IasAvbLockState := .eIasAvbLockStateInit
  vars : ControlVariables := {}
  at_ : ControlStep := .waiting
  /-- The corrections that were given to the clock driver. -/
  given : List (Option ℚ) := []
  /-- A domain told that it lost its lock, and the master was not seen locked since. -/
  lost : Bool := false

inductive ClockControlEvent
  /-- The next step of the thread. -/
  | thread (r : ClockReadings)
  /-- A clock domain gets another state. -/
  | domainState (d : ClockDomainRole) (s : IasAvbLockState)
  /-- `notifyUpdateLockState`, called by a clock domain. -/
  | notify (d : ClockDomainRole)

namespace IasAvbClockController

/-- A quotient, if there is one. -/
def quotient (a b : ℚ) : Option ℚ := if b = 0 then none else some (a / b)

def lockStateOf (w : IasAvbClockController) : ClockDomainRole → IasAvbLockState
  | .master => w.masterLockState
  | .slave => w.slaveLockState

def setLockState (w : IasAvbClockController) (s : LockState) : IasAvbClockController :=
  { w with mLockState := s }

def goto (w : IasAvbClockController) (p : ControlStep) : IasAvbClockController :=
  { w with at_ := p }

/-- `getLockState() < eIasAvbLockStateLocked`. -/
def notLocked (w : IasAvbClockController) (d : ClockDomainRole) : Bool :=
  w.lockStateOf d != .eIasAvbLockStateLocked

def notifyUpdateLockState (w : IasAvbClockController) (d : ClockDomainRole) :
    IasAvbClockController :=
  if w.notLocked d then
    { w with
      mLockState := if w.mLockState.above then eUnlocked else w.mLockState
      lost := true }
  else w

/-! ## The steps of a round -/

/-- A rate: events per time, zero if the time stands still. -/
def rate (count lastCount : Int) (delta : Int) : ℚ :=
  if delta = 0 then 0 else ((count - lastCount : Int) : ℚ) / delta

/-- The readings, up to the switch. -/
def beginRound (w : IasAvbClockController) (r : ClockReadings) : IasAvbClockController :=
  let v := w.vars
  let deltaTM := toInt64 (r.masterTime - v.lastTimeMaster).toNat
  let deltaTS := toInt64 (r.slaveTime - v.lastTimeSlave).toNat
  let timeOffset : ℚ := toInt64 (r.masterTime - r.slaveTime).toNat
  let masterRate := rate r.masterCount v.lastCountMaster deltaTM
  let i : ControlRound :=
    { masterCount := r.masterCount
      masterTime := r.masterTime
      slaveCount := r.slaveCount
      slaveTime := r.slaveTime
      masterRate := masterRate
      slaveRate := rate r.slaveCount v.lastCountSlave deltaTS
      timeOffset := timeOffset
      deviation := ((r.slaveCount - r.masterCount - v.offset : Int) : ℚ)
        + timeOffset * masterRate }
  { w with
    vars := { v with holdOff := if deltaTS < 0 then 0 else v.holdOff }
    mLockState := if deltaTM = 0 ∨ deltaTS = 0 then eUnlocked else w.mLockState
    at_ := .switching i }

/-- The case `eLockingRate`; it falls through to the next ones as long as the rates do not
agree. -/
def lockingRate (c : ClockControllerConfig) (w : IasAvbClockController) (i : ControlRound)
    (r : ClockReadings) : IasAvbClockController :=
  if |r.masterRateRatio - r.slaveRateRatio| < c.lockThreshold then
    if c.lockCountMax < w.vars.lockCount + 1 then
      { w with
        vars := { w.vars with
          lockCount := 0
          offset := i.slaveCount - i.masterCount
            + Int.tdiv (i.timeOffset * i.masterRate).num (i.timeOffset * i.masterRate).den
          lastDev := 0 }
        at_ := .writing eLockingPhase i }
    else
      { w with
        vars := { w.vars with lockCount := w.vars.lockCount + 1 }
        at_ := .correcting i }
  else
    { w with
      vars := { w.vars with lockCount := 0 }
      at_ := .correcting i }

def switchLockState (c : ClockControllerConfig) (w : IasAvbClockController) (i : ControlRound)
    (r : ClockReadings) : IasAvbClockController :=
  match w.mLockState with
  | eInit => w.goto (.writing eUnlocked i)
  | eUnlocked => w.goto (.asking i)
  | eLockingRate => lockingRate c w i r
  | eLockingPhase => w.goto (.correcting i)
  | eLocked => w.goto (.correcting i)
  | eOff => w.goto (.output i)

/-- The case `eUnlocked`. -/
def askMaster (w : IasAvbClockController) (i : ControlRound) : IasAvbClockController :=
  if w.masterLockState = .eIasAvbLockStateLocked then
    { w with
      vars := { w.vars with lockCount := 0, holdOff := 0 }
      at_ := .writing eLockingRate i
      lost := false }
  else w.goto (.output i)

/-- The driver is left alone until the hold-off time is over. -/
def heldOff (c : ClockControllerConfig) (w : IasAvbClockController) (i : ControlRound) : Bool :=
  !(decide (w.vars.holdOff < i.masterTime)
    || decide (i.masterTime < w.vars.holdOff - c.holdOffTime))

/-- The controller works on the phase. -/
def phaseLocking (w : IasAvbClockController) : Bool :=
  decide (eLockingPhase.toNat ≤ w.mLockState.toNat)

/-- The quotient of the rates, and if the phase counts, its filters. -/
def correct (c : ClockControllerConfig) (w : IasAvbClockController) (i : ControlRound) :
    IasAvbClockController :=
  let held := heldOff c w i
  let correction0 := if held then i.correction0 else quotient i.masterRate i.slaveRate
  let v := { w.vars with
    holdOff := if held then w.vars.holdOff else i.masterTime + c.holdOffTime }
  if w.phaseLocking then
    let bufDev := c.coeff1 * (-i.deviation) + c.coeff2 * v.bufDev
    let bufRate := c.coeff3 * (-(i.deviation - v.lastDev)) + c.coeff4 * v.bufRate
    { w with
      vars := { v with lastDev := i.deviation, bufDev := bufDev, bufRate := bufRate }
      at_ := .comparing
        { i with correction0 := correction0.map fun x => x + (bufDev + bufRate) * c.gain } }
  else { w with vars := v, at_ := .output { i with correction0 := correction0 } }

/-- The phase is locked, or so far off that it has to be locked anew. -/
def compare (w : IasAvbClockController) (i : ControlRound) : IasAvbClockController :=
  if w.mLockState = eLockingPhase ∧ |i.deviation| < 1 then w.goto (.writing eLocked i)
  else if 10 < |i.deviation| then
    { w with
      vars := { w.vars with lockCount := 0, holdOff := 0 }
      at_ := .writing eLockingRate { i with correction0 := some 1 } }
  else w.goto (.output i)

/-- The correction is kept within the limits. -/
def limit (c : ClockControllerConfig) (x : ℚ) : ℚ :=
  let x := if c.mUpperLimit < x then c.mUpperLimit else x
  if x < c.mLowerLimit then c.mLowerLimit else x

def endRound (c : ClockControllerConfig) (w : IasAvbClockController) (i : ControlRound) :
    IasAvbClockController :=
  let correction := i.correction0.map (limit c)
  { w with
    vars := { w.vars with
      lastCountMaster := i.masterCount
      lastCountSlave := i.slaveCount
      lastTimeMaster := i.masterTime
      lastTimeSlave := i.slaveTime }
    at_ := .waiting
    given := if c.mEngage ∧ correction ≠ some 1 then correction :: w.given else w.given }

def threadStep (c : ClockControllerConfig) (w : IasAvbClockController) (r : ClockReadings) :
    IasAvbClockController :=
  match w.at_ with
  | .waiting => w.beginRound r
  | .switching i => switchLockState c w i r
  | .asking i => w.askMaster i
  | .correcting i => correct c w i
  | .comparing i => w.compare i
  | .writing s i => { w with mLockState := s, at_ := .output i }
  | .output i => endRound c w i

def step (c : ClockControllerConfig) (w : IasAvbClockController) :
    ClockControlEvent → IasAvbClockController
  | .thread r => threadStep c w r
  | .domainState .master s => { w with masterLockState := s }
  | .domainState .slave s => { w with slaveLockState := s }
  | .notify d => w.notifyUpdateLockState d

end IasAvbClockController

end AvbStreamHandler
