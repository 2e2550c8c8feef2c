import AvbStreamHandler.Kit.Run
import AvbStreamHandler.Kit.Word
import Mathlib.Logic.Function.Basic

/-!
# The watchdogs

`IasWatchdogInterface`, one for each supervised thread, and `IasSystemdWatchdogManager`,
which keeps a list of them and notifies systemd as long as all of them are in order.

A watchdog is registered if it has a process id. Its due time is set by `reset`, which only
the thread that registered it may call; zero stands for a watchdog that has not been reset
yet, and for one that is not registered.

The clock is the monotonic clock in nanoseconds, a 64-bit number that does not wrap around.
When a watchdog was last reset is kept beside the list; the code does not know it.
-/

namespace AvbStreamHandler

open Kit Kit.Word Kit.Run

inductive IasWatchdogResult
  | cOk
  | cParameterInvalid
  | cObjectNotFound
  | cAlreadyRegistered
  | cWatchdogUnregistered
  | cIncorrectThread
  | cTimedOut
  | cWatchdogNotPreconfigured
deriving DecidableEq, Repr

open IasWatchdogResult

/-- One watchdog. -/
structure IasWatchdogInterface where
  mDueResetTime : Nat := 0
  mPreconfigured : Bool := false
  mTimeoutReported : Bool := false
  /-- In milliseconds. -/
  mTimeout : UInt32 := 0
  mProcessId : Nat := 0
  mThreadId : Nat := 0
  mName : String := ""
deriving DecidableEq, Repr

namespace IasWatchdogInterface

def isRegistered (d : IasWatchdogInterface) : Bool := d.mProcessId != 0

/-- The timeout in nanoseconds. -/
def timeoutNs (d : IasWatchdogInterface) : Nat := d.mTimeout.toNat * 1000000

def setTimeout (d : IasWatchdogInterface) (timeout : UInt32) : IasWatchdogInterface :=
  { d with mTimeout := timeout, mPreconfigured := true }

def setName (d : IasWatchdogInterface) (name : String) : IasWatchdogInterface :=
  { d with mName := name, mPreconfigured := true }

/-- `registerWatchdog` with a timeout and a name. -/
def registerWatchdog (d : IasWatchdogInterface) (pid thread : Nat) (timeout : UInt32)
    (watchdogName : String) : IasWatchdogInterface × IasWatchdogResult :=
  if watchdogName = "" ∨ timeout = 0 then (d, cParameterInvalid)
  else if d.isRegistered then (d, cAlreadyRegistered)
  else
    ({ d with
      mTimeout := timeout
      mProcessId := pid
      mThreadId := thread
      mName := watchdogName
      mDueResetTime := 0 }, cOk)

/-- `registerWatchdog` as it was configured when it was created. -/
def registerPreconfigured (d : IasWatchdogInterface) (pid thread : Nat) :
    IasWatchdogInterface × IasWatchdogResult :=
  if d.mPreconfigured = false then (d, cWatchdogNotPreconfigured)
  else d.registerWatchdog pid thread d.mTimeout d.mName

def unregisterWatchdog (d : IasWatchdogInterface) : IasWatchdogInterface × IasWatchdogResult :=
  if d.isRegistered = false then (d, cWatchdogUnregistered)
  else
    let d := if d.mPreconfigured = false then { d with mTimeout := 0, mName := "" } else d
    ({ d with mProcessId := 0, mThreadId := 0, mDueResetTime := 0 }, cOk)

/-- `reset`, called by `thread` at time `currentTime`. -/
def reset (d : IasWatchdogInterface) (thread currentTime : Nat) :
    IasWatchdogInterface × IasWatchdogResult :=
  if d.isRegistered = false then (d, cWatchdogUnregistered)
  else if d.mThreadId ≠ thread then (d, cIncorrectThread)
  else if currentTime < d.mDueResetTime ∨ d.mDueResetTime = 0 then
    ({ d with
      mDueResetTime := add64 currentTime d.timeoutNs
      mTimeoutReported := false }, cOk)
  else ({ d with mTimeoutReported := true }, cTimedOut)

end IasWatchdogInterface

/-- The manager, its watchdogs and the clock. -/
structure IasSystemdWatchdogManager where
  mWatchdogInterfaces : List Nat := []
  /-- The watchdogs behind the pointers of the list. -/
  watchdog : Nat → IasWatchdogInterface := fun _ => {}
  /-- The next pointer `new` returns. -/
  allocated : Nat := 0
  /-- What `getpid` returns. -/
  pid : { n : Nat // n ≠ 0 }
  now : Nat := 0
  /-- When `reset` last succeeded since the watchdog was registered. -/
  lastReset : Nat → Option Nat := fun _ => none

inductive WatchdogEvent
  | createWatchdog
  | createPreconfigured (timeout : UInt32) (watchdogName : String)
  | registerWatchdog (k thread : Nat) (timeout : UInt32) (watchdogName : String)
  | registerPreconfigured (k thread : Nat)
  | unregisterWatchdog (k : Nat)
  | reset (k thread : Nat)
  | destroyWatchdog (k : Nat)
  | advance (ns : Nat)
  /-- The manager's timer calls `notifyTimedOut`. -/
  | tick
deriving DecidableEq

namespace IasSystemdWatchdogManager

/-- The watchdog at `k` is in order. -/
def Valid (w : IasSystemdWatchdogManager) (k : Nat) : Prop :=
  (w.watchdog k).mDueResetTime ≠ 0 ∧ w.now < (w.watchdog k).mDueResetTime

instance (w : IasSystemdWatchdogManager) (k : Nat) : Decidable (w.Valid k) :=
  inferInstanceAs (Decidable (_ ∧ _))

/-- `allWatchdogInterfacesValid`. Exactly then `notifyTimedOut` calls `sd_notify`. -/
def allWatchdogInterfacesValid (w : IasSystemdWatchdogManager) : Bool :=
  w.mWatchdogInterfaces.all fun k => decide (w.Valid k)

def setWatchdog (w : IasSystemdWatchdogManager) (k : Nat) (d : IasWatchdogInterface) :
    IasSystemdWatchdogManager :=
  { w with watchdog := Function.update w.watchdog k d }

def setLastReset (w : IasSystemdWatchdogManager) (k : Nat) (time : Option Nat) :
    IasSystemdWatchdogManager :=
  { w with lastReset := Function.update w.lastReset k time }

/-- `createWatchdog`, with what the new watchdog is given. -/
def create (w : IasSystemdWatchdogManager) (d : IasWatchdogInterface) :
    IasSystemdWatchdogManager :=
  { w with
    mWatchdogInterfaces := w.mWatchdogInterfaces ++ [w.allocated]
    watchdog := Function.update w.watchdog w.allocated d
    allocated := w.allocated + 1
    lastReset := Function.update w.lastReset w.allocated none }

/-- A watchdog that was registered has not been reset yet. -/
def register (w : IasSystemdWatchdogManager) (k : Nat)
    (r : IasWatchdogInterface × IasWatchdogResult) : IasSystemdWatchdogManager :=
  if r.2 = cOk then (w.setWatchdog k r.1).setLastReset k none else w.setWatchdog k r.1

def resetWatchdog (w : IasSystemdWatchdogManager) (k : Nat)
    (r : IasWatchdogInterface × IasWatchdogResult) : IasSystemdWatchdogManager :=
  if r.2 = cOk then (w.setWatchdog k r.1).setLastReset k (some w.now) else w.setWatchdog k r.1

/-- `destroyWatchdog`; the destructor removes it from the list, too, and finds it gone. -/
def destroy (w : IasSystemdWatchdogManager) (k : Nat) : IasSystemdWatchdogManager :=
  { w with mWatchdogInterfaces := w.mWatchdogInterfaces.erase k }

/-- Nothing is called on a watchdog that is not there. -/
def step (w : IasSystemdWatchdogManager) : WatchdogEvent → IasSystemdWatchdogManager
  | .createWatchdog => w.create {}
  | .createPreconfigured timeout watchdogName =>
      if timeout = 0 then w
      else w.create
        ((({} : IasWatchdogInterface).setTimeout timeout).setName watchdogName)
  | .registerWatchdog k thread timeout watchdogName =>
      if k ∈ w.mWatchdogInterfaces then
        w.register k ((w.watchdog k).registerWatchdog w.pid thread timeout watchdogName)
      else w
  | .registerPreconfigured k thread =>
      if k ∈ w.mWatchdogInterfaces then
        w.register k ((w.watchdog k).registerPreconfigured w.pid thread)
      else w
  | .unregisterWatchdog k =>
      if k ∈ w.mWatchdogInterfaces then w.setWatchdog k (w.watchdog k).unregisterWatchdog.1
      else w
  | .reset k thread =>
      if k ∈ w.mWatchdogInterfaces then
        w.resetWatchdog k ((w.watchdog k).reset thread w.now)
      else w
  | .destroyWatchdog k => w.destroy k
  | .advance ns => if w.now + ns < 18446744073709551616 then { w with now := w.now + ns } else w
  | .tick => w

/-- A manager without watchdogs. -/
def start (pid : { n : Nat // n ≠ 0 }) (now : UInt64) : IasSystemdWatchdogManager where
  pid := pid
  now := now.toNat

end IasSystemdWatchdogManager

end AvbStreamHandler
