import AvbStreamHandler.Kit.Threads
import AvbStreamHandler.Kit.Run

/-!
# Starting and stopping a thread

`IasThread` wraps a POSIX thread. Any thread of the process may call `start` and `stop` on
it; what keeps them apart is one byte of flags, `mThreadState`, that each of them changes by
atomic operations. Every such operation is a step here, and so is every call of the operating
system and of the runnable object. A thread that waits (in the join, at the barrier) has no
step until what it waits for has come.

What the operating system and the runnable object answer is part of the event.
-/

namespace AvbStreamHandler

open Kit Kit.Threads

inductive IasThreadResult
  | cOk
  | cFailed
  | cObjectInvalid
  | cThreadAlreadyStarted
  | cThreadNotRunning
  | cCreateBarrierFailed
  | cInitAttributeFailed
  | cCreateThreadFailed
  | cDestroyAttributeFailed
  | cJoinThreadFailed
  | cThreadSchedulePriorityFailed
  | cThreadSchedulePriorityNotPermitted
  | cThreadSchedulingParameterInvalid
deriving DecidableEq

/-- The flags of `mThreadState`. -/
@[ext] structure ThreadState where
  started : Bool := false
  running : Bool := false
  isStarting : Bool := false
  isStopping : Bool := false
deriving DecidableEq

def cTHREAD_STATE_INVALID : ThreadState := {}

/-- What the thread calls of the runnable object. -/
inductive Callback
  | beforeRun
  | run
  | afterRun
deriving DecidableEq

/-- How far a thread of the operating system is in `IasThread::run`. -/
inductive WorkerPlace
  | unborn
  | entered
  /-- At the barrier, with `cTHREAD_STATE_RUNNING_FLAG` set. -/
  | atBarrier
  | beforeRun
  | deciding
  /-- In `run` of the runnable object. -/
  | inRun
  | leaving (runWasCalled : Bool)
  | afterRun
  | clearing
  | ended
  | joined
deriving DecidableEq

/-- The thread has been created and not been joined. -/
def WorkerPlace.alive : WorkerPlace → Bool
  | .unborn | .joined => false
  | _ => true

/-- The thread has set `cTHREAD_STATE_RUNNING_FLAG` and not cleared it. -/
def WorkerPlace.runs : WorkerPlace → Bool
  | .atBarrier | .beforeRun | .deciding | .inRun | .leaving _ => true
  | _ => false

/-- The object, with the threads it has created. -/
structure IasThread (ρ : Type) where
  mThreadState : ThreadState := cTHREAD_STATE_INVALID
  mThreadId : Option Nat := none
  mRunnableObject : Option ρ := none
  mAssureRunning : Bool := false
  mThreadStartedBarrierInitialized : Bool := false
  mStartThreadResult : IasThreadResult := .cFailed
  mRunThreadResult : IasThreadResult := .cFailed
  /-- The number of threads created. -/
  created : Nat := 0
  worker : Nat → WorkerPlace := fun _ => .unborn
  /-- The calls of the runnable object, with the thread that makes them. -/
  calls : List (Nat × Callback) := []
  assertFailed : Bool := false

/-- Where `stop` was called from. -/
inductive Back (ρ : Type)
  | caller
  /-- From `start`, that found the thread started and not running. -/
  | restart (assureRunning : Bool) (runnableObject : Option ρ)
  /-- From `start`, that failed. -/
  | failed (result : IasThreadResult)

/-- How far a caller is in `start` or `stop`. -/
inductive Caller (ρ : Type)
  | idle (result : Option IasThreadResult)
  | start (assureRunning : Bool) (runnableObject : Option ρ)
  /-- At the compare-and-swap. -/
  | claim (assureRunning : Bool) (runnableObject : Option ρ)
  | prepare (assureRunning : Bool) (runnableObject : Option ρ)
  | markStarted (destroyBarrier : Bool)
  | create (destroyBarrier : Bool)
  | unmarkStarted (destroyBarrier : Bool)
  | awaitWorker (commitResult : IasThreadResult)
  | finish (result commitResult : IasThreadResult) (destroyBarrier : Bool)
  | release (result : IasThreadResult)
  | stop (back : Back ρ)
  /-- At the fetch-and-or of `cTHREAD_STATE_IS_STOPPING_FLAG`. -/
  | mark (back : Back ρ)
  | unmark (back : Back ρ)
  | shutDown (started : Bool) (back : Back ρ)
  | join (back : Back ρ)
  | unstart (back : Back ρ)
  | unstop (result : IasThreadResult) (back : Back ρ)
  /-- At the assertion behind the release of the flag. -/
  | confirm (back : Back ρ)
  | reset (back : Back ρ)

/-- What a step of a caller is answered. -/
structure ThreadOutcome where
  barrierInit : Bool := true
  attrInit : Bool := true
  createThread : Bool := true
  attrDestroy : Bool := true
  joinThread : Bool := true
  /-- `commitSchedulingParameters`. -/
  commitResult : IasThreadResult := .cOk
  shutDown : IasThreadResult := .cOk

namespace IasThread

variable {ρ : Type}

/-- `stop` returns. -/
def stopReturns (result : IasThreadResult) : Back ρ → Caller ρ
  | .caller => .idle (some result)
  | .restart assureRunning runnableObject =>
      if result = .cOk then .claim assureRunning runnableObject
      else .idle (some .cThreadAlreadyStarted)
  | .failed r => .release r

/-- The next step of a caller. -/
def next (s : IasThread ρ) (o : ThreadOutcome) : Caller ρ → IasThread ρ × Caller ρ
  | .idle r => (s, .idle r)
  | .start a r =>
      if s.mThreadState = { started := true } then (s, .stop (.restart a r))
      else (s, .claim a r)
  | .claim a r =>
      if s.mThreadState = cTHREAD_STATE_INVALID then
        ({ s with mThreadState := { s.mThreadState with isStarting := true } }, .prepare a r)
      else (s, .idle (some .cThreadAlreadyStarted))
  | .prepare a r =>
      let s := { s with mRunnableObject := r.or s.mRunnableObject, mAssureRunning := a }
      let initBarrier := a && !s.mThreadStartedBarrierInitialized
      if s.mRunnableObject.isNone then (s, .finish .cObjectInvalid .cOk false)
      else if initBarrier = true ∧ o.barrierInit = false then
        (s, .finish .cCreateBarrierFailed .cOk false)
      else
        let s := { s with
          mThreadStartedBarrierInitialized := s.mThreadStartedBarrierInitialized || initBarrier }
        if o.attrInit = false then (s, .finish .cInitAttributeFailed .cOk initBarrier)
        else
          ({ s with mStartThreadResult := .cOk, mRunThreadResult := .cFailed },
            .markStarted initBarrier)
  | .markStarted d =>
      ({ s with mThreadState := { s.mThreadState with started := true } }, .create d)
  | .create d =>
      if o.createThread = true then
        let s := { s with
          mThreadId := some s.created
          created := s.created + 1
          worker := Function.update s.worker s.created .entered }
        if o.attrDestroy = false then (s, .finish .cDestroyAttributeFailed o.commitResult d)
        else if s.mAssureRunning = true then (s, .awaitWorker o.commitResult)
        else (s, .finish .cOk o.commitResult d)
      else (s, .unmarkStarted d)
  | .unmarkStarted d =>
      ({ s with mThreadState := { s.mThreadState with started := false } },
        .finish (if o.attrDestroy = true then .cCreateThreadFailed else .cDestroyAttributeFailed)
          .cOk d)
  | .awaitWorker c => (s, .awaitWorker c)
  | .finish result commitResult destroyBarrier =>
      let s := { s with
        mThreadStartedBarrierInitialized :=
          s.mThreadStartedBarrierInitialized && !destroyBarrier }
      if result = .cOk then
        (s, .release (if s.mStartThreadResult = .cOk then commitResult else s.mStartThreadResult))
      else (s, .stop (.failed result))
  | .release r =>
      ({ s with mThreadState := { s.mThreadState with isStarting := false } }, .idle (some r))
  | .stop back =>
      if s.mRunnableObject.isNone then (s, stopReturns .cObjectInvalid back)
      else if s.mThreadState = cTHREAD_STATE_INVALID ∨ s.mThreadState.isStarting = true ∨
          s.mThreadState.isStopping = true then
        (s, stopReturns .cThreadNotRunning back)
      else (s, .mark back)
  | .mark back =>
      let old := s.mThreadState
      let s := { s with mThreadState := { old with isStopping := true } }
      if old.isStopping = true then (s, stopReturns .cThreadNotRunning back)
      else if old.isStarting = true then (s, .unmark back)
      else if old.running = true then (s, .shutDown old.started back)
      else if old.started = true then (s, .join back)
      else (s, .unstop .cOk back)
  | .unmark back =>
      ({ s with mThreadState := { s.mThreadState with isStopping := false } },
        stopReturns .cThreadNotRunning back)
  | .shutDown started back =>
      if o.shutDown ≠ .cOk then (s, .unstop o.shutDown back)
      else if started = true then (s, .join back)
      else (s, .unstop .cOk back)
  | .join back =>
      match s.mThreadId with
      | none => (s, .unstop .cJoinThreadFailed back)
      | some i =>
          if o.joinThread = false then (s, .unstop .cJoinThreadFailed back)
          else if s.worker i = .ended then
            ({ s with worker := Function.update s.worker i .joined }, .unstart back)
          else (s, .join back)
  | .unstart back =>
      ({ s with
          mThreadState := { s.mThreadState with started := false }
          assertFailed := s.assertFailed || s.mThreadState.running },
        .unstop .cOk back)
  | .unstop result back =>
      let s := { s with mThreadState := { s.mThreadState with isStopping := false } }
      if result = .cOk then (s, .confirm back) else (s, stopReturns result back)
  | .confirm back =>
      ({ s with
          assertFailed := s.assertFailed || decide (s.mThreadState ≠ cTHREAD_STATE_INVALID) },
        .reset back)
  | .reset back => ({ s with mThreadState := cTHREAD_STATE_INVALID }, stopReturns .cOk back)

/-- The thread goes to a place of `IasThread::run`. -/
def workerAt (s : IasThread ρ) (i : Nat) (p : WorkerPlace) : IasThread ρ :=
  { s with worker := Function.update s.worker i p }

def call (s : IasThread ρ) (i : Nat) (c : Callback) : IasThread ρ :=
  { s with calls := s.calls ++ [(i, c)] }

/-- The next step of a thread; `result` is what the runnable object returns in it. -/
def run (s : IasThread ρ) (i : Nat) (result : IasThreadResult) : IasThread ρ :=
  match s.worker i with
  | .unborn | .atBarrier | .ended | .joined => s
  | .entered =>
      let s : IasThread ρ :=
        { s with mStartThreadResult := .cOk, mRunThreadResult := .cFailed }
      if s.mRunnableObject.isNone then
        workerAt { s with mStartThreadResult := .cObjectInvalid } i
          (if s.mAssureRunning = true then .atBarrier else .clearing)
      else
        workerAt { s with mThreadState := { s.mThreadState with running := true } } i
          (if s.mAssureRunning = true then .atBarrier else .beforeRun)
  | .beforeRun =>
      workerAt { s.call i .beforeRun with mRunThreadResult := result } i
        (if result = IasThreadResult.cOk then .deciding else .leaving false)
  | .deciding =>
      if s.mThreadState.isStopping = false ∧ s.mThreadState.running = true then
        workerAt (s.call i .run) i .inRun
      else s.workerAt i (.leaving true)
  | .inRun => workerAt { s with mRunThreadResult := result } i (.leaving true)
  | .leaving runWasCalled =>
      workerAt { s with mThreadState := { s.mThreadState with running := false } } i
        (if runWasCalled = true then .afterRun else .clearing)
  | .afterRun =>
      workerAt { s.call i .afterRun with
        mRunThreadResult :=
          if result ≠ IasThreadResult.cOk ∧ s.mRunThreadResult = IasThreadResult.cOk then result
          else s.mRunThreadResult } i .clearing
  | .clearing =>
      workerAt { s with mThreadState := { s.mThreadState with running := false } } i .ended

/-- The caller and the thread have both come to the barrier. -/
def meet (s : IasThread ρ) (i : Nat) : IasThread ρ :=
  workerAt { s with mThreadStartedBarrierInitialized := false } i
    (if s.mStartThreadResult = IasThreadResult.cOk then .beforeRun else .clearing)

inductive Event (ρ : Type)
  | start (c : Nat) (assureRunning : Bool) (runnableObject : Option ρ)
  | stop (c : Nat)
  | step (c : Nat) (outcome : ThreadOutcome)
  | worker (i : Nat) (result : IasThreadResult)
  | meet (c i : Nat)

/-- The object and its callers. -/
abbrev Threads (ρ : Type) := World Nat (IasThread ρ) (Caller ρ)

def init (runnableObject : Option ρ) : Threads ρ :=
  { shared := { mRunnableObject := runnableObject }, place := fun _ => .idle none }

def step (w : Threads ρ) : Event ρ → Threads ρ
  | .start c a r =>
      match w.place c with
      | .idle _ => w.move c w.shared (.start a r)
      | _ => w
  | .stop c =>
      match w.place c with
      | .idle _ => w.move c w.shared (.stop .caller)
      | _ => w
  | .step c o => w.move c (w.shared.next o (w.place c)).1 (w.shared.next o (w.place c)).2
  | .worker i result => { w with shared := w.shared.run i result }
  | .meet c i =>
      match w.place c, w.shared.worker i with
      | .awaitWorker commitResult, .atBarrier =>
          w.move c (w.shared.meet i) (.finish .cOk commitResult false)
      | _, _ => w

end IasThread

end AvbStreamHandler
