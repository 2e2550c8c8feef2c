import AvbStreamHandler.Transmit.Reconciliation
import AvbStreamHandler.Transmit.ShaperCoupling

/-!
# The handshake between the API and the sequencer thread

The API changes the set of active streams under a lock and counts a request; the thread
brings its sequence in line with the set and counts a response. An API call that removes a
stream waits until the two counters agree. The thread has its own use for the counters: when
it restarts, it clears the sequence and takes a response back, so that the sequence is built
anew.

Here the calls and the thread take one step at a time. A step is one access to shared data,
or what happens while the lock is held. API calls are serialised by the callers. What the
surroundings decide — link state, time warps, failures, when a wait is given up — is part
of the event.

Three things are recorded that the code does not keep: what the set and the sums were when a
removal began, which streams were removed successfully and not added since, and whether a
call has changed the set or started the thread without a request being counted for it yet.
-/

namespace AvbStreamHandler

open Kit Kit.Word

namespace TxWorld

/-! ## The halves of the steps -/

/-- `std::set::insert`, in address order. -/
def insertStream (w : TxWorld) (s : Nat) : TxWorld :=
  { w with
    mActiveStreams :=
      if s ∈ w.mActiveStreams then w.mActiveStreams
      else w.mActiveStreams.orderedInsert (· ≤ ·) s }

def eraseStream (w : TxWorld) (s : Nat) : TxWorld :=
  { w with mActiveStreams := w.mActiveStreams.erase s }

def countRequest (w : TxWorld) : TxWorld := { w with mRequestCount := w.mRequestCount + 1 }

def countResponse (w : TxWorld) : TxWorld := { w with mResponseCount := w.mResponseCount + 1 }

/-- The part of an update under the lock. -/
def reconcile (w : TxWorld) : TxWorld :=
  let (temp, w) := eraseObsolete [] w.mSequence w.mActiveStreams w
  temp.foldl insertNew w

/-- The end of an update: with less active streams the original timing is tried again. -/
def endUpdate (w : TxWorld) (numStreamsOld : Nat) : TxWorld :=
  if w.mSequence.length < numStreamsOld then
    { w with mConfig := { w.mConfig with
        txWindowWidth := w.mConfig.txWindowWidthInit
        txWindowPitch := w.mConfig.txWindowPitchInit } }
  else w

/-- `beforeRun` and what `run` does before its loop. -/
def beginRun (w : TxWorld) : TxWorld :=
  { w with
    cFlagEndThread := false
    cFlagRestartThread := false
    nextStreamToService := w.mSequence.length
    mConfig := { w.mConfig with
      txWindowWidth := w.mConfig.txWindowWidthInit
      txWindowPitch := w.mConfig.txWindowPitchInit } }

def shutDown (w : TxWorld) : TxWorld :=
  { w with cFlagEndThread := true, cFlagRestartThread := false }

/-- The test of the thread's loops, `mThreadControl` being zero. -/
def unflagged (w : TxWorld) : Bool := !w.cFlagEndThread && !w.cFlagRestartThread

theorem addStream_eq (w : TxWorld) (s : Nat) :
    w.addStream s = (w.insertStream s).countRequest := rfl

theorem removeStream_eq (w : TxWorld) (s : Nat) :
    w.removeStream s = (w.eraseStream s).countRequest := rfl

theorem updateOnce_eq (w : TxWorld) :
    w.updateOnce = { w.reconcile with mResponseCount := w.reconcile.mResponseCount + 1 } := rfl

theorem startThread_eq (w : TxWorld) : w.startThread = w.beginRun.countRequest := rfl

end TxWorld

/-! ## The state -/

/-- Where the sequencer thread is. -/
inductive ThreadPlace
  | notRunning
  /-- At the head of the outer loop of `run`. -/
  | outerLoop
  /-- Acknowledging a restart, with `mLock` held. -/
  | restarting
  /-- At the head of the loop over the passes. -/
  | passLoop
  /-- In `updateSequence`, about to compare the counters. The sequence had `numStreamsOld`
  entries when the update began. -/
  | comparing (numStreamsOld : Nat)
  /-- In `updateSequence`, with a request to answer. -/
  | requestSeen (numStreamsOld : Nat)
  /-- In `updateSequence`; the sequence follows the set, the response is not counted. -/
  | reconciled (numStreamsOld : Nat)
  | servicing
deriving DecidableEq, Repr

/-- What the API call in progress did last. -/
inductive ApiPlace
  | idle
  /-- `addStreamToTransmitList` raised the sums. -/
  | admitted (stream : Nat)
  /-- It inserted the stream. -/
  | inserted (stream : Nat)
  /-- `removeStreamFromTransmitList` passed its checks. -/
  | removing (stream : Nat)
  /-- It erased the stream. -/
  | erased (stream : Nat)
  /-- It counted the request. -/
  | requested (stream : Nat)
  /-- It waits for the response. -/
  | waiting (stream : Nat)
  /-- The response did not come. -/
  | timedOut (stream : Nat)
  /-- The stream is inserted again. -/
  | restored (stream : Nat)
  /-- The request for that is counted and the call is about to return an error. -/
  | failed (stream : Nat)
  /-- The removal is confirmed, the sums are not lowered yet. -/
  | confirmed (stream : Nat)
  /-- `start` started the thread, or found it running. -/
  | starting
  /-- `stop` found the thread running. -/
  | stopping
  /-- It told the thread to end. -/
  | joining
deriving DecidableEq, Repr

/-- What the admission of a stream adds to. -/
structure TxSums where
  mCurrentBandwidth : Nat := 0
  mCurrentMaxIntervalFrames : Nat := 0
  mMaxFrameSizeHigh : Nat := 0
deriving DecidableEq, Repr

structure TxHandshake where
  world : TxWorld
  sums : TxSums := {}
  thread : ThreadPlace := .notRunning
  api : ApiPlace := .idle
  /-- The set when the removal in progress began. -/
  activeBefore : List Nat := []
  /-- The sums when the removal in progress began. -/
  sumsBefore : TxSums := {}
  /-- The streams that were removed successfully and not added since. -/
  removed : List Nat := []
  /-- The call in progress has changed the set, or started the thread although there are
  active streams; it has not counted its request, and no update came across the change. -/
  ahead : Bool := false

namespace TxHandshake

open TxWorld

variable (spec : ShaperSpec) (mClass : IasAvbSrClass)

def setWorld (h : TxHandshake) (w : TxWorld) : TxHandshake := { h with world := w }

def setThread (h : TxHandshake) (t : ThreadPlace) : TxHandshake := { h with thread := t }

def setApi (h : TxHandshake) (a : ApiPlace) : TxHandshake := { h with api := a }

/-- `mTransmitThread->isRunning()`. -/
def isRunning (h : TxHandshake) : Bool := decide (h.thread ≠ .notRunning)

/-- Does the thread hold `mLock` from one step to the next? -/
def locked (h : TxHandshake) : Bool := decide (h.thread = .restarting)

/-! ## The API -/

/-- The checks of `addStreamToTransmitList` on the sums. -/
def Admits (h : TxHandshake) (s : Nat) : Prop :=
  add32 h.sums.mCurrentBandwidth (spec.getRequiredBandwidth s) ≤ spec.txMaxBandwidth ∧
    SequencerAccount.reqRingSize
      { spec.toTxSpec with txWindowWidth := h.world.mConfig.txWindowWidth } mClass
      (add32 h.sums.mCurrentMaxIntervalFrames (spec.getMaxIntervalFrames s)) ≤ spec.getTxRingSize

instance (h : TxHandshake) (s : Nat) : Decidable (h.Admits spec mClass s) :=
  inferInstanceAs (Decidable (_ ∧ _))

def raiseSums (h : TxHandshake) (s : Nat) : TxSums where
  mCurrentBandwidth := add32 h.sums.mCurrentBandwidth (spec.getRequiredBandwidth s)
  mCurrentMaxIntervalFrames :=
    add32 h.sums.mCurrentMaxIntervalFrames (spec.getMaxIntervalFrames s)
  mMaxFrameSizeHigh :=
    if h.world.mUseShaper = true ∧ mClass = .eIasAvbSrClassHigh ∧
        h.sums.mMaxFrameSizeHigh < spec.getMaxFrameSize s then spec.getMaxFrameSize s
    else h.sums.mMaxFrameSizeHigh

def lowerSums (h : TxHandshake) (s : Nat) : TxSums where
  mCurrentBandwidth := sub32 h.sums.mCurrentBandwidth (spec.getRequiredBandwidth s)
  mCurrentMaxIntervalFrames :=
    sub32 h.sums.mCurrentMaxIntervalFrames (spec.getMaxIntervalFrames s)
  mMaxFrameSizeHigh :=
    if h.world.mUseShaper = true ∧ mClass = .eIasAvbSrClassHigh ∧
        h.sums.mMaxFrameSizeHigh ≤ spec.getMaxFrameSize s then
      greatest spec.getMaxFrameSize h.world.mActiveStreams
    else h.sums.mMaxFrameSizeHigh

/-- The beginning of `addStreamToTransmitList`, up to the lock. -/
def addStreamToTransmitList (h : TxHandshake) (s : Nat) : TxHandshake :=
  if spec.getClass s ≠ mClass then h
  else if h.Admits spec mClass s then
    { h with sums := h.raiseSums spec mClass s, api := .admitted s }
  else h

/-- The beginning of `removeStreamFromTransmitList`, up to the lock. -/
def removeStreamFromTransmitList (h : TxHandshake) (s : Nat) : TxHandshake :=
  if spec.getClass s ≠ mClass then h
  else
    { h with
      api := .removing s
      activeBefore := h.world.mActiveStreams
      sumsBefore := h.sums }

/-- `created` tells whether a thread can be created. A thread that runs goes on. -/
def start (h : TxHandshake) (created : Bool) : TxHandshake :=
  if h.thread = .notRunning ∧ created = true then
    { h with
      world := h.world.beginRun
      thread := .outerLoop
      api := .starting
      ahead := decide (h.world.mActiveStreams ≠ []) }
  else h.setApi .starting

def stop (h : TxHandshake) : TxHandshake := if h.isRunning then h.setApi .stopping else h

/-- The stream enters the set. -/
def insert (h : TxHandshake) (s : Nat) (next : ApiPlace) : TxHandshake :=
  { h with
    world := h.world.insertStream s
    api := next
    ahead := decide (s ∉ h.world.mActiveStreams) }

/-- The stream leaves the set. -/
def erase (h : TxHandshake) (s : Nat) (next : ApiPlace) : TxHandshake :=
  { h with
    world := h.world.eraseStream s
    api := next
    ahead := decide (s ∈ h.world.mActiveStreams) }

/-- The request is counted. -/
def request (h : TxHandshake) (next : ApiPlace) : TxHandshake :=
  { h with world := h.world.countRequest, api := next, ahead := false }

/-- The removal is confirmed. -/
def confirm (h : TxHandshake) (s : Nat) : TxHandshake :=
  { h with api := .confirmed s, removed := s :: h.removed }

/-- The next step of the call in progress. `timeout` ends a wait. A step that needs `mLock`
waits for it. -/
def apiStep (h : TxHandshake) (timeout : Bool) : TxHandshake :=
  match h.api with
  | .idle => h
  | .admitted s =>
      if h.locked then h
      else { h.insert s (.inserted s) with removed := h.removed.filter (· ≠ s) }
  | .inserted _ => h.request .idle
  | .removing s => if h.locked then h else h.erase s (.erased s)
  | .erased s => h.request (.requested s)
  | .requested s => if h.isRunning then h.setApi (.waiting s) else h.confirm s
  | .waiting s =>
      if h.world.mRequestCount = h.world.mResponseCount then h.confirm s
      else if timeout then h.setApi (.timedOut s)
      else h
  | .timedOut s => if h.locked then h else h.insert s (.restored s)
  | .restored s => h.request (.failed s)
  | .failed _ => h.setApi .idle
  | .confirmed s => { h with sums := h.lowerSums spec mClass s, api := .idle }
  | .starting => h.request .idle
  | .stopping => if h.locked then h else { h with world := h.world.shutDown, api := .joining }
  | .joining =>
      if h.isRunning then h
      else (h.setWorld (h.world.mActiveStreams.foldl toggle h.world)).setApi .idle

/-! ## The thread -/

/-- What the thread may do next. -/
inductive ThreadStep
  /-- From the outer loop to the passes, no flag being set. -/
  | enterPassLoop
  /-- A pass begins. -/
  | enterPass
  /-- The counters are compared. -/
  | compare
  /-- The sequence follows the set. -/
  | reconcile
  /-- The response is counted. -/
  | respond
  | beginCycle
  | service (windowStart : Nat) (result : Int) (preps : List Prepared)
  | endCycle
  /-- The link came back or the time warped. -/
  | requestRestart
  /-- The watchdog or the sleep failed. -/
  | requestEnd
  /-- A pass ends. -/
  | endPass
  /-- The loop over the passes ends and the sequence is cleared. -/
  | leave
  /-- A restart is acknowledged under the lock. -/
  | lock
  /-- The streams are reset and a response is taken back. -/
  | unlock
  /-- `run` returns. -/
  | quit

def threadStep (h : TxHandshake) : ThreadStep → TxHandshake
  | .enterPassLoop =>
      if h.thread = .outerLoop ∧ h.world.unflagged = true then h.setThread .passLoop else h
  | .enterPass =>
      if h.thread = .passLoop ∧ h.world.unflagged = true then
        h.setThread (.comparing h.world.mSequence.length)
      else h
  | .compare =>
      match h.thread with
      | .comparing n =>
          if h.world.mRequestCount - h.world.mResponseCount > 0 then h.setThread (.requestSeen n)
          else (h.setWorld (h.world.endUpdate n)).setThread .servicing
      | _ => h
  | .reconcile =>
      match h.thread with
      | .requestSeen n =>
          { h with world := h.world.reconcile, thread := .reconciled n, ahead := false }
      | _ => h
  | .respond =>
      match h.thread with
      | .reconciled n => (h.setWorld h.world.countResponse).setThread (.comparing n)
      | _ => h
  | .beginCycle => if h.thread = .servicing then h.setWorld h.world.beginCycle else h
  | .service windowStart result preps =>
      if h.thread = .servicing ∧ h.world.unflagged = true then
        h.setWorld (h.world.serviceStream windowStart result preps).1
      else h
  | .endCycle => if h.thread = .servicing then h.setWorld h.world.endCycle else h
  | .requestRestart =>
      if h.thread = .servicing then h.setWorld { h.world with cFlagRestartThread := true } else h
  | .requestEnd =>
      if h.thread = .servicing then h.setWorld { h.world with cFlagEndThread := true } else h
  | .endPass => if h.thread = .servicing then h.setThread .passLoop else h
  | .leave =>
      if h.thread = .passLoop ∧ h.world.unflagged = false then
        (h.setWorld h.world.endThread).setThread .outerLoop
      else h
  | .lock =>
      if h.thread = .outerLoop ∧ h.world.unflagged = false then h.setThread .restarting else h
  -- until here nobody else could have seen the flag of the acknowledged restart
  | .unlock =>
      if h.thread = .restarting then (h.setWorld h.world.restartThread).setThread .passLoop else h
  | .quit =>
      if h.thread = .outerLoop ∧ h.world.cFlagEndThread = true then h.setThread .notRunning else h

/-! ## Runs -/

inductive Event
  | addStreamToTransmitList (stream : Nat)
  | removeStreamFromTransmitList (stream : Nat)
  | start (created : Bool)
  | stop
  /-- The call in progress takes its next step. -/
  | api (timeout : Bool)
  | thread (what : ThreadStep)
  | reclaim (packet : Nat)
  | fillRing (stream : Nat)

/-- A call is only made when no other is in progress. -/
def step (h : TxHandshake) : Event → TxHandshake
  | .addStreamToTransmitList s =>
      if h.api = .idle then h.addStreamToTransmitList spec mClass s else h
  | .removeStreamFromTransmitList s =>
      if h.api = .idle then h.removeStreamFromTransmitList spec mClass s else h
  | .start created => if h.api = .idle then h.start created else h
  | .stop => if h.api = .idle then h.stop else h
  | .api timeout => h.apiStep spec mClass timeout
  | .thread what => h.threadStep what
  | .reclaim p => h.setWorld (h.world.reclaimPacket p)
  | .fillRing s => h.setWorld (h.world.fillRing s)

/-- A sequencer whose thread has never been started. -/
def init (pools : PacketPools) (config : SequencerConfig) (strictOrder : Bool)
    (shaperBwRate : Nat) : TxHandshake where
  world := TxWorld.start pools config spec.mUseShaper strictOrder shaperBwRate

/-! ## The property -/

/-- Is the thread at the top of a pass, before or after the update, with equal counters? -/
def AtTop (h : TxHandshake) : Event → Prop
  | .thread .enterPass =>
      h.thread = .passLoop ∧ h.world.unflagged = true ∧
        h.world.mRequestCount = h.world.mResponseCount
  | .thread .compare =>
      match h.thread with
      | .comparing _ => h.world.mRequestCount = h.world.mResponseCount
      | _ => False
  | _ => False

/-- A removal has timed out, and the stream is in the set again. -/
def Failing (h : TxHandshake) : Prop :=
  match h.api with
  | .restored _ => True
  | .failed _ => True
  | _ => False

/-- The set and the sums are what they were before the removal. -/
def AsBefore (h : TxHandshake) : Prop :=
  h.world.mActiveStreams.Perm h.activeBefore ∧ h.sums = h.sumsBefore

/-- What one step must not spoil. -/
structure Good (h : TxHandshake) (e : Event) : Prop where
  /-- Equal counters at the top of a pass: the sequence has the active streams. -/
  caughtUp : h.AtTop e → Synced h.world
  /-- A stream that has been removed is not in the sequence. -/
  out : ∀ s ∈ (h.step spec mClass e).removed, s ∉ streams (h.step spec mClass e).world.mSequence
  /-- A removal that timed out leaves the set and the sums as they were. -/
  restored : (h.step spec mClass e).Failing → (h.step spec mClass e).AsBefore

/-- The stream that this step puts back after a timeout. -/
def restores (h : TxHandshake) : Event → Option Nat
  | .api _ =>
      match h.api with
      | .timedOut s => if h.locked then none else some s
      | _ => none
  | _ => none

/-- The condition on a step: a pass that finds equal counters does not begin while a call is
between a change and its request, and only a stream that was active is put back. -/
structure StepOk (h : TxHandshake) (e : Event) : Prop where
  counted : h.AtTop e → h.ahead = false
  wasActive : ∀ s, h.restores e = some s → s ∈ h.activeBefore

instance (h : TxHandshake) (e : Event) : Decidable (h.AtTop e) := by
  unfold AtTop
  split
  · infer_instance
  · split <;> infer_instance
  · infer_instance

instance (h : TxHandshake) : Decidable h.Failing := by
  unfold Failing
  split <;> infer_instance

instance (h : TxHandshake) : Decidable h.AsBefore := inferInstanceAs (Decidable (_ ∧ _))

instance (w : TxWorld) : Decidable (Synced w) := inferInstanceAs (Decidable (List.Perm _ _))

instance (h : TxHandshake) (e : Event) : Decidable (h.Good spec mClass e) :=
  decidable_of_iff
    ((h.AtTop e → Synced h.world)
      ∧ (∀ s ∈ (h.step spec mClass e).removed,
          s ∉ streams (h.step spec mClass e).world.mSequence)
      ∧ ((h.step spec mClass e).Failing → (h.step spec mClass e).AsBefore))
    ⟨fun g => ⟨g.1, g.2.1, g.2.2⟩, fun g => ⟨g.caughtUp, g.out, g.restored⟩⟩

end TxHandshake

end AvbStreamHandler
