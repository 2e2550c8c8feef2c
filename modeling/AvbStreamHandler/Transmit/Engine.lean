import AvbStreamHandler.Kit.Word
import AvbStreamHandler.Kit.Run
import Mathlib.Data.List.Sort

/-!
# The transmit engine and its sequencers, step by step

An API call of the transmit engine touches a stream's active flag, the set of streams
its sequencer serves, two running sums and a request counter, one after the other and
under no common lock. In between, the sequencer thread goes on: it brings its sequence in
line with the set and answers requests, and now and then it resets a stream, which it does
by deactivating and activating it.

Every access to shared data is a step of its own here. API calls are serialised by the
callers, so one program counter is enough for them; each traffic class has a sequencer
thread with another one. A lock that the sequencer holds over several steps blocks the
steps of the API that take it.
-/

namespace AvbStreamHandler

open Kit Kit.Word

inductive IasAvbSrClass
  | eIasAvbSrClassHigh
  | eIasAvbSrClassLow
deriving DecidableEq, Repr

/-- What the engine reads from the stream specifications and its configuration. -/
structure TxSpec where
  getClass : Nat → IasAvbSrClass
  /-- In kBit/s. -/
  getRequiredBandwidth : Nat → Nat
  getMaxIntervalFrames : Nat → Nat
  getPacketsPerSecondByClass : IasAvbSrClass → Nat
  txMaxBandwidth : Nat
  txWindowWidth : Nat
  getTxRingSize : Nat

/-- The sequencer thread, as far as it meets the API. -/
inductive SequencerPc
  | idle
  /-- `mSequence` is in line with the set, the request is not answered yet. -/
  | reconciled
  /-- In the service loop, `stream` is deactivated and not yet active again. -/
  | resetting (stream : Nat)
  /-- In the restart loop under `mLock`, with these streams still to reset. -/
  | restarting (todo : List Nat)
  /-- In the restart loop under `mLock`, `stream` is deactivated. -/
  | restartingStream (stream : Nat) (todo : List Nat)
deriving DecidableEq, Repr

/-- The sequencer of one class. -/
structure SequencerAccount where
  mActiveStreams : List Nat := []
  mSequence : List Nat := []
  mCurrentBandwidth : Nat := 0
  mCurrentMaxIntervalFrames : Nat := 0
  mRequestCount : Int := 0
  mResponseCount : Int := 0
  running : Bool := false
  pc : SequencerPc := .idle

/-- What an API call in progress did last. -/
inductive ApiPhase
  /-- `activateAvbStream` found the stream inactive. -/
  | activating
  /-- `addStreamToTransmitList` increased the sums. -/
  | admitted
  /-- The stream is in the set. -/
  | inserted
  /-- The request is counted. -/
  | requested
  /-- `deactivateAvbStream` found the stream active. -/
  | deactivating
  /-- The stream is deactivated. -/
  | removing
  /-- The stream is out of the set. -/
  | erased
  /-- The request is counted and the thread has to answer it. -/
  | waiting
  /-- The thread did not answer in time. -/
  | timedOut
  /-- The stream is back in the set. -/
  | restored
  /-- The request for it is counted, the removal has failed. -/
  | failed
  /-- The removal is confirmed. -/
  | confirmed
  /-- The sums are decreased. -/
  | accounted
  /-- `destroyAvbStream` is about to delete the stream. -/
  | deleting
deriving DecidableEq, Repr

/-- An API call in progress. `destroy` tells a deactivation that is part of
`destroyAvbStream`. -/
structure ApiCall where
  stream : Nat
  phase : ApiPhase
  destroy : Bool := false
deriving DecidableEq, Repr

structure TxEngine where
  /-- The streams in the engine's map. -/
  mAvbStreams : Nat → Bool := fun _ => true
  mActive : Nat → Bool := fun _ => false
  sequencer : IasAvbSrClass → SequencerAccount := fun _ => {}
  api : Option ApiCall := none

namespace SequencerAccount

variable (spec : TxSpec)

/-- `std::set::insert`, in address order. -/
def insert (q : SequencerAccount) (s : Nat) : SequencerAccount :=
  { q with
    mActiveStreams :=
      if s ∈ q.mActiveStreams then q.mActiveStreams else q.mActiveStreams.orderedInsert (· ≤ ·) s }

def erase (q : SequencerAccount) (s : Nat) : SequencerAccount :=
  { q with mActiveStreams := q.mActiveStreams.erase s }

def request (q : SequencerAccount) : SequencerAccount :=
  { q with mRequestCount := q.mRequestCount + 1 }

/-- Does the sequencer thread hold `mLock`? -/
def locked (q : SequencerAccount) : Bool :=
  match q.pc with
  | .restarting _ => true
  | .restartingStream _ _ => true
  | _ => false

/-! ## Admission -/

def newTotal (q : SequencerAccount) (s : Nat) : Nat :=
  add32 q.mCurrentBandwidth (spec.getRequiredBandwidth s)

def newMaxIntervalFrames (q : SequencerAccount) (s : Nat) : Nat :=
  add32 q.mCurrentMaxIntervalFrames (spec.getMaxIntervalFrames s)

/-- The ring entries the class would need, with two entries a packet and a margin. -/
def reqRingSize (c : IasAvbSrClass) (frames : Nat) : Nat :=
  mul64 (mul64 (mul64 (mul64 (spec.getPacketsPerSecondByClass c) frames) spec.txWindowWidth
    / 1000000000) 2) 130 / 100

/-- The checks of `addStreamToTransmitList`. -/
def Admits (q : SequencerAccount) (s : Nat) : Prop :=
  q.newTotal spec s ≤ spec.txMaxBandwidth ∧
    reqRingSize spec (spec.getClass s) (q.newMaxIntervalFrames spec s) ≤ spec.getTxRingSize

instance (q : SequencerAccount) (s : Nat) : Decidable (q.Admits spec s) :=
  inferInstanceAs (Decidable (_ ∧ _))

def addSums (q : SequencerAccount) (s : Nat) : SequencerAccount :=
  { q with
    mCurrentBandwidth := q.newTotal spec s
    mCurrentMaxIntervalFrames := q.newMaxIntervalFrames spec s }

def subSums (q : SequencerAccount) (s : Nat) : SequencerAccount :=
  { q with
    mCurrentBandwidth := sub32 q.mCurrentBandwidth (spec.getRequiredBandwidth s)
    mCurrentMaxIntervalFrames :=
      sub32 q.mCurrentMaxIntervalFrames (spec.getMaxIntervalFrames s) }

end SequencerAccount

namespace TxEngine

variable (spec : TxSpec)

def setActive (e : TxEngine) (s : Nat) (b : Bool) : TxEngine :=
  { e with mActive := Function.update e.mActive s b }

/-- The sequencer that serves the stream. -/
def getSequencerByStream (e : TxEngine) (s : Nat) : SequencerAccount :=
  e.sequencer (spec.getClass s)

def updateSequencer (e : TxEngine) (c : IasAvbSrClass) (f : SequencerAccount → SequencerAccount) :
    TxEngine :=
  { e with sequencer := Function.update e.sequencer c (f (e.sequencer c)) }

/-! ## The API -/

/-- `activateAvbStream` looks the stream up and checks it. -/
def activateAvbStream (e : TxEngine) (s : Nat) : TxEngine :=
  if e.mAvbStreams s = true ∧ e.mActive s = false then
    { e with api := some { stream := s, phase := .activating } }
  else e

/-- `deactivateAvbStream` looks the stream up and checks it; `destroyAvbStream` goes on
with an inactive stream. -/
def deactivateAvbStream (e : TxEngine) (s : Nat) (destroy : Bool) : TxEngine :=
  if e.mAvbStreams s = false then e
  else if e.mActive s = true then
    { e with api := some { stream := s, phase := .deactivating, destroy := destroy } }
  else if destroy = true then
    { e with api := some { stream := s, phase := .deleting, destroy := destroy } }
  else e

/-- The next step of the call in progress. `timeout` ends a wait. A step that needs a
lock the sequencer holds has to wait. -/
def apiStep (e : TxEngine) (timeout : Bool) : TxEngine :=
  match e.api with
  | none => e
  | some call =>
      let s := call.stream
      let c := spec.getClass s
      let q := e.getSequencerByStream spec s
      let goto (phase : ApiPhase) : Option ApiCall := some { call with phase := phase }
      match call.phase with
      | .activating =>
          if q.Admits spec s then
            { e.updateSequencer c (·.addSums spec s) with api := goto .admitted }
          else { e with api := none }
      | .admitted =>
          if q.locked then e
          else { e.updateSequencer c (·.insert s) with api := goto .inserted }
      | .inserted => { e.updateSequencer c (·.request) with api := goto .requested }
      | .requested => { e.setActive s true with api := none }
      | .deactivating => { e.setActive s false with api := goto .removing }
      | .removing =>
          if q.locked then e
          else { e.updateSequencer c (·.erase s) with api := goto .erased }
      | .erased =>
          { e.updateSequencer c (·.request) with
            api := if q.running then goto .waiting else goto .confirmed }
      | .waiting =>
          if q.mRequestCount = q.mResponseCount then { e with api := goto .confirmed }
          else if timeout then { e with api := goto .timedOut }
          else e
      | .timedOut =>
          if q.locked then e
          else { e.updateSequencer c (·.insert s) with api := goto .restored }
      | .restored => { e.updateSequencer c (·.request) with api := goto .failed }
      | .failed => { e.setActive s true with api := none }
      | .confirmed => { e.updateSequencer c (·.subSums spec s) with api := goto .accounted }
      | .accounted =>
          -- the stream may have been activated again by a reset during the removal
          { e.setActive s false with api := if call.destroy then goto .deleting else none }
      | .deleting => { e with mAvbStreams := Function.update e.mAvbStreams s false, api := none }

/-! ## The sequencer thread -/

/-- What the thread may do next. -/
inductive SequencerStep
  /-- The first half of an answer: the sequence follows the set. -/
  | reconcile
  /-- The second half: the request is answered. -/
  | respond
  /-- The service loop resets a stream of the sequence. -/
  | reset (stream : Nat)
  /-- The restart takes the lock and goes through the set. -/
  | restart
  /-- The next half step of a reset or of the restart loop. -/
  | go
  | threadEnd
deriving DecidableEq, Repr

def sequencerStep (e : TxEngine) (c : IasAvbSrClass) : SequencerStep → TxEngine
  | .reconcile =>
      let q := e.sequencer c
      if q.running ∧ q.pc = .idle ∧ q.mRequestCount - q.mResponseCount > 0 then
        e.updateSequencer c fun q => { q with mSequence := q.mActiveStreams, pc := .reconciled }
      else e
  | .respond =>
      if (e.sequencer c).pc = .reconciled then
        e.updateSequencer c fun q =>
          { q with mResponseCount := q.mResponseCount + 1, pc := .idle }
      else e
  | .reset s =>
      let q := e.sequencer c
      if q.running ∧ q.pc = .idle ∧ s ∈ q.mSequence then
        (e.setActive s false).updateSequencer c fun q => { q with pc := .resetting s }
      else e
  | .restart =>
      let q := e.sequencer c
      if q.running ∧ q.pc = .idle then
        e.updateSequencer c fun q => { q with pc := .restarting q.mActiveStreams }
      else e
  | .go =>
      match (e.sequencer c).pc with
      | .idle => e
      | .reconciled => e
      | .resetting s =>
          (e.setActive s true).updateSequencer c fun q => { q with pc := .idle }
      | .restarting [] =>
          e.updateSequencer c fun q =>
            { q with mResponseCount := q.mResponseCount - 1, pc := .idle }
      | .restarting (s :: todo) =>
          (e.setActive s false).updateSequencer c fun q =>
            { q with pc := .restartingStream s todo }
      | .restartingStream s todo =>
          (e.setActive s true).updateSequencer c fun q => { q with pc := .restarting todo }
  | .threadEnd =>
      if (e.sequencer c).pc = .idle then
        e.updateSequencer c fun q => { q with mSequence := [], running := false }
      else e

/-! ## Runs -/

inductive Event
  | activateAvbStream (stream : Nat)
  | deactivateAvbStream (stream : Nat)
  | destroyAvbStream (stream : Nat)
  /-- The sequencer of a class is started. -/
  | start (c : IasAvbSrClass)
  /-- The call in progress takes its next step. -/
  | api (timeout : Bool)
  /-- A sequencer thread takes a step. -/
  | sequencer (c : IasAvbSrClass) (what : SequencerStep)

/-- A call is only made when no other is in progress. -/
def step (e : TxEngine) : Event → TxEngine
  | .activateAvbStream s => if e.api = none then e.activateAvbStream s else e
  | .deactivateAvbStream s => if e.api = none then e.deactivateAvbStream s false else e
  | .destroyAvbStream s => if e.api = none then e.deactivateAvbStream s true else e
  | .start c =>
      if e.api = none ∧ (e.sequencer c).running = false then
        e.updateSequencer c fun q => { q.request with running := true }
      else e
  | .api timeout => e.apiStep spec timeout
  | .sequencer c what => e.sequencerStep c what

end TxEngine

end AvbStreamHandler
