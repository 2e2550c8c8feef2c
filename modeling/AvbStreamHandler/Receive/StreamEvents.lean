import AvbStreamHandler.Kit.Changes
import AvbStreamHandler.Receive.StreamRegistryRuns

/-!
# The events of receive streams

The receive thread hands a stream its packets, and an empty call when nothing came for it: all
streams if nothing was received for the idle time, which it counts in the waits of its cycles or
leaves to `select`, or single streams by the readings of the PTP clock. Around each call the
state of the stream is looked at, and if it changed the client is told.

The reading is taken once a pass, at its end. The journal is not in the source: it has what the
thread handed out and how long it waited.
-/

namespace AvbStreamHandler

open Kit Kit.Changes Kit.Word IasAvbProcessingResult

/-- What `getStreamState` says before the stream's `dispatchPacket` and behind it. -/
structure StateReport where
  before : IasAvbStreamState
  after : IasAvbStreamState
deriving DecidableEq, Repr

/-- A call of a stream's `dispatchPacket`, with a packet or without, and the updates of its state
that the client got with it. -/
structure DispatchRecord where
  stream : Nat
  streamId : Option Nat
  packet : Bool
  now : Nat
  report : StateReport
  notified : List IasAvbStreamState
deriving DecidableEq, Repr

inductive JournalEntry
  | dispatched (r : DispatchRecord)
  /-- Nothing was received for that many nanoseconds. -/
  | waited (ns : Nat)
deriving DecidableEq, Repr

namespace IasAvbReceiveEngine

/-! ## One call -/

/-- `checkStreamState`, and the argument of `updateStreamStatus` if that is called. -/
def StreamData.checkStreamState (data : StreamData) (newState : IasAvbStreamState) :
    StreamData × List IasAvbStreamState :=
  if data.lastState ≠ newState then ({ data with lastState := newState }, [newState])
  else (data, [])

/-- `dispatchPacket`. -/
def StreamData.dispatchPacket (data : StreamData) (now : Nat) (report : StateReport) :
    StreamData × List IasAvbStreamState :=
  let (data, notified) := data.checkStreamState report.before
  let (data, notified') :=
    { data with lastTimeDispatched := now : StreamData }.checkStreamState report.after
  (data, notified ++ notified')

/-- What the journal has of it. -/
def StreamData.record (data : StreamData) (streamId : Option Nat) (packet : Bool) (now : Nat)
    (report : StateReport) : DispatchRecord where
  stream := data.stream
  streamId := streamId
  packet := packet
  now := now
  report := report
  notified := (data.dispatchPacket now report).2

/-- The entry of a stream. -/
def entryOf (w : IasAvbReceiveEngine) (stream : Nat) : Option StreamData :=
  (w.mAvbStreams.entries.map Sigma.snd).find? fun data => data.stream = stream

end IasAvbReceiveEngine

open IasAvbReceiveEngine

/-! ## The thread -/

/-- What the registry and the build say about the thread. -/
structure ReceiveThreadConfig where
  engine : ReceiveConfig := {}
  /-- `DIRECT_RX_DMA`. -/
  directRxDma : Bool := true
  cycleWait : UInt32 := 2000000
  /-- The configured value, in nanoseconds. -/
  rxIdleWait : Option UInt32 := none

/-- `idleWait`, in microseconds. -/
def ReceiveThreadConfig.idleWait (c : ReceiveThreadConfig) : Nat :=
  match c.rxIdleWait with
  | some ns => ns.toNat / 1000
  | none => 25000

/-- `idleWait * 1000u`. -/
def ReceiveThreadConfig.idleWaitNs (c : ReceiveThreadConfig) : Nat :=
  c.idleWait * 1000 % 4294967296

/-- The locals of `run`. -/
structure ReceiveThread where
  engine : IasAvbReceiveEngine := {}
  now : Nat
  lastTimeoutCheck : Nat
  elapsedTimeNs : Nat := 0
  journal : List JournalEntry := []

/-- A frame that is there when the thread polls, and what the streams say about it. -/
structure PolledFrame where
  reception : Reception
  frame : Bytes
  report : Nat → StateReport

/-- What a pass of the loop meets. -/
structure ReceivePass where
  /-- Not looked at with `DIRECT_RX_DMA`. -/
  selectResult : Int := 1
  frames : List PolledFrame := []
  /-- The states of the streams, when they are told that nothing came. -/
  report : Nat → StateReport
  /-- The reading of the clock at its end. -/
  localTime : UInt64

namespace ReceiveThread

def start (localTime : UInt64) : ReceiveThread where
  now := localTime.toNat
  lastTimeoutCheck := localTime.toNat

def write (t : ReceiveThread) (e : JournalEntry) : ReceiveThread :=
  { t with journal := t.journal ++ [e] }

/-- The call without a packet for the stream of one entry, or, with an `idleWait`, if it was not
serviced for that long. -/
def serviceTimeout (idleWait : Option Nat) (report : Nat → StateReport) (t : ReceiveThread)
    (key : Nat) : ReceiveThread :=
  match t.engine.mAvbStreams.lookup key with
  | some data =>
      if idleWait.all fun wait => decide (wait < sub64 t.now data.lastTimeDispatched) then
        { t with engine := t.engine.setEntry key (data.dispatchPacket t.now (report data.stream)).1
          }.write (.dispatched
            (data.record (t.engine.idOf data.stream) false t.now (report data.stream)))
      else t
  | none => t

def timeouts (t : ReceiveThread) (idleWait : Option Nat) (report : Nat → StateReport) :
    ReceiveThread :=
  t.engine.mAvbStreams.keys.foldl (serviceTimeout idleWait report) t

/-- What the journal has of a frame: the call for the stream it went to, whose id may have
changed with it. -/
def frameEntries (w w' : IasAvbReceiveEngine) (trace : FrameTrace) (now : Nat)
    (report : Nat → StateReport) : List JournalEntry :=
  match trace.dispatched with
  | some d =>
      match w.entryOf d.stream with
      | some data =>
          [.dispatched (data.record (w'.idOf d.stream) true now (report d.stream))]
      | none => []
  | none => []

/-- A frame that was received. -/
def receive (c : ReceiveThreadConfig) (t : ReceiveThread) (f : PolledFrame) : ReceiveThread :=
  let (w, trace) := receiveFrame c.engine t.engine f.frame f.reception.recvLength t.now
    fun stream => (f.report stream).after
  { t with
    engine := w
    elapsedTimeNs := 0
    journal := t.journal ++ frameEntries t.engine w trace t.now f.report }

/-- The polling loop, up to the first attempt that brings nothing. -/
def receiveFrames (c : ReceiveThreadConfig) (t : ReceiveThread) :
    List PolledFrame → ReceiveThread
  | [] => t
  | f :: fs => if f.reception.recvLength < 0 then t else (t.receive c f).receiveFrames c fs

/-- The sleep at the end of a cycle. Without `DIRECT_RX_DMA` nobody looks at the counter. -/
def sleep (c : ReceiveThreadConfig) (t : ReceiveThread) : ReceiveThread :=
  if c.cycleWait = 0 then t
  else { t with elapsedTimeNs := add32 t.elapsedTimeNs c.cycleWait.toNat }.write
    (.waited c.cycleWait.toNat)

/-- Nothing was received for the idle time. -/
def timedOut (c : ReceiveThreadConfig) (t : ReceiveThread) (p : ReceivePass) : Bool :=
  if c.directRxDma then decide (c.idleWait ≤ t.elapsedTimeNs / 1000)
  else decide (p.selectResult = 0)

def selectFailed (c : ReceiveThreadConfig) (p : ReceivePass) : Bool :=
  !c.directRxDma && decide (p.selectResult < 0)

/-- The idle time is over since the last check of the single streams. -/
def checkDue (c : ReceiveThreadConfig) (t : ReceiveThread) : Bool :=
  decide (c.idleWaitNs < sub64 t.now t.lastTimeoutCheck)

/-- `select` has waited, if it was asked to. -/
def generalTimeout (c : ReceiveThreadConfig) (t : ReceiveThread) (report : Nat → StateReport) :
    ReceiveThread :=
  (if c.directRxDma then { t with elapsedTimeNs := 0 }
    else t.write (.waited (c.idleWait * 1000))).timeouts none report

def checkStreams (c : ReceiveThreadConfig) (t : ReceiveThread) (report : Nat → StateReport) :
    ReceiveThread :=
  { t.timeouts (some c.idleWaitNs) report with lastTimeoutCheck := t.now }

/-- What a pass does before it looks at the clock. -/
def work (c : ReceiveThreadConfig) (t : ReceiveThread) (p : ReceivePass) : ReceiveThread :=
  if timedOut c t p then t.generalTimeout c p.report
  else if selectFailed c p then t
  else if t.checkDue c then t.checkStreams c p.report
  else (t.receiveFrames c p.frames).sleep c

/-- A pass of the loop in `run`. -/
def pass (c : ReceiveThreadConfig) (t : ReceiveThread) (p : ReceivePass) : ReceiveThread :=
  { t.work c p with now := p.localTime.toNat }

def setEngine (t : ReceiveThread) (w : IasAvbReceiveEngine) : ReceiveThread :=
  { t with engine := w }

end ReceiveThread

/-- A pass of the thread, or a part of a client's call in between. -/
inductive ReceiveEvent
  | pass (p : ReceivePass)
  | createReceiveStream (streamId : Nat) (destMacAddr : IasAvbMacAddress)
  | initReceive (result : IasAvbProcessingResult)
  | bindMcastAddr (success : Bool)
  | destroyAvbStream (streamId : Nat)

def ReceiveThread.step (c : ReceiveThreadConfig) (t : ReceiveThread) :
    ReceiveEvent → ReceiveThread
  | .pass p => t.pass c p
  | .createReceiveStream streamId mac => t.setEngine (t.engine.createReceiveStream streamId mac)
  | .initReceive result => t.setEngine (t.engine.initReceive result)
  | .bindMcastAddr success => t.setEngine (t.engine.bindMcastAddr success)
  | .destroyAvbStream streamId => t.setEngine (t.engine.destroyAvbStream streamId)

/-! ## The journal of one stream -/

namespace JournalEntry

/-- The states a stream was found in. -/
def reports (stream : Nat) : JournalEntry → List IasAvbStreamState
  | .dispatched r => if r.stream = stream then [r.report.before, r.report.after] else []
  | .waited _ => []

/-- The states the client was told. -/
def notified (stream : Nat) : JournalEntry → List IasAvbStreamState
  | .dispatched r => if r.stream = stream then r.notified else []
  | .waited _ => []

/-- What was waited since the last packet of the stream. -/
def waitedSince (stream waited : Nat) : JournalEntry → Nat
  | .dispatched r => if r.stream = stream ∧ r.packet then 0 else waited
  | .waited ns => waited + ns

/-- The reading at the last packet of the stream, as long as no timeout came behind it. -/
def lastPacket (stream : Nat) (last : Option Nat) : JournalEntry → Option Nat
  | .dispatched r => if r.stream = stream then (if r.packet then some r.now else none) else last
  | .waited _ => last

end JournalEntry

def reportsOf (stream : Nat) (journal : List JournalEntry) : List IasAvbStreamState :=
  journal.flatMap (JournalEntry.reports stream)

def notifiedOf (stream : Nat) (journal : List JournalEntry) : List IasAvbStreamState :=
  journal.flatMap (JournalEntry.notified stream)

def waitedSince (stream : Nat) (journal : List JournalEntry) : Nat :=
  journal.foldl (JournalEntry.waitedSince stream) 0

def lastPacket (stream : Nat) (journal : List JournalEntry) : Option Nat :=
  journal.foldl (JournalEntry.lastPacket stream) none

/-- **A stream is idle**: the thread has waited for the idle time since its last packet, or the
reading of the clock was more than that ahead of the packet's, now or at the timeout it got
before. -/
def Idle (idle : Nat) (journal : List JournalEntry) (stream now : Nat) : Prop :=
  idle ≤ waitedSince stream journal ∨ ∀ last ∈ lastPacket stream journal, last + idle < now

/-- **Timeouts go to idle streams.** -/
def TimeoutsJustified (idle : Nat) (journal : List JournalEntry) : Prop :=
  ∀ pre r, pre ++ [.dispatched r] <+: journal → r.packet = false → Idle idle pre r.stream r.now

/-- **The client knows the states**: it was told the states a stream was found in, from the one
it was created in, without the repetitions. -/
def ChangesTold (journal : List JournalEntry) : Prop :=
  ∀ stream, .eIasAvbStreamInactive :: notifiedOf stream journal
    = (reportsOf stream journal).destutter' (· ≠ ·) .eIasAvbStreamInactive

structure EventsRight (c : ReceiveThreadConfig) (t : ReceiveThread) : Prop where
  notified : ChangesTold t.journal
  timeouts : TimeoutsJustified (c.idleWait * 1000) t.journal

end AvbStreamHandler
