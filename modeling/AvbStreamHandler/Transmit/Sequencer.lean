import AvbStreamHandler.Kit.Word
import AvbStreamHandler.Kit.Run
import AvbStreamHandler.Kit.Cycle
import Mathlib.Data.List.Sort

/-!
# The transmit sequencer

One worker thread per traffic class keeps a list of the streams it serves, ordered by
the launch time of the packet each of them wants sent next. A visit of a stream sends
its packet if it is due, fetches the next one and moves the stream to its new place.

The model is the thread's data and what it exchanges with its surroundings: the packet
pools of the streams, the packets a video stream has queued, and the packets the device
holds until it is done with them. Everything the surroundings decide — what the device
answers, what a stream prepares, when it is activated — is part of an event.

An iterator into the list is a position; `end()` is the length of the list. Packets and
streams are numbered; a packet's number stands for its address.
-/

namespace AvbStreamHandler

open Kit Kit.Word Kit.Cycle

inductive DoneState
  | eNotDone
  | eEndOfWindow
  | eDry
  | eWindowAdjust
  | eTxError
deriving DecidableEq, Repr

/-- One entry of `mSequence`. -/
structure StreamData where
  stream : Nat
  packet : Option Nat := none
  launchTime : Nat := 0
  done : DoneState := .eNotDone
deriving DecidableEq, Repr

/-- The window parameters, with their defaults. -/
structure SequencerConfig where
  txWindowWidthInit : Nat := 24 * 125000
  txWindowWidth : Nat := 24 * 125000
  txWindowPitchInit : Nat := 16 * 125000
  txWindowPitch : Nat := 16 * 125000
  txWindowCueThreshold : Nat := 8 * 125000
  txWindowResetThreshold : Nat := 32 * 125000
  txWindowPrefetchThreshold : Nat := 1000000000
  txWindowMaxResetCount : Nat := 1
  txWindowMaxDropCount : Nat := 8000
  txDelay : Nat := 100000

structure SequencerDiag where
  sent : Nat := 0
  dropped : Nat := 0
  reordered : Nat := 0
  debugSkipCount : Nat := 0
  debugTimingViolation : Nat := 0
  debugLastLaunchTime : Nat := 0

/-- The sequencer and what it exchanges packets with. -/
structure TxWorld where
  mSequence : List StreamData := []
  nextStreamToService : Nat := 0
  /-- The streams the API wants served, in address order. -/
  mActiveStreams : List Nat := []
  mRequestCount : Int := 0
  mResponseCount : Int := 0
  cFlagEndThread : Bool := false
  cFlagRestartThread : Bool := false
  mConfig : SequencerConfig := {}
  mDiag : SequencerDiag := {}
  mUseShaper : Bool := false
  mShaperBwRate : Nat := 100
  mStrictPktOrderEn : Bool := false
  /-- The pool a packet belongs to, named by its stream. -/
  mHome : Nat → Nat
  attime : Nat → Nat := fun _ => 0
  mDummyFlag : Nat → Bool := fun _ => false
  /-- The free packets of a stream's pool, the top of the stack first. -/
  mFreeBufferStack : Nat → List Nat
  mPoolSize : Nat → Nat
  /-- The filled packets a video stream's local buffer holds, the oldest first. -/
  mRing : Nat → List Nat := fun _ => []
  /-- The packets the device has taken and not given back. -/
  device : List Nat := []
  mActive : Nat → Bool := fun _ => false

/-- What a stream's `preparePacket` comes up with. -/
inductive Prepared
  /-- A packet of the pool, filled; `dummy` marks one that only blocks the stream. -/
  | fromPool (attime : Nat) (dummy : Bool)
  /-- The oldest packet the local video buffer has filled. -/
  | fromRing (attime : Nat)
  /-- The oldest filled packet could not be completed and goes back to the pool. -/
  | ringFailed
  /-- Nothing: a packet taken from the pool for it went straight back. -/
  | failed
deriving DecidableEq, Repr

namespace TxWorld

/-! ## The packet pools -/

/-- `doReturnPacket` of the packet's home pool; a stack that already overflowed does not
grow. -/
def returnPacket (w : TxWorld) (p : Nat) : TxWorld :=
  let s := w.mHome p
  { w with
    mDummyFlag := Function.update w.mDummyFlag p false
    mFreeBufferStack :=
      if (w.mFreeBufferStack s).length ≤ w.mPoolSize s then
        Function.update w.mFreeBufferStack s (p :: w.mFreeBufferStack s)
      else w.mFreeBufferStack }

/-- The dispatch of `preparePacket` to the kind of the stream `s`. -/
def preparePacket (w : TxWorld) (s : Nat) : Prepared → TxWorld × Option Nat
  | .fromPool attime dummy =>
      match w.mFreeBufferStack s with
      | [] => (w, none)
      | p :: rest =>
          ({ w with
              mFreeBufferStack := Function.update w.mFreeBufferStack s rest
              attime := Function.update w.attime p attime
              mDummyFlag := Function.update w.mDummyFlag p dummy }, some p)
  | .fromRing attime =>
      match w.mRing s with
      | [] => (w, none)
      | p :: rest =>
          ({ w with
              mRing := Function.update w.mRing s rest
              attime := Function.update w.attime p attime }, some p)
  | .ringFailed =>
      match w.mRing s with
      | [] => (w, none)
      | p :: rest => ({ w with mRing := Function.update w.mRing s rest }.returnPacket p, none)
  | .failed => (w, none)

/-! ## Servicing a stream -/

def EINVAL : Int := 22
def ENXIO : Int := 6
def ENOSPC : Int := 28

/-- Where the service cursor goes after a visit. -/
inductive Advance
  | stay
  | next
  | sortByLaunchTime
deriving DecidableEq, Repr

/-- `deactivate` followed by `activate`. -/
def toggle (w : TxWorld) (s : Nat) : TxWorld :=
  { w with mActive := Function.update w.mActive s true }

/-- What the sequencer records about a packet on its way out. -/
def stampLaunch (w : TxWorld) (cur : StreamData) (p : Nat) : TxWorld :=
  let attime := add64 cur.launchTime w.mConfig.txDelay
  { w with
    attime := Function.update w.attime p attime
    mDiag := { w.mDiag with
      debugTimingViolation :=
        if attime < w.mDiag.debugLastLaunchTime then add32 w.mDiag.debugTimingViolation 1
        else w.mDiag.debugTimingViolation
      debugLastLaunchTime := attime } }

/-- The result of a visit's first half: the entry, whether to fetch, where to go. -/
structure Visit where
  world : TxWorld
  current : StreamData
  fetch : Bool
  advance : Advance := .stay

/-- Hand the packet to the device and act on its answer. -/
def transmit (w : TxWorld) (cur : StreamData) (p : Nat) (result : Int) : Visit :=
  let w := w.stampLaunch cur p
  if result = -EINVAL ∨ result = - ENXIO then
    -- fatal: dispose of the packet
    { world := w.returnPacket p, current := { cur with done := .eTxError }, fetch := false }
  else if result = 0 then
    { world := { w with
        device := p :: w.device
        mDiag := { w.mDiag with sent := add32 w.mDiag.sent 1 } }
      current := cur, fetch := true }
  else if result = ENOSPC then
    { world :=
        if w.mUseShaper ∧ w.mShaperBwRate ≠ 100 then w else { w with cFlagRestartThread := true }
      current := cur, fetch := true }
  else
    -- unknown or non-fatal: try again
    { world := w, current := cur, fetch := false }

/-- Is the entry's packet to be handed to the device in this window? -/
def Due (w : TxWorld) (windowStart p : Nat) : Prop :=
  w.attime p ≤ add64 windowStart w.mConfig.txWindowWidth

instance (w : TxWorld) (windowStart p : Nat) : Decidable (w.Due windowStart p) :=
  inferInstanceAs (Decidable (_ ≤ _))

/-- The first half of a visit: what happens to the packet the entry holds. -/
def sendCurrent (w : TxWorld) (windowStart : Nat) (cur : StreamData) (result : Int) : Visit :=
  match cur.packet with
  | none => { world := w, current := cur, fetch := true }
  | some p =>
      if ¬ w.Due windowStart p then
        { world := w, current := { cur with done := .eEndOfWindow }, fetch := false
          advance := .next }
      else if w.mDummyFlag p then
        { world := w.returnPacket p, current := { cur with packet := none }, fetch := true }
      else w.transmit cur p result

/-- The second half: fetch packets until one is to be kept. What is in the entry when it
starts is overwritten. A stream that has nothing more to offer is dry. -/
def fetchLoop (windowStart droppedOld : Nat) :
    List Prepared → Nat → TxWorld → StreamData → TxWorld × StreamData × Advance
  | [], _, w, cur =>
      (w, { cur with packet := none, launchTime := 0, done := .eDry }, .next)
  | prep :: preps, resetCnt, w, cur =>
      match w.preparePacket cur.stream prep with
      | (w, none) =>
          (w, { cur with packet := none, launchTime := 0, done := .eDry }, .next)
      | (w, some p) =>
          let timeFromWindowStart := toInt64 (sub64 (w.attime p) windowStart)
          let kept := { cur with packet := some p, launchTime := w.attime p }
          let emptied := { kept with packet := none }
          let beyond := w.mConfig.txWindowPrefetchThreshold ≠ 0 ∧
            timeFromWindowStart > toInt64 w.mConfig.txWindowPrefetchThreshold
          if timeFromWindowStart > toInt64 w.mConfig.txWindowWidth ∧ ¬ beyond then
            (w, { kept with done := .eEndOfWindow }, .next)
          else if timeFromWindowStart > toInt64 w.mConfig.txWindowWidth ∨
              timeFromWindowStart < -toInt64 w.mConfig.txWindowResetThreshold then
            -- way beyond or way behind: reset the stream
            let w := (w.returnPacket p).toggle cur.stream
            let resetCnt := add64 resetCnt 1
            if resetCnt ≤ w.mConfig.txWindowMaxResetCount then
              fetchLoop windowStart droppedOld preps resetCnt w emptied
            else (w, { emptied with done := .eDry }, .stay)
          else if timeFromWindowStart < -toInt64 w.mConfig.txWindowCueThreshold then
            -- late: dispose of the packet and try the next one
            let w := w.returnPacket p
            let w := { w with
              mDiag := { w.mDiag with dropped := add32 w.mDiag.dropped 1 } }
            if sub32 w.mDiag.dropped droppedOld ≥ w.mConfig.txWindowMaxDropCount then
              (w.toggle cur.stream, { emptied with done := .eDry }, .stay)
            else fetchLoop windowStart droppedOld preps resetCnt w emptied
          else (w, kept, .sortByLaunchTime)

/-! ## The place of a stream -/

/-- The backward search of `sortByLaunchTime`: the first entry, going back from
`backward`, that holds an earlier launch time, or the start once the circle closes. -/
def searchBackward (l : List StreamData) (c : Nat) (launchTime : Nat) : Nat → Nat → Nat
  | 0, backward => backward
  | n + 1, backward =>
      let backward := prev l.length backward
      match l[backward]? with
      | none => backward
      | some e =>
          if e.launchTime ≠ 0 ∧ launchTime > e.launchTime then backward
          else if backward = c then backward
          else searchBackward l c launchTime n backward

/-- Move the current entry behind the last one to be served before it. -/
def sortByLaunchTime (w : TxWorld) : TxWorld :=
  let c := w.nextStreamToService
  let n := w.mSequence.length
  match w.mSequence[c]? with
  | none => w
  | some cur =>
      let backward := searchBackward w.mSequence c cur.launchTime n c
      if backward = c then w
      else
        let pos := next n backward
        if pos = c then { w with nextStreamToService := next n c }
        else
          { w with
            mSequence := moveBefore w.mSequence c pos cur
            nextStreamToService :=
              let after := if pos ≤ c then c + 1 else c
              if after = n then 0 else after
            mDiag := { w.mDiag with reordered := add32 w.mDiag.reordered 1 } }

/-- Skip the streams that are done already, once around at most. -/
def skipDone (l : List StreamData) (start : Nat) : Nat → Nat → Nat × Nat
  | 0, c => (c, 0)
  | n + 1, c =>
      match l[c]? with
      | none => (c, 0)
      | some e =>
          if e.done = .eNotDone then (c, 0)
          else
            let c' := next l.length c
            if c' = start then (c', 1)
            else
              let r := skipDone l start n c'
              (r.1, r.2 + 1)

/-- Put the entry back and move the cursor as the visit decided. -/
def settle (w : TxWorld) (cur : StreamData) (advance : Advance) : TxWorld :=
  let w := { w with mSequence := w.mSequence.set w.nextStreamToService cur }
  let w := match advance with
    | .stay => w
    | .next => { w with nextStreamToService := next w.mSequence.length w.nextStreamToService }
    | .sortByLaunchTime => w.sortByLaunchTime
  let (c, skipped) :=
    skipDone w.mSequence w.nextStreamToService w.mSequence.length w.nextStreamToService
  { w with
    nextStreamToService := c
    mDiag := { w.mDiag with debugSkipCount := add32 w.mDiag.debugSkipCount skipped } }

/-- One visit of the stream under the cursor. `result` is what the device answers if a
packet is handed to it, `preps` what the stream prepares when it is asked. Without a
stream under the cursor the call is not made. The reported state is the visited entry's,
also when the entry has been moved and its old node is gone. -/
def serviceStream (w : TxWorld) (windowStart : Nat) (result : Int) (preps : List Prepared) :
    TxWorld × DoneState :=
  match w.mSequence[w.nextStreamToService]? with
  | none => (w, .eNotDone)
  | some cur =>
      let v := w.sendCurrent windowStart cur result
      if v.fetch then
        let (w, cur, advance) :=
          fetchLoop windowStart v.world.mDiag.dropped preps 0 v.world v.current
        (w.settle cur advance, cur.done)
      else (v.world.settle v.current v.advance, v.current.done)

/-! ## The sequence follows the active streams -/

/-- An entry that leaves the sequence returns the packet it holds, if any. -/
def returnEntryPacket (w : TxWorld) (e : StreamData) : TxWorld :=
  match e.packet with
  | none => w
  | some p => w.returnPacket p

/-- Where the cursor `c` points when the entry at `i` of `n` is erased: a cursor on the
erased entry moves on, around the end if it must; the last entry leaves `end()`. -/
def cursorAfterErase (n i c : Nat) : Nat :=
  let c := if c = i then next n i else c
  if n = 1 then 0 else if c > i then c - 1 else c

/-- The first half of an update: entries whose stream is not in `temp` (any more) are
erased and their packets returned. `kept` are the entries already looked at. The streams
left over in `temp` are the new ones. -/
def eraseObsolete (kept : List StreamData) :
    List StreamData → List Nat → TxWorld → List Nat × TxWorld
  | [], temp, w => (temp, { w with mSequence := kept })
  | e :: rest, temp, w =>
      if e.stream ∈ temp then eraseObsolete (kept ++ [e]) rest (temp.erase e.stream) w
      else
        eraseObsolete kept rest temp
          { w.returnEntryPacket e with
            nextStreamToService :=
              cursorAfterErase (kept.length + rest.length + 1) kept.length
                w.nextStreamToService }

/-- The second half: a new stream enters at the front, without a packet. -/
def pushFront (w : TxWorld) (stream : Nat) : TxWorld :=
  { w with
    mSequence := { stream := stream } :: w.mSequence
    nextStreamToService :=
      if w.nextStreamToService = w.mSequence.length then 0 else w.nextStreamToService + 1 }

def insertNew (w : TxWorld) (stream : Nat) : TxWorld := (w.pushFront stream).sortByLaunchTime

/-- One round of `updateSequence`, which answers one request. -/
def updateOnce (w : TxWorld) : TxWorld :=
  let (temp, w) := eraseObsolete [] w.mSequence w.mActiveStreams w
  let w := temp.foldl insertNew w
  { w with mResponseCount := w.mResponseCount + 1 }

/-- `updateSequence`: as many rounds as there are requests to answer. -/
def updateSequence (w : TxWorld) : TxWorld :=
  let rounds := (w.mRequestCount - w.mResponseCount).toNat
  let w' := updateOnce^[rounds] w
  if w'.mSequence.length < w.mSequence.length then
    { w' with mConfig := { w'.mConfig with
        txWindowWidth := w'.mConfig.txWindowWidthInit
        txWindowPitch := w'.mConfig.txWindowPitchInit } }
  else w'

/-! ## The thread and its surroundings -/

/-- Before a cycle every stream is to be serviced. -/
def beginCycle (w : TxWorld) : TxWorld :=
  { w with mSequence := w.mSequence.map fun e => { e with done := .eNotDone } }

/-- After a cycle the strict order sorts the whole list. -/
def endCycle (w : TxWorld) : TxWorld :=
  if w.mStrictPktOrderEn then
    { w with
      mSequence := w.mSequence.mergeSort fun a b => decide (a.launchTime ≤ b.launchTime)
      nextStreamToService := 0 }
  else w

/-- The acknowledged restart: every active stream is reset and the last answer is taken
back, so that the sequence is updated again. -/
def restartThread (w : TxWorld) : TxWorld :=
  { w.mActiveStreams.foldl toggle w with
    cFlagRestartThread := false, mResponseCount := w.mResponseCount - 1 }

/-- The entries' packets go back to their pools. -/
def returnHeld (w : TxWorld) : List StreamData → TxWorld
  | [] => w
  | e :: rest => (w.returnEntryPacket e).returnHeld rest

/-- The end of the thread: whatever the sequence holds is returned. -/
def endThread (w : TxWorld) : TxWorld :=
  { w.returnHeld w.mSequence with mSequence := [], nextStreamToService := 0 }

/-- The start of the thread. -/
def startThread (w : TxWorld) : TxWorld :=
  { w with
    cFlagEndThread := false
    cFlagRestartThread := false
    nextStreamToService := w.mSequence.length
    mRequestCount := w.mRequestCount + 1
    mConfig := { w.mConfig with
      txWindowWidth := w.mConfig.txWindowWidthInit
      txWindowPitch := w.mConfig.txWindowPitchInit } }

/-- The list part of `addStreamToTransmitList`. -/
def addStream (w : TxWorld) (s : Nat) : TxWorld :=
  { w with
    mActiveStreams :=
      if s ∈ w.mActiveStreams then w.mActiveStreams else w.mActiveStreams.orderedInsert (· ≤ ·) s
    mRequestCount := w.mRequestCount + 1 }

/-- The list part of `removeStreamFromTransmitList`. -/
def removeStream (w : TxWorld) (s : Nat) : TxWorld :=
  { w with
    mActiveStreams := w.mActiveStreams.erase s
    mRequestCount := w.mRequestCount + 1 }

/-- The device is done with a packet and the reclaim returns it. -/
def reclaimPacket (w : TxWorld) (p : Nat) : TxWorld :=
  if p ∈ w.device then { w with device := w.device.erase p }.returnPacket p else w

/-- A local video buffer fills a packet of its stream's pool. -/
def fillRing (w : TxWorld) (s : Nat) : TxWorld :=
  match w.mFreeBufferStack s with
  | [] => w
  | p :: rest =>
      { w with
        mFreeBufferStack := Function.update w.mFreeBufferStack s rest
        mRing := Function.update w.mRing s (w.mRing s ++ [p]) }

/-- One thing that happens. -/
inductive Event
  | service (windowStart : Nat) (result : Int) (preps : List Prepared)
  | update
  | beginCycle
  | endCycle
  | restart
  | endThread
  | startThread
  | add (stream : Nat)
  | remove (stream : Nat)
  | reclaim (packet : Nat)
  | fillRing (stream : Nat)

def step (w : TxWorld) : Event → TxWorld
  | .service windowStart result preps => (w.serviceStream windowStart result preps).1
  | .update => w.updateSequence
  | .beginCycle => w.beginCycle
  | .endCycle => w.endCycle
  | .restart => w.restartThread
  | .endThread => w.endThread
  | .startThread => w.startThread
  | .add s => w.addStream s
  | .remove s => w.removeStream s
  | .reclaim p => w.reclaimPacket p
  | .fillRing s => w.fillRing s

end TxWorld

end AvbStreamHandler
