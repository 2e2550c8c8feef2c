import AvbStreamHandler.Audio.AvbAudioStreamRuns
import AvbStreamHandler.Audio.ChannelAlignment
import AvbStreamHandler.Kit.Mutex

/-!
# The lock of a receive stream

`IasAvbAudioStream::mLock` is not recursive. It is held while a packet is read, while the
stream is activated or deactivated and while it is connected, and each of these calls the
local stream. The local stream calls back: it tells its client of overruns and underruns, and
on an underrun a receive stream takes the lock.

What a local stream does is the business of `LocalAudioStream`. Here is what it tells its
client on the way, and in which state its buffers were reset: every function is gone through
a second time, for its activities.
-/

namespace AvbStreamHandler

open Kit Kit.Mutex IasAvbProcessingResult IasAvbStreamState

/-- What can be noticed of a call: that the client is told something, and that the buffers
are reset, and in which state the stream is then. -/
inductive Activity
  | signalDiscontinuity (event : DiscontinuityEvent)
  | resetBuffers (stream : IasLocalAudioStream)

namespace IasLocalAudioStream

variable (e : Estimates) (t : TimeBase)

/-- An active client is told. -/
def signal (s : IasLocalAudioStream) (event : DiscontinuityEvent) : List Activity :=
  if s.mClientState = .eIasActive then [.signalDiscontinuity event] else []

/-- `readLocalAudioBuffer`: a read that was let through and delivers nothing is an underrun. -/
def readActivity (s : IasLocalAudioStream) (ch bufferSize samplesRead : Nat) : List Activity :=
  match s.mChannelBuffers[ch]? with
  | none => []
  | some b =>
      if s.mSampleFrequency = 0 ∨ bufferSize = 0 then []
      else if s.hasBufferDesc = true ∧ b.mReadReady = false then []
      else if (s.readLocalAudioBuffer e ch bufferSize samplesRead).samplesRead = 0 then
        s.signal .eIasUnderrun
      else []

/-- The round of `resetBuffers` for one channel. -/
def resetChannelActivity (s : IasLocalAudioStream) (ch : Nat) : List Activity :=
  match s.mChannelBuffers[ch]? with
  | none => []
  | some b =>
      if s.mOptimalFillLevel < b.getFillLevel then
        s.readActivity e ch (b.getFillLevel - s.mOptimalFillLevel) 0
      else []

/-- A round of the loop, with what happened in the rounds before. -/
def resetRound (r : IasLocalAudioStream × List Activity) (ch : Nat) :
    IasLocalAudioStream × List Activity :=
  (resetChannel e r.1 ch, r.2 ++ r.1.resetChannelActivity e ch)

/-- `resetBuffers`. -/
def resetActivity (s : IasLocalAudioStream) : List Activity :=
  .resetBuffers s ::
    if s.hasBufferDesc then ((List.range s.numChannels).foldl (resetRound e) (s, [])).2 else []

/-- An overrun: the client of a receive stream asks for a reset. -/
def overrunActivity (s : IasLocalAudioStream) : List Activity :=
  s.signal .eIasOverrun ++ if s.ResetsOnOverrun then s.resetActivity e else []

/-- `setClientActive`. -/
def clientActivity (s : IasLocalAudioStream) (active : Bool) : List Activity :=
  if active = false ∨ s.mClientState = .eIasNotConnected then []
  else
    let s := s.refreshSyncStart
    if s.mClientState = .eIasActive then []
    else
      let s := s.setClientState .eIasActive
      if s.mAlsaRxSyncStart then [] else s.resetActivity e

/-- The check for an overrun on channel 0. -/
def prepareActivity (s : IasLocalAudioStream) (ch bufferSize : Nat) : List Activity :=
  if s.hasBufferDesc = true ∧ ch = 0 then
    match s.mChannelBuffers[0]? with
    | none => []
    | some b => if predictedRoom b < bufferSize then s.overrunActivity e else []
  else []

/-- The write proper. -/
def storeActivity (s : IasLocalAudioStream) (ch : Nat) (buffer : Nat → AudioData)
    (bufferSize : Nat) : List Activity :=
  match s.mChannelBuffers[ch]? with
  | none => []
  | some b =>
      let (b, n) := b.write buffer bufferSize
      if bufferSize ≠ n % 65536 then (s.setChannel ch b).overrunActivity e else []

/-- `writeLocalAudioBuffer`. -/
def writeActivity (s : IasLocalAudioStream) (ch : Nat) (buffer : Nat → AudioData)
    (bufferSize : Nat) : List Activity :=
  if s.mSampleFrequency = 0 then []
  else if s.numChannels ≤ ch ∨ bufferSize = 0 then []
  else if s.mWorkerRunning then
    s.prepareActivity e ch bufferSize
      ++ (s.prepare e ch bufferSize).storeActivity e ch buffer bufferSize
  else []

/-- `updateBufferStatus`. -/
def statusActivity (s : IasLocalAudioStream) : List Activity :=
  match s.mChannelBuffers[0]? with
  | none => []
  | some b =>
      if b.getFillLevel = b.mTotalSize then s.overrunActivity e
      else if b.getFillLevel = 0 then s.signal .eIasUnderrun
      else []

/-- One of the calls a received packet leads to; a flush is silent. -/
def callActivity (s : IasLocalAudioStream) : LocalAudioCall → List Activity
  | .resetBuffers => []
  | .writeLocalAudioBuffer ch samples _ =>
      s.writeActivity e ch (fun i => samples.getD i 0) samples.length

/-- A call, after others. -/
def performNoting (r : IasLocalAudioStream × List Activity) (call : LocalAudioCall) :
    IasLocalAudioStream × List Activity :=
  (perform e t r.1 call, r.2 ++ r.1.callActivity e call)

/-- The calls of a packet, one after the other. -/
def performAll (s : IasLocalAudioStream) (calls : List LocalAudioCall) :
    IasLocalAudioStream × List Activity :=
  calls.foldl (performNoting e t) (s, [])

end IasLocalAudioStream

/-- The call of `setClientActive` that a verdict leads to. -/
def RxStream.clientCall {L : Type} (s : RxStream L) (newState : IasAvbStreamState) :
    Option Bool :=
  if s.isConnected = false then none
  else if newState = eIasAvbStreamValid then
    if s.mValidationCount = 1 then some true else none
  else if s.mStreamStateInternal = eIasAvbStreamValid then some false
  else none

/-- What a receive stream does with its lock in `signalDiscontinuity`. -/
def Activity.lockOps : Activity → List Op
  | .signalDiscontinuity .eIasUnderrun => guarded []
  | _ => []

/-- A receive stream with its local stream, which is looked at only while it is connected. -/
structure AudioListener where
  config : AvbAudioConfig
  rx : RxStream LocalAudioStream
  localStream : IasLocalAudioStream

inductive ListenerCall
  /-- A packet, or none for a while. -/
  | readFromAvbPacket (packet : Option Bytes) (length : Nat) (t : TimeBase)
  | setActive (active : Bool)
  /-- `connectTo` with another local stream, in whatever state that is, or with null. -/
  | connectTo (localStream : Option (IasLocalAudioStream × LocalAudioStream))
  | copyJob (reads : BufferControl → List (Nat × Nat)) (descQ : IasLocalAudioBufferDesc)
  | copyReset
  | updateBufferStatus
  | setWorkerActive (active : Bool)

namespace AudioListener

variable (e : Estimates)

def setLocal (w : AudioListener) (s : IasLocalAudioStream) : AudioListener :=
  { w with localStream := s }

def setRx (w : AudioListener) (rx : RxStream LocalAudioStream) : AudioListener :=
  { w with rx := rx }

/-- `setClientActive` of the local stream. -/
def callClient (w : AudioListener) : Option Bool → AudioListener
  | none => w
  | some true => w.setLocal (w.localStream.setClientActive e)
  | some false => w.setLocal w.localStream.setClientIdle

def callClientActivity (w : AudioListener) : Option Bool → List Activity
  | none => []
  | some active => w.localStream.clientActivity e active

/-- The verdict on a packet. -/
def newState (w : AudioListener) (packet : Option Bytes) (length : Nat) : IasAvbStreamState :=
  match packet with
  | none => eIasAvbStreamNoData
  | some packet =>
      w.rx.verdict w.config.toRxConfig (w.config.headerOk packet length) (packet 2)

/-- `readFromAvbPacket`. The local stream is activated or deactivated before it gets the
samples. -/
def readFromAvbPacket (w : AudioListener) (packet : Option Bytes) (length : Nat)
    (t : TimeBase) : AudioListener × List Activity :=
  let read := w.config.readFromAvbPacket w.rx packet length
  let call := w.rx.clientCall (w.newState packet length)
  let delivered := (w.callClient e call).localStream.performAll e t read.2
  ((w.setRx read.1).setLocal delivered.1, w.callClientActivity e call ++ delivered.2)

/-- `activate` and `deactivate`, with `activationChanged`. -/
def activationChanged (w : AudioListener) (active : Bool) : AudioListener × List Activity :=
  let call := if w.rx.isConnected then some active else none
  ((w.setRx (if active then w.rx.activate else w.rx.deactivate)).callClient e call,
    w.callClientActivity e call)

/-- `connectTo`. A receive stream sets its new local stream to inactive. -/
def connectTo (w : AudioListener) (localStream : Option (IasLocalAudioStream × LocalAudioStream)) :
    AudioListener :=
  let w := w.setRx { w.rx with mLocalStream := none, clientActive := false }
  match localStream with
  | none => w.setLocal w.localStream.disconnect
  | some (s, l) =>
      if AvbAudioConfig.connectable w.config l = true ∧ s.isReceive = true
          ∧ s.mClientState = .eIasNotConnected then
        (w.setRx { w.rx with mLocalStream := some l }).setLocal s.connect.setClientIdle
      else w

/-- The stream takes note of what it is told. -/
def note (w : AudioListener) : Activity → AudioListener
  | .signalDiscontinuity event =>
      w.setRx (AvbAudioConfig.signalDiscontinuity w.rx event).2
  | .resetBuffers _ => w

/-- A call, with what the thread that makes it does with the lock. A thread that locks it twice
does not come back, and the state after that does not matter. -/
def act (w : AudioListener) : ListenerCall → AudioListener × List Op
  | .readFromAvbPacket packet length t =>
      let r := w.readFromAvbPacket e packet length t
      (r.1, guarded (r.2.flatMap Activity.lockOps))
  | .setActive active =>
      if w.rx.mActive = active then (w, [])
      else
        let r := w.activationChanged e active
        (r.1, guarded (r.2.flatMap Activity.lockOps))
  | .connectTo localStream => (w.connectTo localStream, guarded [])
  | .copyJob reads descQ => (w.setLocal (w.localStream.copyJob reads descQ), [])
  | .copyReset => (w.setLocal w.localStream.flush, [])
  | .updateBufferStatus =>
      (((w.localStream.statusActivity e).foldl note w).setLocal
          (w.localStream.updateBufferStatus e),
        (w.localStream.statusActivity e).flatMap Activity.lockOps)
  | .setWorkerActive active => (w.setLocal (w.localStream.setWorkerActive active), [])

def step (w : AudioListener) (call : ListenerCall) : AudioListener := (w.act e call).1

end AudioListener

end AvbStreamHandler
