import AvbStreamHandler.Audio.AvbAudioStream
import AvbStreamHandler.Audio.LocalAudioBufferControl
import Mathlib.Data.List.DropRight

/-!
# The local audio stream

`IasLocalAudioStream`, with `resetBuffers` of the ALSA streams: one ring buffer for each
channel, and between them and the AVB stream a routine that writes to one channel and one
that reads from one. In time-aware mode a queue of descriptors says at what time the samples
are due. A descriptor covers one period; it is put together from what arrives on the last
channel, and goes once its samples are read on the last channel.

An overrun or underrun is signalled to the client, the AVB stream that is connected. The
client of a receive stream asks for a reset of all buffers on an overrun, and turns the local
stream idle on an underrun; the client of a transmit stream does neither.

What the time base says, and what is calculated in floating point, is part of the call.
-/

namespace AvbStreamHandler

open Kit Kit.Word IasAvbProcessingResult

/-- `AudioBufferDesc`. -/
structure AudioBufferDesc where
  timeStamp : Nat := 0
  bufIndex : Nat := 0
  sampleCnt : Nat := 0
deriving DecidableEq, Repr

/-- The first position behind the samples of a descriptor. -/
def AudioBufferDesc.endIndex (d : AudioBufferDesc) : Nat := add64 d.bufIndex d.sampleCnt

/-- The queue of descriptors; the youngest comes first. -/
structure IasLocalAudioBufferDesc where
  mDescQ : List AudioBufferDesc := []
  mDescQsz : Nat
  mResetRequest : Bool := false
  mAlsaRxSyncStart : Bool := false
deriving DecidableEq, Repr

namespace IasLocalAudioBufferDesc

def setDescQ (q : IasLocalAudioBufferDesc) (l : List AudioBufferDesc) : IasLocalAudioBufferDesc :=
  { q with mDescQ := l }

/-- The oldest descriptor makes room in a full queue. -/
def enqueue (q : IasLocalAudioBufferDesc) (desc : AudioBufferDesc) : IasLocalAudioBufferDesc :=
  q.setDescQ (desc :: if q.mDescQsz ≤ q.mDescQ.length then q.mDescQ.dropLast else q.mDescQ)

def dequeue (q : IasLocalAudioBufferDesc) : IasLocalAudioBufferDesc := q.setDescQ q.mDescQ.dropLast

/-- The descriptor `index` places behind the oldest. -/
def peekX (q : IasLocalAudioBufferDesc) (index : Nat) : Option AudioBufferDesc :=
  if index < q.mDescQ.length then q.mDescQ[q.mDescQ.length - 1 - index]? else none

def peek (q : IasLocalAudioBufferDesc) : Option AudioBufferDesc := q.peekX 0

def reset (q : IasLocalAudioBufferDesc) : IasLocalAudioBufferDesc :=
  { q with mDescQ := [], mResetRequest := true }

/-- `getResetRequest` takes the request back. -/
def takeResetRequest (q : IasLocalAudioBufferDesc) : IasLocalAudioBufferDesc :=
  { q with mResetRequest := false }

/-- The loop that deletes the descriptors whose samples are all read. -/
def dropUsed (q : IasLocalAudioBufferDesc) (readIndex : Nat) : IasLocalAudioBufferDesc :=
  q.setDescQ (q.mDescQ.rdropWhile fun desc => decide (desc.endIndex ≤ readIndex))

end IasLocalAudioBufferDesc

inductive ClientState
  | eIasNotConnected
  | eIasIdle
  | eIasActive
deriving DecidableEq, Repr

/-- What is calculated in floating point: the time that `samples` samples take if `count` of
them take `span`, and the time they take at the nominal rate. -/
structure Estimates where
  scale : Nat → Nat → Nat → Nat
  nominal : Nat → Nat → Nat

/-- The same in whole nanoseconds. -/
def Estimates.wholeNanoseconds : Estimates where
  scale span count samples := span * samples / count
  nominal samples frequency := samples * 1000000000 / frequency

/-- What the time base says during a call. -/
structure TimeBase where
  epochCounter : Nat
  localTime : Nat

structure IasLocalAudioStream where
  mChannelBuffers : List IasLocalAudioBuffer
  /-- `hasBufferDesc()`: the time-aware mode. -/
  hasBufferDesc : Bool
  /-- The direction is `eIasAvbReceiveFromNetwork`. -/
  isReceive : Bool
  mSampleFrequency : Nat
  mBufferDescQ : IasLocalAudioBufferDesc
  mClientState : ClientState := .eIasNotConnected
  mWorkerRunning : Bool := true
  mOptimalFillLevel : Nat
  mAlsaRxSyncStart : Bool
  mPeriodSz : Nat
  mLaunchTimeDelay : Nat
  mAudioRxDelay : Nat
  mEpoch : Nat := 0
  mLastTimeStamp : Nat := 0
  mLastSampleCnt : Nat := 0
  mPendingSamples : Nat := 0
  mPendingDesc : AudioBufferDesc := {}

namespace IasLocalAudioStream

/-! ## Parts of the state -/

def numChannels (s : IasLocalAudioStream) : Nat := s.mChannelBuffers.length

def setBuffers (s : IasLocalAudioStream) (l : List IasLocalAudioBuffer) : IasLocalAudioStream :=
  { s with mChannelBuffers := l }

def setChannel (s : IasLocalAudioStream) (ch : Nat) (b : IasLocalAudioBuffer) :
    IasLocalAudioStream :=
  s.setBuffers (s.mChannelBuffers.set ch b)

def setDescQ (s : IasLocalAudioStream) (q : IasLocalAudioBufferDesc) : IasLocalAudioStream :=
  { s with mBufferDescQ := q }

def setClientState (s : IasLocalAudioStream) (state : ClientState) : IasLocalAudioStream :=
  { s with mClientState := state }

/-- All channels are reset, and the descriptors are gone. -/
def flush (s : IasLocalAudioStream) : IasLocalAudioStream :=
  (s.setBuffers (s.mChannelBuffers.map (IasLocalAudioBuffer.reset · 0))).setDescQ
    s.mBufferDescQ.reset

/-- `init`, when all allocations succeed; the read threshold and the delays are what the
registry says. The queue has one place more than the ring has periods. -/
def init (numChannels totalSize sampleFrequency periodSz readThreshold launchTimeDelay audioRxDelay
    optimalFillLevel : Nat) (timeAware receive syncStart : Bool) (heap : Nat → Nat → AudioData) :
    IasLocalAudioStream where
  mChannelBuffers := (List.range numChannels).map fun ch =>
    { IasLocalAudioBuffer.init (totalSize + 1) (decide (ch = 0)) (heap ch) with
      mReadThreshold := readThreshold }
  hasBufferDesc := timeAware
  isReceive := receive
  mSampleFrequency := sampleFrequency
  mBufferDescQ := {
    mDescQsz := add32 totalSize (periodSz - 1) / periodSz + 1
    mAlsaRxSyncStart := syncStart }
  mOptimalFillLevel := optimalFillLevel
  mAlsaRxSyncStart := timeAware && receive && syncStart
  mPeriodSz := periodSz
  mLaunchTimeDelay := launchTimeDelay
  mAudioRxDelay := audioRxDelay

/-! ## The client -/

/-- `connect`, for a receive stream. -/
def connect (s : IasLocalAudioStream) : IasLocalAudioStream :=
  if s.mClientState = .eIasNotConnected then s.setClientState .eIasIdle else s

def disconnect (s : IasLocalAudioStream) : IasLocalAudioStream := s.setClientState .eIasNotConnected

/-- The start option may have been taken back by the ALSA worker. -/
def refreshSyncStart (s : IasLocalAudioStream) : IasLocalAudioStream :=
  if s.mAlsaRxSyncStart && s.hasBufferDesc && s.isReceive then
    { s with mAlsaRxSyncStart := s.mBufferDescQ.mAlsaRxSyncStart }
  else s

/-- `setClientActive(false)`. -/
def setClientIdle (s : IasLocalAudioStream) : IasLocalAudioStream :=
  if s.mClientState = .eIasNotConnected then s
  else
    let s := s.refreshSyncStart.setClientState .eIasIdle
    if s.mAlsaRxSyncStart then s.flush else s

/-- An underrun: the client of a receive stream turns the local stream idle, and asks for no
reset. -/
def signalUnderrun (s : IasLocalAudioStream) : IasLocalAudioStream :=
  if s.mClientState = .eIasActive ∧ s.isReceive = true then s.setClientIdle else s

/-- The client asks for a reset on an overrun. -/
def ResetsOnOverrun (s : IasLocalAudioStream) : Prop :=
  s.mClientState = .eIasActive ∧ s.isReceive = true

instance (s : IasLocalAudioStream) : Decidable s.ResetsOnOverrun :=
  inferInstanceAs (Decidable (_ ∧ _))

/-! ## Reading -/

/-- What a call of `readLocalAudioBuffer` comes to. -/
structure ReadResult where
  error : IasAvbProcessingResult := eIasAvbProcOK
  samples : List AudioData := []
  samplesRead : Nat
  timeStamp : Nat := 0
  stream : IasLocalAudioStream

/-- The time of the sample at `readIndex`, by the descriptor that covers it. -/
def timeOfSample (s : IasLocalAudioStream) (e : Estimates) (desc : AudioBufferDesc)
    (readIndex : Nat) : Nat :=
  let timeStamp := add64 desc.timeStamp s.mLaunchTimeDelay
  if readIndex = desc.bufIndex then timeStamp
  else
    let samplesSent := sub64 readIndex desc.bufIndex
    match s.mBufferDescQ.peekX 1 with
    | some descY =>
        if desc.timeStamp < descY.timeStamp ∧ desc.bufIndex < descY.bufIndex then
          add64 timeStamp (e.scale (descY.timeStamp - desc.timeStamp)
            (descY.bufIndex - desc.bufIndex) samplesSent)
        else add64 timeStamp (e.nominal samplesSent s.mSampleFrequency)
    | none => add64 timeStamp (e.nominal samplesSent s.mSampleFrequency)

/-- The time-aware read of a channel that is ready. Without a descriptor nothing is read, and
the count stays what the caller passed. -/
def readTimeAware (s : IasLocalAudioStream) (e : Estimates) (ch : Nat) (b : IasLocalAudioBuffer)
    (bufferSize samplesRead : Nat) : ReadResult :=
  match s.mBufferDescQ.peek with
  | none => { samplesRead := samplesRead, stream := s }
  | some desc =>
      let readIndex := b.mMonotonicReadIndex
      let (b, samples) := b.read bufferSize
      let s' := s.setChannel ch b
      let last := decide (ch = s.numChannels - 1)
      if desc.bufIndex ≤ readIndex ∧ readIndex < desc.endIndex then
        { samples := samples, samplesRead := samples.length % 65536
          timeStamp := s.timeOfSample e desc readIndex
          stream :=
            if last then s'.setDescQ (s.mBufferDescQ.dropUsed b.mMonotonicReadIndex) else s' }
      else
        -- the descriptor does not cover the sample
        { samples := samples, samplesRead := samples.length % 65536
          stream := if last then s'.setDescQ s.mBufferDescQ.dequeue else s' }

/-- A read of nothing is an underrun. -/
def noteUnderrun (r : ReadResult) : ReadResult :=
  if r.samplesRead = 0 then { r with stream := r.stream.signalUnderrun } else r

def readLocalAudioBuffer (s : IasLocalAudioStream) (e : Estimates)
    (ch bufferSize samplesRead : Nat) : ReadResult :=
  if s.mSampleFrequency = 0 then
    { error := eIasAvbProcNotInitialized, samplesRead := samplesRead, stream := s }
  else
    match s.mChannelBuffers[ch]? with
    | none => { error := eIasAvbProcInvalidParam, samplesRead := samplesRead, stream := s }
    | some b =>
        if bufferSize = 0 then
          { error := eIasAvbProcInvalidParam, samplesRead := samplesRead, stream := s }
        else if s.hasBufferDesc then
          if b.mReadReady then noteUnderrun (s.readTimeAware e ch b bufferSize samplesRead)
          else { samplesRead := 0, stream := s }
        else
          let (b, samples) := b.read bufferSize
          noteUnderrun {
            samples := samples, samplesRead := samples.length % 65536, stream := s.setChannel ch b }

/-! ## Resetting -/

/-- One channel of a time-aware reset: what is more than the optimal fill is read. -/
def resetChannel (e : Estimates) (s : IasLocalAudioStream) (ch : Nat) : IasLocalAudioStream :=
  match s.mChannelBuffers[ch]? with
  | none => s
  | some b =>
      if s.mOptimalFillLevel < b.getFillLevel then
        (s.readLocalAudioBuffer e ch (b.getFillLevel - s.mOptimalFillLevel) 0).stream
      else s

/-- `resetBuffers` of the ALSA streams. -/
def resetBuffers (s : IasLocalAudioStream) (e : Estimates) : IasLocalAudioStream :=
  if s.hasBufferDesc then (List.range s.numChannels).foldl (resetChannel e) s
  else s.setBuffers (s.mChannelBuffers.map (IasLocalAudioBuffer.reset · s.mOptimalFillLevel))

/-- `setClientActive(true)`. -/
def setClientActive (s : IasLocalAudioStream) (e : Estimates) : IasLocalAudioStream :=
  if s.mClientState = .eIasNotConnected then s
  else
    let s := s.refreshSyncStart
    if s.mClientState = .eIasActive then s
    else
      let s := s.setClientState .eIasActive
      let s := if s.mAlsaRxSyncStart then s else s.resetBuffers e
      let s := { s with mLastTimeStamp := 0, mEpoch := 0 }
      if s.hasBufferDesc && !s.isReceive then s.flush else s

/-- `setWorkerActive`. -/
def setWorkerActive (s : IasLocalAudioStream) (active : Bool) : IasLocalAudioStream :=
  if s.hasBufferDesc then
    if active = false ∧ s.isReceive = true then flush { s with mWorkerRunning := active }
    else { s with mWorkerRunning := active }
  else s

/-! ## Writing -/

/-- A 64-bit time without its lower half. -/
def upperHalf (t : Nat) : Nat := t - t % 4294967296

/-- A 32-bit difference that reads as positive. -/
def laterThan (a b : Nat) : Bool := decide (0 < sub32 a b) && decide (sub32 a b < 2147483648)

/-- `updateRxTimestamp`: the time stamp of a packet, expanded to 64 bits. -/
def updateRxTimestamp (s : IasLocalAudioStream) (t : TimeBase) (timestamp : Nat) :
    IasLocalAudioStream :=
  if s.mLastTimeStamp = 0 ∨ t.epochCounter ≠ s.mEpoch then
    let expanded := add64 (upperHalf t.localTime) timestamp
    { s with
      mEpoch := t.epochCounter
      mLastTimeStamp :=
        if laterThan timestamp (t.localTime % 4294967296)
            && decide (timestamp < t.localTime % 4294967296) then
          add64 expanded 4294967296
        else expanded }
  else if s.mLastTimeStamp % 4294967296 < timestamp then
    { s with mLastTimeStamp := add64 (upperHalf s.mLastTimeStamp) timestamp }
  else
    { s with
      mLastTimeStamp := add64 (upperHalf (add64 s.mLastTimeStamp 4294967296)) timestamp }

def setPending (s : IasLocalAudioStream) (desc : AudioBufferDesc) (pending lastCnt : Nat) :
    IasLocalAudioStream :=
  { s with mPendingDesc := desc, mPendingSamples := pending, mLastSampleCnt := lastCnt }

/-- A pending reset of the descriptors takes the pending descriptor along. -/
def answerResetRequest (s : IasLocalAudioStream) : IasLocalAudioStream :=
  if s.mBufferDescQ.mResetRequest then
    ({ s with mEpoch := 0, mLastTimeStamp := 0 }.setPending {} 0 0).setDescQ
      s.mBufferDescQ.takeResetRequest
  else s

/-- The room on channel 0, as the check before the write sees it. -/
def predictedRoom (b : IasLocalAudioBuffer) : Nat :=
  sub32 (sub32 b.mTotalSize b.getFillLevel) 1 % 65536

/-- In time-aware mode an overrun on channel 0 is dealt with before the write. -/
def prepareFirst (s : IasLocalAudioStream) (e : Estimates) (bufferSize : Nat) :
    IasLocalAudioStream :=
  match s.mChannelBuffers[0]? with
  | none => s
  | some b =>
      if predictedRoom b < bufferSize ∧ s.ResetsOnOverrun then
        (s.resetBuffers e).answerResetRequest
      else s.answerResetRequest

/-- The pending descriptor takes the samples that were written. -/
def extendPending (s : IasLocalAudioStream) (e : Estimates) (t : TimeBase)
    (monotonicWriteIndex written timestamp : Nat) : IasLocalAudioStream :=
  if s.mPendingDesc.timeStamp = 0 then
    let prev := s.mLastTimeStamp
    let s := s.updateRxTimestamp t timestamp
    let now := s.mLastTimeStamp
    if s.mPendingDesc.sampleCnt = 0 then
      s.setPending
        { timeStamp := add64 now s.mAudioRxDelay
          bufIndex := sub64 monotonicWriteIndex written
          sampleCnt := written } s.mPendingSamples s.mLastSampleCnt
    else
      let timeOffset :=
        if prev < now ∧ s.mPendingDesc.sampleCnt < s.mLastSampleCnt then
          e.scale (now - prev) s.mLastSampleCnt (s.mLastSampleCnt - s.mPendingDesc.sampleCnt)
        else 0
      s.setPending
        { s.mPendingDesc with
          timeStamp := add64 (add64 prev timeOffset) s.mAudioRxDelay
          sampleCnt := add32 s.mPendingDesc.sampleCnt written }
        s.mPendingSamples s.mLastSampleCnt
  else
    s.setPending { s.mPendingDesc with sampleCnt := add32 s.mPendingDesc.sampleCnt written }
      s.mPendingSamples s.mLastSampleCnt

/-- The period is full: its descriptor goes into the queue, and what is too much starts the
next one. -/
def completePending (s : IasLocalAudioStream) (t : TimeBase)
    (monotonicWriteIndex bufferSize timestamp : Nat) : IasLocalAudioStream :=
  let overflow := s.mPendingSamples - s.mPeriodSz
  let s := s.setDescQ (s.mBufferDescQ.enqueue { s.mPendingDesc with sampleCnt := s.mPeriodSz })
  if overflow = 0 then s.setPending {} 0 0
  else
    (s.updateRxTimestamp t timestamp).setPending
      { bufIndex := sub64 monotonicWriteIndex overflow, sampleCnt := overflow } overflow bufferSize

/-- The descriptors keep up with what was written on the last channel. -/
def describe (s : IasLocalAudioStream) (e : Estimates) (t : TimeBase)
    (monotonicWriteIndex bufferSize written timestamp : Nat) : IasLocalAudioStream :=
  let s := s.extendPending e t monotonicWriteIndex written timestamp
  let s := s.setPending s.mPendingDesc (add32 s.mPendingSamples bufferSize) s.mLastSampleCnt
  if s.mPeriodSz ≤ s.mPendingSamples then
    s.completePending t monotonicWriteIndex bufferSize timestamp
  else s

/-- What a call of `writeLocalAudioBuffer` comes to. -/
structure WriteResult where
  error : IasAvbProcessingResult := eIasAvbProcOK
  samplesWritten : Nat
  stream : IasLocalAudioStream

/-- The write proper. What does not fit is an overrun. -/
def storeChannel (s : IasLocalAudioStream) (e : Estimates) (t : TimeBase) (ch : Nat)
    (buffer : Nat → AudioData) (bufferSize samplesWritten timestamp : Nat) : WriteResult :=
  match s.mChannelBuffers[ch]? with
  | none => { samplesWritten := samplesWritten, stream := s }
  | some b =>
      let (b, n) := b.write buffer bufferSize
      let written := n % 65536
      let s := s.setChannel ch b
      if bufferSize ≠ written ∧ s.mClientState = .eIasActive then
        { samplesWritten := written, stream := if s.isReceive then s.resetBuffers e else s }
      else if s.hasBufferDesc ∧ written ≠ 0 ∧ ch = s.numChannels - 1 then
        { samplesWritten := written
          stream := s.describe e t b.mMonotonicWriteIndex bufferSize written timestamp }
      else { samplesWritten := written, stream := s }

/-- What happens before the write to a channel. -/
def prepare (s : IasLocalAudioStream) (e : Estimates) (ch bufferSize : Nat) : IasLocalAudioStream :=
  if s.hasBufferDesc && decide (ch = 0) then s.prepareFirst e bufferSize else s

def writeLocalAudioBuffer (s : IasLocalAudioStream) (e : Estimates) (t : TimeBase) (ch : Nat)
    (buffer : Nat → AudioData) (bufferSize samplesWritten timestamp : Nat) : WriteResult :=
  if s.mSampleFrequency = 0 then
    { error := eIasAvbProcNotInitialized, samplesWritten := samplesWritten, stream := s }
  else if s.numChannels ≤ ch ∨ bufferSize = 0 then
    { error := eIasAvbProcInvalidParam, samplesWritten := samplesWritten, stream := s }
  else if s.mWorkerRunning then
    (s.prepare e ch bufferSize).storeChannel e t ch buffer bufferSize samplesWritten timestamp
  else { samplesWritten := samplesWritten, stream := s }

/-! ## What the ALSA worker does -/

/-- What a job reads of one channel: numbers of samples, and strides. -/
def readAll (b : IasLocalAudioBuffer) (reads : List (Nat × Nat)) : IasLocalAudioBuffer :=
  reads.foldl (fun b r => (b.readStrided r.1 r.2).1) b

/-- `copyJob` without a reset. How often and how much it reads of a channel is up to the time,
the descriptors and the shared memory, and to the bookkeeping of the channel; of the
descriptors some are gone afterwards. -/
def copyJob (s : IasLocalAudioStream) (reads : BufferControl → List (Nat × Nat))
    (descQ : IasLocalAudioBufferDesc) : IasLocalAudioStream :=
  (s.setBuffers (s.mChannelBuffers.map fun b => readAll b (reads b.control))).setDescQ descQ

/-- `updateBufferStatus`: the ALSA worker looks at the fill of channel 0 after its job. -/
def updateBufferStatus (s : IasLocalAudioStream) (e : Estimates) : IasLocalAudioStream :=
  match s.mChannelBuffers[0]? with
  | none => s
  | some b =>
      if b.getFillLevel = b.mTotalSize then
        if s.ResetsOnOverrun then s.resetBuffers e else s
      else if b.getFillLevel = 0 then s.signalUnderrun
      else s

/-! ## What the AVB stream asks for -/

/-- What an AVB stream knows about the local stream. -/
def asked (s : IasLocalAudioStream) (sideChannel : Bool) (layout : UInt8) : LocalAudioStream where
  mNumChannels := s.numChannels
  mHasSideChannel := sideChannel
  mChannelLayout := layout
  mSampleFrequency := s.mSampleFrequency
  hasBufferDesc := s.hasBufferDesc

/-- One of the calls a received packet leads to. -/
def perform (e : Estimates) (t : TimeBase) (s : IasLocalAudioStream) :
    LocalAudioCall → IasLocalAudioStream
  | .resetBuffers => s.flush
  | .writeLocalAudioBuffer ch samples timestamp =>
      (s.writeLocalAudioBuffer e t ch (fun i => samples.getD i 0) samples.length 0 timestamp).stream

end IasLocalAudioStream

end AvbStreamHandler
