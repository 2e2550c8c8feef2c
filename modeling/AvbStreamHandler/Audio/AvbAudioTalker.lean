import AvbStreamHandler.Audio.AvbAudioPacket
import AvbStreamHandler.Audio.LocalAudioStream
import AvbStreamHandler.Kit.While

/-!
# The audio transmit stream

`writeToAvbPacket`: how a talker takes the samples for its next packet from the local stream.
The reference plane is the line in time the samples cross. When the talker starts to read a
time-aware stream, samples that should have crossed it already are thrown away, a packet's
worth at a time; after an underrun, samples are thrown away to make up for the silence that
was sent meanwhile.

Where the reference plane is follows from the clock domain, in floating point; here it is
part of the call.
-/

namespace AvbStreamHandler

open Kit Kit.Word Kit.While

namespace IasLocalAudioStream

/-- Without time stamps there is nothing to wait for. -/
def isReadReady (s : IasLocalAudioStream) : Bool :=
  if s.hasBufferDesc then
    match s.mChannelBuffers[0]? with
    | some b => b.mReadReady
    | none => false
  else true

/-- The time of the next sample; zero if no descriptor says so. -/
def getCurrentTimestamp (s : IasLocalAudioStream) (e : Estimates) : Nat :=
  if s.hasBufferDesc then
    match s.mBufferDescQ.peek, s.mChannelBuffers[0]? with
    | some desc, some b => s.timeOfSample e desc b.mMonotonicReadIndex
    | _, _ => 0
  else 0

/-- The fill of the channel that holds least. -/
def minFill (s : IasLocalAudioStream) : Nat :=
  match s.mChannelBuffers with
  | [] => 0
  | b :: rest => rest.foldl (fun fill b => min fill b.getFillLevel) b.getFillLevel

/-- `dumpFromLocalAudioBuffer`. The number of samples comes back shortened if there are not
that many. -/
def dumpFromLocalAudioBuffer (s : IasLocalAudioStream) (e : Estimates) (numSamples : Nat) :
    IasLocalAudioStream × Nat :=
  if s.mSampleFrequency = 0 ∨ s.numChannels = 0 then (s, numSamples)
  else
    let n := if s.minFill < numSamples then s.minFill % 65536 else numSamples
    ((List.range s.numChannels).foldl (fun s ch => (s.readLocalAudioBuffer e ch n 0).stream) s, n)

end IasLocalAudioStream

/-- What the clock domain has to say during one call. -/
structure ClockReading where
  nextWindowStart : Nat := 0
  /-- What `resetTime` finds: how many samples are skipped, and the time of the reference
  plane. Without a reference clock, nothing. -/
  resetTime : Option (Nat × Nat)
  /-- The reference plane of the next packet; nothing if the clock jumped. -/
  refPlane : Option Nat
  presentationTimeOffset : Nat := 0
  locked : Bool := true

/-- A local stream, as a talker is connected to it. -/
structure ConnectedStream where
  stream : IasLocalAudioStream
  mHasSideChannel : Bool := false
  mChannelLayout : UInt8 := 0

def ConnectedStream.asked (l : ConnectedStream) : LocalAudioStream :=
  l.stream.asked l.mHasSideChannel l.mChannelLayout

/-- `IasAvbAudioStream` on the talker's side. -/
structure TxAudioStream where
  mSamplesPerChannelPerPacket : Nat
  mActive : Bool := false
  mSeqNum : UInt8 := 0
  mRefPlaneSampleTime : Nat := 0
  mRefPlaneSampleCount : Nat := 0
  mPacketLaunchTime : Nat := 0
  mWaitForData : Bool := true
  mDummySamplesSent : Nat := 0
  mDumpCount : Nat := 0
  mLocalStreamReadSampleCount : Nat := 0
  mTempBuffer : Nat → AudioData := fun _ => 0
  mLocalStream : Option ConnectedStream := none

/-- What a call of `writeToAvbPacket` makes of the packet. -/
inductive TxOutcome
  /-- The stream is not active. -/
  | refused
  /-- There is no reference clock. -/
  | dummyPacket (attime : Nat)
  /-- No local stream is connected: a packet without channels. -/
  | nullPacket (attime timestamp : Nat) (mSeqNum : UInt8)
  /-- The samples, and what the channels of the local stream held before they were read. -/
  | dataPacket (attime : Nat) (block : AvbAudioConfig.TxBlock) (held : List Nat)

namespace TxAudioStream

/-! ## The steps of a call -/

def setLocalStream (s : TxAudioStream) (l : Option ConnectedStream) : TxAudioStream :=
  { s with mLocalStream := l }

def takeSeqNum (s : TxAudioStream) : TxAudioStream := { s with mSeqNum := s.mSeqNum + 1 }

/-- The first packet needs a time to start from. -/
def startPacket (s : TxAudioStream) (clock : ClockReading) : Option TxAudioStream :=
  if s.mRefPlaneSampleCount = 0 ∧ s.mRefPlaneSampleTime = 0 then
    clock.resetTime.map fun (samplesToSkip, time) =>
      { s with
        mRefPlaneSampleCount := add64 s.mRefPlaneSampleCount samplesToSkip
        mRefPlaneSampleTime := time
        mPacketLaunchTime := time }
  else some s

/-- Samples are dumped for the silence that was sent; the count is what `dumpFromLocalAudioBuffer`
makes of a copy of it. -/
def compensate (s : TxAudioStream) (e : Estimates) (l : IasLocalAudioStream) :
    TxAudioStream × IasLocalAudioStream :=
  if 0 < s.mDummySamplesSent then
    let (l, dump) := l.dumpFromLocalAudioBuffer e (s.mDummySamplesSent % 65536)
    ({ s with
        mDummySamplesSent := sub32 s.mDummySamplesSent dump
        mDumpCount := if 0 < dump then add32 s.mDumpCount 1 else s.mDumpCount }, l)
  else (s, l)

/-- Too much silence, or too many dumps: the launch time is made invalid. -/
def launchTime (before after : TxAudioStream) : Nat :=
  if after.mDumpCount ≠ before.mDumpCount
      ∧ (10 < after.mDumpCount ∨ 1000 < after.mDummySamplesSent) then 0
  else before.mPacketLaunchTime

/-- The next sample should have crossed the reference plane already. -/
def isLate (e : Estimates) (refPlane : Nat) (l : IasLocalAudioStream) : Bool :=
  decide (l.getCurrentTimestamp e ≠ 0) && decide (l.getCurrentTimestamp e < refPlane)

/-- One round: the number of samples is handed over by reference. -/
def disposeRound (e : Estimates) (p : Nat × IasLocalAudioStream) : Nat × IasLocalAudioStream :=
  let (l, n) := p.2.dumpFromLocalAudioBuffer e p.1
  (n, l)

/-- The fill of channel 0. -/
def firstFill (l : IasLocalAudioStream) : Nat :=
  match l.mChannelBuffers[0]? with
  | some b => b.getFillLevel
  | none => 0

/-- The loop that disposes of late samples. If it is not through after one round for each
sample of channel 0 and one more, it never is. -/
def disposeLate (s : TxAudioStream) (e : Estimates) (l : IasLocalAudioStream) :
    Option (TxAudioStream × IasLocalAudioStream) :=
  if l.hasBufferDesc && l.isReadReady && decide (s.mLocalStreamReadSampleCount = 0) then
    (loop (fun p => isLate e s.mRefPlaneSampleTime p.2) (disposeRound e) (firstFill l + 2)
      (s.mSamplesPerChannelPerPacket, l)).map fun p =>
        ({ s with mSamplesPerChannelPerPacket := p.1 }, p.2)
  else some (s, l)

/-! ## The payload -/

/-- The loop over the channels. -/
structure Filling where
  stream : IasLocalAudioStream
  written : Nat := 0
  mTempBuffer : Nat → AudioData
  mWaitForData : Bool
  mDummySamplesSent : Nat
  mLocalStreamReadSampleCount : Nat
  channels : List (List AudioData) := []

/-- What is read comes to the front of the buffer. -/
def overlay (samples : List AudioData) (buffer : Nat → AudioData) (i : Nat) : AudioData :=
  samples.getD i (buffer i)

/-- One channel is read, unless there is silence to make up for. -/
def readChannel (e : Estimates) (mSamplesPerChannelPerPacket : Nat) (isReadReady : Bool)
    (f : Filling) (ch : Nat) : Filling :=
  if 0 < f.mDummySamplesSent then { f with written := 0 }
  else if isReadReady then
    let r := f.stream.readLocalAudioBuffer e ch mSamplesPerChannelPerPacket f.written
    { f with
      stream := r.stream
      written := r.samplesRead
      mTempBuffer := overlay r.samples f.mTempBuffer
      mLocalStreamReadSampleCount :=
        if ch = 0 ∧ r.samplesRead ≠ 0 ∧ r.timeStamp ≠ 0 then
          add64 f.mLocalStreamReadSampleCount r.samplesRead
        else f.mLocalStreamReadSampleCount }
  else { f with written := 0 }

/-- An underrun, noticed on the first channel. -/
def noteSilence (mSamplesPerChannelPerPacket : Nat) (isReadReady : Bool) (ch : Nat) (f : Filling) :
    Filling :=
  if ch = 0 ∧ isReadReady = true then
    { f with
      mWaitForData := true
      mDummySamplesSent := add32 f.mDummySamplesSent mSamplesPerChannelPerPacket }
  else f

/-- Silence for a channel that has nothing. -/
def completeChannel (mSamplesPerChannelPerPacket : Nat) (isReadReady : Bool) (ch : Nat)
    (f : Filling) : Filling :=
  if f.written = 0 then
    { noteSilence mSamplesPerChannelPerPacket isReadReady ch f with
      written := mSamplesPerChannelPerPacket
      mTempBuffer := fun i => if i < mSamplesPerChannelPerPacket then 0 else f.mTempBuffer i }
  else if ch = 0 then { f with mWaitForData := false }
  else f

/-- The samples go into the packet. -/
def storeSamples (f : Filling) : Filling :=
  { f with channels := f.channels ++ [(List.range f.written).map f.mTempBuffer] }

def fillChannel (e : Estimates) (mSamplesPerChannelPerPacket : Nat) (isReadReady : Bool)
    (f : Filling) (ch : Nat) : Filling :=
  storeSamples (completeChannel mSamplesPerChannelPerPacket isReadReady ch
    (readChannel e mSamplesPerChannelPerPacket isReadReady f ch))

/-- The side channel comes last; its first sample is the channel layout. -/
def readLayout (e : Estimates) (mSamplesPerChannelPerPacket : Nat) (l : ConnectedStream)
    (f : Filling) : Filling × UInt8 :=
  if l.mHasSideChannel then
    let r := f.stream.readLocalAudioBuffer e (AvbAudioConfig.audioChannels l.asked)
      mSamplesPerChannelPerPacket 0
    ({ f with stream := r.stream, mTempBuffer := overlay r.samples f.mTempBuffer },
      if 0 < r.samplesRead then UInt8.ofNat (overlay r.samples f.mTempBuffer 0).toNat else 0)
  else (f, l.mChannelLayout)

/-- The reference plane moves on by what was written. -/
def advance (s : TxAudioStream) (clock : ClockReading) (written : Nat) : TxAudioStream :=
  match clock.refPlane with
  | none => { s with mRefPlaneSampleTime := 0, mRefPlaneSampleCount := 0 }
  | some time =>
      { s with
        mRefPlaneSampleCount := add64 s.mRefPlaneSampleCount written
        mRefPlaneSampleTime := time
        mPacketLaunchTime := time }

def filling (s : TxAudioStream) (l : IasLocalAudioStream) : Filling where
  stream := l
  mTempBuffer := s.mTempBuffer
  mWaitForData := s.mWaitForData
  mDummySamplesSent := s.mDummySamplesSent
  mLocalStreamReadSampleCount := s.mLocalStreamReadSampleCount

/-- The payload of a connected stream. -/
def writePayload (s : TxAudioStream) (e : Estimates) (clock : ClockReading) (isReadReady : Bool)
    (c : ConnectedStream) (l : IasLocalAudioStream) (attime timestamp : Nat) (mSeqNum : UInt8) :
    TxAudioStream × TxOutcome :=
  let f := (List.range (AvbAudioConfig.audioChannels c.asked)).foldl
    (fillChannel e s.mSamplesPerChannelPerPacket isReadReady) (s.filling l)
  let (f', layout) := readLayout e s.mSamplesPerChannelPerPacket c f
  let s := { s with
    mTempBuffer := f'.mTempBuffer
    mWaitForData := f'.mWaitForData
    mDummySamplesSent := f'.mDummySamplesSent
    mLocalStreamReadSampleCount := f'.mLocalStreamReadSampleCount
    mLocalStream := some { c with stream := f'.stream } }
  (s.advance clock f.written,
    .dataPacket attime
      { channels := f.channels, written := f.written, layout := layout, timestamp := timestamp
        mSeqNum := mSeqNum, locked := clock.locked }
      (l.mChannelBuffers.map IasLocalAudioBuffer.getFillLevel))

/-- `writeToAvbPacket`; nothing if it never returns. -/
def writeToAvbPacket (s : TxAudioStream) (e : Estimates) (clock : ClockReading) :
    Option (TxAudioStream × TxOutcome) :=
  if s.mActive then
    match s.startPacket clock with
    | none =>
        some ({ s with
          mRefPlaneSampleCount := 0
          mRefPlaneSampleTime := 0
          mPacketLaunchTime := clock.nextWindowStart },
          .dummyPacket (add64 clock.nextWindowStart 10000000))
    | some s =>
        let timestamp := add64 s.mRefPlaneSampleTime clock.presentationTimeOffset
        let mSeqNum := s.mSeqNum
        let s := s.takeSeqNum
        match s.mLocalStream with
        | none =>
            some (s.advance clock s.mSamplesPerChannelPerPacket,
              .nullPacket s.mPacketLaunchTime timestamp mSeqNum)
        | some c =>
            let (s', l) := s.compensate e c.stream
            (s'.disposeLate e l).map fun (s'', l') =>
              s''.writePayload e clock l.isReadReady c l' (launchTime s s') timestamp mSeqNum
  else some (s, .refused)

/-! ## The other calls -/

/-- `activationChanged`; what the local stream does on it is its own. -/
def activationChanged (s : TxAudioStream) (active : Bool) : TxAudioStream :=
  if active then
    { s with
      mActive := true
      mWaitForData := true
      mRefPlaneSampleTime := 0
      mRefPlaneSampleCount := 0
      mDummySamplesSent := 0
      mDumpCount := 0
      mLocalStreamReadSampleCount := 0 }
  else { s with mActive := false }

/-- `connectTo`, with another local stream than before. -/
def connectTo (c : AvbAudioConfig) (s : TxAudioStream) : Option ConnectedStream → TxAudioStream
  | none => s.setLocalStream none
  | some l =>
      if c.connectable l.asked && !l.stream.isReceive then
        { s.setLocalStream (some l) with
          mRefPlaneSampleCount := 0
          mDummySamplesSent := 0
          mDumpCount := 0
          mRefPlaneSampleTime := 0
          mLocalStreamReadSampleCount := 0 }
      else s.setLocalStream none

end TxAudioStream

end AvbStreamHandler
