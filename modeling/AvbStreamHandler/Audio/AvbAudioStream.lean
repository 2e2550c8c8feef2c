import AvbStreamHandler.AvbTypes
import AvbStreamHandler.Kit.Bytes
import AvbStreamHandler.Kit.Word
import AvbStreamHandler.Audio.LocalAudioBuffer
import AvbStreamHandler.Receive.Validation

/-!
# The audio receive stream

`IasAvbAudioStream` on the listener's side: how a stream is set up, what it checks in a
packet's header, and how the payload of a packet it accepts reaches the channels of the
local stream. Offsets are those of the AVTP header; the payload starts at byte 24, the
samples of all channels in turn.

The three compatibility modes put the sample rate, the number of channels and the channel
layout into different bits of the same bytes.
-/

namespace AvbStreamHandler

open Kit Kit.Word IasAvbStreamState

open IasAvbProcessingResult

inductive IasAvbCompatibility
  | eIasAvbCompLatest
  | eIasAvbCompSaf
  | eIasAvbCompD6
deriving DecidableEq, Repr

open IasAvbCompatibility

inductive IasAvbAudioFormat
  | eIasAvbAudioFormatIec61883
  | eIasAvbAudioFormatSaf16
  | eIasAvbAudioFormatSaf24
  | eIasAvbAudioFormatSaf32
  | eIasAvbAudioFormatSafFloat
deriving DecidableEq, Repr

open IasAvbAudioFormat

/-- `IasLocalAudioStream`, as far as an AVB stream asks it about itself. The side channel
counts as one of the channels. -/
structure LocalAudioStream where
  mNumChannels : Nat
  mHasSideChannel : Bool := false
  mChannelLayout : UInt8 := 0
  mSampleFrequency : Nat := 48000
  hasBufferDesc : Bool := false
deriving DecidableEq, Repr

/-- What a receive stream asks its local stream to do. -/
inductive LocalAudioCall
  | resetBuffers
  | writeLocalAudioBuffer (channel : Nat) (samples : List AudioData) (timestamp : Nat)
deriving DecidableEq

/-- What `initReceive` and `initTransmit` settle once and for all. -/
structure AvbAudioConfig extends RxConfig where
  mCompatibilityModeAudio : IasAvbCompatibility := eIasAvbCompLatest
  mAudioFormat : IasAvbAudioFormat := eIasAvbAudioFormatSaf16
  mAudioFormatCode : UInt8
  mSampleFrequency : Nat := 48000
  mSampleFrequencyCode : UInt8
  mMaxNumChannels : Nat
  mSamplesPerChannelPerPacket : Nat
  mExcessSamples : Nat := 1

def sampleRateTable : List Nat :=
  [0, 8000, 16000, 32000, 44100, 48000, 88200, 96000, 176400, 192000, 24000]

/-- The loop over `sampleRateTable`, from index `code` down. -/
def findSampleRate (sampleFrequency : Nat) : Nat → Nat
  | 0 => 0
  | code + 1 =>
      if sampleRateTable[code + 1]? = some sampleFrequency then code + 1
      else findSampleRate sampleFrequency code

def getSampleFrequencyCode (comp : IasAvbCompatibility) (sampleFrequency : Nat) : UInt8 :=
  match comp with
  | eIasAvbCompSaf => if sampleFrequency = 48000 then 9 else 0
  | eIasAvbCompD6 => if sampleFrequency = 48000 then 5 else 0
  | eIasAvbCompLatest => UInt8.ofNat (findSampleRate sampleFrequency (sampleRateTable.length - 1))

def getFormatCode (comp : IasAvbCompatibility) (format : IasAvbAudioFormat) : UInt8 :=
  if comp = eIasAvbCompSaf then
    if format = eIasAvbAudioFormatSaf16 then 2 else 0
  else
    match format with
    | eIasAvbAudioFormatSaf16 => 4
    | eIasAvbAudioFormatSaf24 => 3
    | eIasAvbAudioFormatSaf32 => 2
    | eIasAvbAudioFormatSafFloat => 1
    | eIasAvbAudioFormatIec61883 => 0

def getSampleSize : IasAvbAudioFormat → Nat
  | eIasAvbAudioFormatIec61883 => 4
  | eIasAvbAudioFormatSaf16 => 2
  | eIasAvbAudioFormatSaf24 => 3
  | eIasAvbAudioFormatSaf32 => 4
  | eIasAvbAudioFormatSafFloat => 4

namespace AvbAudioConfig

def cAvtpHeaderSize : Nat := 24

/-- The members that both init functions fill in alike. -/
def common (comp : IasAvbCompatibility) (packetsPerSec maxNumberChannels sampleFreq : Nat)
    (format : IasAvbAudioFormat) : AvbAudioConfig where
  mCompatibilityModeAudio := comp
  mAudioFormat := format
  mAudioFormatCode := getFormatCode comp format
  mSampleFrequency := sampleFreq
  mSampleFrequencyCode := getSampleFrequencyCode comp sampleFreq
  mMaxNumChannels := maxNumberChannels
  mSamplesPerChannelPerPacket := (add32 sampleFreq (packetsPerSec - 1) / packetsPerSec) % 65536

/-- The formats and rates that can be set up. -/
def Supported (sampleFreq : Nat) (format : IasAvbAudioFormat) : Prop :=
  (sampleFreq = 48000 ∨ sampleFreq = 24000) ∧ format = eIasAvbAudioFormatSaf16

instance (sampleFreq : Nat) (format : IasAvbAudioFormat) :
    Decidable (Supported sampleFreq format) :=
  inferInstanceAs (Decidable ((_ ∨ _) ∧ _))

/-- `initReceive`. The registry gives the compatibility mode, the validation mode and
threshold, and how many samples more than expected a packet may carry. -/
def initReceive (comp : IasAvbCompatibility) (validation : RxConfig) (excessSamples : Nat)
    (packetsPerSec maxNumberChannels sampleFreq : Nat) (format : IasAvbAudioFormat) :
    Except IasAvbProcessingResult AvbAudioConfig :=
  if packetsPerSec = 0 then .error eIasAvbProcInvalidParam
  else if maxNumberChannels = 0 ∨ sampleFreq = 0 then .error eIasAvbProcInvalidParam
  else if ¬ Supported sampleFreq format then .error eIasAvbProcUnsupportedFormat
  else .ok { common comp packetsPerSec maxNumberChannels sampleFreq format with
    toRxConfig := validation
    mExcessSamples := excessSamples }

/-- The channels that carry audio. -/
def audioChannels (l : LocalAudioStream) : Nat :=
  if l.mHasSideChannel && decide (0 < l.mNumChannels) then l.mNumChannels - 1 else l.mNumChannels

/-- What `connectTo` asks of a local stream. -/
def connectable (c : AvbAudioConfig) (l : LocalAudioStream) : Bool :=
  decide (audioChannels l ≠ 0) && decide (audioChannels l ≤ c.mMaxNumChannels)
    && decide (c.mSampleFrequency = l.mSampleFrequency)

/-! ## Reading a packet -/

/-- The sample rate a packet announces. -/
def sampleFrequencyCode (c : AvbAudioConfig) (packet : Bytes) : UInt8 :=
  if c.mCompatibilityModeAudio = eIasAvbCompLatest then (packet 17 >>> 4) &&& 0x0F
  else packet 18 &&& 0x0F

/-- The header checks, in their order. Padding behind the payload is fine. -/
def headerOk (c : AvbAudioConfig) (packet : Bytes) (length : Nat) : Bool :=
  decide (cAvtpHeaderSize ≤ length)
    && decide (c.mAudioFormat ≠ eIasAvbAudioFormatIec61883)
    && packet 0 == 0x02
    && packet 16 == c.mAudioFormatCode
    && c.sampleFrequencyCode packet == c.mSampleFrequencyCode
    && decide (packet.be16 20 ≤ length - cAvtpHeaderSize)

/-- The number of channels a packet announces. -/
def channelsPerFrame (c : AvbAudioConfig) (packet : Bytes) : Nat :=
  if c.mCompatibilityModeAudio = eIasAvbCompLatest then
    ((packet 17).toNat &&& 0x0003) ||| (packet 18).toNat
  else packet.be16 22 &&& 0x03FF

/-- The samples of each channel that are taken from a packet of `numChannels` channels. -/
def samplesPerChannel (c : AvbAudioConfig) (packet : Bytes) (numChannels : Nat) : Nat :=
  let stride := (getSampleSize c.mAudioFormat * numChannels) % 65536
  let numSamplesPerChannel := if stride ≠ 0 then (packet.be16 20 / stride) % 65536 else 0
  let limit := add32 c.mSamplesPerChannelPerPacket c.mExcessSamples
  if limit < numSamplesPerChannel then limit % 65536 else numSamplesPerChannel

/-- The channel layout a packet carries, as a sample of the side channel. -/
def layoutSample (c : AvbAudioConfig) (packet : Bytes) : AudioData :=
  if c.mCompatibilityModeAudio = eIasAvbCompLatest then BitVec.ofNat 16 (packet 22 &&& 0x0F).toNat
  else BitVec.ofNat 16 (packet 17).toNat

/-- The samples of one channel. -/
def channelSamples (c : AvbAudioConfig) (packet : Bytes) (numChannels n channel : Nat) :
    List AudioData :=
  let sampleSize := getSampleSize c.mAudioFormat
  (packet.column (24 + sampleSize * channel) ((sampleSize * numChannels) % 65536) n).map
    (BitVec.ofNat 16)

/-- The payload goes to the local stream: the channels both sides have, silence for the
rest of the local channels, and the layout on the side channel. -/
def deliver (c : AvbAudioConfig) (l : LocalAudioStream) (oldState : IasAvbStreamState)
    (packet : Bytes) : List LocalAudioCall :=
  let timestamp := packet.be32 12
  let numLocalChannels := audioChannels l
  let numChannels := c.channelsPerFrame packet
  let n := c.samplesPerChannel packet numChannels
  let shared := min numChannels numLocalChannels
  if shared = 0 then []
  else
    -- the first packet of a flow flushes what an earlier one left behind
    (if l.hasBufferDesc ∧ oldState ≠ eIasAvbStreamValid then [.resetBuffers] else [])
      ++ ((List.range shared).map fun channel =>
          .writeLocalAudioBuffer channel (c.channelSamples packet numChannels n channel) timestamp)
      ++ ((List.range' shared (numLocalChannels - shared)).map fun channel =>
          .writeLocalAudioBuffer channel (List.replicate n 0) timestamp)
      ++ (if l.mHasSideChannel then
          [.writeLocalAudioBuffer numLocalChannels (List.replicate n (c.layoutSample packet))
            timestamp]
        else [])

/-- `readFromAvbPacket`, and what it asks of the local stream. Every path to a valid
verdict reads the payload length from the packet, and only a valid one uses it. -/
def readFromAvbPacket (c : AvbAudioConfig) (s : RxStream LocalAudioStream)
    (packet : Option Bytes) (length : Nat) : RxStream LocalAudioStream × List LocalAudioCall :=
  match packet with
  | none => (s.receiveNothing c.toRxConfig, [])
  | some packet =>
      let newState := s.verdict c.toRxConfig (c.headerOk packet length) (packet 2)
      ((s.setSeqNum (packet 2)).settle c.toRxConfig newState,
        match s.mLocalStream with
        | some l =>
            if newState = eIasAvbStreamValid then c.deliver l s.mStreamStateInternal packet else []
        | none => [])

/-! ## The gate -/

/-- A packet that is not found valid reaches nobody. -/
theorem read_of_invalid {c : AvbAudioConfig} {s : RxStream LocalAudioStream} {packet : Bytes}
    {length : Nat}
    (h : s.verdict c.toRxConfig (c.headerOk packet length) (packet 2) ≠ eIasAvbStreamValid) :
    (c.readFromAvbPacket s (some packet) length).2 = [] := by
  unfold readFromAvbPacket
  dsimp only
  cases s.mLocalStream with
  | none => rfl
  | some l => exact if_neg h

/-- The stream state after a packet is the verdict on it. -/
theorem read_internal (c : AvbAudioConfig) (s : RxStream LocalAudioStream) (packet : Bytes)
    (length : Nat) :
    (c.readFromAvbPacket s (some packet) length).1.mStreamStateInternal
      = s.verdict c.toRxConfig (c.headerOk packet length) (packet 2) :=
  RxStream.settle_internal ..

theorem read_seqNum (c : AvbAudioConfig) (s : RxStream LocalAudioStream) (packet : Bytes)
    (length : Nat) : (c.readFromAvbPacket s (some packet) length).1.mSeqNum = packet 2 :=
  (RxStream.settle_frame ..).1

/-- A packet that is found valid is one less to wait for. -/
theorem read_count_of_valid {c : AvbAudioConfig} {s : RxStream LocalAudioStream} {packet : Bytes}
    {length : Nat}
    (h : s.verdict c.toRxConfig (c.headerOk packet length) (packet 2) = eIasAvbStreamValid) :
    (c.readFromAvbPacket s (some packet) length).1.mValidationCount = s.mValidationCount - 1 := by
  unfold readFromAvbPacket
  dsimp only
  rw [h, RxStream.settle_valid]
  exact RxStream.countDown_count _

/-- A packet that is found valid is delivered. -/
theorem read_of_valid {c : AvbAudioConfig} {s : RxStream LocalAudioStream} {packet : Bytes}
    {length : Nat} {l : LocalAudioStream} (hl : s.mLocalStream = some l)
    (h : s.verdict c.toRxConfig (c.headerOk packet length) (packet 2) = eIasAvbStreamValid) :
    (c.readFromAvbPacket s (some packet) length).2
      = c.deliver l s.mStreamStateInternal packet := by
  unfold readFromAvbPacket
  dsimp only
  rw [hl]
  exact if_pos h

/--
**A bad header is refused, as long as there is no flow.**

With every packet to be validated, a packet that fails one of the header checks is not
accepted and none of it reaches the local stream, unless it continues the flow the stream
is following.
-/
theorem refused_of_header {c : AvbAudioConfig} {s : RxStream LocalAudioStream} {packet : Bytes}
    {length : Nat} (hmode : c.mValidationMode = cValidateAlways)
    (hheader : c.headerOk packet length = false) (hflow : ¬ s.Follows (packet 2)) :
    (c.readFromAvbPacket s (some packet) length).1.mStreamStateInternal ≠ eIasAvbStreamValid
      ∧ (c.readFromAvbPacket s (some packet) length).2 = [] := by
  have hverdict :
      s.verdict c.toRxConfig (c.headerOk packet length) (packet 2) ≠ eIasAvbStreamValid := by
    intro hvalid
    rcases (RxStream.verdict_always_iff hmode).mp hvalid with h | h
    · exact hflow h
    · rw [hheader] at h
      exact Bool.noConfusion h.2
  exact ⟨by rw [read_internal]; exact hverdict, read_of_invalid hverdict⟩

/-- A mono listener that validates every packet, with a threshold of one. -/
def monoListener : AvbAudioConfig :=
  { common eIasAvbCompLatest 8000 1 48000 eIasAvbAudioFormatSaf16 with
    mValidationMode := cValidateAlways
    mValidationThreshold := 1 }

/-- A packet with one sample of one channel, with the fields named left open. -/
def monoPacket (subtype seqNum bitDepth : UInt8) : Bytes :=
  Bytes.ofList [subtype, 0x81, seqNum, 0, 0, 0, 0, 0, 0, 0, 0, 0, 0, 0, 0, 0, 4, 0x50, 1, bitDepth,
    0, 2, 0, 0, 0x12, 0x34]

def monoStream : RxStream LocalAudioStream :=
  .init monoListener.toRxConfig (some { mNumChannels := 1 })

theorem refused_of_header_subtype :
    let read := monoListener.readFromAvbPacket monoStream (some (monoPacket 0x7F 0 16)) 26
    read.1.mStreamStateInternal ≠ eIasAvbStreamValid ∧ read.2 = [] :=
  refused_of_header (c := monoListener) (s := monoStream) rfl (by decide) (by decide)

/-- Two ways through: the bit depth is not among the checks, and once a flow is being
followed the header no longer counts. -/
theorem header_does_not_close_the_gate :
    (monoListener.readFromAvbPacket monoStream (some (monoPacket 0x02 0 24)) 26).2
        = [.writeLocalAudioBuffer 0 [0x1234] 0]
      ∧ monoListener.headerOk (monoPacket 0x7F 1 16) 26 = false
      ∧ (monoListener.readFromAvbPacket
          (monoListener.readFromAvbPacket monoStream (some (monoPacket 0x02 0 16)) 26).1
          (some (monoPacket 0x7F 1 16)) 26).2 = [.writeLocalAudioBuffer 0 [0x1234] 0] := by
  decide

end AvbAudioConfig

end AvbStreamHandler
