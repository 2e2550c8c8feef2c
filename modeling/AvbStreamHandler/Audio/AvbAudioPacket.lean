import AvbStreamHandler.Audio.AvbAudioStream
import Mathlib.Logic.Basic

/-!
# Audio packets

The talker's side of the wire format: what `initTransmit` accepts, what `prepareAllPackets`
leaves in every packet of the pool, and what `writeToAvbPacket` adds to it. Then the round
trip: what a listener of the same format reads from such a packet.

Offsets are those of the AVTP header, 18 bytes behind the start of the frame.
-/

namespace AvbStreamHandler

open Kit Kit.Word IasAvbStreamState IasAvbProcessingResult IasAvbCompatibility IasAvbAudioFormat

/-- What stands before the AVTP header in every frame. -/
def cIasAvbPerFrameOverhead : Nat := 18

/-- The largest packet a pool can hold: `ETH_FRAME_LEN` and a VLAN tag. -/
def cMaxBufferSize : Nat := 1518

def cMaxPoolSize : Nat := 2048

/-- `cHeaderSize` of the format's traits. -/
def headerSize (format : IasAvbAudioFormat) : Nat :=
  if format = eIasAvbAudioFormatIec61883 then 32 else 24

/-- A 16-bit number, as the result type has it. -/
def getPacketSize (format : IasAvbAudioFormat) (numSamples : Nat) : Nat :=
  (headerSize format + getSampleSize format * numSamples) % 65536

namespace AvbAudioConfig

/-- The frame size `initTransmit` asks for. -/
def maxFrameSize (c : AvbAudioConfig) : Nat :=
  getPacketSize c.mAudioFormat ((c.mMaxNumChannels * c.mSamplesPerChannelPerPacket) % 65536)

/-- The size of the packets in the pool. -/
def packetSize (c : AvbAudioConfig) : Nat := c.maxFrameSize + cIasAvbPerFrameOverhead

/-- `initTransmit`, with the checks of the base class and of the packet pool. -/
def initTransmit (comp : IasAvbCompatibility)
    (packetsPerSec maxNumberChannels sampleFreq poolSize : Nat) (format : IasAvbAudioFormat) :
    Except IasAvbProcessingResult AvbAudioConfig :=
  if maxNumberChannels = 0 ∨ sampleFreq = 0 then .error eIasAvbProcInvalidParam
  else if ¬ Supported sampleFreq format then .error eIasAvbProcUnsupportedFormat
  else if packetsPerSec = 0 then .error eIasAvbProcInvalidParam
  else
    let c := common comp packetsPerSec maxNumberChannels sampleFreq format
    if c.maxFrameSize = 0 ∨ poolSize = 0 then .error eIasAvbProcInvalidParam
    else if cMaxBufferSize < c.packetSize ∨ cMaxPoolSize < poolSize then
      .error eIasAvbProcInvalidParam
    else .ok c

/-! ## Writing a packet -/

/-- The template that `prepareAllPackets` copies into every packet. -/
def prepare (c : AvbAudioConfig) (sparse : Bool) (streamId : Nat) (m : Bytes) : Bytes :=
  let m := m.put 0 (if c.mAudioFormat = eIasAvbAudioFormatIec61883 then 0x00 else 0x02)
  let m := (m.put 1 0x81).put 3 0x00
  let m := (m.put32 4 (streamId / 4294967296)).put32 8 streamId
  let m := m.put 16 c.mAudioFormatCode
  let m := if c.mCompatibilityModeAudio = eIasAvbCompLatest then m
    else m.put 18 c.mSampleFrequencyCode
  let m := m.put 19 16
  let m := m.put 22 (if c.mCompatibilityModeAudio = eIasAvbCompLatest ∧ sparse then 0x10 else 0x00)
  if c.mCompatibilityModeAudio = eIasAvbCompLatest then m.put 23 0x00 else m

/-- The time stamp, its valid bit and the sequence number. With sparse time stamps only
every eighth packet carries a valid one. -/
def writeStamp (m : Bytes) (timestamp : Nat) (mSeqNum : UInt8) : Bytes :=
  let m := m.put32 12 timestamp
  let m :=
    if m 22 &&& 0x10 ≠ 0 then
      m.put 1 (if mSeqNum % 8 = 0 then m 1 ||| 0x01 else m 1 &&& 0xFE)
    else m
  m.put 2 mSeqNum

/-- The samples, channel by channel, `mStride` bytes from one to the next. -/
def writeSamples (m : Bytes) (mStride : Nat) (channels : List (List AudioData)) : Bytes :=
  m.putColumns 24 mStride (channels.map (List.map BitVec.toNat))

def writeLayout (c : AvbAudioConfig) (m : Bytes) (layout : UInt8) : Bytes :=
  if c.mCompatibilityModeAudio = eIasAvbCompLatest then
    m.put 22 ((m 22 &&& 0xF0) ||| (layout &&& 0x0F))
  else m.put 17 layout

/-- `channels_per_frame`. -/
def writeNumChannels (c : AvbAudioConfig) (m : Bytes) (numChannels : Nat) : Bytes :=
  if c.mCompatibilityModeAudio = eIasAvbCompLatest then
    (m.put 17 ((c.mSampleFrequencyCode <<< 4) ||| UInt8.ofNat ((numChannels >>> 8) &&& 0x0003))).put
      18 (UInt8.ofNat (numChannels &&& 0x00FF))
  else m.put16 22 numChannels

def streamDataLength (c : AvbAudioConfig) (written numChannels : Nat) : Nat :=
  (written * numChannels * getSampleSize c.mAudioFormat) % 65536

/-- `mStride`, as `connectTo` computes it. -/
def mStride (c : AvbAudioConfig) (numChannels : Nat) : Nat :=
  (numChannels * getSampleSize c.mAudioFormat) % 65536

/-- What goes into one packet of a connected stream. -/
structure TxBlock where
  /-- The samples of each channel, silence included. -/
  channels : List (List AudioData)
  /-- How many samples the last channel has. -/
  written : Nat
  layout : UInt8
  timestamp : Nat
  mSeqNum : UInt8
  /-- The clock domain is locked. -/
  locked : Bool := true

/-- The bytes `writeToAvbPacket` leaves in a packet of a connected stream. -/
def writeBlock (c : AvbAudioConfig) (m : Bytes) (b : TxBlock) : Bytes :=
  let numChannels := b.channels.length
  let m := writeStamp m b.timestamp b.mSeqNum
  let m := c.writeLayout (writeSamples m (c.mStride numChannels) b.channels) b.layout
  let m := (c.writeNumChannels m numChannels).put16 20 (c.streamDataLength b.written numChannels)
  m.put 3 (if b.locked then 0x00 else 0x01)

/-- The length of the AVTP packet. -/
def blockLength (c : AvbAudioConfig) (b : TxBlock) : Nat :=
  c.streamDataLength b.written b.channels.length + 24

/-! ## What stands where -/

theorem writeStamp_of_ne {m : Bytes} {timestamp i : Nat} {mSeqNum : UInt8} (h₁ : i ≠ 1)
    (h₂ : i ≠ 2) (h : i < 12 ∨ 15 < i) : writeStamp m timestamp mSeqNum i = m i := by
  unfold writeStamp
  rw [Bytes.put_of_ne h₂]
  split
  · rw [Bytes.put_of_ne h₁, Bytes.put32_of_ne (by omega)]
  · rw [Bytes.put32_of_ne (by omega)]

theorem writeStamp_timestamp (m : Bytes) (timestamp : Nat) (mSeqNum : UInt8) :
    (writeStamp m timestamp mSeqNum).be32 12 = timestamp % 4294967296 := by
  rw [← Bytes.be32_put32 m 12 timestamp]
  refine Bytes.be32_congr fun k hk => ?_
  unfold writeStamp
  rw [Bytes.put_of_ne (by omega)]
  split
  · rw [Bytes.put_of_ne (by omega)]
  · rfl

theorem writeSamples_of_lt {m : Bytes} {mStride i : Nat} {channels : List (List AudioData)}
    (h : i < 24) : writeSamples m mStride channels i = m i := Bytes.putColumns_of_lt h

variable {c t : AvbAudioConfig} {m : Bytes} {b : TxBlock}

/-- Behind the header there are only samples. -/
theorem writeBlock_of_ge {i : Nat} (h : 24 ≤ i) :
    t.writeBlock m b i = writeSamples (writeStamp m b.timestamp b.mSeqNum)
      (t.mStride b.channels.length) b.channels i := by
  unfold writeBlock writeLayout writeNumChannels
  rw [Bytes.put_of_ne (by omega), Bytes.put16_of_ne (by omega) (by omega)]
  split
  · rw [Bytes.put_of_ne (by omega), Bytes.put_of_ne (by omega), Bytes.put_of_ne (by omega)]
  · rw [Bytes.put16_of_ne (by omega) (by omega), Bytes.put_of_ne (by omega)]

/-- What is written behind the stamp leaves the stamp alone. -/
theorem writeBlock_of_lt {i : Nat} (h : i < 17) (h₃ : i ≠ 3) :
    t.writeBlock m b i = writeStamp m b.timestamp b.mSeqNum i := by
  unfold writeBlock writeLayout writeNumChannels
  rw [Bytes.put_of_ne h₃, Bytes.put16_of_ne (by omega) (by omega)]
  split
  · rw [Bytes.put_of_ne (by omega), Bytes.put_of_ne (by omega), Bytes.put_of_ne (by omega),
      writeSamples_of_lt (by omega)]
  · rw [Bytes.put16_of_ne (by omega) (by omega), Bytes.put_of_ne (by omega),
      writeSamples_of_lt (by omega)]

theorem writeBlock_seqNum : t.writeBlock m b 2 = b.mSeqNum := by
  rw [writeBlock_of_lt (by omega) (by omega)]
  exact Bytes.put_self ..

theorem writeBlock_timestamp : (t.writeBlock m b).be32 12 = b.timestamp % 4294967296 := by
  rw [← writeStamp_timestamp m b.timestamp b.mSeqNum]
  exact Bytes.be32_congr fun k hk => writeBlock_of_lt (by omega) (by omega)

theorem writeBlock_dataLength :
    (t.writeBlock m b).be16 20 = t.streamDataLength b.written b.channels.length := by
  unfold writeBlock
  rw [Bytes.be16_put_of_ne (by omega) (by omega), Bytes.be16_put16]
  exact Nat.mod_mod ..

/-- Packets that went through `prepareAllPackets`, used before or not. -/
structure Prepared (t : AvbAudioConfig) (m : Bytes) : Prop where
  subtype : m 0 = if t.mAudioFormat = eIasAvbAudioFormatIec61883 then 0x00 else 0x02
  format : m 16 = t.mAudioFormatCode
  rate : t.mCompatibilityModeAudio ≠ eIasAvbCompLatest → m 18 = t.mSampleFrequencyCode

theorem prepared_prepare (t : AvbAudioConfig) (sparse : Bool) (streamId : Nat) (m : Bytes) :
    Prepared t (t.prepare sparse streamId m) := by
  by_cases hmode : t.mCompatibilityModeAudio = eIasAvbCompLatest
  · constructor <;>
      simp [prepare, hmode, Bytes.put_apply, Bytes.put32_of_ne]
  · constructor <;>
      simp [prepare, hmode, Bytes.put_apply, Bytes.put32_of_ne]

/-- A packet that comes back to the pool can be used again as it is. -/
theorem prepared_writeBlock (h : Prepared t m) : Prepared t (t.writeBlock m b) where
  subtype := by
    rw [writeBlock_of_lt (by omega) (by omega), writeStamp_of_ne (by omega) (by omega) (by omega)]
    exact h.subtype
  format := by
    rw [writeBlock_of_lt (by omega) (by omega), writeStamp_of_ne (by omega) (by omega) (by omega)]
    exact h.format
  rate := by
    intro hmode
    unfold writeBlock writeLayout writeNumChannels
    rw [if_neg hmode, if_neg hmode, Bytes.put_of_ne (by omega),
      Bytes.put16_of_ne (by omega) (by omega), Bytes.put16_of_ne (by omega) (by omega),
      Bytes.put_of_ne (by omega), writeSamples_of_lt (by omega),
      writeStamp_of_ne (by omega) (by omega) (by omega)]
    exact h.rate hmode

/-! ## What both sides agree on -/

/-- Two streams of the same format and mode. -/
structure SameWire (t c : AvbAudioConfig) : Prop where
  mode : c.mCompatibilityModeAudio = t.mCompatibilityModeAudio
  saf16 : t.mAudioFormat = eIasAvbAudioFormatSaf16
  format : c.mAudioFormat = t.mAudioFormat
  formatCode : c.mAudioFormatCode = t.mAudioFormatCode
  rateCode : c.mSampleFrequencyCode = t.mSampleFrequencyCode
  /-- The rate fits into its four bits. -/
  rate_lt : t.mSampleFrequencyCode.toNat < 16

theorem rateCode_lt (comp : IasAvbCompatibility) {sampleFreq : Nat} {format : IasAvbAudioFormat}
    (h : Supported sampleFreq format) : (getSampleFrequencyCode comp sampleFreq).toNat < 16 := by
  rcases h.1 with rfl | rfl <;> cases comp <;> decide

/-- What a successful `initTransmit` has checked. -/
theorem initTransmit_ok {comp : IasAvbCompatibility}
    {packetsPerSec maxNumberChannels sampleFreq poolSize : Nat} {format : IasAvbAudioFormat}
    (h : initTransmit comp packetsPerSec maxNumberChannels sampleFreq poolSize format = .ok t) :
    t = common comp packetsPerSec maxNumberChannels sampleFreq format
      ∧ Supported sampleFreq format ∧ packetsPerSec ≠ 0 ∧ maxNumberChannels ≠ 0
      ∧ t.maxFrameSize ≠ 0 ∧ t.packetSize ≤ cMaxBufferSize := by
  unfold initTransmit at h
  split at h
  · cases h
  · rename_i hparam
    split at h
    · cases h
    · rename_i hsupported
      split at h
      · cases h
      · rename_i hpackets
        dsimp only at h
        split at h
        · cases h
        · rename_i hframe
          split at h
          · cases h
          · rename_i hpool
            cases h
            exact ⟨rfl, not_not.mp hsupported, hpackets, by omega, by omega, by omega⟩

theorem initReceive_ok {comp : IasAvbCompatibility} {validation : RxConfig}
    {excessSamples packetsPerSec maxNumberChannels sampleFreq : Nat} {format : IasAvbAudioFormat}
    (h : initReceive comp validation excessSamples packetsPerSec maxNumberChannels sampleFreq
      format = .ok c) :
    c = { common comp packetsPerSec maxNumberChannels sampleFreq format with
        toRxConfig := validation
        mExcessSamples := excessSamples } := by
  unfold initReceive at h
  split at h
  · cases h
  · split at h
    · cases h
    · split at h
      · cases h
      · cases h
        rfl

theorem sameWire_of_init {comp : IasAvbCompatibility} {validation : RxConfig}
    {packetsPerSec packetsPerSec' maxNumberChannels maxNumberChannels' sampleFreq poolSize
      excessSamples : Nat} {format : IasAvbAudioFormat}
    (ht : initTransmit comp packetsPerSec maxNumberChannels sampleFreq poolSize format = .ok t)
    (hc : initReceive comp validation excessSamples packetsPerSec' maxNumberChannels' sampleFreq
      format = .ok c) : SameWire t c := by
  obtain ⟨rfl, hsupported, -⟩ := initTransmit_ok ht
  rw [initReceive_ok hc]
  exact ⟨rfl, hsupported.2, rfl, rfl, rfl, rateCode_lt comp hsupported⟩

/-! ## Reading it back -/

/-- Rate and upper channel bits share a byte and do not disturb each other. -/
theorem rate_and_channel_bits : ∀ (r : Fin 16) (k : Fin 4),
    (((UInt8.ofNat r <<< 4) ||| UInt8.ofNat k) >>> 4) &&& 0x0F = UInt8.ofNat r
      ∧ ((UInt8.ofNat r <<< 4) ||| UInt8.ofNat k).toNat &&& 0x0003 = k.val := by
  decide

theorem rate_low_nibble : ∀ r : Fin 16, UInt8.ofNat r &&& 0x0F = UInt8.ofNat r := by decide

/-- The event bits come back, whatever stood above them. -/
theorem layout_low_nibble (a layout : UInt8) :
    ((a &&& 0xF0) ||| (layout &&& 0x0F)) &&& 0x0F = layout &&& 0x0F := by
  apply UInt8.toNat_inj.mp
  rw [UInt8.toNat_and, UInt8.toNat_or, UInt8.toNat_and, UInt8.toNat_and, Nat.and_or_distrib_right,
    Nat.and_assoc, Nat.and_assoc]
  show (a.toNat &&& 0) ||| (layout.toNat &&& 15) = _
  rw [Nat.and_zero, Nat.zero_or]
  rfl

theorem writeBlock_rateByte (hmode : t.mCompatibilityModeAudio = eIasAvbCompLatest) :
    t.writeBlock m b 17 = (t.mSampleFrequencyCode <<< 4)
      ||| UInt8.ofNat ((b.channels.length >>> 8) &&& 0x0003) := by
  unfold writeBlock writeNumChannels
  rw [if_pos hmode, Bytes.put_of_ne (by omega), Bytes.put16_of_ne (by omega) (by omega),
    Bytes.put_of_ne (by omega), Bytes.put_self]

theorem writeBlock_channelByte (hmode : t.mCompatibilityModeAudio = eIasAvbCompLatest) :
    t.writeBlock m b 18 = UInt8.ofNat (b.channels.length &&& 0x00FF) := by
  unfold writeBlock writeNumChannels
  rw [if_pos hmode, Bytes.put_of_ne (by omega), Bytes.put16_of_ne (by omega) (by omega),
    Bytes.put_self]

theorem writeBlock_channelWord (hmode : t.mCompatibilityModeAudio ≠ eIasAvbCompLatest) :
    (t.writeBlock m b).be16 22 = b.channels.length % 65536 := by
  unfold writeBlock writeNumChannels
  dsimp only
  rw [if_neg hmode, Bytes.be16_put_of_ne (by omega) (by omega),
    Bytes.be16_put16_of_ne (by omega), Bytes.be16_put16]

theorem read_rate (hw : SameWire t c) (hp : Prepared t m) :
    c.sampleFrequencyCode (t.writeBlock m b) = c.mSampleFrequencyCode := by
  unfold sampleFrequencyCode
  rw [hw.mode, hw.rateCode]
  split
  · rename_i hmode
    have hbits := (rate_and_channel_bits ⟨_, hw.rate_lt⟩
      ⟨(b.channels.length >>> 8) &&& 0x0003, Nat.and_lt_two_pow _ (by decide : 3 < 2 ^ 2)⟩).1
    rw [UInt8.ofNat_toNat] at hbits
    rw [writeBlock_rateByte hmode]
    exact hbits
  · rename_i hmode
    have hnibble := rate_low_nibble ⟨_, hw.rate_lt⟩
    rw [UInt8.ofNat_toNat] at hnibble
    rw [← hp.rate hmode] at hnibble ⊢
    have hsame : t.writeBlock m b 18 = m 18 :=
      ((prepared_writeBlock hp).rate hmode).trans (hp.rate hmode).symm
    rw [hsame]
    exact hnibble

/-- The header of a packet is in order for a listener of the same format. -/
theorem read_headerOk (hw : SameWire t c) (hp : Prepared t m) {length : Nat}
    (hlength : t.blockLength b ≤ length) : c.headerOk (t.writeBlock m b) length = true := by
  have hp' := prepared_writeBlock (b := b) hp
  have hsaf : c.mAudioFormat = eIasAvbAudioFormatSaf16 := hw.format.trans hw.saf16
  unfold blockLength at hlength
  unfold headerOk cAvtpHeaderSize
  rw [read_rate hw hp, hp'.subtype, hp'.format, hw.saf16, hsaf, hw.formatCode, writeBlock_dataLength,
    decide_eq_true (show 24 ≤ length by omega), decide_eq_true
      (show t.streamDataLength b.written b.channels.length ≤ length - 24 by omega)]
  simp

/-- **The channel count survives, unless its upper bits are used in the latest mode**, where
the listener does not shift them back to their place. -/
theorem read_channels_iff (hw : SameWire t c) (hch : b.channels.length ≤ 1023) :
    c.channelsPerFrame (t.writeBlock m b) = b.channels.length
      ↔ (t.mCompatibilityModeAudio = eIasAvbCompLatest → b.channels.length < 256) := by
  unfold channelsPerFrame
  rw [hw.mode]
  split
  · rename_i hmode
    have hbits := (rate_and_channel_bits ⟨_, hw.rate_lt⟩
      ⟨(b.channels.length >>> 8) &&& 0x0003, Nat.and_lt_two_pow _ (by decide : 3 < 2 ^ 2)⟩).2
    rw [UInt8.ofNat_toNat] at hbits
    have hlow : b.channels.length &&& 0x00FF = b.channels.length % 256 :=
      Nat.and_two_pow_sub_one_eq_mod _ 8
    rw [writeBlock_rateByte hmode, writeBlock_channelByte hmode, hbits, UInt8.toNat_ofNat', hlow]
    dsimp only
    constructor
    · intro heq _
      have hor := Nat.or_lt_two_pow (n := 8)
        (show (b.channels.length >>> 8) &&& 0x0003 < 2 ^ 8 by
          have : (b.channels.length >>> 8) &&& 0x0003 ≤ 3 := Nat.and_le_right
          omega)
        (show b.channels.length % 256 % 2 ^ 8 < 2 ^ 8 by omega)
      omega
    · intro hlt
      have hlt := hlt hmode
      have hshift : b.channels.length >>> 8 = 0 := by
        rw [Nat.shiftRight_eq_div_pow]; omega
      rw [hshift, Nat.zero_and, Nat.zero_or]
      omega
  · rename_i hmode
    have hmask : b.channels.length % 65536 &&& 0x03FF = b.channels.length % 65536 % 1024 :=
      Nat.and_two_pow_sub_one_eq_mod _ 10
    rw [writeBlock_channelWord hmode, hmask]
    exact iff_of_true (by omega) fun h => absurd h hmode

/-- The number of samples survives if the data length fits its field and the listener does
not cut it. -/
theorem read_count_iff (hw : SameWire t c) (hpos : 1 ≤ b.channels.length)
    (hch : b.channels.length ≤ 1023) (hn : 1 ≤ b.written) (hn' : b.written < 65536) :
    c.samplesPerChannel (t.writeBlock m b) b.channels.length = b.written
      ↔ b.written * b.channels.length * 2 < 65536
        ∧ b.written ≤ add32 c.mSamplesPerChannelPerPacket c.mExcessSamples := by
  have hsize : getSampleSize t.mAudioFormat = 2 := by rw [hw.saf16]; rfl
  have hstride : 2 * b.channels.length % 65536 = 2 * b.channels.length := by omega
  have hmul : b.written * b.channels.length * 2 = b.written * (2 * b.channels.length) := by
    rw [Nat.mul_assoc, Nat.mul_comm b.channels.length 2]
  unfold samplesPerChannel
  rw [writeBlock_dataLength, hw.format, hsize, hstride]
  unfold streamDataLength
  rw [hsize, hmul]
  dsimp only
  rw [if_pos (show 2 * b.channels.length ≠ 0 by omega)]
  by_cases hfit : b.written * (2 * b.channels.length) < 65536
  · have hdiv : b.written * (2 * b.channels.length) / (2 * b.channels.length) = b.written :=
      Nat.mul_div_cancel _ (by omega)
    rw [Nat.mod_eq_of_lt hfit, hdiv, Nat.mod_eq_of_lt hn']
    constructor
    · intro heq
      refine ⟨hfit, ?_⟩
      by_contra hcut
      rw [if_pos (by omega)] at heq
      omega
    · rintro ⟨-, hle⟩
      rw [if_neg (by omega)]
  · -- the length field has wrapped, so fewer samples are announced
    have hfewer : b.written * (2 * b.channels.length) % 65536 / (2 * b.channels.length)
        < b.written := by
      refine Nat.div_lt_of_lt_mul ?_
      rw [Nat.mul_comm (2 * b.channels.length)]
      omega
    refine iff_of_false ?_ fun h => hfit h.1
    have hquot := Nat.mod_le
      (b.written * (2 * b.channels.length) % 65536 / (2 * b.channels.length)) 65536
    split
    · have := Nat.mod_le (add32 c.mSamplesPerChannelPerPacket c.mExcessSamples) 65536
      omega
    · omega

/-- The samples come back in their channels. -/
theorem read_samples (hw : SameWire t c) (hch : b.channels.length ≤ 1023) {i : Nat}
    (hi : i < b.channels.length) (hlen : b.channels[i].length = b.written) :
    c.channelSamples (t.writeBlock m b) b.channels.length b.written i = b.channels[i] := by
  have hsize : getSampleSize t.mAudioFormat = 2 := by rw [hw.saf16]; rfl
  have hstride : t.mStride b.channels.length = 2 * b.channels.length := by
    unfold mStride; rw [hsize]; omega
  have hstride' : 2 * b.channels.length % 65536 = 2 * b.channels.length := by omega
  unfold channelSamples Bytes.column
  dsimp only
  rw [hw.format, hsize, hstride', List.map_map]
  refine List.ext_getElem (by simp [hlen]) fun j hj hj' => ?_
  have hword : (t.writeBlock m b).be16 (24 + 2 * i + j * (2 * b.channels.length))
      = b.channels[i][j].toNat % 65536 := by
    have hread := @Bytes.be16_putColumns (writeStamp m b.timestamp b.mSeqNum) 24
      (2 * b.channels.length) i j (b.channels.map (List.map BitVec.toNat)) (by simp)
      (by simpa using hi) (by simpa using hj')
    rw [Bytes.be16_congr (writeBlock_of_ge (by omega)) (writeBlock_of_ge (by omega)), hstride]
    simpa [writeSamples] using hread
  simp only [List.getElem_map, List.getElem_range, Function.comp_apply]
  rw [hword]
  apply BitVec.eq_of_toNat_eq
  have hbound := b.channels[i][j].isLt
  rw [BitVec.toNat_ofNat]
  omega

/-- The bits of the channel layout a mode can carry. -/
def carriedLayout (c : AvbAudioConfig) (layout : UInt8) : UInt8 :=
  if c.mCompatibilityModeAudio = eIasAvbCompLatest then layout &&& 0x0F else layout

theorem read_layout (hw : SameWire t c) :
    c.layoutSample (t.writeBlock m b) = BitVec.ofNat 16 (c.carriedLayout b.layout).toNat := by
  unfold layoutSample carriedLayout
  rw [hw.mode]
  split
  · rename_i hmode
    have hbyte : t.writeBlock m b 22 &&& 0x0F = b.layout &&& 0x0F := by
      unfold writeBlock writeLayout writeNumChannels
      rw [if_pos hmode, if_pos hmode, Bytes.put_of_ne (by omega),
        Bytes.put16_of_ne (by omega) (by omega), Bytes.put_of_ne (by omega),
        Bytes.put_of_ne (by omega), Bytes.put_self]
      exact layout_low_nibble ..
    rw [hbyte]
  · rename_i hmode
    have hbyte : t.writeBlock m b 17 = b.layout := by
      unfold writeBlock writeLayout writeNumChannels
      rw [if_neg hmode, if_neg hmode, Bytes.put_of_ne (by omega),
        Bytes.put16_of_ne (by omega) (by omega), Bytes.put16_of_ne (by omega) (by omega),
        Bytes.put_self]
    rw [hbyte]

/-! ## The round trip -/

/-- A packet is accepted and gives back what went into it. -/
structure RoundTrip (c : AvbAudioConfig) (s : RxStream LocalAudioStream) (packet : Bytes)
    (length : Nat) (b : TxBlock) : Prop where
  accepted : (c.readFromAvbPacket s (some packet) length).1.mStreamStateInternal
    = eIasAvbStreamValid
  channels : c.channelsPerFrame packet = b.channels.length
  samplesPerChannel : c.samplesPerChannel packet (c.channelsPerFrame packet) = b.written
  samples : ∀ (i : Nat) (hi : i < b.channels.length),
    c.channelSamples packet (c.channelsPerFrame packet) b.written i = b.channels[i]
  layout : c.layoutSample packet = BitVec.ofNat 16 (c.carriedLayout b.layout).toNat
  seqNum : (c.readFromAvbPacket s (some packet) length).1.mSeqNum = b.mSeqNum
  timestamp : packet.be32 12 = b.timestamp % 4294967296

/-- What the local stream gets from a packet that survived: every channel with its samples,
and the layout on the side channel. -/
theorem delivered_of_roundTrip {s : RxStream LocalAudioStream} {packet : Bytes} {length : Nat}
    {l : LocalAudioStream} (h : RoundTrip c s packet length b) (hl : s.mLocalStream = some l)
    (hsame : audioChannels l = b.channels.length) (hpos : 1 ≤ b.channels.length) :
    (c.readFromAvbPacket s (some packet) length).2 =
      (if l.hasBufferDesc ∧ s.mStreamStateInternal ≠ eIasAvbStreamValid then [.resetBuffers]
        else [])
        ++ ((List.range b.channels.length).map fun i =>
            .writeLocalAudioBuffer i (b.channels.getD i []) (b.timestamp % 4294967296))
        ++ (if l.mHasSideChannel then
            [.writeLocalAudioBuffer b.channels.length
              (List.replicate b.written (BitVec.ofNat 16 (c.carriedLayout b.layout).toNat))
              (b.timestamp % 4294967296)]
          else []) := by
  have hverdict := (read_internal c s packet length).symm.trans h.accepted
  have hcount : c.samplesPerChannel packet b.channels.length = b.written := by
    rw [← h.samplesPerChannel, h.channels]
  rw [read_of_valid hl hverdict]
  unfold deliver
  dsimp only
  rw [h.channels, hcount, hsame, h.layout, h.timestamp, Nat.min_self, if_neg (by omega),
    Nat.sub_self, List.range'_zero, List.map_nil, List.append_nil]
  congr 2
  refine List.map_congr_left fun i hi => ?_
  have hi := List.mem_range.mp hi
  rw [← h.channels, h.samples i hi, List.getD_eq_getElem?_getD, List.getElem?_eq_getElem hi,
    Option.getD_some]

/-- A listener that waits for the packet takes it. -/
theorem verdict_of_expected {s : RxStream LocalAudioStream} {packet : Bytes} {length : Nat}
    (hheader : c.headerOk packet length = true)
    (hflow : s.mStreamStateInternal = eIasAvbStreamValid → packet 2 = s.mSeqNum + 1)
    (hidle : s.mStreamStateInternal ≠ eIasAvbStreamValid → s.mStreamState ≠ eIasAvbStreamValid) :
    s.verdict c.toRxConfig (c.headerOk packet length) (packet 2) = eIasAvbStreamValid := by
  by_cases hvalid : s.mStreamStateInternal = eIasAvbStreamValid
  · exact RxStream.verdict_of_follows ⟨hvalid, hflow hvalid⟩
  · rw [hheader]
    exact RxStream.verdict_of_headerOk hvalid (hidle hvalid)

/--
**When a packet survives the trip.**

For every mode, every block of at most 1023 channels and every listener set up alike that
is not waiting for another packet: all of the block comes back exactly if, in the latest
mode, there are fewer than 256 channels, the data length fits its 16 bits, and the
listener does not cut the block.
-/
theorem roundTrip_iff {comp : IasAvbCompatibility} {validation : RxConfig}
    {packetsPerSec packetsPerSec' maxNumberChannels maxNumberChannels' sampleFreq poolSize
      excessSamples : Nat} {format : IasAvbAudioFormat}
    (ht : initTransmit comp packetsPerSec maxNumberChannels sampleFreq poolSize format = .ok t)
    (hc : initReceive comp validation excessSamples packetsPerSec' maxNumberChannels' sampleFreq
      format = .ok c)
    (hm : Prepared t m)
    (hpos : 1 ≤ b.channels.length) (hch : b.channels.length ≤ 1023)
    (hn : 1 ≤ b.written) (hn' : b.written < 65536)
    (hblock : ∀ x ∈ b.channels, x.length = b.written)
    {s : RxStream LocalAudioStream} {length : Nat} (hlength : t.blockLength b ≤ length)
    (hflow : s.mStreamStateInternal = eIasAvbStreamValid → b.mSeqNum = s.mSeqNum + 1)
    (hidle : s.mStreamStateInternal ≠ eIasAvbStreamValid → s.mStreamState ≠ eIasAvbStreamValid) :
    RoundTrip c s (t.writeBlock m b) length b ↔
      (comp = eIasAvbCompLatest → b.channels.length < 256)
        ∧ b.written * b.channels.length * 2 < 65536
        ∧ b.written ≤ add32 c.mSamplesPerChannelPerPacket c.mExcessSamples := by
  have hw : SameWire t c := sameWire_of_init ht hc
  have hcomp : t.mCompatibilityModeAudio = comp := by rw [(initTransmit_ok ht).1]; rfl
  have hchannels := read_channels_iff (m := m) hw hch
  have hcount := read_count_iff (m := m) hw hpos hch hn hn'
  rw [hcomp] at hchannels
  constructor
  · intro h
    have hread := h.channels
    refine ⟨hchannels.mp hread, hcount.mp ?_⟩
    rw [← hread]
    exact h.samplesPerChannel
  · rintro ⟨hlatest, hfit⟩
    have hread := hchannels.mpr hlatest
    have hverdict := verdict_of_expected (read_headerOk hw hm hlength)
      (by rw [writeBlock_seqNum]; exact hflow) hidle
    exact {
      accepted := (read_internal ..).trans hverdict
      channels := hread
      samplesPerChannel := by rw [hread]; exact hcount.mpr hfit
      samples := fun i hi => by
        rw [hread]; exact read_samples hw hch hi (hblock _ (List.getElem_mem hi))
      layout := read_layout hw
      seqNum := (read_seqNum ..).trans writeBlock_seqNum
      timestamp := writeBlock_timestamp }

/-- A stereo talker of draft 6, and its listener. -/
def stereoTalker : AvbAudioConfig := common eIasAvbCompD6 8000 2 48000 eIasAvbAudioFormatSaf16

def stereoBlock : TxBlock where
  channels := [[1, -2], [300, 0x7FFF]]
  written := 2
  layout := 0x2A
  timestamp := 0x01020304
  mSeqNum := 7

theorem roundTrip_iff_stereo :
    RoundTrip { stereoTalker with mExcessSamples := 1 } (.init {} (some { mNumChannels := 2 }))
      (stereoTalker.writeBlock (stereoTalker.prepare false 1 fun _ => 0) stereoBlock) 60
      stereoBlock :=
  (roundTrip_iff
    (show initTransmit eIasAvbCompD6 8000 2 48000 16 eIasAvbAudioFormatSaf16 = .ok stereoTalker
      from rfl)
    (show initReceive eIasAvbCompD6 {} 1 8000 2 48000 eIasAvbAudioFormatSaf16
      = .ok { stereoTalker with mExcessSamples := 1 } from rfl)
    (prepared_prepare ..) (by decide) (by decide)
    (by decide) (by decide) (by decide) (by decide) (by decide) (by decide)).mpr (by decide)

/-- A talker of 256 channels in the latest mode, one sample a packet. -/
def wideTalker : AvbAudioConfig :=
  common eIasAvbCompLatest 48000 256 48000 eIasAvbAudioFormatSaf16

def wideBlock : TxBlock where
  channels := List.replicate 256 [5]
  written := 1
  layout := 0
  timestamp := 0
  mSeqNum := 0

theorem wideBlock_length : wideBlock.channels.length = 256 := List.length_replicate

/-- Of 256 channels the listener sees one. -/
theorem upper_channel_bits_are_lost :
    ∃ t, initTransmit eIasAvbCompLatest 48000 256 48000 16 eIasAvbAudioFormatSaf16 = .ok t
      ∧ t.connectable { mNumChannels := wideBlock.channels.length } = true
      ∧ wideBlock.channels.length = 256
      ∧ t.channelsPerFrame (t.writeBlock (t.prepare false 1 fun _ => 0) wideBlock) = 1 := by
  refine ⟨wideTalker, rfl, ?_, wideBlock_length, ?_⟩
  · rw [wideBlock_length]; decide
  · unfold channelsPerFrame
    have hmode : wideTalker.mCompatibilityModeAudio = eIasAvbCompLatest := rfl
    rw [if_pos hmode, writeBlock_rateByte hmode, writeBlock_channelByte hmode, wideBlock_length]
    decide

end AvbAudioConfig

end AvbStreamHandler
