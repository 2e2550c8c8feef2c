import AvbStreamHandler.Audio.AvbAudioPacket

/-!
# Room in the packet

The packets of a pool are made for `mMaxNumChannels` channels of
`mSamplesPerChannelPerPacket` samples. That size, the distance between two samples of a
channel and the data length are all computed in 16 bits, each on its own. They agree, and
what is written stays inside the packet, exactly if the largest packet the stream was set
up for can be counted in 16 bits at all.
-/

namespace AvbStreamHandler

open Kit Kit.Word IasAvbProcessingResult IasAvbCompatibility IasAvbAudioFormat

namespace AvbAudioConfig

variable {t : AvbAudioConfig}

/-- What `writeToAvbPacket` may find in the local stream `l`: a block for its channels, none
with more samples than a packet is meant for. -/
structure BlockOf (t : AvbAudioConfig) (l : LocalAudioStream) (b : TxBlock) : Prop where
  channels : b.channels.length = audioChannels l
  samples : ∀ x ∈ b.channels, x.length ≤ t.mSamplesPerChannelPerPacket
  written : b.written ≤ t.mSamplesPerChannelPerPacket

/-- All the sizes agree. -/
structure Fits (t : AvbAudioConfig) (m : Bytes) (b : TxBlock) : Prop where
  /-- The data length is the length of the data. -/
  dataLength : t.streamDataLength b.written b.channels.length
    = b.written * b.channels.length * 2
  /-- The packet that is announced fits into a packet of the pool. -/
  length : t.blockLength b + cIasAvbPerFrameOverhead ≤ t.packetSize
  /-- Nothing is written behind the end of a packet of the pool. -/
  inside : ∀ i, t.packetSize ≤ i + cIasAvbPerFrameOverhead → t.writeBlock m b i = m i
  /-- If all channels have as many samples, nothing is written behind what is announced. -/
  announced : (∀ x ∈ b.channels, x.length = b.written) →
    ∀ i, t.blockLength b ≤ i → t.writeBlock m b i = m i

/-- The bytes of a block of at most `n` samples a channel. -/
theorem writeBlock_of_end {m : Bytes} {b : TxBlock} {n i : Nat}
    (hstride : 2 * b.channels.length ≤ t.mStride b.channels.length)
    (hn : ∀ x ∈ b.channels, x.length ≤ n)
    (hi : 24 + n * t.mStride b.channels.length ≤ i) : t.writeBlock m b i = m i := by
  have hge : 24 ≤ i := by omega
  have hcols : ∀ vs ∈ b.channels.map (List.map BitVec.toNat), vs.length ≤ n := by
    intro vs hvs
    obtain ⟨x, hx, rfl⟩ := List.mem_map.mp hvs
    rw [List.length_map]
    exact hn x hx
  rw [writeBlock_of_ge hge]
  unfold writeSamples
  rw [← Nat.add_zero 24, Bytes.putColumns_of_ge (by simpa using hstride) hcols hi]
  exact writeStamp_of_ne (by omega) (by omega) (by omega)

/-- A frame that can be counted in 16 bits is counted right. -/
theorem maxFrameSize_of_lt (hsaf : t.mAudioFormat = eIasAvbAudioFormatSaf16)
    (h : 24 + 2 * (t.mMaxNumChannels * t.mSamplesPerChannelPerPacket) < 65536) :
    t.maxFrameSize = 24 + 2 * (t.mMaxNumChannels * t.mSamplesPerChannelPerPacket) := by
  unfold maxFrameSize getPacketSize headerSize
  rw [hsaf, Nat.mod_eq_of_lt (show t.mMaxNumChannels * t.mSamplesPerChannelPerPacket < 65536 by
    omega)]
  exact Nat.mod_eq_of_lt h

theorem fits_of_lt (hsaf : t.mAudioFormat = eIasAvbAudioFormatSaf16)
    (h : 24 + 2 * (t.mMaxNumChannels * t.mSamplesPerChannelPerPacket) < 65536)
    {l : LocalAudioStream} (hl : t.connectable l = true) {b : TxBlock} (hb : BlockOf t l b)
    (m : Bytes) : Fits t m b := by
  have hsize : getSampleSize t.mAudioFormat = 2 := by rw [hsaf]; rfl
  have hmax : b.channels.length ≤ t.mMaxNumChannels := by
    rw [hb.channels]
    simp only [connectable, Bool.and_eq_true, decide_eq_true_eq] at hl
    exact hl.1.2
  have hframe := maxFrameSize_of_lt hsaf h
  -- what a block of `n` samples takes, for any `n` the stream was set up for
  have hroom : ∀ n, n ≤ t.mSamplesPerChannelPerPacket →
      n * b.channels.length ≤ t.mMaxNumChannels * t.mSamplesPerChannelPerPacket := by
    intro n hn
    rw [Nat.mul_comm t.mMaxNumChannels]
    exact Nat.mul_le_mul hn hmax
  have hwritten := hroom _ hb.written
  have hdata : t.streamDataLength b.written b.channels.length
      = b.written * b.channels.length * 2 := by
    unfold streamDataLength
    rw [hsize]
    exact Nat.mod_eq_of_lt (by omega)
  rcases Nat.eq_zero_or_pos t.mSamplesPerChannelPerPacket with hzero | hpos
  · -- nothing to write at all
    have hempty : ∀ i, 24 ≤ i → t.writeBlock m b i = m i := by
      intro i hi
      have hlen : ∀ x ∈ b.channels, x = [] := fun x hx =>
        List.length_eq_zero_iff.mp (by have := hb.samples x hx; omega)
      rw [writeBlock_of_ge hi]
      unfold writeSamples
      have hnil : ∀ (cols : List (List AudioData)) (m : Bytes) (base : Nat),
          (∀ x ∈ cols, x = []) →
          m.putColumns base (t.mStride b.channels.length) (cols.map (List.map BitVec.toNat))
            = m := by
        intro cols
        induction cols with
        | nil => intros; rfl
        | cons x rest ih =>
            intro m base hx
            rw [hx x (List.mem_cons_self ..)]
            exact ih _ _ fun y hy => hx y (List.mem_cons_of_mem _ hy)
      rw [hnil _ _ _ hlen]
      exact writeStamp_of_ne (by omega) (by omega) (by omega)
    exact {
      dataLength := hdata
      length := by unfold blockLength packetSize; rw [hdata, hframe]; omega
      inside := fun i hi => hempty i (by unfold packetSize at hi; omega)
      announced := fun _ i hi => hempty i (by unfold blockLength at hi; omega) }
  · have hone := hroom 1 hpos
    have hstride : t.mStride b.channels.length = 2 * b.channels.length := by
      unfold mStride; rw [hsize]; omega
    have hend : ∀ n i, (∀ x ∈ b.channels, x.length ≤ n) →
        24 + 2 * (n * b.channels.length) ≤ i → t.writeBlock m b i = m i := by
      intro n i hn hi
      refine writeBlock_of_end (Nat.le_of_eq hstride.symm) hn ?_
      rw [hstride, Nat.mul_left_comm]
      exact hi
    exact {
      dataLength := hdata
      length := by unfold blockLength packetSize; rw [hdata, hframe]; omega
      inside := fun i hi => hend _ i hb.samples (by
        have := hroom _ (Nat.le_refl t.mSamplesPerChannelPerPacket)
        unfold packetSize at hi
        omega)
      announced := fun hall i hi => hend _ i (fun x hx => Nat.le_of_eq (hall x hx)) (by
        unfold blockLength at hi
        rw [hdata] at hi
        omega) }

/-- The largest block: every channel a stream can have, with every sample it can have. -/
def fullBlock (t : AvbAudioConfig) : TxBlock where
  channels := List.replicate t.mMaxNumChannels (List.replicate t.mSamplesPerChannelPerPacket 0)
  written := t.mSamplesPerChannelPerPacket
  layout := 0
  timestamp := 0
  mSeqNum := 0

/-- The local stream with as many channels as a stream was set up for. -/
def fullLocal (t : AvbAudioConfig) : LocalAudioStream where
  mNumChannels := t.mMaxNumChannels
  mSampleFrequency := t.mSampleFrequency

theorem blockOf_fullBlock (t : AvbAudioConfig) : BlockOf t t.fullLocal t.fullBlock where
  channels := List.length_replicate
  samples := fun x hx => by
    rw [(List.mem_replicate.mp hx).2]
    exact Nat.le_of_eq List.length_replicate
  written := Nat.le_refl _

/--
**When the sizes agree.**

For every stream `initTransmit` accepts: whatever local stream is connected and whatever it
has to send, the data length is exact, the packet fits into the pool's packets, and nothing
is written behind it — exactly if the largest packet can be counted in 16 bits.
-/
theorem fits_iff {comp : IasAvbCompatibility}
    {packetsPerSec maxNumberChannels sampleFreq poolSize : Nat} {format : IasAvbAudioFormat}
    (ht : initTransmit comp packetsPerSec maxNumberChannels sampleFreq poolSize format = .ok t) :
    (∀ l, t.connectable l = true → ∀ b, BlockOf t l b → ∀ m, Fits t m b) ↔
      24 + 2 * (t.mMaxNumChannels * t.mSamplesPerChannelPerPacket) < 65536 := by
  obtain ⟨hcommon, hsupported, -, hchannels, -, hpool⟩ := initTransmit_ok ht
  have hsaf : t.mAudioFormat = eIasAvbAudioFormatSaf16 := by rw [hcommon]; exact hsupported.2
  have hmax : t.mMaxNumChannels ≠ 0 := by rw [hcommon]; exact hchannels
  constructor
  · intro h
    have hconnect : t.connectable t.fullLocal = true := by
      simp [connectable, audioChannels, fullLocal, hmax]
    have hfits := h _ hconnect _ (blockOf_fullBlock t) fun _ => 0
    have hdata := hfits.dataLength
    have hlength := hfits.length
    have hcount : t.fullBlock.channels.length = t.mMaxNumChannels := List.length_replicate
    unfold blockLength at hlength
    rw [hdata, hcount] at hlength
    rw [Nat.mul_comm t.mMaxNumChannels]
    unfold cMaxBufferSize at hpool
    have hwritten : t.fullBlock.written = t.mSamplesPerChannelPerPacket := rfl
    rw [hwritten] at hlength
    omega
  · intro h l hl b hb m
    exact fits_of_lt hsaf h hl hb m

/-- 512 channels of 64 samples: 65536 bytes, which 16 bits count as none. -/
def overflowingTalker : AvbAudioConfig :=
  common eIasAvbCompLatest 750 512 48000 eIasAvbAudioFormatSaf16

theorem fits_iff_stereo :
    (∀ l, stereoTalker.connectable l = true → ∀ b, BlockOf stereoTalker l b →
      ∀ m, Fits stereoTalker m b) ↔
      24 + 2 * (stereoTalker.mMaxNumChannels * stereoTalker.mSamplesPerChannelPerPacket) < 65536 :=
  fits_iff (show initTransmit eIasAvbCompD6 8000 2 48000 16 eIasAvbAudioFormatSaf16
    = .ok stereoTalker from rfl)

/-- Such a stream is accepted with packets that have room for the header alone, and a
stereo stream may be connected to it. -/
theorem overflowing_talker_overruns_its_packets :
    initTransmit eIasAvbCompLatest 750 512 48000 16 eIasAvbAudioFormatSaf16
        = .ok overflowingTalker
      ∧ overflowingTalker.packetSize = 42
      ∧ overflowingTalker.connectable { mNumChannels := 2 } = true
      ∧ ∃ b, BlockOf overflowingTalker { mNumChannels := 2 } b
        ∧ overflowingTalker.blockLength b + cIasAvbPerFrameOverhead = 298 := by
  refine ⟨rfl, by decide, by decide, ?_⟩
  refine ⟨⟨List.replicate 2 (List.replicate 64 0), 64, 0, 0, 0, true⟩, ⟨by decide, ?_, by decide⟩,
    by decide⟩
  intro x hx
  rw [(List.mem_replicate.mp hx).2, List.length_replicate]
  decide

end AvbAudioConfig

end AvbStreamHandler
