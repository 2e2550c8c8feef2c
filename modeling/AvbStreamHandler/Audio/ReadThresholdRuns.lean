import AvbStreamHandler.Audio.ReadThreshold
import Mathlib.Tactic.NormNum

/-!
# Threshold and delay under connections

Clients come and go. Each can raise the threshold, which then stays; the delay goes with it as
long as the ring is large enough for what the client asks for.
-/

namespace AvbStreamHandler

open Kit Kit.Word Kit.Run IasAvbProcessingResult

variable {k : DelayCast} {s : IasLocalAudioStream} {N n : Nat} {client : UInt32 → UInt32}

inductive ClientEvent
  | connectTo (client : UInt32 → UInt32)
  | disconnect

def clientStep (k : DelayCast) (s : IasLocalAudioStream) : ClientEvent → IasLocalAudioStream
  | .connectTo client => (s.connectClient k client).1
  | .disconnect => s.disconnect

namespace IasLocalAudioStream

/-- The client needs more than the threshold. -/
structure Raises (k : DelayCast) (s : IasLocalAudioStream) (client : UInt32 → UInt32) : Prop where
  free : s.mClientState = .eIasNotConnected
  timeAware : s.hasBufferDesc = true
  transmit : s.isReceive = false
  more : ∃ b, s.mChannelBuffers[0]? = some b ∧ b.mReadThreshold < (s.minTxBufSz k client).toNat

/-- What the client needs fits into the rings, and its delay into 32 bits. -/
structure Holds (k : DelayCast) (s : IasLocalAudioStream) (client : UInt32 → UInt32) : Prop where
  room : ∀ b ∈ s.mChannelBuffers, (s.minTxBufSz k client).toNat ≤ b.capacity
  delay : FitsUInt32 (playOutTime (s.minTxBufSz k client).toNat s.mSampleFrequency)

/-- Whoever raises the threshold finds room for it. -/
def RoomToFill (k : DelayCast) (s : IasLocalAudioStream) : ClientEvent → Prop
  | .connectTo client => s.Raises k client → s.Holds k client
  | .disconnect => True

/-- A connection raises the threshold, or only takes note of the client. -/
theorem connectClient_cases (k : DelayCast) (s : IasLocalAudioStream) (client : UInt32 → UInt32) :
    s.Raises k client ∧ (s.connectClient k client).1
        = (s.setClientState .eIasIdle).raiseThreshold k (s.minTxBufSz k client).toNat
      ∨ ¬ s.Raises k client ∧ ∃ state, (s.connectClient k client).1 = s.setClientState state := by
  unfold connectClient
  by_cases hfree : s.mClientState = .eIasNotConnected
  · rw [if_neg fun hnot => hnot hfree]
    by_cases htalker : (s.hasBufferDesc && !s.isReceive) = true
    · obtain ⟨haware, hreceive⟩ := Bool.and_eq_true_iff.mp htalker
      rw [if_pos htalker]
      cases hb : s.mChannelBuffers[0]? with
      | none =>
          refine Or.inr ⟨fun hraises => ?_, _, rfl⟩
          obtain ⟨b, hsome, -⟩ := hraises.more
          rw [hb] at hsome
          cases hsome
      | some b =>
          dsimp only
          by_cases hless : b.mReadThreshold < (s.minTxBufSz k client).toNat
          · rw [if_pos hless]
            exact Or.inl ⟨⟨hfree, haware, by simpa using hreceive, b, hb, hless⟩, rfl⟩
          · rw [if_neg hless]
            refine Or.inr ⟨fun hraises => ?_, _, rfl⟩
            obtain ⟨b', hsome, hless'⟩ := hraises.more
            obtain rfl := Option.some.inj (hb.symm.trans hsome)
            exact hless hless'
    · rw [if_neg htalker]
      refine Or.inr ⟨fun hraises => htalker ?_, _, rfl⟩
      rw [hraises.timeAware, hraises.transmit]
      rfl
  · rw [if_pos hfree]
    exact Or.inr ⟨fun hraises => hfree hraises.free, s.mClientState, rfl⟩

/-- For a receive stream a connection is what it was. -/
theorem connectClient_receive (h : s.isReceive = true) :
    (s.connectClient k client).1 = s.connect := by
  unfold connectClient connect
  rw [h, Bool.not_true, Bool.and_false, if_neg (show ¬ false = true from Bool.false_ne_true)]
  by_cases hfree : s.mClientState = .eIasNotConnected
  · rw [if_neg fun hnot => hnot hfree, if_pos hfree]
  · rw [if_pos hfree, if_neg hfree]

end IasLocalAudioStream

/-! ## Raising the threshold -/

theorem reset_kept (b : IasLocalAudioBuffer) (n : Nat) :
    (b.reset n).mTotalSize = b.mTotalSize ∧ (b.reset n).mReadThreshold = b.mReadThreshold :=
  ⟨congrArg BufferControl.mTotalSize (b.control_reset n),
    congrArg BufferControl.mReadThreshold (b.control_reset n)⟩

/-- The setter takes what is not above the size of the ring. -/
theorem Uniform.raise {m : Nat} (h : Uniform N n s) (hle : m ≤ N) :
    Uniform N m (s.raiseThreshold k m) := by
  have hb : ∀ b ∈ (s.raiseThreshold k m).mChannelBuffers,
      b.mTotalSize = N ∧ b.mReadThreshold = m := by
    intro b hb
    obtain ⟨b, hold, rfl⟩ := List.mem_map.mp hb
    have hsize := h.size b hold
    rw [IasLocalAudioBuffer.setReadThreshold_of_le (by omega)]
    exact ⟨(reset_kept _ 0).1.trans hsize, (reset_kept _ 0).2⟩
  exact ⟨fun b hmem => (hb b hmem).1, fun b hmem => (hb b hmem).2⟩

/-- And leaves the threshold as it was otherwise. -/
theorem Uniform.refused {m : Nat} (h : Uniform N n s) (hlt : N < m) :
    Uniform N n (s.raiseThreshold k m) := by
  have hb : ∀ b ∈ (s.raiseThreshold k m).mChannelBuffers,
      b.mTotalSize = N ∧ b.mReadThreshold = n := by
    intro b hb
    obtain ⟨b, hold, rfl⟩ := List.mem_map.mp hb
    have hsize := h.size b hold
    rw [IasLocalAudioBuffer.setReadThreshold_of_lt (by omega)]
    exact ⟨(reset_kept b 0).1.trans hsize, (reset_kept b 0).2.trans (h.threshold b hold)⟩
  exact ⟨fun b hmem => (hb b hmem).1, fun b hmem => (hb b hmem).2⟩

/-! ## Runs -/

/-- What a run keeps. -/
structure ThresholdInv (s : IasLocalAudioStream) : Prop where
  agree : ThresholdsAgree s
  uniform : ∃ N n, Uniform N n s

/-- Taking note of a client changes no ring and no delay. -/
theorem thresholdInv_setClientState (h : ThresholdInv s) (state : ClientState) :
    ThresholdInv (s.setClientState state) := by
  obtain ⟨N, n, hsize, hthreshold⟩ := h.uniform
  exact ⟨⟨h.agree.reachable, h.agree.ready, h.agree.same, h.agree.delay⟩,
    N, n, hsize, hthreshold⟩

/-- **One step.** -/
theorem thresholdInv_step (h : ThresholdInv s) {ev : ClientEvent} (hok : s.RoomToFill k ev) :
    ThresholdInv (clientStep k s ev) := by
  cases ev with
  | disconnect => exact thresholdInv_setClientState h _
  | connectTo client =>
      show ThresholdInv (s.connectClient k client).1
      rcases s.connectClient_cases k client with ⟨hraises, hresult⟩ | ⟨-, state, hresult⟩
      · obtain ⟨hroom, hdelay⟩ := hok hraises
        obtain ⟨N, n, huniform⟩ := h.uniform
        obtain ⟨b, hb, hless⟩ := hraises.more
        have hmem := List.mem_of_getElem? hb
        have hcapacity : (s.minTxBufSz k client).toNat ≤ N - 1 := by
          have hle := hroom b hmem
          unfold IasLocalAudioBuffer.capacity at hle
          rw [huniform.size b hmem] at hle
          exact hle
        have hraised : Uniform N (s.minTxBufSz k client).toNat
            ((s.setClientState .eIasIdle).raiseThreshold k (s.minTxBufSz k client).toNat) :=
          Uniform.raise (s := s.setClientState .eIasIdle) ⟨huniform.size, huniform.threshold⟩
            (by omega)
        rw [hresult]
        exact ⟨hraised.agree hcapacity (k.toUInt32_toNat hdelay), N, _, hraised⟩
      · rw [hresult]
        exact thresholdInv_setClientState h state

/-! ## Clients that ask for too much -/

/-- What a client asks for can be stored in the ring, or its delay in 32 bits: the language says
what becomes of it. -/
def Defined (k : DelayCast) (s : IasLocalAudioStream) : ClientEvent → Prop
  | .connectTo client =>
      (∀ b ∈ s.mChannelBuffers, (s.minTxBufSz k client).toNat ≤ b.mTotalSize)
        ∨ FitsUInt32 (playOutTime (s.minTxBufSz k client).toNat s.mSampleFrequency)
  | .disconnect => True

theorem cast_lt (k : DelayCast) (x : ℚ) : ((k.toUInt32 x).toNat : ℤ) < 4294967296 := by
  exact_mod_cast (k.toUInt32 x).toNat_lt

/-- **A client that finds no room leaves threshold and delay apart**, or a threshold that is
never reached. -/
theorem disagree_of_no_room (h : ThresholdInv s) (hpos : 0 < s.mSampleFrequency)
    (hfast : s.mSampleFrequency ≤ 1000000000) {ev : ClientEvent} (hdefined : Defined k s ev)
    (hroom : ¬ s.RoomToFill k ev) : ¬ ThresholdsAgree (clientStep k s ev) := by
  cases ev with
  | disconnect => exact absurd trivial hroom
  | connectTo client =>
      have hraises : s.Raises k client := by
        by_contra hnot
        exact hroom fun hraises => absurd hraises hnot
      have hlacks : ¬ s.Holds k client := fun hholds => hroom fun _ => hholds
      obtain ⟨N, n, huniform⟩ := h.uniform
      obtain ⟨b, hb, hless⟩ := hraises.more
      have hmem := List.mem_of_getElem? hb
      have hresult : clientStep k s (.connectTo client)
          = (s.setClientState .eIasIdle).raiseThreshold k (s.minTxBufSz k client).toNat := by
        rcases s.connectClient_cases k client with ⟨-, hresult⟩ | ⟨hnot, -⟩
        · exact hresult
        · exact absurd hraises hnot
      have hmem' : (b.setReadThreshold (s.minTxBufSz k client).toNat).1.reset 0
          ∈ ((s.setClientState .eIasIdle).raiseThreshold k
            (s.minTxBufSz k client).toNat).mChannelBuffers :=
        List.mem_map_of_mem (f := fun b : IasLocalAudioBuffer =>
          (b.setReadThreshold (s.minTxBufSz k client).toNat).1.reset 0) hmem
      have hsame : Uniform N n (s.setClientState .eIasIdle) := ⟨huniform.size, huniform.threshold⟩
      have hn : b.mReadThreshold = n := huniform.threshold b hmem
      intro hagree
      rw [hresult] at hagree
      by_cases hstored : (s.minTxBufSz k client).toNat ≤ N
      · -- the setter takes the threshold
        have hraised := hsame.raise (k := k) hstored
        have hreach := hagree.reachable _ hmem'
        have hdelay := hagree.delay _ hmem'
        unfold IasLocalAudioBuffer.capacity at hreach
        rw [hraised.size _ hmem', hraised.threshold _ hmem'] at hreach
        rw [hraised.threshold _ hmem'] at hdelay
        refine hlacks ⟨fun b' hb' => ?_, ?_, ?_⟩
        · unfold IasLocalAudioBuffer.capacity
          rw [huniform.size b' hb']
          exact hreach
        · exact truncate_nonneg (playOutTime_nonneg _ _)
        · have hlt := cast_lt k
            (playOutTime (s.minTxBufSz k client).toNat s.mSampleFrequency)
          exact lt_of_eq_of_lt hdelay.symm hlt
      · -- it does not, and the delay is that of the threshold that was asked for
        have hrefused := hsame.refused (k := k) (Nat.not_le.mp hstored)
        have hdelay := hagree.delay _ hmem'
        rw [hrefused.threshold _ hmem'] at hdelay
        have hfits : FitsUInt32
            (playOutTime (s.minTxBufSz k client).toNat s.mSampleFrequency) := by
          refine hdefined.resolve_left fun hall => hstored ?_
          rw [← huniform.size b hmem]
          exact hall b hmem
        have hcast := k.toUInt32_toNat hfits
        have hlt := truncate_playOutTime_lt hpos hfast
          (show n < (s.minTxBufSz k client).toNat by omega)
        have hboth : truncate (playOutTime (s.minTxBufSz k client).toNat s.mSampleFrequency)
            = truncate (playOutTime n s.mSampleFrequency) := hcast.symm.trans hdelay
        omega

namespace LocalStreamConfig

variable {c : LocalStreamConfig} {heap : Nat → Nat → AudioData} {es : List ClientEvent}

theorem uniform_of_accepted (h : Accepted k c s) : ∃ N n, Uniform N n s := by
  cases h with
  | bare hnone _ =>
      refine ⟨0, 0, ?_, ?_⟩ <;> rw [hnone] <;> exact fun b hb => absurd hb List.not_mem_nil
  | plain huniform _ _ => exact ⟨_, _, huniform⟩
  | timeAware p _ _ _ huniform _ _ _ => exact ⟨_, _, huniform⟩

/--
**Threshold and delay agree** in every state that a stream reaches by connections, if the
configuration lets its rings fill to the threshold, and every client that raises it finds room
in them.
-/
theorem thresholds_agree (hinit : c.init k heap = some (.ok s)) (hplay : c.Playable)
    (hok : Always (clientStep k) (IasLocalAudioStream.RoomToFill k) s es) :
    ∀ pre, pre <+: es → ThresholdsAgree (exec (clientStep k) s pre) := by
  obtain ⟨haccepted, hfrequency, -⟩ := init_accepted hinit
  have hstart : ThresholdInv s :=
    ⟨agree_of_playable haccepted hplay hfrequency, uniform_of_accepted haccepted⟩
  have hstep : ∀ s ev, ThresholdInv s → s.RoomToFill k ev → ThresholdInv (clientStep k s ev) :=
    fun s ev hs hroom => thresholdInv_step hs hroom
  rintro pre ⟨rest, rfl⟩
  exact (inv_exec hstep hstart (always_append.mp hok).1).agree

/-- **And only then**, at up to 1 GHz and where the language says what becomes of the numbers. -/
theorem thresholds_agree_iff (hinit : c.init k heap = some (.ok s)) (hplay : c.Playable)
    (hfast : c.sampleFrequency.toNat ≤ 1000000000)
    (hrun : Always (clientStep k) (Defined k) s es) :
    (∀ pre, pre <+: es → ThresholdsAgree (exec (clientStep k) s pre))
      ↔ Always (clientStep k) (IasLocalAudioStream.RoomToFill k) s es := by
  obtain ⟨haccepted, hfrequency, hpos⟩ := init_accepted hinit
  have hkept : ∀ s' ev, s'.mSampleFrequency = s.mSampleFrequency →
      (clientStep k s' ev).mSampleFrequency = s.mSampleFrequency := by
    intro s' ev hs'
    cases ev with
    | disconnect => exact hs'
    | connectTo client =>
        show (s'.connectClient k client).1.mSampleFrequency = s.mSampleFrequency
        rcases s'.connectClient_cases k client with ⟨-, hresult⟩ | ⟨-, state, hresult⟩
        · rw [hresult]
          exact hs'
        · rw [hresult]
          exact hs'
  refine good_iff_always_of_promised
    (fun s' (hs' : ThresholdInv s' ∧ s'.mSampleFrequency = s.mSampleFrequency) => hs'.1.agree)
    (fun s' ev hs' _ hroom => ⟨thresholdInv_step hs'.1 hroom, hkept s' ev hs'.2⟩)
    (fun s' ev hs' hdefined hroom => disagree_of_no_room hs'.1 (by omega) (by omega) hdefined hroom)
    ⟨⟨agree_of_playable haccepted hplay hfrequency, uniform_of_accepted haccepted⟩, rfl⟩ hrun

end LocalStreamConfig

/-! ## A stereo talker -/

/-- What the conversion instruction does: what does not fit is cut. -/
def wrappedCast : DelayCast where
  toUInt32 x := UInt32.ofInt (truncate x)
  toUInt32_toNat := by
    intro x h
    rw [UInt32.ofInt, UInt32.toNat_ofNat']
    obtain ⟨hle, hlt⟩ := h
    omega

/-- A talker's local stream at 48 kHz, with periods of 256 samples that come in pieces of 128. -/
def stereoTransmit (totalSize : UInt32) : LocalStreamConfig where
  isReceive := false
  numChannels := 2
  totalSize := totalSize
  sampleFrequency := 48000
  alsaPeriodSize := 256
  optimalFillLevel := totalSize / 2

/-- A class A talker with a transmit window of `txWindowWidth` nanoseconds. -/
def windowClient (txWindowWidth : UInt64) : UInt32 → UInt32 :=
  getMinTransmitBufferSize wrappedCast txWindowWidth 2000000 8000 6

/-- The local stream of such a talker, with rings for three pieces. -/
structure FreshTransmit (s : IasLocalAudioStream) : Prop where
  made : (stereoTransmit 384).init wrappedCast (fun _ _ => 0) = some (.ok s)
  inv : ThresholdInv s
  free : s.mClientState = .eIasNotConnected
  timeAware : s.hasBufferDesc = true
  transmit : s.isReceive = false
  frequency : s.mSampleFrequency = 48000
  period : s.mPeriodSz = 128
  uniform : Uniform 385 256 s
  first : ∃ b, s.mChannelBuffers[0]? = some b

theorem playable_stereoTransmit : (stereoTransmit 384).Playable := by
  intro _ _ p hp
  have h128 : (stereoTransmit 384).alsa.mPeriodSz (stereoTransmit 384).alsaPeriodSize
      (stereoTransmit 384).sampleFrequency = some 128 := by decide +kernel
  obtain rfl := Option.some.inj (h128.symm.trans hp)
  exact ⟨by decide +kernel, by decide +kernel, fun hreceive => Bool.noConfusion hreceive⟩

theorem exists_fresh : ∃ s, FreshTransmit s := by
  have htakes : (stereoTransmit 384).TakesThreshold 128 := by
    refine ⟨?_, ?_, rfl, ?_, rfl, rfl, ?_, ?_, ?_⟩ <;> decide +kernel
  obtain ⟨buffers, hbuffers, hinit⟩ :=
    LocalStreamConfig.init_of_takes htakes wrappedCast fun _ _ => 0
  obtain ⟨hall, hlength, -⟩ := LocalStreamConfig.initChannels_ok hbuffers
  obtain ⟨haccepted, hfrequency, -⟩ := LocalStreamConfig.init_accepted hinit
  have hsize : ((stereoTransmit 384).totalSize + 1).toNat = 385 := by decide
  have hthreshold : ((stereoTransmit 384).readThreshold 128).toNat = 256 := by decide +kernel
  have hpos : 0 < buffers.length := by
    rw [hlength]
    decide
  refine ⟨_, hinit, ⟨LocalStreamConfig.agree_of_playable haccepted playable_stereoTransmit
    hfrequency, LocalStreamConfig.uniform_of_accepted haccepted⟩, rfl, rfl, rfl, rfl, rfl,
    ⟨fun b hb => ?_, fun b hb => ?_⟩, _, List.getElem?_eq_getElem hpos⟩
  · exact (hall b hb).1.trans hsize
  · exact (hall b hb).2.trans hthreshold

/-- What the client needs depends on the period and the frequency. -/
theorem FreshTransmit.minTxBufSz (h : FreshTransmit s) (txWindowWidth : UInt64) :
    s.minTxBufSz wrappedCast (windowClient txWindowWidth)
      = wholePeriods (windowClient txWindowWidth
          (wrappedCast.toUInt32 (playOutTime 128 48000))) 128 := by
  unfold IasLocalAudioStream.minTxBufSz
  rw [h.period, h.frequency]
  rfl

theorem FreshTransmit.raises (h : FreshTransmit s) {txWindowWidth : UInt64}
    (hmore : 256 < (s.minTxBufSz wrappedCast (windowClient txWindowWidth)).toNat) :
    s.Raises wrappedCast (windowClient txWindowWidth) := by
  obtain ⟨b, hb⟩ := h.first
  refine ⟨h.free, h.timeAware, h.transmit, b, hb, ?_⟩
  rw [h.uniform.threshold b (List.mem_of_getElem? hb)]
  exact hmore

/-- With a window of 6 ms, the threshold is raised to all the rings hold. -/
theorem thresholds_agree_window : ∃ s, (stereoTransmit 384).init wrappedCast (fun _ _ => 0)
      = some (.ok s)
    ∧ ∀ pre, pre <+: [.connectTo (windowClient 6000000), .disconnect] →
      ThresholdsAgree (exec (clientStep wrappedCast) s pre) := by
  obtain ⟨s, hfresh⟩ := exists_fresh
  have hneeds : s.minTxBufSz wrappedCast (windowClient 6000000) = 384 := by
    rw [hfresh.minTxBufSz]
    decide +kernel
  refine ⟨s, hfresh.made, LocalStreamConfig.thresholds_agree hfresh.made playable_stereoTransmit
    ⟨fun _ => ⟨fun b hb => ?_, ?_⟩, trivial, trivial⟩⟩
  · unfold IasLocalAudioBuffer.capacity
    rw [hneeds, hfresh.uniform.size b hb]
    decide
  · rw [hneeds, hfresh.frequency]
    decide +kernel

/-- **What becomes of threshold and delay.** With a window of 24 ms the rings are too small, and
only the delay follows. And a threshold of 512 samples is taken for rings that hold 511. -/
theorem thresholds_disagree :
    (∃ s, (stereoTransmit 384).init wrappedCast (fun _ _ => 0) = some (.ok s)
      ∧ ¬ ThresholdsAgree (exec (clientStep wrappedCast) s [.connectTo (windowClient 24000000)]))
    ∧ ∃ s, ({ stereoTransmit 511 with cAudioBaseFillMultiplierTx := some 40 } :
        LocalStreamConfig).init wrappedCast (fun _ _ => 0) = some (.ok s)
      ∧ ¬ ThresholdsAgree s := by
  constructor
  · obtain ⟨s, hfresh⟩ := exists_fresh
    have hneeds : s.minTxBufSz wrappedCast (windowClient 24000000) = 1280 := by
      rw [hfresh.minTxBufSz]
      decide +kernel
    have hdisagree : ¬ s.RoomToFill wrappedCast (.connectTo (windowClient 24000000)) →
        ¬ ThresholdsAgree (clientStep wrappedCast s (.connectTo (windowClient 24000000))) := by
      refine disagree_of_no_room hfresh.inv ?_ ?_ (Or.inr ?_)
      · rw [hfresh.frequency]
        omega
      · rw [hfresh.frequency]
        omega
      · rw [hneeds, hfresh.frequency]
        decide +kernel
    refine ⟨s, hfresh.made, hdisagree fun hroom => ?_⟩
    have hholds := hroom (hfresh.raises (by rw [hneeds]; decide))
    obtain ⟨b, hb⟩ := hfresh.first
    have hle := hholds.room b (List.mem_of_getElem? hb)
    unfold IasLocalAudioBuffer.capacity at hle
    rw [hneeds, hfresh.uniform.size b (List.mem_of_getElem? hb)] at hle
    exact absurd hle (by decide)
  · have htakes : ({ stereoTransmit 511 with cAudioBaseFillMultiplierTx := some 40 } :
        LocalStreamConfig).TakesThreshold 128 := by
      refine ⟨?_, ?_, rfl, ?_, rfl, rfl, ?_, ?_, ?_⟩ <;> decide +kernel
    obtain ⟨buffers, hbuffers, hinit⟩ :=
      LocalStreamConfig.init_of_takes htakes wrappedCast fun _ _ => 0
    obtain ⟨hall, hlength, -⟩ := LocalStreamConfig.initChannels_ok hbuffers
    refine ⟨_, hinit, fun hagree => ?_⟩
    have hpos : 0 < buffers.length := by
      rw [hlength]
      decide
    have hmem := List.getElem_mem hpos
    have hreach := hagree.reachable _ hmem
    unfold IasLocalAudioBuffer.capacity at hreach
    rw [(hall _ hmem).1, (hall _ hmem).2] at hreach
    exact absurd hreach (by decide +kernel)

end AvbStreamHandler
