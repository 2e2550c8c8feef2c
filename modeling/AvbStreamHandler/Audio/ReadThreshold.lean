import AvbStreamHandler.Alsa.AlsaPeriods
import AvbStreamHandler.Audio.LocalAudioBufferProof
import AvbStreamHandler.Audio.LocalAudioStream
import AvbStreamHandler.Kit.Run
import AvbStreamHandler.Kit.Truncate
import Mathlib.Data.Rat.Floor

/-!
# When a local stream may be read

In the time-aware mode a channel is not read before its ring has filled to a threshold. `init`
works the threshold out from the periods, and a talker that connects can raise it, to what it
takes out of the buffer at most in one cycle. The time it takes to fill the ring that far is
added to the time stamps of a talker's samples, and is kept apart from the threshold.

The quotients that are rounded up are exact in floating point, since their operands have 32
bits. The delays are taken as fractions here, and cut at the end.
-/

namespace AvbStreamHandler

open Kit Kit.Word Kit.Run IasAvbProcessingResult

/-- A number that a `uint32_t` can hold the whole part of. -/
def FitsUInt32 (x : ℚ) : Prop := 0 ≤ truncate x ∧ truncate x < 4294967296

instance (x : ℚ) : Decidable (FitsUInt32 x) := inferInstanceAs (Decidable (_ ∧ _))

/-- The conversion of a delay: its whole part, where 32 bits can hold it. -/
structure DelayCast where
  toUInt32 : ℚ → UInt32
  toUInt32_toNat : ∀ {x}, FitsUInt32 x → ((toUInt32 x).toNat : ℤ) = truncate x

/-- How long `samples` samples take, in nanoseconds. -/
def playOutTime (samples frequency : Nat) : ℚ := samples / frequency * 1000000000

/-- The least multiple of the period that is not below `samples`. -/
def wholePeriods (samples period : UInt32) : UInt32 :=
  UInt32.ofNat ((samples.toNat + period.toNat - 1) / period.toNat) * period

namespace IasLocalAudioBuffer

def setReadThreshold (b : IasLocalAudioBuffer) (fillLevel : Nat) :
    IasLocalAudioBuffer × IasAvbProcessingResult :=
  if fillLevel ≤ b.mTotalSize then ({ b with mReadThreshold := fillLevel }, eIasAvbProcOK)
  else (b, eIasAvbProcInvalidParam)

/-- The largest fill level: one place of a ring stays empty. -/
def capacity (b : IasLocalAudioBuffer) : Nat := b.mTotalSize - 1

variable {b : IasLocalAudioBuffer} {n : Nat}

theorem setReadThreshold_of_le (h : n ≤ b.mTotalSize) :
    b.setReadThreshold n = ({ b with mReadThreshold := n }, eIasAvbProcOK) := if_pos h

theorem setReadThreshold_of_lt (h : b.mTotalSize < n) :
    b.setReadThreshold n = (b, eIasAvbProcInvalidParam) := if_neg (Nat.not_le.mpr h)

/-- A ring never holds more than its capacity. -/
theorem fill_le_capacity {N : Nat} (h : Rep N b) (hN : N < 2147483648) :
    b.getFillLevel ≤ b.capacity := by
  have hfill := getFillLevel_eq h (by omega) (h.unambiguous hN)
  have hlevel := h.valid.level_lt
  unfold capacity
  rw [hfill, h.size]
  omega

/-- A run of writes. -/
def writes (b : IasLocalAudioBuffer) (ws : List ((Nat → AudioData) × Nat)) : IasLocalAudioBuffer :=
  exec (fun b w => (b.write w.1 w.2).1) b ws

/-- Only written to, a channel can be read when it is full at the latest. -/
def ReadyWhenFull (b : IasLocalAudioBuffer) : Prop :=
  ∀ ws, ws ≠ [] → (b.writes ws).getFillLevel = b.capacity → (b.writes ws).mReadReady = true

/-- A write marks a channel that has filled to its threshold. -/
theorem ready_of_write (buffer : Nat → AudioData) (n : Nat)
    (h : b.mReadThreshold ≤ (b.write buffer n).1.getFillLevel) :
    (b.write buffer n).1.mReadReady = true := by
  have hcontrol := control_write (b := b) buffer n
  have hready : (b.write buffer n).1.mReadReady = (b.control.write n).mReadReady :=
    congrArg BufferControl.mReadReady hcontrol
  have hfill : (b.write buffer n).1.getFillLevel = (b.control.write n).getFillLevel := by
    rw [← hcontrol]
    rfl
  rw [hfill] at h
  rw [hready]
  exact (Bool.or_eq_true _ _).mpr (Or.inr (decide_eq_true h))

/-- A write leaves the size and the threshold alone. -/
theorem write_kept (buffer : Nat → AudioData) (n : Nat) :
    (b.write buffer n).1.mTotalSize = b.mTotalSize
      ∧ (b.write buffer n).1.mReadThreshold = b.mReadThreshold :=
  ⟨congrArg BufferControl.mTotalSize (control_write (b := b) buffer n),
    congrArg BufferControl.mReadThreshold (control_write (b := b) buffer n)⟩

/-- **A threshold that the ring can reach is reached before it is full.** -/
theorem readyWhenFull (h : b.mReadThreshold ≤ b.capacity) : b.ReadyWhenFull := by
  intro ws hws hfull
  obtain ⟨ws, w, rfl⟩ := List.eq_nil_or_concat ws |>.resolve_left hws
  unfold writes at hfull ⊢
  rw [List.concat_eq_append, exec_append, exec_cons, exec_nil] at hfull ⊢
  have hstep : ∀ (b' : IasLocalAudioBuffer) (w : (Nat → AudioData) × Nat),
      b'.mReadThreshold = b.mReadThreshold →
        (b'.write w.1 w.2).1.mReadThreshold = b.mReadThreshold :=
    fun b' w hb' => (write_kept w.1 w.2).2.trans hb'
  have hkept := inv_exec_of_step hstep rfl ws
  refine ready_of_write w.1 w.2 ?_
  rw [hkept, hfull]
  exact h

end IasLocalAudioBuffer

/-- What `init` of a local stream is told, and what the registry says about it. -/
structure LocalStreamConfig where
  /-- The type is `eIasAlsaStream`. -/
  isAlsaStream : Bool := true
  isReceive : Bool
  numChannels : UInt16
  hasSideChannel : Bool := false
  totalSize : UInt32
  sampleFrequency : UInt32
  alsaPeriodSize : UInt32
  optimalFillLevel : UInt32
  /-- `cAudioTstampBuffer` is set to a mode other than off. -/
  timeAware : Bool := true
  alsa : AlsaConfig := {}
  cAudioBaseFillMultiplier : UInt32 := 15
  cAudioBaseFillMultiplierTx : Option UInt32 := none
  cRxCycleWait : UInt32 := 2000000
  alsaRxSyncStart : Bool := false

namespace LocalStreamConfig

/-- The multiplier counts tenths of a period. -/
def readThresholdRx (c : LocalStreamConfig) (mPeriodSz : UInt32) : UInt32 :=
  c.cAudioBaseFillMultiplier * mPeriodSz / 10

/-- The ALSA worker writes whole periods. -/
def readThresholdTx (c : LocalStreamConfig) (mPeriodSz : UInt32) : UInt32 :=
  match c.cAudioBaseFillMultiplierTx with
  | some multiplier => UInt32.ofNat ((multiplier.toNat + 9) / 10) * mPeriodSz
  | none => wholePeriods (c.readThresholdRx mPeriodSz) mPeriodSz

def readThreshold (c : LocalStreamConfig) (mPeriodSz : UInt32) : UInt32 :=
  if c.isReceive then c.readThresholdRx mPeriodSz else c.readThresholdTx mPeriodSz

/-- The loop that makes the rings; it ends with the first that refuses its threshold. -/
def initChannels (totalSize readThreshold : Nat) (heap : Nat → Nat → AudioData) :
    Nat → Except IasAvbProcessingResult (List IasLocalAudioBuffer)
  | 0 => .ok []
  | n + 1 =>
      match initChannels totalSize readThreshold heap n with
      | .error error => .error error
      | .ok buffers =>
          match (IasLocalAudioBuffer.init totalSize (decide (n = 0)) (heap n)).setReadThreshold
            readThreshold with
          | (b, eIasAvbProcOK) => .ok (buffers ++ [b])
          | (_, error) => .error error

/-- The stream with the rings it got. -/
def stream (c : LocalStreamConfig) (timeAware : Bool)
    (mPeriodSz mLaunchTimeDelay mAudioRxDelay : UInt32) (buffers : List IasLocalAudioBuffer) :
    IasLocalAudioStream :=
  (IasLocalAudioStream.init 0 c.totalSize.toNat c.sampleFrequency.toNat mPeriodSz.toNat 0
    mLaunchTimeDelay.toNat mAudioRxDelay.toNat c.optimalFillLevel.toNat timeAware c.isReceive
    c.alsaRxSyncStart fun _ _ => 0).setBuffers buffers

/-- `init`, when all allocations succeed; nothing if it divides by zero. A missing PTP proxy
makes no difference: the error is overwritten when the first ring is made. -/
def init (k : DelayCast) (c : LocalStreamConfig) (heap : Nat → Nat → AudioData) :
    Option (Except IasAvbProcessingResult IasLocalAudioStream) :=
  if c.sampleFrequency = 0 ∨ c.numChannels = 0 ∨ c.numChannels = 1 ∧ c.hasSideChannel = true then
    some (.error eIasAvbProcInvalidParam)
  else if c.totalSize = 0 then some (.ok (c.stream false 0 0 0 []))
  else if c.isAlsaStream && c.timeAware then
    match c.alsa.mPeriodSz c.alsaPeriodSize c.sampleFrequency with
    | none => none
    | some mPeriodSz =>
        if mPeriodSz = 0 then none
        else
          let readThresholdDelayRx := k.toUInt32
            (playOutTime (c.readThresholdRx mPeriodSz).toNat c.sampleFrequency.toNat)
          let readThresholdDelayTx := k.toUInt32
            (playOutTime (c.readThresholdTx mPeriodSz).toNat c.sampleFrequency.toNat)
          some ((initChannels (c.totalSize + 1).toNat (c.readThreshold mPeriodSz).toNat heap
            c.numChannels.toNat).map (c.stream true mPeriodSz readThresholdDelayTx
              (c.cRxCycleWait + readThresholdDelayRx)))
  else
    some ((initChannels (c.totalSize + 1).toNat 0 heap c.numChannels.toNat).map
      (c.stream false 0 0 0))

end LocalStreamConfig

namespace IasLocalAudioStream

/-- What a client needs in the buffer, in whole periods. -/
def minTxBufSz (k : DelayCast) (s : IasLocalAudioStream) (client : UInt32 → UInt32) : UInt32 :=
  wholePeriods (client (k.toUInt32 (playOutTime s.mPeriodSz s.mSampleFrequency)))
    (UInt32.ofNat s.mPeriodSz)

/-- The threshold is raised, or not: nobody looks at what `setReadThreshold` says. -/
def raiseThreshold (k : DelayCast) (s : IasLocalAudioStream) (minTxBufSz : Nat) :
    IasLocalAudioStream :=
  { s with
    mChannelBuffers := s.mChannelBuffers.map fun b => (b.setReadThreshold minTxBufSz).1.reset 0
    mBufferDescQ := s.mBufferDescQ.reset
    mLaunchTimeDelay := (k.toUInt32 (playOutTime minTxBufSz s.mSampleFrequency)).toNat }

/-- `connect`, less what is only logged. The client is what it answers to
`getMinTransmitBufferSize`. -/
def connectClient (k : DelayCast) (s : IasLocalAudioStream) (client : UInt32 → UInt32) :
    IasLocalAudioStream × IasAvbProcessingResult :=
  if s.mClientState ≠ .eIasNotConnected then (s, eIasAvbProcAlreadyInUse)
  else if s.hasBufferDesc && !s.isReceive then
    match s.mChannelBuffers[0]? with
    | some b =>
        if b.mReadThreshold < (s.minTxBufSz k client).toNat then
          ((s.setClientState .eIasIdle).raiseThreshold k (s.minTxBufSz k client).toNat,
            eIasAvbProcOK)
        else (s.setClientState .eIasIdle, eIasAvbProcOK)
    | none => (s.setClientState .eIasIdle, eIasAvbProcOK)
  else (s.setClientState .eIasIdle, eIasAvbProcOK)

end IasLocalAudioStream

/-- `IasAvbAudioStream::getMinTransmitBufferSize`: the packets of a transmit window, those the
period adds, and one for the next window. -/
def getMinTransmitBufferSize (k : DelayCast) (txWindowWidth txWindowPitch : UInt64)
    (packetsPerSecond : UInt32) (mSamplesPerChannelPerPacket : UInt16) (periodCycle : UInt32) :
    UInt32 :=
  (k.toUInt32 (⌈(txWindowWidth.toNat * packetsPerSecond.toNat / 1000000000 : ℚ)⌉
      + ⌊(periodCycle.toNat / txWindowPitch.toNat : ℚ)⌋) + 1) * mSamplesPerChannelPerPacket.toUInt32

/-! ## Threshold and delay -/

/-- **The threshold and the delay agree.** -/
structure ThresholdsAgree (s : IasLocalAudioStream) : Prop where
  reachable : ∀ b ∈ s.mChannelBuffers, b.mReadThreshold ≤ b.capacity
  ready : ∀ b ∈ s.mChannelBuffers, b.ReadyWhenFull
  same : ∀ b ∈ s.mChannelBuffers, ∀ b' ∈ s.mChannelBuffers, b.mReadThreshold = b'.mReadThreshold
  delay : ∀ b ∈ s.mChannelBuffers,
    (s.mLaunchTimeDelay : ℤ) = truncate (playOutTime b.mReadThreshold s.mSampleFrequency)

/-- Rings of one size with one threshold. -/
structure Uniform (N threshold : Nat) (s : IasLocalAudioStream) : Prop where
  size : ∀ b ∈ s.mChannelBuffers, b.mTotalSize = N
  threshold : ∀ b ∈ s.mChannelBuffers, b.mReadThreshold = threshold

variable {k : DelayCast} {s : IasLocalAudioStream} {N n : Nat}

theorem Uniform.agree (h : Uniform N n s) (hreach : n ≤ N - 1)
    (hdelay : (s.mLaunchTimeDelay : ℤ) = truncate (playOutTime n s.mSampleFrequency)) :
    ThresholdsAgree s := by
  have hall : ∀ b ∈ s.mChannelBuffers, b.mReadThreshold ≤ b.capacity := by
    intro b hb
    unfold IasLocalAudioBuffer.capacity
    rw [h.size b hb, h.threshold b hb]
    exact hreach
  refine ⟨hall, fun b hb => IasLocalAudioBuffer.readyWhenFull (hall b hb), ?_, ?_⟩
  · intro b hb b' hb'
    rw [h.threshold b hb, h.threshold b' hb']
  · intro b hb
    rw [h.threshold b hb]
    exact hdelay

theorem playOutTime_zero (frequency : Nat) : playOutTime 0 frequency = 0 := by
  unfold playOutTime
  rw [Nat.cast_zero, zero_div, zero_mul]

theorem playOutTime_nonneg (n frequency : Nat) : 0 ≤ playOutTime n frequency := by
  unfold playOutTime
  positivity

/-- A sample more takes a nanosecond more, unless they come faster than that. -/
theorem truncate_playOutTime_lt {m frequency : Nat} (hpos : 0 < frequency)
    (hle : frequency ≤ 1000000000) (h : n < m) :
    truncate (playOutTime n frequency) < truncate (playOutTime m frequency) := by
  have hf : (0 : ℚ) < frequency := by exact_mod_cast hpos
  have hf' : (frequency : ℚ) ≤ 1000000000 := by exact_mod_cast hle
  have hstep : (n : ℚ) + 1 ≤ m := by exact_mod_cast h
  have hmore : playOutTime n frequency + 1 ≤ playOutTime m frequency := by
    unfold playOutTime
    have hone : (1 : ℚ) ≤ 1 / frequency * 1000000000 := by
      rw [div_mul_eq_mul_div, one_mul, le_div_iff₀ hf, one_mul]
      exact hf'
    calc (n : ℚ) / frequency * 1000000000 + 1
        ≤ n / frequency * 1000000000 + 1 / frequency * 1000000000 := by linarith
      _ = (n + 1) / frequency * 1000000000 := by ring
      _ ≤ m / frequency * 1000000000 := by gcongr
  rw [truncate_of_nonneg (playOutTime_nonneg n frequency),
    truncate_of_nonneg (playOutTime_nonneg m frequency), Int.lt_iff_add_one_le, Int.le_floor]
  push_cast
  have hfloor := Int.floor_le (playOutTime n frequency)
  linarith

namespace LocalStreamConfig

variable {c : LocalStreamConfig} {heap : Nat → Nat → AudioData} {p : UInt32}
  {buffers : List IasLocalAudioBuffer}

/-- The rings a stream gets are alike, and took their threshold. -/
theorem initChannels_ok {totalSize threshold : Nat} {count : Nat}
    (h : initChannels totalSize threshold heap count = .ok buffers) :
    (∀ b ∈ buffers, b.mTotalSize = totalSize ∧ b.mReadThreshold = threshold)
      ∧ buffers.length = count ∧ (0 < count → threshold ≤ totalSize) := by
  induction count generalizing buffers with
  | zero =>
      obtain rfl := Except.ok.inj h
      exact ⟨fun b hb => absurd hb List.not_mem_nil, rfl, fun hpos => absurd hpos (by omega)⟩
  | succ count ih =>
      unfold initChannels at h
      cases hfirst : initChannels totalSize threshold heap count with
      | error error =>
          rw [hfirst] at h
          cases h
      | ok l =>
          rw [hfirst] at h
          dsimp only at h
          obtain ⟨hall, hlength, -⟩ := ih hfirst
          by_cases hle : threshold ≤ totalSize
          · rw [IasLocalAudioBuffer.setReadThreshold_of_le
              (show threshold ≤ (IasLocalAudioBuffer.init _ _ _).mTotalSize from hle)] at h
            obtain rfl := Except.ok.inj h
            refine ⟨fun b hb => ?_, ?_, fun _ => hle⟩
            · rcases List.mem_append.mp hb with hold | hnew
              · exact hall b hold
              · rw [List.mem_singleton.mp hnew]
                exact ⟨rfl, rfl⟩
            · rw [List.length_append, List.length_singleton, hlength]
          · rw [IasLocalAudioBuffer.setReadThreshold_of_lt
              (show (IasLocalAudioBuffer.init _ _ _).mTotalSize < threshold by
                exact Nat.not_le.mp hle)] at h
            cases h

theorem initChannels_of_le {totalSize threshold : Nat} (hle : threshold ≤ totalSize)
    (heap : Nat → Nat → AudioData) (count : Nat) :
    ∃ buffers, initChannels totalSize threshold heap count = .ok buffers := by
  induction count with
  | zero => exact ⟨[], rfl⟩
  | succ count ih =>
      obtain ⟨buffers, hbuffers⟩ := ih
      unfold initChannels
      rw [hbuffers]
      dsimp only
      rw [IasLocalAudioBuffer.setReadThreshold_of_le
        (show threshold ≤ (IasLocalAudioBuffer.init _ _ _).mTotalSize from hle)]
      exact ⟨_, rfl⟩

/-- What `init` accepts in the time-aware mode. -/
structure TakesThreshold (c : LocalStreamConfig) (p : UInt32) : Prop where
  frequency : c.sampleFrequency ≠ 0
  channels : c.numChannels ≠ 0
  sideChannel : c.hasSideChannel = false
  rings : c.totalSize ≠ 0
  kind : c.isAlsaStream = true
  mode : c.timeAware = true
  period : c.alsa.mPeriodSz c.alsaPeriodSize c.sampleFrequency = some p
  pieces : p ≠ 0
  threshold : (c.readThreshold p).toNat ≤ (c.totalSize + 1).toNat

theorem init_of_takes (h : c.TakesThreshold p) (k : DelayCast) (heap : Nat → Nat → AudioData) :
    ∃ buffers, initChannels (c.totalSize + 1).toNat (c.readThreshold p).toNat heap
        c.numChannels.toNat = .ok buffers
      ∧ c.init k heap = some (.ok (c.stream true p
        (k.toUInt32 (playOutTime (c.readThresholdTx p).toNat c.sampleFrequency.toNat))
        (c.cRxCycleWait
          + k.toUInt32 (playOutTime (c.readThresholdRx p).toNat c.sampleFrequency.toNat))
        buffers)) := by
  obtain ⟨buffers, hbuffers⟩ := initChannels_of_le h.threshold heap c.numChannels.toNat
  refine ⟨buffers, hbuffers, ?_⟩
  unfold init
  rw [if_neg (by simp [h.frequency, h.channels, h.sideChannel]), if_neg h.rings,
    if_pos (by rw [h.kind, h.mode]; rfl), h.period]
  dsimp only
  rw [if_neg h.pieces, hbuffers]
  rfl

/-- The configuration lets a stream fill to its threshold, its delay fits in 32 bits, and for a
receive stream the two thresholds play out in the same time. -/
def Playable (c : LocalStreamConfig) : Prop :=
  c.isAlsaStream = true → c.timeAware = true →
    ∀ p, c.alsa.mPeriodSz c.alsaPeriodSize c.sampleFrequency = some p →
      (c.readThreshold p).toNat ≤ c.totalSize.toNat
        ∧ FitsUInt32 (playOutTime (c.readThresholdTx p).toNat c.sampleFrequency.toNat)
        ∧ (c.isReceive = true →
          truncate (playOutTime (c.readThresholdTx p).toNat c.sampleFrequency.toNat)
            = truncate (playOutTime (c.readThresholdRx p).toNat c.sampleFrequency.toNat))

/-- What the accepted configurations come to. -/
inductive Accepted (k : DelayCast) (c : LocalStreamConfig) (s : IasLocalAudioStream) : Prop
  /-- Without rings. -/
  | bare (none : s.mChannelBuffers = []) (plain : s.hasBufferDesc = false)
  /-- Without descriptors. -/
  | plain (uniform : Uniform (c.totalSize + 1).toNat 0 s) (plain : s.hasBufferDesc = false)
      (delay : s.mLaunchTimeDelay = 0)
  | timeAware (p : UInt32) (kind : c.isAlsaStream = true) (mode : c.timeAware = true)
      (period : c.alsa.mPeriodSz c.alsaPeriodSize c.sampleFrequency = some p)
      (uniform : Uniform (c.totalSize + 1).toNat (c.readThreshold p).toNat s)
      (accepted : (c.readThreshold p).toNat ≤ (c.totalSize + 1).toNat)
      (direction : s.isReceive = c.isReceive)
      (delay : s.mLaunchTimeDelay = (k.toUInt32
        (playOutTime (c.readThresholdTx p).toNat c.sampleFrequency.toNat)).toNat)

theorem init_accepted (h : c.init k heap = some (.ok s)) :
    Accepted k c s ∧ s.mSampleFrequency = c.sampleFrequency.toNat
      ∧ 0 < c.sampleFrequency.toNat := by
  unfold init at h
  split at h
  · cases h
  rename_i hvalid
  -- what was checked: a rate and at least one channel
  have hfrequency : 0 < c.sampleFrequency.toNat :=
    Nat.pos_of_ne_zero fun hzero => hvalid (Or.inl (UInt32.toNat.inj hzero))
  have hchannels : 0 < c.numChannels.toNat := by
    refine Nat.pos_of_ne_zero fun hzero => hvalid (Or.inr (Or.inl ?_))
    exact UInt16.toNat.inj hzero
  split at h
  · obtain rfl := Except.ok.inj (Option.some.inj h)
    exact ⟨.bare rfl rfl, rfl, hfrequency⟩
  split at h
  · rename_i hmode
    -- a time-aware stream: the threshold follows from the period
    obtain ⟨hkind, haware⟩ := Bool.and_eq_true_iff.mp hmode
    cases hperiod : c.alsa.mPeriodSz c.alsaPeriodSize c.sampleFrequency with
    | none =>
        rw [hperiod] at h
        cases h
    | some p =>
        rw [hperiod] at h
        dsimp only at h
        split at h
        · cases h
        cases hbuffers : initChannels (c.totalSize + 1).toNat (c.readThreshold p).toNat heap
            c.numChannels.toNat with
        | error error =>
            rw [hbuffers] at h
            cases h
        | ok buffers =>
            rw [hbuffers] at h
            obtain ⟨hall, -, hle⟩ := initChannels_ok hbuffers
            obtain rfl := Except.ok.inj (Option.some.inj h)
            exact ⟨.timeAware p hkind haware hperiod
              ⟨fun b hb => (hall b hb).1, fun b hb => (hall b hb).2⟩ (hle hchannels) rfl rfl,
              rfl, hfrequency⟩
  · cases hbuffers : initChannels (c.totalSize + 1).toNat 0 heap c.numChannels.toNat with
    | error error =>
        rw [hbuffers] at h
        cases h
    | ok buffers =>
        rw [hbuffers] at h
        obtain ⟨hall, -, -⟩ := initChannels_ok hbuffers
        obtain rfl := Except.ok.inj (Option.some.inj h)
        exact ⟨.plain ⟨fun b hb => (hall b hb).1, fun b hb => (hall b hb).2⟩ rfl rfl, rfl,
          hfrequency⟩

/-- The ring is one longer than asked for, unless that does not fit in 32 bits. -/
theorem reachable_of_accepted {threshold : Nat} (h : threshold ≤ (c.totalSize + 1).toNat)
    (hle : threshold ≤ c.totalSize.toNat) : threshold ≤ (c.totalSize + 1).toNat - 1 := by
  rw [UInt32.toNat_add] at h ⊢
  have hlt := c.totalSize.toNat_lt
  have hone : (1 : UInt32).toNat = 1 := rfl
  rw [hone] at h ⊢
  omega

/-- **After `init`.** -/
theorem agree_of_playable (h : Accepted k c s) (hplay : c.Playable)
    (hfrequency : s.mSampleFrequency = c.sampleFrequency.toNat) : ThresholdsAgree s := by
  cases h with
  | bare hnone _ =>
      have hno : ∀ b ∈ s.mChannelBuffers, False := by
        rw [hnone]
        exact fun b hb => List.not_mem_nil hb
      exact ⟨fun b hb => (hno b hb).elim, fun b hb => (hno b hb).elim,
        fun b hb => (hno b hb).elim, fun b hb => (hno b hb).elim⟩
  | plain huniform _ hdelay =>
      refine huniform.agree (Nat.zero_le _) ?_
      rw [hdelay, playOutTime_zero]
      exact (truncate_intCast (α := ℚ) 0).symm
  | timeAware p hkind haware hperiod huniform hle _ hdelay =>
      obtain ⟨hreach, hfits, hsame⟩ := hplay hkind haware p hperiod
      refine huniform.agree (reachable_of_accepted hle hreach) ?_
      rw [hdelay, hfrequency, k.toUInt32_toNat hfits]
      unfold readThreshold
      split
      · rename_i hreceive
        exact hsame hreceive
      · rfl

end LocalStreamConfig

end AvbStreamHandler
