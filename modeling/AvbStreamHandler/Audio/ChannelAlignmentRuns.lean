import AvbStreamHandler.Audio.ChannelAlignment
import Mathlib.Data.List.Basic

/-!
# Runs of a receive stream's local stream

What reaches the buffers of a local audio stream that belongs to a receive stream: the
packets, the jobs of the ALSA worker that reads the samples, and the calls that connect and
activate the client. A packet and a job are one step each: in time-aware mode the lock of the
descriptor queue sees to that.

The channels are aligned as long as no packet overruns the buffers of an active client.
-/

namespace AvbStreamHandler

open Kit Kit.Run

namespace ListenerRun

open IasLocalAudioStream IasAvbStreamState

/-- What happens to the local stream. -/
inductive ListenerEvent
  /-- A packet that was found valid, in a stream whose state was `oldState` before. -/
  | packet (c : AvbAudioConfig) (sideChannel : Bool) (layout : UInt8)
      (oldState : IasAvbStreamState) (bytes : Bytes) (t : TimeBase)
  | copyJob (reads : BufferControl → List (Nat × Nat)) (descQ : IasLocalAudioBufferDesc)
  /-- A job that finds the time stamps out of bounds resets everything. -/
  | copyReset
  | updateBufferStatus
  | connect
  | disconnect
  | setClientActive (active : Bool)
  | setWorkerActive (active : Bool)

def step (e : Estimates) (s : IasLocalAudioStream) : ListenerEvent → IasLocalAudioStream
  | .packet c sideChannel layout oldState bytes t =>
      (c.deliver (s.asked sideChannel layout) oldState bytes).foldl (perform e t) s
  | .copyJob reads descQ => s.copyJob reads descQ
  | .copyReset => s.flush
  | .updateBufferStatus => s.updateBufferStatus e
  | .connect => s.connect
  | .disconnect => s.disconnect
  | .setClientActive active => if active then s.setClientActive e else s.setClientIdle
  | .setWorkerActive active => s.setWorkerActive active

/-- The first packet of a flow flushes the stream in time-aware mode. -/
def atFirstWrite (s : IasLocalAudioStream) (oldState : IasAvbStreamState) : IasLocalAudioStream :=
  if s.hasBufferDesc ∧ oldState ≠ eIasAvbStreamValid then s.flush else s

/-- A packet that is written at all fits. -/
def StepOk (e : Estimates) (s : IasLocalAudioStream) : ListenerEvent → Prop
  | .packet c sideChannel layout oldState bytes _ =>
      c.deliver (s.asked sideChannel layout) oldState bytes ≠ [] → s.mWorkerRunning = true →
        (atFirstWrite s oldState).Fits e (c.samplesPerChannel bytes (c.channelsPerFrame bytes))
  | _ => True

instance decidableStepOk (e : Estimates) (s : IasLocalAudioStream) :
    ∀ ev, Decidable (StepOk e s ev)
  | .packet .. => inferInstanceAs (Decidable (_ ≠ _ → _ → Fits ..))
  | .copyJob .. => inferInstanceAs (Decidable True)
  | .copyReset => inferInstanceAs (Decidable True)
  | .updateBufferStatus => inferInstanceAs (Decidable True)
  | .connect => inferInstanceAs (Decidable True)
  | .disconnect => inferInstanceAs (Decidable True)
  | .setClientActive _ => inferInstanceAs (Decidable True)
  | .setWorkerActive _ => inferInstanceAs (Decidable True)

/-- **All channels are at the same place**: fill, positions in the ring, and the monotonic
position of the writer. So the `n`-th readable sample lies at the same place of every ring,
and was written at the same point of the same packet. -/
def Aligned (s : IasLocalAudioStream) : Prop :=
  ∀ b ∈ s.mChannelBuffers, ∀ b' ∈ s.mChannelBuffers,
    b.getFillLevel = b'.getFillLevel ∧ b.mMonotonicWriteIndex = b'.mMonotonicWriteIndex
      ∧ b.mReadIndex = b'.mReadIndex ∧ b.mWriteIndex = b'.mWriteIndex
      ∧ b.mTotalSize = b'.mTotalSize

instance (s : IasLocalAudioStream) : Decidable (Aligned s) :=
  inferInstanceAs (Decidable (∀ b ∈ _, ∀ b' ∈ _, _ ∧ _))

variable {s s' : IasLocalAudioStream} {e : Estimates} {k : BufferControl} {c : AvbAudioConfig}
  {l : LocalAudioStream} {oldState : IasAvbStreamState} {bytes : Bytes}

theorem aligned_of_uniform (h : Uniform s k) : Aligned s := by
  have hcontrol : ∀ b ∈ s.mChannelBuffers, b.control = k := by
    intro b hb
    have hmem : b.control ∈ s.controls := List.mem_map_of_mem hb
    rw [h] at hmem
    exact List.eq_of_mem_replicate hmem
  intro b hb b' hb'
  have hsame : b.control = b'.control := (hcontrol b hb).trans (hcontrol b' hb').symm
  exact ⟨congrArg BufferControl.getFillLevel hsame,
    congrArg BufferControl.mMonotonicWriteIndex hsame, congrArg BufferControl.mReadIndex hsame,
    congrArg BufferControl.mWriteIndex hsame, congrArg BufferControl.mTotalSize hsame⟩

/-! ## Steps that treat all channels alike -/

/-- What acts on the bookkeeping of every channel in the same way keeps the channels in step. -/
theorem uniform_map {f : BufferControl → BufferControl} (h : Uniform s k)
    (hcontrols : s'.controls = s.controls.map f) : Uniform s' (f k) := by
  unfold Uniform
  rw [← length_controls, hcontrols, List.length_map, h, List.map_replicate, List.length_replicate]

theorem uniform_congr (h : Uniform s k) (hcontrols : s'.controls = s.controls) :
    Uniform s' k := by
  refine uniform_map (f := id) h ?_
  rw [hcontrols, List.map_id]

theorem uniform_flush (h : Uniform s k) : Uniform s.flush (k.reset 0) :=
  uniform_map h controls_flush

theorem control_readAll (reads : List (Nat × Nat)) (b : IasLocalAudioBuffer) :
    (readAll b reads).control = reads.foldl (fun k r => k.readStrided r.1 r.2) b.control := by
  induction reads generalizing b with
  | nil => rfl
  | cons r reads ih =>
      rw [List.foldl_cons, ← IasLocalAudioBuffer.control_readStrided, ← ih]
      rfl

theorem uniform_copyJob (h : Uniform s k) (reads : BufferControl → List (Nat × Nat))
    (descQ : IasLocalAudioBufferDesc) : ∃ k', Uniform (s.copyJob reads descQ) k' := by
  refine ⟨_, uniform_map (f := fun k => (reads k).foldl (fun k r => k.readStrided r.1 r.2) k) h ?_⟩
  show (s.mChannelBuffers.map _).map _ = (s.mChannelBuffers.map _).map _
  rw [List.map_map, List.map_map]
  exact List.map_congr_left fun b _ => control_readAll _ b

theorem uniform_setClientIdle (h : Uniform s k) : ∃ k', Uniform s.setClientIdle k' := by
  rcases (setClientIdle_effect s).2 with ⟨hsame, -⟩ | hflushed
  · exact ⟨k, uniform_congr h (congrArg (List.map IasLocalAudioBuffer.control) hsame)⟩
  · exact ⟨_, uniform_map h hflushed⟩

theorem uniform_setClientActive (h : Uniform s k) : ∃ k', Uniform (s.setClientActive e) k' := by
  have hrefresh : Uniform s.refreshSyncStart k :=
    uniform_congr h (congrArg (List.map IasLocalAudioBuffer.control) (refreshSyncStart_same s).1)
  have hfinish : ∀ {s' : IasLocalAudioStream} {k' : BufferControl}, Uniform s' k' →
      ∃ k', Uniform (let s := { s' with mLastTimeStamp := 0, mEpoch := 0 }
        if s.hasBufferDesc && !s.isReceive then s.flush else s) k' := by
    intro s' k' hk'
    have hcleared : Uniform { s' with mLastTimeStamp := 0, mEpoch := 0 } k' := uniform_congr hk' rfl
    dsimp only
    split
    · exact ⟨_, uniform_flush hcleared⟩
    · exact ⟨k', hcleared⟩
  unfold setClientActive
  split
  · exact ⟨k, h⟩
  · dsimp only
    split
    · exact ⟨k, hrefresh⟩
    · have hactive : Uniform (s.refreshSyncStart.setClientState .eIasActive) k :=
        uniform_congr hrefresh rfl
      split
      · exact hfinish hactive
      · obtain ⟨-, k', hk'⟩ := resetBuffers_uniform e hactive
        exact hfinish hk'

theorem uniform_setWorkerActive (h : Uniform s k) (active : Bool) :
    ∃ k', Uniform (s.setWorkerActive active) k' := by
  have hset : Uniform { s with mWorkerRunning := active } k := uniform_congr h rfl
  unfold setWorkerActive
  split
  · split
    · exact ⟨_, uniform_flush hset⟩
    · exact ⟨k, hset⟩
  · exact ⟨k, h⟩

theorem uniform_updateBufferStatus (h : Uniform s k) :
    ∃ k', Uniform (s.updateBufferStatus e) k' := by
  unfold updateBufferStatus
  split
  · exact ⟨k, h⟩
  · split
    · split
      · exact (resetBuffers_uniform e h).2
      · exact ⟨k, h⟩
    · split
      · rcases (signalUnderrun_effect s).2 with ⟨hsame, -⟩ | hflushed
        · exact ⟨k, uniform_congr h (congrArg (List.map IasLocalAudioBuffer.control) hsame)⟩
        · exact ⟨_, uniform_map h hflushed⟩
      · exact ⟨k, h⟩

/-! ## Packets -/

theorem samplesPerChannel_lt (c : AvbAudioConfig) (bytes : Bytes) (numChannels : Nat) :
    c.samplesPerChannel bytes numChannels < 65536 := by
  unfold AvbAudioConfig.samplesPerChannel
  dsimp only
  split <;> split <;> omega

theorem length_channelSamples (numChannels n channel : Nat) :
    (c.channelSamples bytes numChannels n channel).length = n := by
  unfold AvbAudioConfig.channelSamples Bytes.column
  simp

/-- What a packet holds for a channel of the local stream. -/
def channelData (c : AvbAudioConfig) (l : LocalAudioStream) (bytes : Bytes) (ch : Nat) :
    List AudioData :=
  let numChannels := c.channelsPerFrame bytes
  let n := c.samplesPerChannel bytes numChannels
  if ch < min numChannels (AvbAudioConfig.audioChannels l) then
    c.channelSamples bytes numChannels n ch
  else if ch < AvbAudioConfig.audioChannels l then List.replicate n 0
  else List.replicate n (c.layoutSample bytes)

theorem length_channelData (ch : Nat) : (channelData c l bytes ch).length
    = c.samplesPerChannel bytes (c.channelsPerFrame bytes) := by
  unfold channelData
  dsimp only
  split
  · exact length_channelSamples ..
  · split <;> exact List.length_replicate

/-- Two loops over adjacent ranges are one loop. -/
theorem map_range_split {α : Type} {a b : Nat} (hab : a ≤ b) (f g : Nat → α) :
    (List.range a).map f ++ (List.range' a (b - a)).map g
      = (List.range b).map fun i => if i < a then f i else g i := by
  have happend : List.range' 0 b = List.range' 0 a ++ List.range' a (b - a) := by
    have hadd := List.range'_append_1 (s := 0) (m := a) (n := b - a)
    rw [Nat.zero_add] at hadd
    rw [hadd]
    congr 1
    omega
  rw [List.range_eq_range', List.range_eq_range', happend, List.map_append]
  congr 1
  · refine List.map_congr_left fun i hi => ?_
    rw [List.mem_range'_1] at hi
    exact (if_pos (by omega)).symm
  · refine List.map_congr_left fun i hi => ?_
    rw [List.mem_range'_1] at hi
    exact (if_neg (by omega)).symm

/-- **A packet that reaches the local stream is written to all its channels**, in turn, the
same number of samples each. -/
theorem deliver_eq (c : AvbAudioConfig) (l : LocalAudioStream) (oldState : IasAvbStreamState)
    (bytes : Bytes) : c.deliver l oldState bytes = []
    ∨ c.deliver l oldState bytes
      = (if l.hasBufferDesc ∧ oldState ≠ eIasAvbStreamValid then [.resetBuffers] else [])
        ++ (List.range l.mNumChannels).map fun ch =>
          .writeLocalAudioBuffer ch (channelData c l bytes ch) (bytes.be32 12) := by
  unfold AvbAudioConfig.deliver
  dsimp only
  split
  · exact Or.inl rfl
  · rename_i hshared
    refine Or.inr ?_
    rw [List.append_assoc, List.append_assoc]
    congr 1
    rw [← List.append_assoc, map_range_split (Nat.min_le_right ..)]
    have haudio : ∀ ch, ch < AvbAudioConfig.audioChannels l →
        (if ch < min (c.channelsPerFrame bytes) (AvbAudioConfig.audioChannels l) then
          LocalAudioCall.writeLocalAudioBuffer ch (c.channelSamples bytes (c.channelsPerFrame bytes)
            (c.samplesPerChannel bytes (c.channelsPerFrame bytes)) ch) (bytes.be32 12)
        else .writeLocalAudioBuffer ch
          (List.replicate (c.samplesPerChannel bytes (c.channelsPerFrame bytes)) 0) (bytes.be32 12))
        = .writeLocalAudioBuffer ch (channelData c l bytes ch) (bytes.be32 12) := by
      intro ch hch
      unfold channelData
      dsimp only
      split
      · rfl
      · rfl
    rw [List.map_congr_left fun ch hch => haudio ch (List.mem_range.mp hch)]
    cases hside : l.mHasSideChannel with
    | false =>
        have hall : AvbAudioConfig.audioChannels l = l.mNumChannels := by
          unfold AvbAudioConfig.audioChannels
          rw [hside]
          rfl
        rw [if_neg Bool.false_ne_true, List.append_nil, hall]
    | true =>
        -- the layout goes to the last channel
        have hall : l.mNumChannels = AvbAudioConfig.audioChannels l + 1 := by
          unfold AvbAudioConfig.audioChannels at hshared ⊢
          rw [hside, Bool.true_and] at hshared ⊢
          by_cases hpos : 0 < l.mNumChannels
          · rw [if_pos (decide_eq_true hpos)]
            omega
          · rw [if_neg (by simpa using hpos)] at hshared
            omega
        have hlayout : channelData c l bytes (AvbAudioConfig.audioChannels l)
            = List.replicate (c.samplesPerChannel bytes (c.channelsPerFrame bytes))
              (c.layoutSample bytes) := by
          unfold channelData
          dsimp only
          rw [if_neg (by omega), if_neg (by omega)]
        rw [if_pos rfl, hall, List.range_succ, List.map_append, List.map_singleton, hlayout]

theorem uniform_packet {sideChannel : Bool} {layout : UInt8} {t : TimeBase} (h : Uniform s k)
    (hok : StepOk e s (.packet c sideChannel layout oldState bytes t)) :
    ∃ k', Uniform (step e s (.packet c sideChannel layout oldState bytes t)) k' := by
  show ∃ k', Uniform ((c.deliver (s.asked sideChannel layout) oldState bytes).foldl (perform e t) s)
    k'
  rcases deliver_eq c (s.asked sideChannel layout) oldState bytes with hnone | hcalls
  · rw [hnone]
    exact ⟨k, h⟩
  by_cases hempty : c.deliver (s.asked sideChannel layout) oldState bytes = []
  · rw [hempty]
    exact ⟨k, h⟩
  have hfits := hok hempty
  rw [hcalls, List.foldl_append]
  have hlength : ∀ ch, (channelData c (s.asked sideChannel layout) bytes ch).length
      = c.samplesPerChannel bytes (c.channelsPerFrame bytes) := fun _ => length_channelData _
  have hn := samplesPerChannel_lt c bytes (c.channelsPerFrame bytes)
  unfold atFirstWrite at hfits
  by_cases hfirst : s.hasBufferDesc = true ∧ oldState ≠ eIasAvbStreamValid
  · rw [if_pos hfirst] at hfits
    rw [if_pos (show (s.asked sideChannel layout).hasBufferDesc = true ∧ _ from hfirst)]
    have hchannels : (s.asked sideChannel layout).mNumChannels = s.flush.numChannels :=
      (sameKind_flush (s := s)).channels.symm
    rw [hchannels]
    exact channelWrites_uniform (uniform_flush h) hlength hn hfits
  · rw [if_neg hfirst] at hfits
    rw [if_neg (show ¬ ((s.asked sideChannel layout).hasBufferDesc = true ∧ _) from hfirst)]
    exact channelWrites_uniform h hlength hn hfits

/-- **One step keeps the channels in step.** -/
theorem uniform_step (h : Uniform s k) {ev : ListenerEvent} (hok : StepOk e s ev) :
    ∃ k', Uniform (step e s ev) k' := by
  cases ev with
  | packet c sideChannel layout oldState bytes t => exact uniform_packet h hok
  | copyJob reads descQ => exact uniform_copyJob h reads descQ
  | copyReset => exact ⟨_, uniform_flush h⟩
  | updateBufferStatus => exact uniform_updateBufferStatus h
  | connect =>
      show ∃ k', Uniform s.connect k'
      unfold connect
      split
      · exact ⟨k, uniform_congr h rfl⟩
      · exact ⟨k, h⟩
  | disconnect => exact ⟨k, uniform_congr h rfl⟩
  | setClientActive active =>
      cases active with
      | true => exact uniform_setClientActive h
      | false => exact uniform_setClientIdle h
  | setWorkerActive active => exact uniform_setWorkerActive h active

variable {numChannels totalSize sampleFrequency periodSz readThreshold launchTimeDelay audioRxDelay
  optimalFillLevel : Nat} {timeAware syncStart : Bool} {heap : Nat → Nat → AudioData}

/-- The local stream of a receive stream, after `init`. -/
def start (numChannels totalSize sampleFrequency periodSz readThreshold launchTimeDelay audioRxDelay
    optimalFillLevel : Nat) (timeAware syncStart : Bool) (heap : Nat → Nat → AudioData) :
    IasLocalAudioStream :=
  .init numChannels totalSize sampleFrequency periodSz readThreshold launchTimeDelay audioRxDelay
    optimalFillLevel timeAware true syncStart heap

theorem uniform_start : ∃ k, Uniform (start numChannels totalSize sampleFrequency periodSz
    readThreshold launchTimeDelay audioRxDelay optimalFillLevel timeAware syncStart heap) k := by
  refine ⟨{ ((IasLocalAudioBuffer.init (totalSize + 1) true fun _ => 0).control) with
    mReadThreshold := readThreshold }, ?_⟩
  unfold Uniform start IasLocalAudioStream.init controls IasLocalAudioStream.numChannels
  rw [List.map_map, List.length_map, List.length_range]
  refine List.eq_replicate_iff.mpr ⟨by rw [List.length_map, List.length_range], ?_⟩
  intro k hk
  obtain ⟨ch, -, rfl⟩ := List.mem_map.mp hk
  rfl

/--
**The channels stay aligned.**

In every run in which each packet fits when it is written — there is room on the first
channel after the check in front of it, or the client does not ask for a reset on an overrun,
or there is only one channel — all channels have the same fill, the same positions in the
ring and the same monotonic write position, in both modes and whatever the reader does.
-/
theorem aligned_of_fits {es : List ListenerEvent}
    (hok : Always (step e) (StepOk e) (start numChannels totalSize sampleFrequency periodSz
      readThreshold launchTimeDelay audioRxDelay optimalFillLevel timeAware syncStart heap) es) :
    Aligned (exec (step e) (start numChannels totalSize sampleFrequency periodSz readThreshold
      launchTimeDelay audioRxDelay optimalFillLevel timeAware syncStart heap) es) := by
  have hstep : ∀ s ev, (∃ k, Uniform s k) → StepOk e s ev → ∃ k, Uniform (step e s ev) k := by
    rintro s ev ⟨k, hk⟩ hok
    exact uniform_step hk hok
  obtain ⟨k, hk⟩ := @inv_exec _ _ _ _ (fun s => ∃ k, Uniform s k) hstep _ _ uniform_start hok
  exact aligned_of_uniform hk

def stereoListener : AvbAudioConfig :=
  .common .eIasAvbCompLatest 8000 2 48000 .eIasAvbAudioFormatSaf16

/-- Six samples of silence for two channels. -/
def stereoPacket : Bytes :=
  Bytes.ofList ([2, 0x81, 0, 0, 0, 0, 0, 0, 0, 0, 0, 0, 0, 0, 0, 0, 4, 0x50, 2, 16, 0, 24, 0, 0]
    ++ List.replicate 24 0)

def stereoEvent : ListenerEvent :=
  .packet stereoListener false 0 eIasAvbStreamValid stereoPacket ⟨0, 0⟩

/-- A stereo stream with room for 16 samples, a quarter of it filled on a reset. -/
def smallStereo (timeAware : Bool) : IasLocalAudioStream :=
  start 2 16 48000 8 8 0 0 4 timeAware false fun _ _ => 0

/-- The client is active, and three packets come before anything is read. -/
def threePackets : List ListenerEvent :=
  [.connect, .setClientActive true, stereoEvent, stereoEvent, stereoEvent]

theorem aligned_of_fits_timeAware :
    Aligned (exec (step .wholeNanoseconds) (smallStereo true) threePackets) :=
  aligned_of_fits (e := .wholeNanoseconds) (by decide +kernel)

/-- **A reset between two channels.** In plain mode the third packet overruns channel 0; the
reset takes both channels back to four samples, and channel 1 gets its six afterwards. -/
theorem overrun_separates_the_channels :
    let s := exec (step .wholeNanoseconds) (smallStereo false) threePackets
    ¬ Aligned s ∧ s.mChannelBuffers.map IasLocalAudioBuffer.getFillLevel = [4, 10]
      ∧ s.mChannelBuffers.map IasLocalAudioBuffer.mMonotonicWriteIndex = [0, 6] := by
  decide +kernel

end ListenerRun

end AvbStreamHandler
