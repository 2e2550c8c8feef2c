import AvbStreamHandler.Audio.DescriptorTiling

/-!
# Runs of a time-aware receive stream

The calls of `writeLocalAudioBuffer` one by one, for any channel and in any order, and
between them what else happens to the local stream of a receive stream.
-/

namespace AvbStreamHandler

open Kit Kit.Run

namespace DescriptorRun

open IasLocalAudioStream

inductive DescriptorEvent
  | write (ch : Nat) (buffer : Nat → AudioData) (bufferSize : UInt32) (samplesWritten : Nat)
      (timestamp : Nat) (t : TimeBase)
  /-- A job of the ALSA worker. Of the descriptors, the `used` oldest are gone; the start
  option may be taken back. -/
  | copyJob (reads : BufferControl → List (Nat × Nat)) (used : Nat) (syncStart : Bool)
  | copyReset
  | updateBufferStatus
  | connect
  | disconnect
  | setClientActive (active : Bool)
  | setWorkerActive (active : Bool)

/-- The queue after a job: `dequeue`, `used` times. -/
def afterJob (q : IasLocalAudioBufferDesc) (used : Nat) (syncStart : Bool) :
    IasLocalAudioBufferDesc :=
  { q with
    mDescQ := q.mDescQ.take (q.mDescQ.length - used)
    mAlsaRxSyncStart := syncStart }

def step (e : Estimates) (s : IasLocalAudioStream) : DescriptorEvent → IasLocalAudioStream
  | .write ch buffer bufferSize samplesWritten timestamp t =>
      (s.writeLocalAudioBuffer e t ch buffer bufferSize.toNat samplesWritten timestamp).stream
  | .copyJob reads used syncStart => s.copyJob reads (afterJob s.mBufferDescQ used syncStart)
  | .copyReset => s.flush
  | .updateBufferStatus => s.updateBufferStatus e
  | .connect => s.connect
  | .disconnect => s.disconnect
  | .setClientActive active => if active then s.setClientActive e else s.setClientIdle
  | .setWorkerActive active => s.setWorkerActive active

/-- A write that gets as far as the last channel is regular there. -/
def StepOk (e : Estimates) (s : IasLocalAudioStream) : DescriptorEvent → Prop
  | .write ch _ bufferSize _ _ _ =>
      s.mSampleFrequency ≠ 0 → s.mWorkerRunning = true → ch + 1 = s.numChannels →
        bufferSize.toNat ≠ 0 → Regular (s.prepare e ch bufferSize.toNat) ch bufferSize.toNat
  | _ => True

instance decidableStepOk (e : Estimates) (s : IasLocalAudioStream) :
    ∀ ev, Decidable (StepOk e s ev)
  | .write .. => inferInstanceAs (Decidable (_ ≠ _ → _ → _ → _ ≠ _ → Regular ..))
  | .copyJob .. => inferInstanceAs (Decidable True)
  | .copyReset => inferInstanceAs (Decidable True)
  | .updateBufferStatus => inferInstanceAs (Decidable True)
  | .connect => inferInstanceAs (Decidable True)
  | .disconnect => inferInstanceAs (Decidable True)
  | .setClientActive _ => inferInstanceAs (Decidable True)
  | .setWorkerActive _ => inferInstanceAs (Decidable True)

variable {s : IasLocalAudioStream} {e : Estimates}

/-- Everything but a write only takes descriptors away. -/
theorem write_or_trimmed (haware : s.hasBufferDesc = true) (ev : DescriptorEvent) :
    (∃ ch buffer bufferSize samplesWritten timestamp t,
        ev = .write ch buffer bufferSize samplesWritten timestamp t)
      ∨ Trimmed s (step e s ev) := by
  cases ev with
  | write ch buffer bufferSize samplesWritten timestamp t => exact Or.inl ⟨_, _, _, _, _, _, rfl⟩
  | copyJob reads used syncStart =>
      exact Or.inr (trimmed_copyJob reads rfl rfl (List.take_prefix _ _))
  | copyReset => exact Or.inr (trimmed_flush s)
  | updateBufferStatus => exact Or.inr (trimmed_updateBufferStatus haware e)
  | connect => exact Or.inr (trimmed_connect s)
  | disconnect => exact Or.inr (trimmed_setClientState s _)
  | setClientActive active =>
      cases active with
      | true => exact Or.inr (trimmed_setClientActive haware e)
      | false => exact Or.inr (trimmed_setClientIdle s)
  | setWorkerActive active => exact Or.inr (trimmed_setWorkerActive s active)

/-- **One step keeps the tiling.** -/
theorem inv_step (h : TilingInv s) {ev : DescriptorEvent} (hok : StepOk e s ev) :
    TilingInv (step e s ev) := by
  rcases write_or_trimmed (e := e) h.aware ev with ⟨ch, buffer, n, written, timestamp, t, rfl⟩ | htrim
  · exact writeLocalAudioBuffer_inv h hok
  · exact h.trimmed htrim

/-- **What one step does to the queue**, whatever happens. -/
theorem staysAware_step (haware : s.hasBufferDesc = true) (ev : DescriptorEvent) :
    StaysAware s (step e s ev) := by
  rcases write_or_trimmed (e := e) haware ev with ⟨ch, buffer, n, written, timestamp, t, rfl⟩ | htrim
  · exact writeLocalAudioBuffer_staysAware haware ..
  · exact htrim.staysAware haware

variable {numChannels totalSize sampleFrequency periodSz readThreshold launchTimeDelay audioRxDelay
  optimalFillLevel : Nat} {syncStart : Bool} {heap : Nat → Nat → AudioData}

/-- A time-aware receive stream, after `init`. -/
def start (numChannels totalSize sampleFrequency periodSz readThreshold launchTimeDelay audioRxDelay
    optimalFillLevel : Nat) (syncStart : Bool) (heap : Nat → Nat → AudioData) :
    IasLocalAudioStream :=
  .init numChannels totalSize sampleFrequency periodSz readThreshold launchTimeDelay audioRxDelay
    optimalFillLevel true true syncStart heap

theorem inv_start (hperiod : 0 < periodSz) : TilingInv (start numChannels totalSize sampleFrequency
    periodSz readThreshold launchTimeDelay audioRxDelay optimalFillLevel syncStart heap) := by
  refine .of_covers ⟨rfl, Nat.succ_pos _, Nat.zero_le _, .nil, fun d hd => nomatch hd⟩ hperiod rfl ?_
  exact ⟨rfl, fun _ => rfl, fun hpos => absurd hpos (Nat.lt_irrefl 0),
    fun hpos => absurd hpos (Nat.lt_irrefl 0), fun _ d hd => nomatch hd⟩

/--
**The descriptors tile the sample stream.**

Whatever happens, the queue never holds more descriptors than it has room for, and a step
drops only the oldest ones. In every run in which each write to the last channel is regular,
the queued ranges are consecutive and one period long, what lies between the last one and the
write position of the last channel is what is pending, and that is less than a period.
-/
theorem descriptors_tile (hperiod : 0 < periodSz) (es : List DescriptorEvent) :
    let s := exec (step e) (start numChannels totalSize sampleFrequency periodSz readThreshold
      launchTimeDelay audioRxDelay optimalFillLevel syncStart heap) es
    s.descriptors.length ≤ s.mBufferDescQ.mDescQsz
      ∧ (∀ ev, DropsOnlyOldest s.descriptors (step e s ev).descriptors)
      ∧ (Always (step e) (StepOk e) (start numChannels totalSize sampleFrequency periodSz
          readThreshold launchTimeDelay audioRxDelay optimalFillLevel syncStart heap) es → Tiled s) := by
  intro s
  have hstart : TilingInv (start numChannels totalSize sampleFrequency periodSz readThreshold
      launchTimeDelay audioRxDelay optimalFillLevel syncStart heap) := inv_start hperiod
  have hsized : Sized s := inv_exec_of_step
    (fun s ev h => h.of_staysAware (staysAware_step h.aware ev))
    ⟨hstart.aware, hstart.room, hstart.bounded⟩ es
  refine ⟨hsized.bounded, fun ev => (staysAware_step hsized.aware ev).queue.dropsOnlyOldest, ?_⟩
  intro hok
  exact (@inv_exec _ _ _ _ TilingInv (fun s ev h ho => inv_step h ho) _ _ hstart hok).tiled

/-- A write of six samples to the only channel. -/
def sixSamples (timestamp : Nat) : DescriptorEvent := .write 0 (fun _ => 0) 6 0 timestamp ⟨0, 0⟩

/-- A mono stream with room for 16 samples and periods of eight. -/
def smallMono : IasLocalAudioStream := start 1 16 48000 8 8 0 0 4 false fun _ _ => 0

theorem descriptors_tile_twoPackets :
    let s := exec (step .wholeNanoseconds) smallMono [sixSamples 1000, sixSamples 126000]
    Tiled s ∧ s.descriptors.length = 1 := by
  refine ⟨(descriptors_tile (e := .wholeNanoseconds) (by decide) _).2.2 (by decide +kernel), ?_⟩
  decide +kernel

/-- **A short write is counted in full.** No client is active, and the third write stores four
of its six samples: the two descriptors end at 16, where the writer stands, and two samples
are pending. -/
theorem short_write_breaks_the_tiling :
    let s := exec (step .wholeNanoseconds) smallMono
      [sixSamples 1000, sixSamples 126000, sixSamples 251000]
    ¬ Tiled s ∧ s.lastWriteIndex = some 16 ∧ s.mPendingSamples = 2
      ∧ s.descriptors.map AudioBufferDesc.endIndex = [16, 8] := by
  intro s
  have hstate : s.lastWriteIndex = some 16 ∧ s.mPendingSamples = 2
      ∧ s.descriptors.map AudioBufferDesc.endIndex = [16, 8] := by decide +kernel
  refine ⟨fun htiled => ?_, hstate⟩
  obtain ⟨hlast, hpending, hends⟩ := hstate
  cases hqueue : s.descriptors with
  | nil =>
      rw [hqueue] at hends
      exact nomatch hends
  | cons d l =>
      have hd := htiled.last d (by rw [hqueue]; rfl)
      rw [hqueue] at hends
      have hend : d.endIndex = 16 := (List.cons.inj hends).1
      rw [hlast, hpending, hend] at hd
      exact absurd hd (by decide)

end DescriptorRun

end AvbStreamHandler
