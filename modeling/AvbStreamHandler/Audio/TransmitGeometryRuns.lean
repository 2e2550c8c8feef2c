import AvbStreamHandler.Audio.TransmitPayload

/-!
# Runs of a talker

Everything a talker goes through: it is activated and deactivated, connected to local streams
and disconnected, and between its packets the ALSA worker does to the local stream what it
likes.
-/

namespace AvbStreamHandler

open Kit Kit.Word Kit.Run

namespace TxAudioStream

open IasLocalAudioStream

variable {s : TxAudioStream} {e : Estimates} {t : AvbAudioConfig}

/-- A local stream whose rings are in order. -/
abbrev SoundStream := {c : ConnectedStream // ∀ b ∈ c.stream.mChannelBuffers, SoundRing b}

/-- What the rest of the program may make of a local stream. -/
abbrev SoundState := {l : IasLocalAudioStream // ∀ b ∈ l.mChannelBuffers, SoundRing b}

inductive TalkerEvent
  | activationChanged (active : Bool)
  | connectTo (l : Option SoundStream)
  /-- Whatever was written to the local stream, or reset, since the last packet. -/
  | localChanged (l : SoundState)
  | writeToAvbPacket (clock : ClockReading)

/-- A talker and the data packets it sent, each with what the channels of the local stream
held before it was put together. -/
structure Talker where
  stream : TxAudioStream
  sent : List (AvbAudioConfig.TxBlock × List Nat) := []
  /-- A call did not return. -/
  hung : Bool := false

/-- After `initTransmit`. -/
def start (t : AvbAudioConfig) (heap : Nat → AudioData) : Talker where
  stream := {
    mSamplesPerChannelPerPacket := t.mSamplesPerChannelPerPacket
    mTempBuffer := heap }

def Talker.setStream (w : Talker) (s : TxAudioStream) : Talker := { w with stream := s }

/-- A data packet is recorded. -/
def Talker.record (w : Talker) : TxOutcome → Talker
  | .dataPacket _ block held => { w with sent := w.sent ++ [(block, held)] }
  | _ => w

/-- The local stream is still the same one: its kind has not changed. -/
def replaceLocal (s : TxAudioStream) (l : IasLocalAudioStream) : TxAudioStream :=
  match s.mLocalStream with
  | some c =>
      if l.asked c.mHasSideChannel c.mChannelLayout = c.asked ∧ l.isReceive = c.stream.isReceive then
        s.setLocalStream (some { c with stream := l })
      else s
  | none => s

def step (t : AvbAudioConfig) (e : Estimates) (w : Talker) (ev : TalkerEvent) : Talker :=
  if w.hung then w
  else
    match ev with
    | .activationChanged active => w.setStream (w.stream.activationChanged active)
    | .connectTo l => w.setStream (connectTo t w.stream (l.map Subtype.val))
    | .localChanged l => w.setStream (w.stream.replaceLocal l.val)
    | .writeToAvbPacket clock =>
        match w.stream.writeToAvbPacket e clock with
        | some (s, out) => (w.setStream s).record out
        | none => { w with hung := true }

/-- No dump of late samples finds less than a packet's worth. -/
def StepOk (e : Estimates) (w : Talker) : TalkerEvent → Prop
  | .writeToAvbPacket clock => w.stream.mActive = true → w.stream.EnoughToDump e clock
  | _ => True

/-- **A talker keeps its geometry.** -/
structure KeepsGeometry (t : AvbAudioConfig) (w : Talker) : Prop where
  returns : w.hung = false
  samples : w.stream.mSamplesPerChannelPerPacket = t.mSamplesPerChannelPerPacket
  packets : ∀ p ∈ w.sent, PacketGeometry t p.1 p.2

/-- What a run keeps. -/
structure TalkerInv (t : AvbAudioConfig) (w : Talker) : Prop where
  geometry : KeepsGeometry t w
  stream : TxInv t w.stream

theorem txInv_connectTo (h : TxInv t s) (hrate : t.mSampleFrequency ≠ 0) (l : Option SoundStream) :
    TxInv t (connectTo t s (l.map Subtype.val)) := by
  have hnone : TxInv t (s.setLocalStream none) := ⟨h.samples, fun _ hc => nomatch hc⟩
  cases l with
  | none => exact hnone
  | some l =>
      show TxInv t (connectTo t s (some l.val))
      unfold connectTo
      dsimp only
      split
      · rename_i hcond
        obtain ⟨hconnectable, hreceive⟩ := Bool.and_eq_true_iff.mp hcond
        refine ⟨h.samples, fun c hc => ?_⟩
        obtain rfl := Option.some.inj hc
        refine ⟨⟨by simpa using hreceive, ?_, l.property⟩, hconnectable⟩
        have hfrequency : t.mSampleFrequency = l.val.stream.mSampleFrequency := by
          simp only [AvbAudioConfig.connectable, Bool.and_eq_true, decide_eq_true_eq] at hconnectable
          exact hconnectable.2
        rw [← hfrequency]
        exact hrate
      · exact hnone

theorem txInv_replaceLocal (h : TxInv t s) (l : SoundState) : TxInv t (s.replaceLocal l.val) := by
  unfold replaceLocal
  split
  · rename_i c hc
    obtain ⟨hsound, hconnectable⟩ := h.connected c hc
    split
    · rename_i hsame
      refine ⟨h.samples, fun c' hc' => ?_⟩
      obtain rfl := Option.some.inj hc'
      refine ⟨⟨hsame.2.trans hsound.transmit, ?_, l.property⟩, ?_⟩
      · have hfrequency : l.val.mSampleFrequency = c.stream.mSampleFrequency :=
          congrArg LocalAudioStream.mSampleFrequency hsame.1
        rw [hfrequency]
        exact hsound.initialized
      · exact (congrArg t.connectable hsame.1).trans hconnectable
    · exact h
  · exact h

theorem txInv_activationChanged (h : TxInv t s) (active : Bool) :
    TxInv t (s.activationChanged active) := by
  unfold activationChanged
  split <;> exact ⟨h.samples, h.connected⟩

variable {w : Talker}

/-- A step that sends nothing keeps the invariant if the stream does. -/
theorem talkerInv_setStream (h : TalkerInv t w) (hs : TxInv t s) : TalkerInv t (w.setStream s) :=
  ⟨⟨h.geometry.returns, hs.samples, h.geometry.packets⟩, hs⟩

/-- **One step.** -/
theorem talkerInv_step (hpos : 0 < t.mSamplesPerChannelPerPacket)
    (hlt : t.mSamplesPerChannelPerPacket < 65536) (hrate : t.mSampleFrequency ≠ 0)
    (h : TalkerInv t w) {ev : TalkerEvent} (hok : StepOk e w ev) : TalkerInv t (step t e w ev) := by
  unfold step
  rw [h.geometry.returns, if_neg Bool.false_ne_true]
  cases ev with
  | activationChanged active => exact talkerInv_setStream h (txInv_activationChanged h.stream active)
  | connectTo l => exact talkerInv_setStream h (txInv_connectTo h.stream hrate l)
  | localChanged l => exact talkerInv_setStream h (txInv_replaceLocal h.stream l)
  | writeToAvbPacket clock =>
      by_cases hactive : w.stream.mActive = true
      · obtain ⟨s', out, hwrite, hinv, hpacket⟩ :=
          writeToAvbPacket_spec h.stream hpos hlt (hok hactive)
        dsimp only
        rw [hwrite]
        have hset := talkerInv_setStream h hinv
        cases out with
        | dataPacket attime block held =>
            refine ⟨⟨h.geometry.returns, hinv.samples, fun p hp => ?_⟩, hinv⟩
            rcases List.mem_append.mp hp with hold | hnew
            · exact h.geometry.packets p hold
            · obtain rfl := List.mem_singleton.mp hnew
              exact (hpacket attime block held rfl).1
        | refused => exact hset
        | dummyPacket attime => exact hset
        | nullPacket attime timestamp mSeqNum => exact hset
      · have hrefused : w.stream.writeToAvbPacket e clock = some (w.stream, .refused) := by
          unfold writeToAvbPacket
          rw [if_neg hactive]
        dsimp only
        rw [hrefused]
        exact h

/-- A step that is not guarded gives the geometry up. -/
theorem geometry_lost (hlt : t.mSamplesPerChannelPerPacket < 65536) (h : TalkerInv t w)
    {ev : TalkerEvent} (hshort : ¬ StepOk e w ev) : ¬ KeepsGeometry t (step t e w ev) := by
  intro hkeeps
  cases ev with
  | activationChanged active => exact hshort trivial
  | connectTo l => exact hshort trivial
  | localChanged l => exact hshort trivial
  | writeToAvbPacket clock =>
      have hboth : w.stream.mActive = true ∧ ¬ w.stream.EnoughToDump e clock := by
        by_contra hnot
        exact hshort fun hactive => by_contra fun hdump => hnot ⟨hactive, hdump⟩
      unfold step at hkeeps
      rw [h.geometry.returns, if_neg Bool.false_ne_true] at hkeeps
      dsimp only at hkeeps
      cases hwrite : w.stream.writeToAvbPacket e clock with
      | none =>
          rw [hwrite] at hkeeps
          exact Bool.noConfusion hkeeps.returns
      | some p =>
          obtain ⟨s', out⟩ := p
          have hless := writeToAvbPacket_shortage h.stream hlt hboth.1 hboth.2 hwrite
          rw [hwrite] at hkeeps
          have hsame : s'.mSamplesPerChannelPerPacket = t.mSamplesPerChannelPerPacket := by
            cases out <;> exact hkeeps.samples
          omega

theorem talkerInv_start (t : AvbAudioConfig) (heap : Nat → AudioData) :
    TalkerInv t (start t heap) :=
  ⟨⟨rfl, rfl, fun _ hp => nomatch hp⟩, ⟨rfl, fun _ hc => nomatch hc⟩⟩

/-- `getPacketsPerSecondByClass`, from the class's measurement interval in nanoseconds. -/
def getPacketsPerSecondByClass (interval : Nat) : Nat :=
  if 0 < interval then 1000000000 / interval else 0

variable {comp : IasAvbCompatibility} {interval maxNumberChannels sampleFreq poolSize : Nat}
  {format : IasAvbAudioFormat} {heap : Nat → AudioData} {es : List TalkerEvent}

/-- A stream that was set up has something to send, and not more than 16 bits can count. -/
theorem samples_of_initTransmit
    (ht : AvbAudioConfig.initTransmit comp (getPacketsPerSecondByClass interval) maxNumberChannels
      sampleFreq poolSize format = .ok t) :
    0 < t.mSamplesPerChannelPerPacket ∧ t.mSamplesPerChannelPerPacket < 65536
      ∧ t.mSampleFrequency ≠ 0 := by
  obtain ⟨rfl, ⟨hrate, -⟩, hclass, -⟩ := AvbAudioConfig.initTransmit_ok ht
  have hmost : getPacketsPerSecondByClass interval ≤ 1000000000 := by
    unfold getPacketsPerSecondByClass
    split
    · exact Nat.div_le_self ..
    · omega
  generalize getPacketsPerSecondByClass interval = packetsPerSec at hclass hmost
  have hsamples : (AvbAudioConfig.common comp packetsPerSec maxNumberChannels sampleFreq
      format).mSamplesPerChannelPerPacket
      = (sampleFreq + (packetsPerSec - 1)) / packetsPerSec % 65536 := by
    show add32 sampleFreq (packetsPerSec - 1) / packetsPerSec % 65536 = _
    rw [show add32 sampleFreq (packetsPerSec - 1) = sampleFreq + (packetsPerSec - 1) from
      Nat.mod_eq_of_lt (by omega)]
  have hleast : 1 ≤ (sampleFreq + (packetsPerSec - 1)) / packetsPerSec :=
    (Nat.le_div_iff_mul_le (by omega)).mpr (by omega)
  have hless : (sampleFreq + (packetsPerSec - 1)) / packetsPerSec < 48001 :=
    Nat.div_lt_of_lt_mul (by
      have := Nat.mul_le_mul_right 48000 (show 1 ≤ packetsPerSec by omega)
      omega)
  rw [hsamples, Nat.mod_eq_of_lt (by omega)]
  refine ⟨hleast, by omega, ?_⟩
  show sampleFreq ≠ 0
  omega

/--
**A talker keeps its geometry** in every run in which no dump of late samples finds less than
a packet's worth: every call returns, the number of samples per packet stays what
`initTransmit` made it, and each channel of a data packet has that many samples, or, if the
local stream held some but fewer, those.
-/
theorem geometry_of_enough
    (ht : AvbAudioConfig.initTransmit comp (getPacketsPerSecondByClass interval) maxNumberChannels
      sampleFreq poolSize format = .ok t)
    (hok : Always (step t e) (StepOk e) (start t heap) es) :
    KeepsGeometry t (exec (step t e) (start t heap) es) := by
  obtain ⟨hpos, hlt, hrate⟩ := samples_of_initTransmit ht
  have hstep : ∀ w ev, TalkerInv t w → StepOk e w ev → TalkerInv t (step t e w ev) :=
    fun w ev hw hok => talkerInv_step hpos hlt hrate hw hok
  exact (inv_exec hstep (talkerInv_start t heap) hok).geometry

/-- **And only in those**: the geometry lasts all through a run exactly if every dump finds
enough. -/
theorem geometry_lasts_iff
    (ht : AvbAudioConfig.initTransmit comp (getPacketsPerSecondByClass interval) maxNumberChannels
      sampleFreq poolSize format = .ok t) :
    (∀ pre, pre <+: es → KeepsGeometry t (exec (step t e) (start t heap) pre))
      ↔ Always (step t e) (StepOk e) (start t heap) es := by
  obtain ⟨hpos, hlt, hrate⟩ := samples_of_initTransmit ht
  exact good_iff_always (fun w hw => hw.geometry)
    (fun w ev hw hok => talkerInv_step hpos hlt hrate hw hok)
    (fun w ev hw hshort => geometry_lost hlt hw hshort) (talkerInv_start t heap)

/-- A ring of 17 with `n` samples in it. -/
def partlyFilled (n : Nat) : IasLocalAudioBuffer where
  mTotalSize := 17
  mDoAnalysis := false
  mBuffer := { cell := fun _ => 0, touched := [] }
  mWriteIndex := n
  mMonotonicWriteIndex := n
  mReadReady := true

theorem soundRing_partlyFilled {n : Nat} (h : n < 17) : SoundRing (partlyFilled n) :=
  ⟨17, by omega, rfl, ⟨Nat.zero_le _, Nat.le_of_lt h, h⟩, fun _ hi => nomatch hi⟩

/-- Two channels with `n` samples each. -/
def stereoLocal (n : Nat) (h : n < 17) (timeAware : Bool) (descs : List AudioBufferDesc) :
    SoundStream :=
  ⟨{ stream := {
      mChannelBuffers := [partlyFilled n, partlyFilled n]
      hasBufferDesc := timeAware
      isReceive := false
      mSampleFrequency := 48000
      mBufferDescQ := { mDescQ := descs, mDescQsz := 4 }
      mOptimalFillLevel := 8
      mAlsaRxSyncStart := false
      mPeriodSz := 6
      mLaunchTimeDelay := 0
      mAudioRxDelay := 0 } }, fun b hb => by
    have hsame : b = partlyFilled n := by simpa using hb
    rw [hsame]
    exact soundRing_partlyFilled h⟩

/-- A packet that starts at two milliseconds. -/
def onePacket (l : SoundStream) : List TalkerEvent :=
  [.connectTo (some l), .activationChanged true,
    .writeToAvbPacket { resetTime := some (0, 2000000), refPlane := some 2125000 }]

/-- The run of a talker for six samples a packet. -/
def stereoRun (l : SoundStream) : Talker :=
  exec (step AvbAudioConfig.stereoTalker .wholeNanoseconds)
    (start AvbAudioConfig.stereoTalker fun _ => 0) (onePacket l)

/-- Six of twelve samples are late. -/
def halfLate : SoundStream :=
  stereoLocal 12 (by omega) true [⟨5000000, 6, 6⟩, ⟨1000, 0, 6⟩]

theorem geometry_of_enough_halfLate : KeepsGeometry AvbAudioConfig.stereoTalker (stereoRun halfLate)
    := by
  refine geometry_of_enough (show AvbAudioConfig.initTransmit .eIasAvbCompD6
    (getPacketsPerSecondByClass 125000) 2 48000 16 .eIasAvbAudioFormatSaf16
      = .ok AvbAudioConfig.stereoTalker from rfl) ⟨trivial, trivial, fun _ => ?_, trivial⟩
  intro s' c hstart hc
  obtain rfl := Option.some.inj hstart
  obtain rfl := Option.some.inj hc
  intro _
  exact enough_of_rounds 1 (by decide +kernel) (by decide +kernel)

/-- **What can become of the geometry.** A local stream with four samples makes a packet of
four. If four samples are late, that is what a packet has from then on. And if the descriptor
speaks of ten, the call never returns. -/
theorem geometry_exceptions :
    AvbAudioConfig.stereoTalker.mSamplesPerChannelPerPacket = 6
      ∧ ((stereoRun (stereoLocal 4 (by omega) false [])).sent.map fun p =>
          p.1.channels.map List.length) = [[4, 4]]
      ∧ (stereoRun (stereoLocal 4 (by omega) true [⟨1000, 0, 4⟩])).stream.mSamplesPerChannelPerPacket
          = 4
      ∧ (stereoRun (stereoLocal 4 (by omega) true [⟨1000, 0, 10⟩])).hung = true := by
  decide +kernel

end TxAudioStream

end AvbStreamHandler
