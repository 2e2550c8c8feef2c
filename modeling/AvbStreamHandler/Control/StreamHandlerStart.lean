import AvbStreamHandler.Control.StreamHandlerCalls

/-!
# Local streams, and starting the engines

A call that creates a local stream leaves the registry as it is if it fails, and never starts or
stops the ALSA engine. A start that fails has left everything as it was only if nothing had been
started before: what was started is not stopped again, since `stop` finds the handler not
started.
-/

namespace AvbStreamHandler

open Kit Kit.Mutex IasAvbProcessingResult

namespace LocalStreams

variable {c : AlsaConfig} {w w' : LocalStreams} {streamId : UInt16} {e e' : IasAlsaEngine}
  {memory : Bool}

/-- The ALSA engine is initialized when it is made. -/
def AlsaReady (w : LocalStreams) : Prop := ∀ e ∈ w.mAlsaEngine, e.mIsInitialized = true

/-- What no call that creates or destroys a stream changes. -/
structure KeepsAlsa (w w' : LocalStreams) : Prop where
  same : ∀ e, w.mAlsaEngine = some e → ∃ e', w'.mAlsaEngine = some e' ∧ e.SameState e'
  ready : AlsaReady w → AlsaReady w'

theorem KeepsAlsa.of_eq (h : w'.mAlsaEngine = w.mAlsaEngine) : KeepsAlsa w w' := by
  refine ⟨fun e he => ⟨e, h.trans he, .refl e⟩, fun hready => ?_⟩
  unfold AlsaReady
  rw [h]
  exact hready

/-- The engine that was found or made, after a call. -/
theorem KeepsAlsa.of_engine (he : w.alsaEngine memory = some e) (hsame : e.SameState e')
    (hw' : w'.mAlsaEngine = some e') : KeepsAlsa w w' := by
  unfold alsaEngine at he
  cases hold : w.mAlsaEngine with
  | some e₀ =>
      rw [hold] at he
      obtain rfl : e₀ = e := Option.some.inj he
      refine ⟨fun e₁ h₁ => ⟨e', hw', ?_⟩, fun hready e₁ h₁ => ?_⟩
      · obtain rfl := Option.some.inj (hold.symm.trans h₁)
        exact hsame
      · obtain rfl := Option.some.inj (hw'.symm.trans h₁)
        exact hsame.initialized.trans (hready e₀ hold)
  | none =>
      rw [hold] at he
      dsimp only at he
      split at he
      · exact nomatch he
      refine ⟨fun e₁ h₁ => (nomatch hold.symm.trans h₁), fun _ e₁ h₁ => ?_⟩
      obtain rfl := Option.some.inj (hw'.symm.trans h₁)
      rw [hsame.initialized, ← Option.some.inj he]
      split <;> rfl

theorem keeps_createAlsaStream (c : AlsaConfig) (w : LocalStreams)
    (streamId numberOfChannels : UInt16) (r : AlsaRequest) (engineMemory : Bool)
    (o : AlsaOutcome) :
    KeepsAlsa w (createAlsaStream c w streamId numberOfChannels r engineMemory o).1 := by
  unfold createAlsaStream
  split
  · exact .of_eq rfl
  split
  · exact .of_eq rfl
  split
  · exact .of_eq rfl
  rename_i e he
  dsimp only
  split
  · exact .of_engine he (.refl e) rfl
  split
  · exact .of_engine he (.refl e) rfl
  rename_i id w₂ hchoose
  have hw₂ := (chooseId_spec hchoose).1
  split
  · exact .of_engine he (.refl e) (by rw [hw₂])
  · exact .of_engine he (IasAlsaEngine.create_sameState c e _ o) rfl

theorem keeps_chooseId {id : UInt16} (h : w.chooseId streamId = some (id, w')) :
    w'.mAlsaEngine = w.mAlsaEngine := by
  rw [(chooseId_spec h).1]

theorem keeps_createTestToneStream (w : LocalStreams) (streamId : UInt16)
    (format : IasAvbAudioFormat) (memory : Bool) (init : IasAvbProcessingResult) :
    KeepsAlsa w (w.createTestToneStream streamId format memory init).1 := by
  unfold createTestToneStream
  split
  · exact .of_eq rfl
  split
  · exact .of_eq rfl
  split
  · exact .of_eq rfl
  split
  · exact .of_eq rfl
  rename_i id w₂ hchoose
  have hw₂ := keeps_chooseId hchoose
  split
  · exact .of_eq hw₂
  split
  · exact .of_eq hw₂
  · exact .of_eq ((setOtherMap_frame w₂ ..).trans hw₂)

theorem keeps_createLocalVideoStream (w : LocalStreams) (streamId : UInt16)
    (direction : IasAvbStreamDirection) (interfaceMemory memory : Bool)
    (init : IasAvbProcessingResult) :
    KeepsAlsa w (w.createLocalVideoStream streamId direction interfaceMemory memory init).1 := by
  unfold createLocalVideoStream
  split
  · exact .of_eq rfl
  split
  · exact .of_eq rfl
  dsimp only
  split
  · exact .of_eq rfl
  split
  · exact .of_eq rfl
  rename_i id w₂ hchoose
  have hw₂ := keeps_chooseId hchoose
  split
  · exact .of_eq hw₂
  split
  · exact .of_eq hw₂
  split
  · exact .of_eq hw₂
  · exact .of_eq ((setOtherMap_frame w₂ ..).trans hw₂)

/-- The engine is there, and changes. -/
theorem KeepsAlsa.map {f : IasAlsaEngine → IasAlsaEngine}
    (hf : ∀ e : IasAlsaEngine, e.SameState (f e)) (hw' : w'.mAlsaEngine = w.mAlsaEngine.map f) :
    KeepsAlsa w w' := by
  refine ⟨fun e he => ⟨f e, by rw [hw', he]; rfl, hf e⟩, fun hready e' he' => ?_⟩
  obtain ⟨e, he, rfl⟩ := Option.map_eq_some_iff.mp (hw'.symm.trans he')
  exact (hf e).initialized.trans (hready e he)

theorem destroyOther_engine (w : LocalStreams) (kind : LocalStreamKind) (streamId : UInt16)
    (k : Nat) : (w.destroyOther kind streamId k).1.mAlsaEngine = w.mAlsaEngine := by
  unfold destroyOther
  split
  · rfl
  · exact setOtherMap_frame w ..

theorem keeps_destroyLocalStream (w : LocalStreams) (streamId : UInt16) :
    KeepsAlsa w (w.destroyLocalStream streamId).1 := by
  unfold destroyLocalStream
  split
  · exact .of_eq rfl
  split
  · rename_i e _ he
    exact .map (fun e => IasAlsaEngine.destroy_sameState e streamId) (by rw [he]; rfl)
  · split
    · exact .of_eq (destroyOther_engine ..)
    · exact .of_eq rfl
  · split
    · unfold destroyVideoStream
      split
      · exact .of_eq (destroyOther_engine ..)
      split
      · exact .of_eq (destroyOther_engine ..)
      · exact .of_eq rfl
    · exact .of_eq rfl

theorem keeps_setConnected (w : LocalStreams) (stream : LocalStreamRef) (connected : Bool) :
    KeepsAlsa w (w.setConnected stream connected) := by
  cases stream with
  | alsa k => exact .map (f := fun e => e.setConnected k connected) (fun e => ⟨rfl, rfl⟩) rfl
  | other k => exact .of_eq rfl

theorem CreatesOne.keepsFresh {r : CreateResult} (h : CreatesOne streamId w w' r) :
    Fresh w → Fresh w' := by
  rcases h with ⟨-, -, hsame⟩ | ⟨-, -, -, kind, a, hadds⟩
  · exact hsame.fresh
  · exact hadds.fresh

/-- A call that fails files nothing. -/
theorem CreatesOne.failed {r : CreateResult} (h : CreatesOne streamId w w' r)
    (hfail : r.result ≠ eIasAvbProcOK) : w'.index = w.index := by
  rcases h with ⟨-, -, hsame⟩ | ⟨hok, -⟩
  · exact hsame.index
  · exact absurd hok hfail

end LocalStreams

namespace IasAvbStreamHandler

open LocalStreams

variable {c : HandlerConfig} {h h' : IasAvbStreamHandler} {o : StartOutcome} {resume : Bool}

/-! ## The calls that create a local stream -/

/-- Other local streams under the same ids. -/
theorem unchanged_of_locals {w : LocalStreams} {running : Bool}
    (hindex : w.index = h.locals.index) (hkeeps : KeepsAlsa h.locals w)
    (hvideo : h.locals.mVideoStreamInterface ≠ none → running = h.videoRunning) :
    Unchanged h { h with locals := w, videoRunning := running } := by
  refine ⟨rfl, rfl, hindex, rfl, rfl, fun e he => ⟨e, he, .refl e⟩, fun r hr => ⟨r, hr, rfl⟩, ?_,
    hvideo⟩
  intro e he
  obtain ⟨e', he', hsame⟩ := hkeeps.same e he
  exact ⟨e', he', hsame.started⟩

/-- **An ALSA stream**: an error leaves all as it was. -/
theorem createAlsaStream_unchanged (hf : Fresh h.locals) (streamId numberOfChannels : UInt16)
    (clockId : UInt32) (stream : AlsaStream) (engineMemory : Bool) (o : AlsaOutcome)
    (herror : (createAlsaStream c h streamId numberOfChannels clockId stream engineMemory
      o).result ≠ .eIasAvbResultOk) :
    Unchanged h
      (createAlsaStream c h streamId numberOfChannels clockId stream engineMemory o).handler := by
  unfold createAlsaStream at herror ⊢
  dsimp only at herror ⊢
  rw [Ne, mapResultCode_ok] at herror
  exact unchanged_of_locals ((createAlsaStream_cases hf).1.failed herror)
    (keeps_createAlsaStream c.alsa h.locals ..) fun _ => rfl

/-- **A local video stream**: an error leaves all as it was. -/
theorem createLocalVideoStream_unchanged (hf : Fresh h.locals) (streamId : UInt16)
    (direction : IasAvbStreamDirection) (interfaceMemory memory : Bool)
    (init : IasAvbProcessingResult)
    (herror : (h.createLocalVideoStream streamId direction interfaceMemory memory init).result
      ≠ .eIasAvbResultOk) :
    Unchanged h
      (h.createLocalVideoStream streamId direction interfaceMemory memory init).handler := by
  unfold createLocalVideoStream at herror ⊢
  dsimp only at herror ⊢
  rw [Ne, mapResultCode_ok] at herror
  refine unchanged_of_locals ((createLocalVideoStream_cases hf).1.failed herror)
    (keeps_createLocalVideoStream h.locals ..) fun hsome => ?_
  cases hv : h.locals.mVideoStreamInterface with
  | none => exact absurd hv hsome
  | some v => rfl

/-! ## Starting the engines -/

/-- The transmit engine starts, if there is one. -/
def TransmitStarts (h : IasAvbStreamHandler) (o : StartOutcome) : Prop :=
  ∀ e ∈ h.mAvbTransmitEngine, e.Starts o.sequencers

def ReceiveStarts (h : IasAvbStreamHandler) (o : StartOutcome) : Prop :=
  h.mAvbReceiveEngine ≠ none → o.receive = eIasAvbProcOK

/-- The transmit engine fails at the first thread it could start. -/
def FirstSequencerFails (h : IasAvbStreamHandler) (o : StartOutcome) : Prop :=
  ∃ e ∈ h.mAvbTransmitEngine, e.mRunning = false
    ∧ IasAvbTransmitEngine.FirstFails o.sequencers e.mSequencers

/-- The transmit engine runs, if there is one. -/
def TransmitRuns (h : IasAvbStreamHandler) : Prop :=
  ∀ e ∈ h.mAvbTransmitEngine, e.mRunning = true

/-- When a start fails before it has started anything. -/
def NothingStarted (h : IasAvbStreamHandler) (o : StartOutcome) : Prop :=
  h.FirstSequencerFails o ∨ h.TransmitRuns ∧ ¬ h.ReceiveStarts o

/-- What the start of an engine leaves alone. -/
structure OnlyStarts (h h' : IasAvbStreamHandler) : Prop where
  receive : h'.receiveStreams = h.receiveStreams
  transmit : h'.transmitStreams = h.transmitStreams
  locals : h'.locals = h.locals
  domains : h'.mAvbClockDomains = h.mAvbClockDomains
  controllers : h'.mClockControllers = h.mClockControllers
  video : h'.videoRunning = h.videoRunning
  mutex : h'.mApiMutexEnable = h.mApiMutexEnable

theorem OnlyStarts.unchanged (ho : OnlyStarts h h') : Unchanged h h' ↔ RunsAsBefore h h' := by
  refine ⟨fun hu => hu.running, fun hr => ?_⟩
  exact ⟨ho.receive, ho.transmit, by rw [ho.locals], ho.domains, ho.controllers, hr⟩

/-- What comes of the transmit engine. -/
structure TransmitStarted (h : IasAvbStreamHandler) (o : StartOutcome)
    (r : IasAvbStreamHandler × IasAvbProcessingResult) : Prop where
  ok : r.2 = eIasAvbProcOK ↔ h.TransmitStarts o
  only : OnlyStarts h r.1
  engine : r.1.mAvbReceiveEngine = h.mAvbReceiveEngine
  runs : h.TransmitStarts o → (RunsAsBefore h r.1 ↔ h.TransmitRuns)
  failed : ¬ h.TransmitStarts o → (RunsAsBefore h r.1 ↔ h.FirstSequencerFails o)

/-- Only the transmit engine is different. -/
theorem runsAsBefore_setTransmit {e e' : IasAvbTransmitEngine}
    (he : h.mAvbTransmitEngine = some e) :
    RunsAsBefore h (h.setTransmit e') ↔ e.SameRunning e' := by
  constructor
  · intro hr
    obtain ⟨e₁, h₁, hsame⟩ := hr.transmit e he
    obtain rfl : e' = e₁ := Option.some.inj h₁
    exact hsame
  · intro hsame
    refine ⟨fun e₁ h₁ => ⟨e', rfl, ?_⟩, fun r hr => ⟨r, hr, rfl⟩, fun e he => ⟨e, he, rfl⟩,
      fun _ => rfl⟩
    obtain rfl := Option.some.inj (he.symm.trans h₁)
    exact hsame

theorem startTransmit_done (h : IasAvbStreamHandler) (o : StartOutcome) :
    TransmitStarted h o (h.startTransmit o) := by
  unfold startTransmit
  split
  · rename_i hnone
    have hstarts : h.TransmitStarts o := fun e he => nomatch hnone.symm.trans he
    have hruns : h.TransmitRuns := fun e he => nomatch hnone.symm.trans he
    exact {
      ok := iff_of_true rfl hstarts
      only := ⟨rfl, rfl, rfl, rfl, rfl, rfl, rfl⟩
      engine := rfl
      runs := fun _ => iff_of_true (.refl h) hruns
      failed := fun hnot => absurd hstarts hnot }
  · rename_i e he
    have hstarts : h.TransmitStarts o ↔ e.Starts o.sequencers := by
      refine ⟨fun hs => hs e he, fun hs e' he' => ?_⟩
      obtain rfl := Option.some.inj (he.symm.trans he')
      exact hs
    refine ⟨IasAvbTransmitEngine.start_ok.trans hstarts.symm,
      ⟨rfl, ?_, rfl, rfl, rfl, rfl, rfl⟩, rfl, fun hs => ?_, fun hs => ?_⟩
    · unfold transmitStreams
      rw [he]
      funext id
      exact congrArg (AList.lookup id) IasAvbTransmitEngine.start_streams
    · rw [runsAsBefore_setTransmit he,
        IasAvbTransmitEngine.start_same_of_ok (hstarts.mp hs)]
      refine ⟨fun hr e' he' => ?_, fun hr => hr e he⟩
      obtain rfl := Option.some.inj (he.symm.trans he')
      exact hr
    · rw [runsAsBefore_setTransmit he,
        IasAvbTransmitEngine.start_same_of_failed fun hok => hs (hstarts.mpr hok)]
      refine ⟨fun hr => ⟨e, he, hr⟩, ?_⟩
      rintro ⟨e', he', hr⟩
      obtain rfl := Option.some.inj (he.symm.trans he')
      exact hr

/-- A receive engine that does not start is as it was. -/
theorem startReceive_cases (h : IasAvbStreamHandler) (o : StartOutcome) :
    ((h.startReceive o).2 = eIasAvbProcOK ↔ h.ReceiveStarts o)
      ∧ (h.startReceive o).1.locals = h.locals
      ∧ (¬ h.ReceiveStarts o → (h.startReceive o).1 = h) := by
  unfold startReceive ReceiveStarts
  split
  · rename_i hnone
    exact ⟨iff_of_true rfl fun hne => absurd hnone hne, rfl, fun _ => rfl⟩
  · rename_i r hr
    have hsome : h.mAvbReceiveEngine ≠ none := hr ▸ nofun
    unfold IasAvbReceiver.start
    split
    · rename_i hok
      exact ⟨iff_of_true rfl fun _ => hok, rfl, fun hnot => absurd (fun _ => hok) hnot⟩
    · rename_i hfail
      refine ⟨iff_of_false hfail fun hok => hfail (hok hsome), rfl, fun _ => ?_⟩
      show { h with mAvbReceiveEngine := some r } = h
      rw [← hr]

/-- The ALSA engine always starts. -/
theorem startAlsa_ok (hready : h.locals.AlsaReady) : h.startAlsa.2 = eIasAvbProcOK := by
  unfold startAlsa
  split
  · rfl
  · rename_i e he
    dsimp only
    unfold IasAlsaEngine.start
    rw [if_pos (hready e he)]

theorem FirstSequencerFails.not_starts (hf : h.FirstSequencerFails o) : ¬ h.TransmitStarts o := by
  obtain ⟨e, he, hidle, hfirst⟩ := hf
  intro hs
  rcases hs e he with hruns | hall
  · exact nomatch hidle.symm.trans hruns
  · exact hfirst.not_starts hall

theorem TransmitRuns.starts (hr : h.TransmitRuns) : h.TransmitStarts o :=
  fun e he => .inl (hr e he)

/-- **All engines start, or what was started before the failure is left running.** -/
theorem startEngines_done (hready : h.locals.AlsaReady) :
    ((h.startEngines o).2 = eIasAvbProcOK ↔ h.TransmitStarts o ∧ h.ReceiveStarts o)
      ∧ ((h.startEngines o).2 ≠ eIasAvbProcOK → OnlyStarts h (h.startEngines o).1
        ∧ (RunsAsBefore h (h.startEngines o).1 ↔ h.NothingStarted o)) := by
  have ht := startTransmit_done h o
  unfold startEngines
  generalize h.startTransmit o = transmit at ht ⊢
  obtain ⟨h₁, result⟩ := transmit
  by_cases hresult : result = eIasAvbProcOK
  swap
  · -- the transmit engine does not start
    have hfail : ¬ h.TransmitStarts o := fun hs => hresult (ht.ok.mpr hs)
    have hnothing : RunsAsBefore h h₁ ↔ h.NothingStarted o := by
      rw [ht.failed hfail]
      exact ⟨.inl, fun hn => hn.elim id fun hn => absurd hn.1.starts hfail⟩
    split
    · rename_i heq
      exact absurd (Prod.mk.inj heq).2 hresult
    · rename_i heq
      obtain ⟨rfl, rfl⟩ := Prod.mk.inj heq
      exact ⟨iff_of_false hresult fun hs => hfail hs.1, fun _ => ⟨ht.only, hnothing⟩⟩
  subst hresult
  dsimp only
  have hstarts : h.TransmitStarts o := ht.ok.mp rfl
  obtain ⟨hok, hlocals, hsame⟩ := startReceive_cases h₁ o
  have hreceive : h₁.ReceiveStarts o ↔ h.ReceiveStarts o := by
    unfold ReceiveStarts
    rw [show h₁.mAvbReceiveEngine = h.mAvbReceiveEngine from ht.engine]
  rw [hreceive] at hok hsame
  generalize h₁.startReceive o = receive at hok hlocals hsame ⊢
  obtain ⟨h₂, result⟩ := receive
  by_cases hresult : result = eIasAvbProcOK
  · subst hresult
    dsimp only
    have halsa : h₂.locals.AlsaReady := by
      rw [show h₂.locals = h₁.locals from hlocals, show h₁.locals = h.locals from ht.only.locals]
      exact hready
    have hdone := startAlsa_ok halsa
    exact ⟨iff_of_true hdone ⟨hstarts, hok.mp rfl⟩, fun hne => absurd hdone hne⟩
  · -- the receive engine does not start
    have hfail : ¬ h.ReceiveStarts o := fun hs => hresult (hok.mpr hs)
    obtain rfl : h₂ = h₁ := hsame hfail
    have hnothing : RunsAsBefore h h₂ ↔ h.NothingStarted o := by
      rw [ht.runs hstarts]
      exact ⟨fun hr => .inr ⟨hr, hfail⟩, fun hn => hn.elim (fun hn => absurd hstarts hn.not_starts)
        fun hn => hn.1⟩
    split
    · rename_i heq
      exact absurd (Prod.mk.inj heq).2 hresult
    · rename_i heq
      obtain ⟨rfl, rfl⟩ := Prod.mk.inj heq
      exact ⟨iff_of_false hresult fun hs => hfail hs.2, fun _ => ⟨ht.only, hnothing⟩⟩

/-- **A start does no harm** if there is nothing to do, if all engines start, or if it fails
before it has started anything and there is no mutex to take a second time. -/
def StartOk (h : IasAvbStreamHandler) (resume : Bool) (o : StartOutcome) : Prop :=
  h.isInitialized = true → h.isStarted = false →
    ((resume = true → o.resume = eIasAvbProcOK) ∧ h.TransmitStarts o ∧ h.ReceiveStarts o)
      ∨ h.mApiMutexEnable = false
        ∧ ((resume = true ∧ o.resume ≠ eIasAvbProcOK) ∨ h.NothingStarted o)

/-- A call that leaves the mutex free and never waits for itself. -/
structure MutexOk (ops : List Op) : Prop where
  released : held false ops = false
  notTwice : reenters false ops = false

theorem mutexOk_guard (h : IasAvbStreamHandler) : MutexOk (h.guard []) := by
  unfold guard
  split
  · exact ⟨held_guarded, reenters_guarded.trans rfl⟩
  · exact ⟨rfl, rfl⟩

/-- What `start` does with the mutex if it calls `stop`. -/
theorem mutexOk_guard_guard (h : IasAvbStreamHandler) :
    MutexOk (h.guard (h.guard [])) ↔ h.mApiMutexEnable = false := by
  unfold guard
  cases h.mApiMutexEnable with
  | true => exact iff_of_false (fun hok => nomatch hok.notTwice) nofun
  | false => exact iff_of_true ⟨rfl, rfl⟩ rfl

/-- **The start** leaves everything as it was if it fails, and the mutex free, exactly if it is
a harmless one. -/
theorem start_iff (hready : h.locals.AlsaReady) :
    ((h.start resume o).result ≠ eIasAvbProcOK → Unchanged h (h.start resume o).handler)
        ∧ MutexOk (h.start resume o).mutex
      ↔ h.StartOk resume o := by
  unfold start StartOk
  split
  · rename_i hdead
    exact iff_of_true ⟨fun _ => .refl h, mutexOk_guard h⟩
      fun hinit => nomatch hdead.symm.trans hinit
  rename_i hinit
  have hinit : h.isInitialized = true := by simpa using hinit
  split
  · rename_i hstarted
    exact iff_of_true ⟨fun hne => absurd rfl hne, mutexOk_guard h⟩
      fun _ hnot => nomatch hnot.symm.trans hstarted
  rename_i hidle
  have hidle : h.isStarted = false := by simpa using hidle
  -- what is left if there is an error
  have hfailed : ∀ engines : IasAvbStreamHandler × IasAvbProcessingResult,
      OnlyStarts h engines.1 → (engines.1.stop false true).handler = engines.1
        ∧ h.guard (engines.1.stop false true).mutex = h.guard (h.guard []) := by
    intro engines honly
    have hguard : engines.1.guard [] = h.guard [] := by
      unfold guard
      rw [honly.mutex]
    unfold stop isInitialized isStarted
    rw [honly.locals, if_neg (by rw [show h.locals.initialized = true from hinit]; exact nofun),
      if_pos (show h.locals.started = false from hidle)]
    exact ⟨rfl, by rw [← hguard]⟩
  have hengines := startEngines_done (o := o) hready
  by_cases hresume : resume = true ∧ o.resume ≠ eIasAvbProcOK
  · obtain ⟨hhandler, hmutex⟩ := hfailed (h, o.resume) ⟨rfl, rfl, rfl, rfl, rfl, rfl, rfl⟩
    rw [if_pos hresume]
    dsimp only at hhandler hmutex ⊢
    rw [if_neg hresume.2]
    dsimp only
    rw [hhandler, hmutex, mutexOk_guard_guard]
    constructor
    · exact fun hgood _ _ => .inr ⟨hgood.2, .inl hresume⟩
    · intro hok
      refine ⟨fun _ => .refl h, ?_⟩
      exact (hok hinit hidle).elim (fun hs => absurd (hs.1 hresume.1) hresume.2) fun hs => hs.1
  rw [if_neg hresume]
  have hresumed : resume = true → o.resume = eIasAvbProcOK :=
    fun hr => not_not.mp fun hne => hresume ⟨hr, hne⟩
  by_cases hok : (h.startEngines o).2 = eIasAvbProcOK
  · dsimp only
    rw [if_pos hok]
    exact iff_of_true ⟨fun hne => absurd rfl hne, mutexOk_guard h⟩
      fun _ _ => .inl ⟨hresumed, hengines.1.mp hok⟩
  · obtain ⟨honly, hnothing⟩ := hengines.2 hok
    obtain ⟨hhandler, hmutex⟩ := hfailed (h.startEngines o) honly
    dsimp only
    rw [if_neg hok]
    dsimp only
    rw [hhandler, hmutex, mutexOk_guard_guard, honly.unchanged, hnothing]
    constructor
    · exact fun hgood _ _ => .inr ⟨hgood.2, .inr (hgood.1 hok)⟩
    · intro hgood
      rcases hgood hinit hidle with hs | ⟨hmutex, hr | hn⟩
      · exact absurd (hengines.1.mpr hs.2) hok
      · exact absurd hr hresume
      · exact ⟨fun _ => hn, hmutex⟩

end IasAvbStreamHandler

end AvbStreamHandler
