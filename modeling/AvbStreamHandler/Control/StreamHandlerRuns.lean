import AvbStreamHandler.Control.StreamHandlerStart
import AvbStreamHandler.Receive.StreamRegistryRuns

/-!
# The calls of the stream handler, over whole runs

A call that creates a stream, or starts the engines, is to leave everything as it was if it
reports an error; every call is to give the API mutex back, and never to wait for itself.

Three calls do not keep to that. Two of them go on after they have created a receive stream, and
leave it behind if they fail there. The third is the start of the engines: if one does not start
it calls `stop`, which takes the mutex a second time, and does nothing where there is none.
-/

namespace AvbStreamHandler

open Kit Kit.Run Kit.Mutex IasAvbProcessingResult

/-- A call of the API, with what comes back from the steps below it, or something the receive
thread does. -/
inductive HandlerEvent
  | init (result : IasAvbProcessingResult)
  | cleanup
  | activateMutexHandling
  | createReceiveAudioStream (maxNumberChannels : UInt16) (streamId : Nat)
      (destMacAddr : IasAvbMacAddress) (engine : EngineOutcome) (o : ReceiveOutcome)
      (recovery : RecoveryOutcome)
  | createReceiveVideoStream (streamId : Nat) (destMacAddr : IasAvbMacAddress)
      (engine : EngineOutcome) (o : ReceiveOutcome)
  | createReceiveClockReferenceStream (streamId : Nat) (destMacAddr : IasAvbMacAddress)
      (clockId : UInt32) (engine : EngineOutcome) (o : ReceiveOutcome)
      (recovery : RecoveryOutcome)
  | createTransmitAudioStream (maxNumberChannels : UInt16) (q : TransmitRequest)
      (engine : EngineOutcome) (o : TransmitOutcome)
  | createTransmitVideoStream (q : TransmitRequest) (engine : EngineOutcome)
      (o : TransmitOutcome)
  | createTransmitClockReferenceStream (q : TransmitRequest) (engine : EngineOutcome)
      (o : TransmitOutcome)
  | destroyStream (streamId : Nat) (removal : IasAvbProcessingResult)
  | setStreamActive (streamId : Nat) (active : Bool) (outcome : IasAvbProcessingResult)
  | createAlsaStream (streamId numberOfChannels : UInt16) (clockId : UInt32)
      (stream : AlsaStream) (engineMemory : Bool) (o : AlsaOutcome)
  | createTestToneStream (streamId : UInt16) (format : IasAvbAudioFormat) (memory : Bool)
      (init : IasAvbProcessingResult)
  | createLocalVideoStream (streamId : UInt16) (direction : IasAvbStreamDirection)
      (interfaceMemory memory : Bool) (init : IasAvbProcessingResult)
  | destroyLocalStream (streamId : UInt16)
  /-- `connectStreams` or `disconnectStreams`, with what it comes to for a local stream. -/
  | connectStreams (stream : LocalStreamRef) (connected : Bool)
  /-- `setChannelLayout`, `setTestToneParams`, `getAvbStreamInfo` or `getLocalStreamInfo`. Some
  of them look first whether there is anything to take the mutex for. -/
  | access (anything : Bool)
  | deriveClockDomainFromRxStream (rxStreamId : Nat) (clockId : UInt32) (o : RecoveryOutcome)
  | setClockRecoveryParams (masterClockId slaveClockId : UInt32) (o : RecoveryOutcome)
  | start (resume : Bool) (o : StartOutcome)
  | stop (suspend driver : Bool)
  | receiveFrame (r : Reception) (frame : Bytes) (now : Nat)
      (newState : Nat → IasAvbStreamState)
  | notifyTimeouts (now : Nat) (idleWait : Option Nat) (newState : Nat → IasAvbStreamState)

/-- The call, and whether it reports success. -/
def Called.ofResult (r : Called IasAvbResult) : Called Bool :=
  { handler := r.handler, result := r.result = .eIasAvbResultOk, mutex := r.mutex }

def Called.ofProcessingResult (r : Called IasAvbProcessingResult) : Called Bool :=
  { handler := r.handler, result := r.result = eIasAvbProcOK, mutex := r.mutex }

namespace IasAvbStreamHandler

/-- The receive thread changes the engine. -/
def onReceive (h : IasAvbStreamHandler) (f : IasAvbReceiveEngine → IasAvbReceiveEngine) :
    IasAvbStreamHandler :=
  { h with mAvbReceiveEngine := h.mAvbReceiveEngine.map fun r => { r with engine := f r.engine } }

def call (c : HandlerConfig) (h : IasAvbStreamHandler) : HandlerEvent → Called Bool
  | .init result => (h.init c result).ofProcessingResult
  | .cleanup => { handler := h.cleanup.handler, result := true, mutex := h.cleanup.mutex }
  | .activateMutexHandling =>
      { handler := (h.activateMutexHandling c).handler
        result := true
        mutex := (h.activateMutexHandling c).mutex }
  | .createReceiveAudioStream maxNumberChannels streamId destMacAddr engine o recovery =>
      (createReceiveAudioStream c h maxNumberChannels streamId destMacAddr engine o
        recovery).ofResult
  | .createReceiveVideoStream streamId destMacAddr engine o =>
      (h.createReceiveVideoStream streamId destMacAddr engine o).ofResult
  | .createReceiveClockReferenceStream streamId destMacAddr clockId engine o recovery =>
      (createReceiveClockReferenceStream c h streamId destMacAddr clockId engine o
        recovery).ofResult
  | .createTransmitAudioStream maxNumberChannels q engine o =>
      (h.createTransmitAudioStream maxNumberChannels q engine o).ofResult
  | .createTransmitVideoStream q engine o => (h.createTransmitVideoStream q engine o).ofResult
  | .createTransmitClockReferenceStream q engine o =>
      (h.createTransmitClockReferenceStream q engine o).ofResult
  | .destroyStream streamId removal => (h.destroyStream streamId removal).ofResult
  | .setStreamActive streamId active outcome =>
      (h.setStreamActive streamId active outcome).ofResult
  | .createAlsaStream streamId numberOfChannels clockId stream engineMemory o =>
      (createAlsaStream c h streamId numberOfChannels clockId stream engineMemory o).ofResult
  | .createTestToneStream streamId format memory init =>
      (h.createTestToneStream streamId format memory init).ofResult
  | .createLocalVideoStream streamId direction interfaceMemory memory init =>
      (h.createLocalVideoStream streamId direction interfaceMemory memory init).ofResult
  | .destroyLocalStream streamId => (h.destroyLocalStream streamId).ofResult
  | .connectStreams stream connected =>
      { handler := { h with locals := h.locals.setConnected stream connected }
        result := true
        mutex := h.guard [] }
  | .access anything =>
      { handler := h, result := true, mutex := if anything then h.guard [] else [] }
  | .deriveClockDomainFromRxStream rxStreamId clockId o =>
      { handler := (h.deriveClockDomainFromRxStream rxStreamId clockId o).handler
        result := (h.deriveClockDomainFromRxStream rxStreamId clockId o).result
          = .eIasAvbResultOk }
  | .setClockRecoveryParams masterClockId slaveClockId o =>
      { handler := (h.setClockRecoveryParams masterClockId slaveClockId o).1
        result := (h.setClockRecoveryParams masterClockId slaveClockId o).2
          = .eIasAvbResultOk }
  | .start resume o => (h.start resume o).ofProcessingResult
  | .stop suspend driver => (h.stop suspend driver).ofProcessingResult
  | .receiveFrame r frame now newState =>
      { handler := h.onReceive fun w =>
          (IasAvbReceiveEngine.receiveFrame c.receive w frame r.recvLength now newState).1
        result := true }
  | .notifyTimeouts now idleWait newState =>
      { handler := h.onReceive fun w => w.notifyTimeouts now idleWait newState
        result := true }

def step (c : HandlerConfig) (h : IasAvbStreamHandler) (e : HandlerEvent) :
    IasAvbStreamHandler := (call c h e).handler

/-- The calls that create a stream or start the engines. -/
def AllOrNothing : HandlerEvent → Prop
  | .createReceiveAudioStream .. => True
  | .createReceiveVideoStream .. => True
  | .createReceiveClockReferenceStream .. => True
  | .createTransmitAudioStream .. => True
  | .createTransmitVideoStream .. => True
  | .createTransmitClockReferenceStream .. => True
  | .createAlsaStream .. => True
  | .createLocalVideoStream .. => True
  | .start .. => True
  | _ => False

/-- **What a call is to do.** -/
structure Good (c : HandlerConfig) (h : IasAvbStreamHandler) (e : HandlerEvent) : Prop where
  unchanged : AllOrNothing e → (call c h e).result = false → Unchanged h (step c h e)
  mutex : MutexOk (call c h e).mutex

/-- The clock of a new receive stream can be recovered, if that is asked for, and a start does
no harm. -/
def StepOk (c : HandlerConfig) (h : IasAvbStreamHandler) : HandlerEvent → Prop
  | .createReceiveAudioStream maxNumberChannels streamId _ engine o recovery =>
      maxNumberChannels ≤ cIasAvbMaxNumChannels → h.StreamCreated streamId engine o →
        AudioRecoveryOk c h streamId recovery
  | .createReceiveClockReferenceStream streamId _ clockId engine o recovery =>
      h.StreamCreated streamId engine o → ReferenceRecoveryOk c h streamId clockId recovery
  | .start resume o => h.StartOk resume o
  | _ => True

end IasAvbStreamHandler

namespace LocalStreams

variable {w w' : LocalStreams} {streamId : UInt16} {r : CreateResult}

/-- **The invariant**: numbers of local streams are not used twice, and the ALSA engine is
initialized. -/
structure Ready (w : LocalStreams) : Prop where
  fresh : Fresh w
  alsa : AlsaReady w

theorem Ready.new (hstreams : w.streams = fun _ => none) (halsa : w.mAlsaEngine = none) :
    Ready w := by
  refine ⟨⟨?_, ?_⟩, ?_⟩
  · intro k hk
    rw [hstreams] at hk
    exact absurd rfl hk
  · rw [halsa]
    exact nofun
  · unfold AlsaReady
    rw [halsa]
    exact nofun

theorem Ready.created (h : Ready w) (hone : CreatesOne streamId w w' r) (hkeeps : KeepsAlsa w w') :
    Ready w' := ⟨hone.keepsFresh h.fresh, hkeeps.ready h.alsa⟩

theorem Ready.destroyed (h : Ready w) (streamId : UInt16) :
    Ready (w.destroyLocalStream streamId).1 := by
  refine ⟨?_, (keeps_destroyLocalStream w streamId).ready h.alsa⟩
  rcases destroyLocalStream_cases w streamId with hsame | ⟨kind, a, hdrops⟩
  · exact hsame.fresh h.fresh
  · exact hdrops.fresh h.fresh

/-- The engine is started or stopped, and so is the handler. -/
theorem Ready.mapEngine {f : IasAlsaEngine → IasAlsaEngine} (h : Ready w)
    (hsame : Same w { w with mAlsaEngine := w.mAlsaEngine.map f })
    (hf : ∀ e, (f e).mIsInitialized = e.mIsInitialized) (initialized started : Bool) :
    Ready { w with
      mAlsaEngine := w.mAlsaEngine.map f, initialized := initialized, started := started } := by
  have hfresh := hsame.fresh h.fresh
  refine ⟨⟨hfresh.bound, hfresh.boundAlsa⟩, fun e he => ?_⟩
  obtain ⟨e₀, he₀, rfl⟩ := Option.map_eq_some_iff.mp he
  exact (hf e₀).trans (h.alsa e₀ he₀)

theorem Ready.started (h : Ready w) (initialized started : Bool) :
    Ready { w with
      mAlsaEngine := w.mAlsaEngine.map fun e => e.start.1
      initialized := initialized, started := started } := by
  refine h.mapEngine (same_startEngine w) (fun e => ?_) initialized started
  unfold IasAlsaEngine.start
  split <;> rfl

theorem Ready.stopped (h : Ready w) (initialized started : Bool) :
    Ready { w with
      mAlsaEngine := w.mAlsaEngine.map fun e => e.stop.1
      initialized := initialized, started := started } := by
  refine h.mapEngine (same_stopEngine w) (fun e => ?_) initialized started
  unfold IasAlsaEngine.stop
  split <;> rfl

theorem Ready.flags (h : Ready w) (initialized started : Bool) :
    Ready { w with initialized := initialized, started := started } :=
  ⟨⟨h.fresh.bound, h.fresh.boundAlsa⟩, h.alsa⟩

end LocalStreams

namespace IasAvbStreamHandler

variable {c : HandlerConfig} {h : IasAvbStreamHandler}

/-! ## The invariant -/

/-- Starting the engines can start the ALSA engine. -/
theorem startEngines_locals (h : IasAvbStreamHandler) (o : StartOutcome) :
    (h.startEngines o).1.locals = h.locals
      ∨ (h.startEngines o).1.locals
        = { h.locals with mAlsaEngine := h.locals.mAlsaEngine.map fun e => e.start.1 } := by
  have ht := (startTransmit_done h o).only.locals
  unfold startEngines
  split
  swap
  · rename_i heq
    rw [heq] at ht
    exact .inl ht
  rename_i h₁ heq
  rw [heq] at ht
  have hr := (startReceive_cases h₁ o).2.1
  split
  swap
  · rename_i heq
    rw [heq] at hr
    exact .inl (hr.trans ht)
  rename_i h₂ heq
  rw [heq] at hr
  have hlocals : h₂.locals = h.locals := Eq.trans hr ht
  unfold startAlsa
  split
  · exact .inl hlocals
  · rename_i e he
    right
    rw [← hlocals, he]
    rfl

theorem ready_stop (hready : h.locals.Ready) (suspend driver : Bool) :
    (h.stop suspend driver).handler.locals.Ready := by
  unfold stop
  split
  · exact hready
  split
  · exact hready
  · exact hready.stopped h.locals.initialized false

theorem ready_start (hready : h.locals.Ready) (resume : Bool) (o : StartOutcome) :
    (h.start resume o).handler.locals.Ready := by
  unfold start
  split
  · exact hready
  split
  · exact hready
  dsimp only
  have hengines : (h.startEngines o).1.locals.Ready := by
    rcases startEngines_locals h o with heq | heq
    · rw [heq]
      exact hready
    · rw [heq]
      exact hready.started h.locals.initialized h.locals.started
  by_cases hresume : resume = true ∧ o.resume ≠ eIasAvbProcOK
  · rw [if_pos hresume]
    dsimp only
    rw [if_neg hresume.2]
    exact ready_stop hready false true
  · rw [if_neg hresume]
    split
    · exact hengines.flags _ true
    · exact ready_stop hengines false true

theorem ready_cleanup (h : IasAvbStreamHandler) : h.cleanup.handler.locals.Ready :=
  .new rfl rfl

theorem derive_locals (h : IasAvbStreamHandler) (rxStreamId : Nat) (clockId : UInt32)
    (o : RecoveryOutcome) :
    (h.deriveClockDomainFromRxStream rxStreamId clockId o).handler.locals = h.locals := by
  unfold deriveClockDomainFromRxStream
  by_cases hzero : clockId = 0
  · rw [hzero]
    simp only [if_true]
    split
    · rfl
    split
    · rfl
    split
    · rfl
    split
    · rfl
    split
    · rfl
    split <;> rfl
  · simp only [if_neg hzero]
    split
    · rfl
    split
    · rfl
    split
    · rfl
    split
    · rfl
    split <;> rfl

theorem recovery_locals (h : IasAvbStreamHandler) (masterClockId slaveClockId : UInt32)
    (o : RecoveryOutcome) :
    (h.setClockRecoveryParams masterClockId slaveClockId o).1.locals = h.locals := by
  unfold setClockRecoveryParams
  split
  · rfl
  split
  · rfl
  split
  · rfl
  split <;> rfl

theorem destroyStream_locals (h : IasAvbStreamHandler) (streamId : Nat)
    (removal : IasAvbProcessingResult) :
    (h.destroyStream streamId removal).handler.locals = h.locals := by
  unfold destroyStream
  dsimp only
  split <;> split <;> rfl

theorem setStreamActive_locals (h : IasAvbStreamHandler) (streamId : Nat) (active : Bool)
    (outcome : IasAvbProcessingResult) :
    (h.setStreamActive streamId active outcome).handler.locals = h.locals := by
  unfold setStreamActive
  dsimp only
  split <;> rfl

/-- **Kept by every step**, harmless or not. -/
theorem ready_step (h : IasAvbStreamHandler) (e : HandlerEvent) (hready : h.locals.Ready) :
    (step c h e).locals.Ready := by
  cases e with
  | init result =>
      show (h.init c result).handler.locals.Ready
      unfold init
      split
      · exact hready
      split
      · exact ready_cleanup h
      · exact hready.flags true h.locals.started
  | cleanup => exact ready_cleanup h
  | activateMutexHandling => exact hready
  | createReceiveAudioStream maxNumberChannels streamId destMacAddr engine o recovery =>
      exact (createReceiveAudioStream_iff c h maxNumberChannels streamId destMacAddr engine o
        recovery).2 ▸ hready
  | createReceiveVideoStream streamId destMacAddr engine o =>
      exact (createReceiveVideoStream_unchanged h streamId destMacAddr engine o).2 ▸ hready
  | createReceiveClockReferenceStream streamId destMacAddr clockId engine o recovery =>
      exact (createReceiveClockReferenceStream_iff c h streamId destMacAddr clockId engine o
        recovery).2 ▸ hready
  | createTransmitAudioStream maxNumberChannels q engine o =>
      exact createTransmitStream_locals h _ q engine o ▸ hready
  | createTransmitVideoStream q engine o =>
      exact createTransmitStream_locals h _ q engine o ▸ hready
  | createTransmitClockReferenceStream q engine o =>
      exact createTransmitStream_locals h _ q engine o ▸ hready
  | destroyStream streamId removal => exact destroyStream_locals h streamId removal ▸ hready
  | setStreamActive streamId active outcome =>
      exact setStreamActive_locals h streamId active outcome ▸ hready
  | createAlsaStream streamId numberOfChannels clockId stream engineMemory o =>
      exact hready.created (LocalStreams.createAlsaStream_cases hready.fresh).1
        (LocalStreams.keeps_createAlsaStream c.alsa h.locals ..)
  | createTestToneStream streamId format memory init =>
      exact hready.created (LocalStreams.createTestToneStream_cases hready.fresh).1
        (LocalStreams.keeps_createTestToneStream h.locals ..)
  | createLocalVideoStream streamId direction interfaceMemory memory init =>
      exact hready.created (LocalStreams.createLocalVideoStream_cases hready.fresh).1
        (LocalStreams.keeps_createLocalVideoStream h.locals ..)
  | destroyLocalStream streamId => exact hready.destroyed streamId
  | connectStreams stream connected =>
      exact ⟨(LocalStreams.same_setConnected h.locals stream connected).fresh hready.fresh,
        (LocalStreams.keeps_setConnected h.locals stream connected).ready hready.alsa⟩
  | access anything => exact hready
  | deriveClockDomainFromRxStream rxStreamId clockId o =>
      exact derive_locals h rxStreamId clockId o ▸ hready
  | setClockRecoveryParams masterClockId slaveClockId o =>
      exact recovery_locals h masterClockId slaveClockId o ▸ hready
  | start resume o => exact ready_start hready resume o
  | stop suspend driver => exact ready_stop hready suspend driver
  | receiveFrame r frame now newState => exact hready
  | notifyTimeouts now idleWait newState => exact hready

/-! ## The calls -/

theorem mutexOk_nil : MutexOk [] := ⟨rfl, rfl⟩

theorem mutexOk_stop (h : IasAvbStreamHandler) (suspend driver : Bool) :
    MutexOk (h.stop suspend driver).mutex := by
  unfold stop
  split
  · exact mutexOk_guard h
  split <;> exact mutexOk_guard h

/-- A claimed call that always keeps to what it is to do. -/
theorem good_of_unchanged {e : HandlerEvent}
    (hunchanged : AllOrNothing e → (call c h e).result = false → Unchanged h (step c h e))
    (hmutex : MutexOk (call c h e).mutex) : Good c h e ↔ True :=
  iff_of_true ⟨hunchanged, hmutex⟩ trivial

theorem ofResult_failed {r : Called IasAvbResult} :
    r.ofResult.result = false ↔ r.result ≠ .eIasAvbResultOk := decide_eq_false_iff_not

/-- **A transmit stream** is created in the same way by the three calls. -/
theorem transmit_failed {check : IasAvbProcessingResult} {q : TransmitRequest}
    {engine : EngineOutcome} {o : TransmitOutcome}
    (herror : mapResultCode (h.createTransmitStream check q engine o).2 ≠ .eIasAvbResultOk) :
    Unchanged h (h.createTransmitStream check q engine o).1 :=
  createTransmitStream_unchanged h check q engine o fun hok => herror (mapResultCode_ok.mpr hok)

/-- **What each call is to do**, and when it does. -/
theorem good_iff (hready : h.locals.Ready) (e : HandlerEvent) : Good c h e ↔ StepOk c h e := by
  cases e with
  | createReceiveAudioStream maxNumberChannels streamId destMacAddr engine o recovery =>
      -- a clock recovery is set up behind the stream, which stays if that fails
      have hiff := (createReceiveAudioStream_iff c h maxNumberChannels streamId destMacAddr engine
        o recovery).1
      constructor
      · exact fun hgood => hiff.mp fun herror => hgood.unchanged trivial (ofResult_failed.mpr herror)
      · intro hok
        exact ⟨fun _ hfail => hiff.mpr hok (ofResult_failed.mp hfail), mutexOk_guard h⟩
  | createReceiveClockReferenceStream streamId destMacAddr clockId engine o recovery =>
      have hiff := (createReceiveClockReferenceStream_iff c h streamId destMacAddr clockId engine o
        recovery).1
      constructor
      · exact fun hgood => hiff.mp fun herror => hgood.unchanged trivial (ofResult_failed.mpr herror)
      · intro hok
        exact ⟨fun _ hfail => hiff.mpr hok (ofResult_failed.mp hfail), mutexOk_nil⟩
  | start resume o =>
      -- a start may fail with engines running, or with the mutex to be taken again
      have hiff : _ ↔ h.StartOk resume o := start_iff hready.alsa
      constructor
      · exact fun hgood => hiff.mp
          ⟨fun herror => hgood.unchanged trivial (decide_eq_false herror), hgood.mutex⟩
      · intro hok
        obtain ⟨hunchanged, hmutex⟩ := hiff.mpr hok
        exact ⟨fun _ hfail => hunchanged (decide_eq_false_iff_not.mp hfail), hmutex⟩
  | createReceiveVideoStream streamId destMacAddr engine o =>
      refine good_of_unchanged (fun _ hfail => ?_) (mutexOk_guard h)
      exact (createReceiveVideoStream_unchanged h streamId destMacAddr engine o).1
        (ofResult_failed.mp hfail)
  | createTransmitAudioStream maxNumberChannels q engine o =>
      exact good_of_unchanged (fun _ hfail => transmit_failed (ofResult_failed.mp hfail))
        (mutexOk_guard h)
  | createTransmitVideoStream q engine o =>
      exact good_of_unchanged (fun _ hfail => transmit_failed (ofResult_failed.mp hfail))
        (mutexOk_guard h)
  | createTransmitClockReferenceStream q engine o =>
      exact good_of_unchanged (fun _ hfail => transmit_failed (ofResult_failed.mp hfail))
        mutexOk_nil
  | createAlsaStream streamId numberOfChannels clockId stream engineMemory o =>
      refine good_of_unchanged (fun _ hfail => ?_) (mutexOk_guard h)
      exact createAlsaStream_unchanged hready.fresh _ _ _ _ _ _ (ofResult_failed.mp hfail)
  | createLocalVideoStream streamId direction interfaceMemory memory init =>
      refine good_of_unchanged (fun _ hfail => ?_) (mutexOk_guard h)
      exact createLocalVideoStream_unchanged hready.fresh _ _ _ _ _ (ofResult_failed.mp hfail)
  | init result =>
      refine good_of_unchanged nofun ?_
      show MutexOk (h.init c result).mutex
      unfold init cleanup
      split
      · exact mutexOk_nil
      split
      · exact mutexOk_stop h false true
      · exact mutexOk_nil
  | cleanup => exact good_of_unchanged nofun (mutexOk_stop h false true)
  | activateMutexHandling => exact good_of_unchanged nofun ⟨rfl, rfl⟩
  | destroyStream streamId removal => exact good_of_unchanged nofun (mutexOk_guard h)
  | setStreamActive streamId active outcome => exact good_of_unchanged nofun (mutexOk_guard h)
  | createTestToneStream streamId format memory init =>
      exact good_of_unchanged nofun (mutexOk_guard h)
  | destroyLocalStream streamId => exact good_of_unchanged nofun (mutexOk_guard h)
  | connectStreams stream connected => exact good_of_unchanged nofun (mutexOk_guard h)
  | access anything =>
      refine good_of_unchanged nofun ?_
      cases anything with
      | true => exact mutexOk_guard h
      | false => exact mutexOk_nil
  | deriveClockDomainFromRxStream rxStreamId clockId o => exact good_of_unchanged nofun mutexOk_nil
  | setClockRecoveryParams masterClockId slaveClockId o =>
      exact good_of_unchanged nofun mutexOk_nil
  | stop suspend driver => exact good_of_unchanged nofun (mutexOk_stop h suspend driver)
  | receiveFrame r frame now newState => exact good_of_unchanged nofun mutexOk_nil
  | notifyTimeouts now idleWait newState => exact good_of_unchanged nofun mutexOk_nil

end IasAvbStreamHandler

end AvbStreamHandler
