import AvbStreamHandler.Control.StreamHandler

/-!
# What a call that fails leaves behind

An engine that is made on demand has no streams, so that making it changes nothing that counts.
A call that asks an engine for a stream and gets none leaves everything as it was. What can go
wrong after that is undone for transmit streams, but not for receive streams, and not for a start.
-/

namespace AvbStreamHandler

open Kit Kit.Mutex IasAvbProcessingResult

namespace IasAvbStreamHandler

variable {c : HandlerConfig} {h h' h'' : IasAvbStreamHandler} {streamId : Nat}
  {destMacAddr : IasAvbMacAddress} {engine : EngineOutcome} {r : IasAvbReceiver}

/-- The receive streams. -/
def receiveStreams (h : IasAvbStreamHandler) (streamId : Nat) : Option Nat :=
  h.mAvbReceiveEngine.bind fun r => r.engine.index streamId

/-- The transmit streams. -/
def transmitStreams (h : IasAvbStreamHandler) (streamId : Nat) : Option TransmitStream :=
  h.mAvbTransmitEngine.bind fun e => e.mAvbStreams.lookup streamId

/-- The engines that were there are there, and run as they did. -/
structure RunsAsBefore (h h' : IasAvbStreamHandler) : Prop where
  transmit : ∀ e, h.mAvbTransmitEngine = some e →
    ∃ e', h'.mAvbTransmitEngine = some e' ∧ e.SameRunning e'
  receive : ∀ r, h.mAvbReceiveEngine = some r →
    ∃ r', h'.mAvbReceiveEngine = some r' ∧ r'.running = r.running
  alsa : ∀ e, h.locals.mAlsaEngine = some e →
    ∃ e', h'.locals.mAlsaEngine = some e' ∧ e'.mIsStarted = e.mIsStarted
  video : h.locals.mVideoStreamInterface ≠ none → h'.videoRunning = h.videoRunning

/-- **All as it was before**, but for engines made on demand. -/
structure Unchanged (h h' : IasAvbStreamHandler) : Prop where
  receive : h'.receiveStreams = h.receiveStreams
  transmit : h'.transmitStreams = h.transmitStreams
  locals : h'.locals.index = h.locals.index
  domains : h'.mAvbClockDomains = h.mAvbClockDomains
  controllers : h'.mClockControllers = h.mClockControllers
  running : RunsAsBefore h h'

theorem RunsAsBefore.refl (h : IasAvbStreamHandler) : RunsAsBefore h h :=
  ⟨fun e he => ⟨e, he, .refl e⟩, fun r hr => ⟨r, hr, rfl⟩, fun e he => ⟨e, he, rfl⟩, fun _ => rfl⟩

theorem Unchanged.refl (h : IasAvbStreamHandler) : Unchanged h h :=
  ⟨rfl, rfl, rfl, rfl, rfl, .refl h⟩

/-! ## Network streams -/

/-- An engine without streams. -/
theorem createReceiveEngine_unchanged (h : IasAvbStreamHandler) (o : EngineOutcome) :
    Unchanged h (h.createReceiveEngine o).1 := by
  unfold createReceiveEngine
  split
  · exact .refl h
  · rename_i hnone
    split
    · exact .refl h
    split
    · exact .refl h
    split
    · exact .refl h
    split
    · exact .refl h
    refine ⟨?_, rfl, rfl, rfl, rfl, fun e he => ⟨e, he, .refl e⟩, ?_, fun e he => ⟨e, he, rfl⟩,
      fun _ => rfl⟩
    · unfold receiveStreams
      rw [hnone]
      rfl
    · exact fun r hr => nomatch hnone.symm.trans hr

theorem createTransmitEngine_unchanged (h : IasAvbStreamHandler) (o : EngineOutcome) :
    Unchanged h (h.createTransmitEngine o).1 := by
  unfold createTransmitEngine
  split
  · exact .refl h
  · rename_i hnone
    split
    · exact .refl h
    split
    · exact .refl h
    split
    · exact .refl h
    refine ⟨rfl, ?_, rfl, rfl, rfl, ?_, fun r hr => ⟨r, hr, rfl⟩, fun e he => ⟨e, he, rfl⟩,
      fun _ => rfl⟩
    · unfold transmitStreams
      rw [hnone]
      rfl
    · exact fun e he => nomatch hnone.symm.trans he

/-- A receive engine with the same streams, that runs as before. -/
theorem Unchanged.setReceive {r' : IasAvbReceiver} (hu : Unchanged h h')
    (hr : h'.mAvbReceiveEngine = some r) (hindex : r'.engine.index = r.engine.index)
    (hrunning : r'.running = r.running) : Unchanged h (h'.setReceive r') := by
  refine ⟨?_, hu.transmit, hu.locals, hu.domains, hu.controllers, hu.running.transmit, ?_,
    hu.running.alsa, hu.running.video⟩
  · rw [← hu.receive]
    unfold receiveStreams
    rw [hr]
    exact hindex
  · intro r₀ hr₀
    obtain ⟨r₁, hr₁, hsame⟩ := hu.running.receive r₀ hr₀
    obtain rfl := Option.some.inj (hr.symm.trans hr₁)
    exact ⟨r', rfl, hrunning.trans hsame⟩

theorem Unchanged.setTransmit {e e' : IasAvbTransmitEngine} (hu : Unchanged h h')
    (he : h'.mAvbTransmitEngine = some e)
    (hstreams : ∀ id, e'.mAvbStreams.lookup id = e.mAvbStreams.lookup id)
    (hrunning : e.SameRunning e') : Unchanged h (h'.setTransmit e') := by
  refine ⟨hu.receive, ?_, hu.locals, hu.domains, hu.controllers, ?_, hu.running.receive,
    hu.running.alsa, hu.running.video⟩
  · rw [← hu.transmit]
    unfold transmitStreams
    rw [he]
    exact funext hstreams
  · intro e₀ he₀
    obtain ⟨e₁, he₁, hsame⟩ := hu.running.transmit e₀ he₀
    obtain rfl := Option.some.inj (he.symm.trans he₁)
    exact ⟨e', rfl, hsame.trans hrunning⟩

/-! ### Receive streams -/

/-- When the receive engine is there, or can be made. -/
def EngineOk (h : IasAvbStreamHandler) (o : EngineOutcome) : Prop :=
  h.mAvbReceiveEngine ≠ none ∨
    o.memory = true ∧ o.init = eIasAvbProcOK ∧ o.registerEventInterface = eIasAvbProcOK
      ∧ (h.isStarted = true → o.start = eIasAvbProcOK)

/-- When the engine creates a stream: its id is free, and all goes well. -/
def StreamCreated (h : IasAvbStreamHandler) (streamId : Nat) (engine : EngineOutcome)
    (o : ReceiveOutcome) : Prop :=
  h.isInitialized = true ∧ h.EngineOk engine ∧ h.receiveStreams streamId = none
    ∧ o.init = eIasAvbProcOK ∧ o.bindMcastAddr = true

/-- What a new receive stream makes of the handler. -/
structure NewStream (h : IasAvbStreamHandler) (streamId : Nat) (h' : IasAvbStreamHandler) :
    Prop where
  initialized : h'.isInitialized = h.isInitialized
  filed : h'.receiveStreams streamId ≠ none
  domains : h'.mAvbClockDomains = h.mAvbClockDomains
  next : h'.mNextClockDomainId = h.mNextClockDomainId

theorem createReceiveEngine_ok (h : IasAvbStreamHandler) (o : EngineOutcome) :
    (h.createReceiveEngine o).2 = eIasAvbProcOK ↔ h.EngineOk o := by
  unfold createReceiveEngine EngineOk
  split
  · rename_i r hr
    exact iff_of_true rfl (.inl (hr ▸ nofun))
  · rename_i hnone
    rw [hnone]
    split
    · rename_i hmem
      exact iff_of_false nofun fun h => h.elim (fun h => h rfl) fun h => nomatch hmem.symm.trans h.1
    split
    · rename_i hinit
      exact iff_of_false hinit fun h => h.elim (fun h => h rfl) fun h => hinit h.2.1
    split
    · rename_i hreg
      exact iff_of_false hreg fun h => h.elim (fun h => h rfl) fun h => hreg h.2.2.1
    split
    · rename_i hstart
      exact iff_of_false hstart.2
        fun h => h.elim (fun h => h rfl) fun h => hstart.2 (h.2.2.2 hstart.1)
    · rename_i hmem hinit hreg hstart
      refine iff_of_true rfl (.inr ⟨by simpa using hmem, not_not.mp hinit, not_not.mp hreg, ?_⟩)
      exact fun h => not_not.mp fun hne => hstart ⟨h, hne⟩

theorem createReceiveEngine_some {o : EngineOutcome}
    (hok : (h.createReceiveEngine o).2 = eIasAvbProcOK) :
    ∃ r, (h.createReceiveEngine o).1.mAvbReceiveEngine = some r := by
  revert hok
  unfold createReceiveEngine
  split
  · rename_i r hr
    exact fun _ => ⟨r, hr⟩
  · split
    · exact nofun
    split
    · rename_i hne
      exact fun h => absurd h hne
    split
    · rename_i hne
      exact fun h => absurd h hne
    split
    · rename_i hne
      exact fun h => absurd h hne.2
    · exact fun _ => ⟨_, rfl⟩

theorem createReceiveEngine_frame (h : IasAvbStreamHandler) (o : EngineOutcome) :
    (h.createReceiveEngine o).1.locals = h.locals
      ∧ (h.createReceiveEngine o).1.mNextClockDomainId = h.mNextClockDomainId := by
  unfold createReceiveEngine
  split
  · exact ⟨rfl, rfl⟩
  · split
    · exact ⟨rfl, rfl⟩
    split
    · exact ⟨rfl, rfl⟩
    split
    · exact ⟨rfl, rfl⟩
    split <;> exact ⟨rfl, rfl⟩

/-- What comes of the first part of a call that creates a receive stream. -/
inductive Received (h : IasAvbStreamHandler) (streamId : Nat) (engine : EngineOutcome)
    (o : ReceiveOutcome) : IasAvbStreamHandler × IasAvbProcessingResult → Prop
  | refused (h' : IasAvbStreamHandler) (result : IasAvbProcessingResult)
      (error : result ≠ eIasAvbProcOK)
      (reason : h.isInitialized = true → ¬ h.StreamCreated streamId engine o)
      (same : Unchanged h h') (locals : h'.locals = h.locals) :
      Received h streamId engine o (h', result)
  | created (h' : IasAvbStreamHandler)
      (goes : h.isInitialized = true → h.StreamCreated streamId engine o)
      (free : h.receiveStreams streamId = none) (new : NewStream h streamId h')
      (locals : h'.locals = h.locals) : Received h streamId engine o (h', eIasAvbProcOK)

/-- **The engine creates a stream, or all is as it was.** -/
theorem createReceived_cases (h : IasAvbStreamHandler) (streamId : Nat)
    (destMacAddr : IasAvbMacAddress) (engine : EngineOutcome) (o : ReceiveOutcome) :
    Received h streamId engine o (h.createReceived streamId destMacAddr engine o) := by
  have hsame := createReceiveEngine_unchanged h engine
  have hok := createReceiveEngine_ok h engine
  have hsome := @createReceiveEngine_some h engine
  obtain ⟨hlocals, hnext⟩ := createReceiveEngine_frame h engine
  unfold createReceived
  split
  · rename_i h₁ heq
    rw [heq] at hsame hok hsome hlocals hnext
    obtain ⟨r, hr⟩ := hsome rfl
    have hr : h₁.mAvbReceiveEngine = some r := hr
    have hindex : h.receiveStreams streamId = r.engine.index streamId := by
      rw [← hsame.receive]
      unfold receiveStreams
      rw [hr]
      rfl
    rw [hr]
    dsimp only
    have hcases := IasAvbReceiver.createReceiveStream_cases r streamId destMacAddr o
    generalize r.createReceiveStream streamId destMacAddr o = created at hcases ⊢
    cases hcases with
    | refused r' result herror hreason hindex' hrunning =>
        refine .refused _ _ herror (fun _ hgoes => hreason ?_)
          (hsame.setReceive hr hindex' hrunning) hlocals
        exact ⟨hindex ▸ hgoes.2.2.1, hgoes.2.2.2⟩
    | created r' hgoes hindex' hrunning =>
        have hfree : h.receiveStreams streamId = none := hindex.trans hgoes.1
        refine .created _ (fun hinit => ⟨hinit, hok.mp rfl, hfree, hgoes.2⟩) hfree
          ⟨?_, ?_, hsame.domains, hnext⟩ hlocals
        · show h₁.locals.initialized = h.locals.initialized
          rw [show h₁.locals = h.locals from hlocals]
        · show r'.engine.index streamId ≠ none
          rw [hindex', Function.update_self]
          exact nofun
  · rename_i h₁ result hne heq
    rw [heq] at hsame hok hlocals
    refine .refused _ _ (fun h => hne h) (fun _ hgoes => hne ?_) hsame hlocals
    exact hok.mpr hgoes.2.1

/-! ### Clock recovery -/

theorem mapResultCode_ok {result : IasAvbProcessingResult} :
    mapResultCode result = .eIasAvbResultOk ↔ result = eIasAvbProcOK := by
  cases result <;> exact ⟨fun h => by cases h <;> rfl, fun h => by cases h <;> rfl⟩

/-- The id a derived clock domain gets. -/
def derivedId (h : IasAvbStreamHandler) (clockId : UInt32) : UInt32 :=
  if clockId = 0 then h.nextClockDomainId else clockId

/-- When a clock domain can be derived from a stream that is there. -/
def DeriveOk (h : IasAvbStreamHandler) (clockId : UInt32) (o : RecoveryOutcome) : Prop :=
  (clockId ≠ 0 → h.mAvbClockDomains.lookup clockId = none) ∧ h.derivedId clockId ≠ 0
    ∧ o.domainMemory = true ∧ o.hookClockDomain = eIasAvbProcOK

/-- When a clock can be recovered from the derived one. -/
def RecoverOk (c : HandlerConfig) (h : IasAvbStreamHandler) (clockId : UInt32)
    (o : RecoveryOutcome) : Prop :=
  (slaveClockId c = h.derivedId clockId ∨ h.mAvbClockDomains.lookup (slaveClockId c) ≠ none)
    ∧ o.controllerMemory = true ∧ o.controllerInit = eIasAvbProcOK

/-- What `deriveClockDomainFromRxStream` leaves. -/
structure DeriveDone (h : IasAvbStreamHandler) (streamId : Nat) (clockId : UInt32)
    (o : RecoveryOutcome) (d : Derived) : Prop where
  ok : d.result = .eIasAvbResultOk ↔ h.DeriveOk clockId o
  locals : d.handler.locals = h.locals
  streams : d.handler.receiveStreams = h.receiveStreams
  id : d.result = .eIasAvbResultOk → d.clockId = h.derivedId clockId
  domains : d.result = .eIasAvbResultOk → d.handler.mAvbClockDomains
    = h.mAvbClockDomains.insert (h.derivedId clockId) (.rxStream streamId)

theorem derive_done (hinit : h.isInitialized = true) (hstream : h.receiveStreams streamId ≠ none)
    (clockId : UInt32) (o : RecoveryOutcome) :
    DeriveDone h streamId clockId o (h.deriveClockDomainFromRxStream streamId clockId o) := by
  unfold deriveClockDomainFromRxStream
  rw [if_neg (by rw [hinit]; exact nofun)]
  split
  · rename_i hused
    refine ⟨iff_of_false nofun fun h => ?_, rfl, rfl, nofun, nofun⟩
    rw [h.1 hused.1] at hused
    exact nomatch hused.2
  rename_i hfree
  have hlookup : clockId ≠ 0 → h.mAvbClockDomains.lookup clockId = none := by
    intro hne
    simpa [hne] using hfree
  dsimp only
  -- the id is chosen, or it is the one that was asked for
  have hchosen : ∃ h₁ : IasAvbStreamHandler,
      (if clockId = 0 then { h with mNextClockDomainId := h.nextClockDomainId } else h) = h₁
        ∧ (if clockId = 0 then h₁.mNextClockDomainId else clockId) = h.derivedId clockId
        ∧ h₁.locals = h.locals ∧ h₁.mAvbReceiveEngine = h.mAvbReceiveEngine
        ∧ h₁.mAvbClockDomains = h.mAvbClockDomains := by
    unfold derivedId
    by_cases hzero : clockId = 0
    · refine ⟨_, rfl, ?_, ?_⟩ <;> simp [hzero]
    · refine ⟨_, rfl, ?_, ?_⟩ <;> simp [hzero]
  obtain ⟨h₁, hh₁, hid, hlocals, hreceive, hdomains⟩ := hchosen
  have hstreams : h₁.receiveStreams = h.receiveStreams := by
    unfold receiveStreams
    rw [hreceive]
  rw [hh₁, hid]
  split
  · rename_i hzero
    exact ⟨iff_of_false nofun fun h => h.2.1 hzero, hlocals, hstreams, nofun, nofun⟩
  rename_i hne
  split
  · rename_i hnone
    have hnone : h₁.receiveStreams streamId = none := Option.isNone_iff_eq_none.mp hnone
    exact absurd (hstreams ▸ hnone) hstream
  split
  · rename_i hmem
    refine ⟨iff_of_false nofun fun h => ?_, hlocals, hstreams, nofun, nofun⟩
    exact nomatch hmem.symm.trans h.2.2.1
  rename_i hmem
  split
  · rename_i hhook
    have herror : mapResultCode o.hookClockDomain ≠ .eIasAvbResultOk :=
      fun h => hhook (mapResultCode_ok.mp h)
    exact ⟨iff_of_false herror fun h => hhook h.2.2.2, hlocals, hstreams,
      fun h => absurd h herror, fun h => absurd h herror⟩
  · rename_i hhook
    refine ⟨iff_of_true rfl ⟨hlookup, hne, by simpa using hmem, not_not.mp hhook⟩, hlocals,
      hstreams, fun _ => rfl, fun _ => ?_⟩
    show h₁.mAvbClockDomains.insert _ _ = _
    rw [hdomains]

/-- The recovery, once the clock domain is derived. -/
theorem setClockRecoveryParams_done {d : Derived} {clockId : UInt32} {o : RecoveryOutcome}
    (hinit : h.isInitialized = true) (hd : DeriveDone h streamId clockId o d)
    (hok : d.result = .eIasAvbResultOk) :
    ((d.handler.setClockRecoveryParams d.clockId (slaveClockId c) o).2 = .eIasAvbResultOk
        ↔ RecoverOk c h clockId o)
      ∧ (d.handler.setClockRecoveryParams d.clockId (slaveClockId c) o).1.receiveStreams
        = h.receiveStreams
      ∧ (d.handler.setClockRecoveryParams d.clockId (slaveClockId c) o).1.locals = h.locals := by
  have hdinit : d.handler.isInitialized = true := by
    unfold isInitialized
    rw [hd.locals]
    exact hinit
  -- the derived domain is filed, so only the slave's may be missing
  have hmaster : (d.handler.mAvbClockDomains.lookup d.clockId).isNone = false := by
    rw [hd.domains hok, hd.id hok, AList.lookup_insert]
    rfl
  have hslave : (d.handler.mAvbClockDomains.lookup (slaveClockId c)).isNone = false
      ↔ (slaveClockId c = h.derivedId clockId
        ∨ h.mAvbClockDomains.lookup (slaveClockId c) ≠ none) := by
    rw [hd.domains hok]
    by_cases hsame : slaveClockId c = h.derivedId clockId
    · rw [hsame, AList.lookup_insert]
      exact iff_of_true rfl (.inl rfl)
    · rw [AList.lookup_insert_ne hsame]
      cases h.mAvbClockDomains.lookup (slaveClockId c) <;> simp [hsame]
  unfold setClockRecoveryParams
  rw [if_neg (by rw [hdinit]; exact nofun)]
  -- the ways in which the recovery is refused, one after the other
  split
  · rename_i hnone
    refine ⟨iff_of_false nofun fun h => ?_, hd.streams, hd.locals⟩
    rcases hnone with hnone | hnone
    · exact nomatch hmaster.symm.trans hnone
    · exact nomatch (hslave.mpr h.1).symm.trans hnone
  rename_i hthere
  have hthere := hslave.mp (Bool.eq_false_iff.mpr fun h => hthere (.inr h))
  split
  · rename_i hmem
    refine ⟨iff_of_false nofun fun h => ?_, hd.streams, hd.locals⟩
    exact nomatch hmem.symm.trans h.2.1
  rename_i hmem
  split
  · rename_i hctrl
    exact ⟨iff_of_false nofun fun h => hctrl h.2.2, hd.streams, hd.locals⟩
  · rename_i hctrl
    exact ⟨iff_of_true rfl ⟨hthere, by simpa using hmem, not_not.mp hctrl⟩, hd.streams, hd.locals⟩

/-- A new stream leaves the clock domains alone. -/
theorem NewStream.deriveOk (hn : NewStream h streamId h') (clockId : UInt32)
    (o : RecoveryOutcome) : (h'.DeriveOk clockId o ↔ h.DeriveOk clockId o)
      ∧ (RecoverOk c h' clockId o ↔ RecoverOk c h clockId o) := by
  have hid : h'.derivedId clockId = h.derivedId clockId := by
    unfold derivedId nextClockDomainId
    rw [hn.domains, hn.next]
  unfold DeriveOk RecoverOk
  rw [hid, hn.domains]
  exact ⟨Iff.rfl, Iff.rfl⟩

/-- A stream that is there and was not: something has changed. -/
theorem not_unchanged (hfree : h.receiveStreams streamId = none)
    (hfiled : h'.receiveStreams streamId ≠ none) : ¬ Unchanged h h' :=
  fun hu => hfiled (hu.receive ▸ hfree)

/-- The clock recovery of a new audio stream works out, if one is asked for. -/
def AudioRecoveryOk (c : HandlerConfig) (h : IasAvbStreamHandler) (streamId : Nat)
    (o : RecoveryOutcome) : Prop :=
  c.clkRecoverFrom = some streamId → h.DeriveOk 0 o ∧ RecoverOk c h 0 o

/-- The clock domain of a new clock reference stream is derived, and the clock recovery works
out, if one is asked for. -/
def ReferenceRecoveryOk (c : HandlerConfig) (h : IasAvbStreamHandler) (streamId : Nat)
    (clockId : UInt32) (o : RecoveryOutcome) : Prop :=
  h.DeriveOk clockId o ∧ (c.clkRecoverFrom = some streamId → RecoverOk c h clockId o)

theorem recoverFromAudio_done (hinit : h.isInitialized = true)
    (hstream : h.receiveStreams streamId ≠ none) (o : RecoveryOutcome) :
    ((recoverFromAudio c h streamId o).2 = eIasAvbProcOK ↔ AudioRecoveryOk c h streamId o)
      ∧ (recoverFromAudio c h streamId o).1.receiveStreams = h.receiveStreams
      ∧ (recoverFromAudio c h streamId o).1.locals = h.locals := by
  unfold recoverFromAudio AudioRecoveryOk
  split
  · rename_i hmatch
    have hd := derive_done hinit hstream 0 o
    dsimp only
    split
    · rename_i hok
      obtain ⟨hiff, hstreams, hlocals⟩ := setClockRecoveryParams_done (c := c) hinit hd hok
      refine ⟨?_, hstreams, hlocals⟩
      constructor
      · intro hresult _
        refine ⟨hd.ok.mp hok, hiff.mp ?_⟩
        split at hresult
        · assumption
        · exact nomatch hresult
      · intro hrecovery
        rw [if_pos (hiff.mpr (hrecovery hmatch).2)]
    · rename_i hfail
      exact ⟨iff_of_false nofun fun h => hfail (hd.ok.mpr (h hmatch).1), hd.streams, hd.locals⟩
  · rename_i hother
    exact ⟨iff_of_true rfl fun h => absurd h hother, rfl, rfl⟩

theorem recoverFromReference_done (hinit : h.isInitialized = true)
    (hstream : h.receiveStreams streamId ≠ none) (clockId : UInt32) (o : RecoveryOutcome) :
    ((recoverFromReference c h streamId clockId o).2 = .eIasAvbResultOk
        ↔ ReferenceRecoveryOk c h streamId clockId o)
      ∧ (recoverFromReference c h streamId clockId o).1.receiveStreams = h.receiveStreams
      ∧ (recoverFromReference c h streamId clockId o).1.locals = h.locals := by
  have hd := derive_done hinit hstream clockId o
  unfold recoverFromReference ReferenceRecoveryOk
  dsimp only
  split
  · rename_i hgo
    obtain ⟨hiff, hstreams, hlocals⟩ := setClockRecoveryParams_done (c := c) hinit hd hgo.1
    refine ⟨hiff.trans ?_, hstreams, hlocals⟩
    exact ⟨fun h => ⟨hd.ok.mp hgo.1, fun _ => h⟩, fun h => h.2 hgo.2⟩
  · rename_i hstay
    refine ⟨hd.ok.trans ?_, hd.streams, hd.locals⟩
    refine ⟨fun h => ⟨h, fun hmatch => absurd ⟨hd.ok.mpr h, hmatch⟩ hstay⟩, fun h => h.1⟩

/-! ### The calls that create a receive stream -/

/-- **A receive audio stream**: an error leaves all as it was, unless the stream was created and
its clock recovery does not work out. -/
theorem createReceiveAudioStream_iff (c : HandlerConfig) (h : IasAvbStreamHandler)
    (maxNumberChannels : UInt16) (streamId : Nat) (destMacAddr : IasAvbMacAddress)
    (engine : EngineOutcome) (o : ReceiveOutcome) (recovery : RecoveryOutcome) :
    (((createReceiveAudioStream c h maxNumberChannels streamId destMacAddr engine o
          recovery).result ≠ .eIasAvbResultOk →
        Unchanged h (createReceiveAudioStream c h maxNumberChannels streamId destMacAddr engine o
          recovery).handler)
      ↔ (maxNumberChannels ≤ cIasAvbMaxNumChannels → h.StreamCreated streamId engine o →
          AudioRecoveryOk c h streamId recovery))
      ∧ (createReceiveAudioStream c h maxNumberChannels streamId destMacAddr engine o
          recovery).handler.locals = h.locals := by
  unfold createReceiveAudioStream
  dsimp only
  rw [Ne, mapResultCode_ok]
  by_cases hinit : h.isInitialized = false
  · rw [if_pos hinit, if_neg nofun]
    refine ⟨iff_of_true (fun _ => .refl h) fun _ hgoes => ?_, rfl⟩
    exact nomatch hinit.symm.trans hgoes.1
  by_cases hmax : cIasAvbMaxNumChannels < maxNumberChannels
  · rw [if_neg hinit, if_pos hmax, if_neg nofun]
    exact ⟨iff_of_true (fun _ => .refl h) fun hle => absurd hmax (UInt16.not_lt.mpr hle), rfl⟩
  rw [if_neg hinit, if_neg hmax]
  have hinit : h.isInitialized = true := by simpa using hinit
  have hcases := createReceived_cases h streamId destMacAddr engine o
  generalize h.createReceived streamId destMacAddr engine o = created at hcases ⊢
  cases hcases with
  | refused h' result herror hreason hsame hlocals =>
      rw [if_neg herror]
      exact ⟨iff_of_true (fun _ => hsame) fun _ hgoes => absurd hgoes (hreason hinit), hlocals⟩
  | created h' hgoes hfree hnew hlocals =>
      rw [if_pos rfl]
      obtain ⟨hiff, hstreams, hlocals'⟩ := recoverFromAudio_done (c := c)
        (hnew.initialized.trans hinit) hnew.filed recovery
      have hsame : AudioRecoveryOk c h' streamId recovery ↔ AudioRecoveryOk c h streamId recovery :=
        imp_congr_right fun _ => and_congr (hnew.deriveOk (c := c) 0 recovery).1
          (hnew.deriveOk 0 recovery).2
      refine ⟨?_, hlocals'.trans hlocals⟩
      constructor
      · -- an error behind the created stream leaves the stream there
        intro hgood _ _
        by_contra hbad
        refine not_unchanged hfree ?_ (hgood fun hok => hbad (hsame.mp (hiff.mp hok)))
        rw [hstreams]
        exact hnew.filed
      · intro hok hne
        exact absurd (hiff.mpr (hsame.mpr (hok (UInt16.not_lt.mp hmax) (hgoes hinit)))) hne

/-- **A receive video stream**: an error leaves all as it was. -/
theorem createReceiveVideoStream_unchanged (h : IasAvbStreamHandler) (streamId : Nat)
    (destMacAddr : IasAvbMacAddress) (engine : EngineOutcome) (o : ReceiveOutcome) :
    ((h.createReceiveVideoStream streamId destMacAddr engine o).result ≠ .eIasAvbResultOk →
        Unchanged h (h.createReceiveVideoStream streamId destMacAddr engine o).handler)
      ∧ (h.createReceiveVideoStream streamId destMacAddr engine o).handler.locals = h.locals := by
  unfold createReceiveVideoStream
  dsimp only
  rw [Ne, mapResultCode_ok]
  split
  · exact ⟨fun _ => .refl h, rfl⟩
  · have hcases := createReceived_cases h streamId destMacAddr engine o
    generalize h.createReceived streamId destMacAddr engine o = created at hcases ⊢
    cases hcases with
    | refused h' result _ _ hsame hlocals => exact ⟨fun _ => hsame, hlocals⟩
    | created h' _ _ _ hlocals => exact ⟨fun hne => absurd rfl hne, hlocals⟩

/-- **A receive clock reference stream**: an error leaves all as it was, unless the stream was
created and its clock domain or the clock recovery does not work out. -/
theorem createReceiveClockReferenceStream_iff (c : HandlerConfig) (h : IasAvbStreamHandler)
    (streamId : Nat) (destMacAddr : IasAvbMacAddress) (clockId : UInt32) (engine : EngineOutcome)
    (o : ReceiveOutcome) (recovery : RecoveryOutcome) :
    (((createReceiveClockReferenceStream c h streamId destMacAddr clockId engine o
          recovery).result ≠ .eIasAvbResultOk →
        Unchanged h (createReceiveClockReferenceStream c h streamId destMacAddr clockId engine o
          recovery).handler)
      ↔ (h.StreamCreated streamId engine o →
          ReferenceRecoveryOk c h streamId clockId recovery))
      ∧ (createReceiveClockReferenceStream c h streamId destMacAddr clockId engine o
          recovery).handler.locals = h.locals := by
  unfold createReceiveClockReferenceStream
  dsimp only
  by_cases hinit : h.isInitialized = false
  · rw [if_pos hinit, if_neg nofun]
    refine ⟨iff_of_true (fun _ => .refl h) fun hgoes => ?_, rfl⟩
    exact nomatch hinit.symm.trans hgoes.1
  rw [if_neg hinit]
  have hinit : h.isInitialized = true := by simpa using hinit
  have hcases := createReceived_cases h streamId destMacAddr engine o
  generalize h.createReceived streamId destMacAddr engine o = created at hcases ⊢
  cases hcases with
  | refused h' result herror hreason hsame hlocals =>
      rw [if_neg fun hok => herror (mapResultCode_ok.mp hok)]
      exact ⟨iff_of_true (fun _ => hsame) fun hgoes => absurd hgoes (hreason hinit), hlocals⟩
  | created h' hgoes hfree hnew hlocals =>
      have hok : mapResultCode (h', eIasAvbProcOK).2 = .eIasAvbResultOk := rfl
      rw [if_pos hok]
      obtain ⟨hiff, hstreams, hlocals'⟩ := recoverFromReference_done (c := c)
        (hnew.initialized.trans hinit) hnew.filed clockId recovery
      have hsame : ReferenceRecoveryOk c h' streamId clockId recovery
          ↔ ReferenceRecoveryOk c h streamId clockId recovery :=
        and_congr (hnew.deriveOk (c := c) clockId recovery).1
          (imp_congr_right fun _ => (hnew.deriveOk clockId recovery).2)
      refine ⟨?_, hlocals'.trans hlocals⟩
      constructor
      · intro hgood _
        by_contra hbad
        refine not_unchanged hfree ?_ (hgood fun hok => hbad (hsame.mp (hiff.mp hok)))
        rw [hstreams]
        exact hnew.filed
      · intro hok hne
        exact absurd (hiff.mpr (hsame.mpr (hok (hgoes hinit)))) hne

/-! ### Transmit streams -/

/-- **A transmit stream**: an error leaves all as it was. A stream that cannot be activated is
destroyed. -/
theorem createTransmitStream_unchanged (h : IasAvbStreamHandler) (check : IasAvbProcessingResult)
    (q : TransmitRequest) (engine : EngineOutcome) (o : TransmitOutcome)
    (herror : (h.createTransmitStream check q engine o).2 ≠ eIasAvbProcOK) :
    Unchanged h (h.createTransmitStream check q engine o).1 := by
  revert herror
  unfold createTransmitStream
  split
  · exact fun _ => .refl h
  split
  · exact fun _ => .refl h
  have hengine := createTransmitEngine_unchanged h engine
  split
  swap
  · rename_i h₁ result hne heq
    rw [heq] at hengine
    exact fun _ => hengine
  rename_i h₁ heq
  rw [heq] at hengine
  have hengine : Unchanged h h₁ := hengine
  unfold createTransmitted
  by_cases hclock : (h₁.mAvbClockDomains.lookup q.clockId).isNone
  · rw [if_pos hclock]
    exact fun _ => hengine
  rw [if_neg hclock]
  by_cases hmode : q.assignMode ≠ .eIasAvbIdAssignModeStatic
  · rw [if_pos hmode]
    exact fun _ => hengine
  rw [if_neg hmode]
  cases he : h₁.mAvbTransmitEngine with
  | none => exact fun _ => hengine
  | some e =>
      dsimp only
      have hspec := @IasAvbTransmitEngine.createTransmitStream_spec e q.streamId q.srClass o
      generalize e.createTransmitStream q.streamId q.srClass o = created at hspec ⊢
      obtain ⟨e₁, result⟩ := created
      obtain ⟨hrunning, hrefused, hcreated⟩ := hspec
      by_cases hresult : result = eIasAvbProcOK
      swap
      · have hsame : Unchanged h (h₁.setTransmit e₁) :=
          hengine.setTransmit he (fun id => by rw [hrefused hresult]) hrunning
        split
        · rename_i heq
          exact absurd (Prod.mk.inj heq).2 hresult
        · rename_i heq
          obtain ⟨rfl, rfl⟩ := Prod.mk.inj heq
          exact fun _ => hsame
      subst hresult
      obtain ⟨hfree, hfiled⟩ := hcreated rfl
      dsimp only
      split
      swap
      · exact fun h => absurd rfl h
      -- the new stream is taken out again
      have herase : ∀ id, (e₁.mAvbStreams.erase q.streamId).lookup id
          = e.mAvbStreams.lookup id := by
        intro id
        have hfiled : e₁.mAvbStreams = e.mAvbStreams.insert q.streamId { srClass := q.srClass } :=
          hfiled
        by_cases hid : id = q.streamId
        · rw [hid, AList.lookup_erase, hfree]
        · rw [AList.lookup_erase_ne hid, hfiled, AList.lookup_insert_ne hid]
      have hinactive : e₁.mAvbStreams.lookup q.streamId = some { srClass := q.srClass } := by
        rw [show e₁.mAvbStreams = _ from hfiled]
        exact AList.lookup_insert _
      have hfailed := @IasAvbTransmitEngine.activate_failed e₁ q.streamId o.addition
      unfold activateCreated
      rw [show (h₁.setTransmit e₁).mAvbTransmitEngine = some e₁ from rfl]
      dsimp only
      split
      · exact fun h => absurd rfl h
      · rename_i e₂ result hne heq
        intro _
        rw [heq] at hfailed
        obtain rfl : e₂ = e₁ := hfailed hne
        show Unchanged h (h₁.setTransmit (e₂.destroyAvbStream q.streamId eIasAvbProcOK).1)
        rw [IasAvbTransmitEngine.destroy_inactive hinactive rfl]
        exact hengine.setTransmit he herase ⟨hrunning.running, hrunning.sequencers⟩

theorem createTransmitEngine_locals (h : IasAvbStreamHandler) (o : EngineOutcome) :
    (h.createTransmitEngine o).1.locals = h.locals := by
  unfold createTransmitEngine
  split
  · rfl
  · split
    · rfl
    split
    · rfl
    split <;> rfl

theorem createTransmitStream_locals (h : IasAvbStreamHandler) (check : IasAvbProcessingResult)
    (q : TransmitRequest) (engine : EngineOutcome) (o : TransmitOutcome) :
    (h.createTransmitStream check q engine o).1.locals = h.locals := by
  have hengine := createTransmitEngine_locals h engine
  have htransmitted : ∀ h₁ : IasAvbStreamHandler, (h₁.createTransmitted q o).1.locals = h₁.locals := by
    intro h₁
    unfold createTransmitted
    split
    · rfl
    split
    · rfl
    split <;> rfl
  have hactivated : ∀ h₁ : IasAvbStreamHandler, (h₁.activateCreated q o).1.locals = h₁.locals := by
    intro h₁
    unfold activateCreated
    split
    · rfl
    split <;> rfl
  unfold createTransmitStream
  split
  · rfl
  split
  · rfl
  split
  · rename_i h₁ heq
    rw [heq] at hengine
    have hlocals := htransmitted h₁
    split
    · rename_i h₂ heq₂
      rw [heq₂] at hlocals
      split
      · exact (hactivated h₂).trans (hlocals.trans hengine)
      · exact hlocals.trans hengine
    · rename_i heq₂
      rw [heq₂] at hlocals
      exact hlocals.trans hengine
  · rename_i heq
    rw [heq] at hengine
    exact hengine

end IasAvbStreamHandler

end AvbStreamHandler
