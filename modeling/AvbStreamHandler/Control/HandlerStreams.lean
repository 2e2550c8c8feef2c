import AvbStreamHandler.Control.StreamHandlerRuns

/-!
# The streams of a handler

A stream to be received is known by its id, one to be sent by its id, its class and whether it is
active, and a local one by its id. A call that creates a stream takes none away, whether it
succeeds or not, and adds at most the one that it names.
-/

namespace AvbStreamHandler

open Kit Kit.Run IasAvbProcessingResult

inductive StreamName
  | receive (streamId : Nat)
  | transmit (streamId : Nat) (stream : TransmitStream)
  | ofLocal (streamId : UInt16)

/-- The stream that a call for a transmit stream is to leave. -/
def TransmitRequest.stream (q : TransmitRequest) : TransmitStream where
  srClass := q.srClass
  active := q.active

namespace IasAvbStreamHandler

variable {c : HandlerConfig} {h h' h'' : IasAvbStreamHandler} {streamId : Nat}

/-- The stream is there. -/
def Has (h : IasAvbStreamHandler) : StreamName → Prop
  | .receive streamId => h.receiveStreams streamId ≠ none
  | .transmit streamId stream => h.transmitStreams streamId = some stream
  | .ofLocal streamId => ∃ kind, h.locals.index (kind, streamId) ≠ none

/-- **What a call that creates a stream may do**: it keeps all streams, and if it succeeds there is
one that it names, and no other that is new. -/
structure Extends (h h' : IasAvbStreamHandler) (ok : Prop) (names : StreamName → Prop) :
    Prop where
  kept : ∀ x, h.Has x → h'.Has x
  there : ok → ∃ x, names x ∧ h'.Has x
  only : ok → ∀ x, h'.Has x → h.Has x ∨ names x

/-- The parts of a handler that have streams are what they were. -/
structure SameStreams (h h' : IasAvbStreamHandler) : Prop where
  receive : h'.receiveStreams = h.receiveStreams
  transmit : h'.transmitStreams = h.transmitStreams
  locals : h'.locals.index = h.locals.index

theorem SameStreams.refl (h : IasAvbStreamHandler) : SameStreams h h := ⟨rfl, rfl, rfl⟩

theorem SameStreams.trans (h₁ : SameStreams h h') (h₂ : SameStreams h' h'') : SameStreams h h'' :=
  ⟨h₂.receive.trans h₁.receive, h₂.transmit.trans h₁.transmit, h₂.locals.trans h₁.locals⟩

theorem SameStreams.has (hs : SameStreams h h') (x : StreamName) : h'.Has x ↔ h.Has x := by
  cases x with
  | receive streamId => exact iff_of_eq (congrArg (· ≠ none) (congrFun hs.receive streamId))
  | transmit streamId s => exact iff_of_eq (congrArg (· = some s) (congrFun hs.transmit streamId))
  | ofLocal streamId =>
      unfold Has
      rw [hs.locals]

theorem Unchanged.sameStreams (hu : Unchanged h h') : SameStreams h h' :=
  ⟨hu.receive, hu.transmit, hu.locals⟩

theorem Extends.refused {ok : Prop} {names : StreamName → Prop} (hs : SameStreams h h')
    (hfailed : ¬ ok) : Extends h h' ok names :=
  ⟨fun x hx => (hs.has x).mpr hx, fun hok => absurd hok hfailed, fun hok => absurd hok hfailed⟩

/-- **One stream more**, and all others are what they were. -/
theorem Extends.added {ok : Prop} {names : StreamName → Prop} {new : StreamName}
    (hnames : names new) (hnew : h'.Has new) (hother : ∀ x, x ≠ new → (h'.Has x ↔ h.Has x)) :
    Extends h h' ok names where
  kept := by
    intro x hx
    by_cases hsame : x = new
    · exact hsame ▸ hnew
    · exact (hother x hsame).mpr hx
  there := fun _ => ⟨new, hnames, hnew⟩
  only := by
    intro _ x hx
    by_cases hsame : x = new
    · exact .inr (hsame ▸ hnames)
    · exact .inl ((hother x hsame).mp hx)

/-- What follows the creation leaves the streams alone. -/
theorem Extends.andThen {ok ok' : Prop} {names : StreamName → Prop} (he : Extends h h' ok names)
    (hs : SameStreams h' h'') (hok : ok' → ok) : Extends h h'' ok' names where
  kept := fun x hx => (hs.has x).mpr (he.kept x hx)
  there := by
    intro hsuccess
    obtain ⟨x, hnamed, hx⟩ := he.there (hok hsuccess)
    exact ⟨x, hnamed, (hs.has x).mpr hx⟩
  only := fun hsuccess x hx => he.only (hok hsuccess) x ((hs.has x).mp hx)

/-! ## Receive streams -/

theorem derive_sameStreams (h : IasAvbStreamHandler) (rxStreamId : Nat) (clockId : UInt32)
    (o : RecoveryOutcome) :
    SameStreams h (h.deriveClockDomainFromRxStream rxStreamId clockId o).handler := by
  unfold deriveClockDomainFromRxStream
  by_cases hzero : clockId = 0
  · simp only [if_pos hzero]
    repeat' split
    all_goals exact ⟨rfl, rfl, rfl⟩
  · simp only [if_neg hzero]
    repeat' split
    all_goals exact ⟨rfl, rfl, rfl⟩

theorem recovery_sameStreams (h : IasAvbStreamHandler) (masterClockId slaveClockId : UInt32)
    (o : RecoveryOutcome) :
    SameStreams h (h.setClockRecoveryParams masterClockId slaveClockId o).1 := by
  unfold setClockRecoveryParams
  repeat' split
  all_goals exact ⟨rfl, rfl, rfl⟩

theorem recoverFromAudio_sameStreams (h : IasAvbStreamHandler) (streamId : Nat)
    (o : RecoveryOutcome) : SameStreams h (recoverFromAudio c h streamId o).1 := by
  have hderive := derive_sameStreams h streamId 0 o
  unfold recoverFromAudio
  split
  · dsimp only
    split
    · exact hderive.trans (recovery_sameStreams _ _ _ o)
    · exact hderive
  · exact .refl h

theorem recoverFromReference_sameStreams (h : IasAvbStreamHandler) (streamId : Nat)
    (clockId : UInt32) (o : RecoveryOutcome) :
    SameStreams h (recoverFromReference c h streamId clockId o).1 := by
  have hderive := derive_sameStreams h streamId clockId o
  unfold recoverFromReference
  dsimp only
  split
  · exact hderive.trans (recovery_sameStreams _ _ _ o)
  · exact hderive

/-- **The engine's part** of a call that creates a receive stream. -/
theorem createReceived_extends (h : IasAvbStreamHandler) (streamId : Nat)
    (destMacAddr : IasAvbMacAddress) (engine : EngineOutcome) (o : ReceiveOutcome) :
    Extends h (h.createReceived streamId destMacAddr engine o).1
      ((h.createReceived streamId destMacAddr engine o).2 = eIasAvbProcOK)
      fun x => x = .receive streamId := by
  have hengine := (createReceiveEngine_unchanged h engine).sameStreams
  have hsome := @createReceiveEngine_some h engine
  unfold createReceived
  split
  swap
  · -- there is no engine, and no stream either
    rename_i h₁ result hne heq
    rw [heq] at hengine
    exact .refused hengine hne
  rename_i h₁ heq
  rw [heq] at hengine hsome
  obtain ⟨r, hr⟩ := hsome rfl
  have hr : h₁.mAvbReceiveEngine = some r := hr
  have hstreams : h₁.receiveStreams = r.engine.index := by
    unfold receiveStreams
    rw [hr]
    rfl
  rw [hr]
  dsimp only
  have hcases := IasAvbReceiver.createReceiveStream_cases r streamId destMacAddr o
  generalize r.createReceiveStream streamId destMacAddr o = created at hcases ⊢
  cases hcases with
  | refused r' result herror hreason hindex hrunning =>
      refine .refused (hengine.trans ⟨?_, rfl, rfl⟩) herror
      exact hindex.trans hstreams.symm
  | created r' hgoes hindex hrunning =>
      have hfiled : (h₁.setReceive r').receiveStreams
          = Function.update h₁.receiveStreams streamId (some r.engine.allocated) := by
        rw [hstreams]
        exact hindex
      have hnew : (h₁.setReceive r').Has (.receive streamId) := by
        show (h₁.setReceive r').receiveStreams streamId ≠ none
        rw [hfiled, Function.update_self]
        exact nofun
      have hother : ∀ x, x ≠ .receive streamId → ((h₁.setReceive r').Has x ↔ h₁.Has x) := by
        intro x hx
        cases x with
        | receive id =>
            have hid : id ≠ streamId := fun heq => hx (heq ▸ rfl)
            show (h₁.setReceive r').receiveStreams id ≠ none ↔ _
            rw [hfiled, Function.update_of_ne hid]
            exact Iff.rfl
        | transmit id s => exact Iff.rfl
        | ofLocal id => exact Iff.rfl
      exact .added rfl hnew fun x hx => (hother x hx).trans (hengine.has x)

theorem createReceiveAudioStream_extends (c : HandlerConfig) (h : IasAvbStreamHandler)
    (maxNumberChannels : UInt16) (streamId : Nat) (destMacAddr : IasAvbMacAddress)
    (engine : EngineOutcome) (o : ReceiveOutcome) (recovery : RecoveryOutcome) :
    Extends h (createReceiveAudioStream c h maxNumberChannels streamId destMacAddr engine o
        recovery).handler
      ((createReceiveAudioStream c h maxNumberChannels streamId destMacAddr engine o
        recovery).result = .eIasAvbResultOk) fun x => x = .receive streamId := by
  have hreceived := createReceived_extends h streamId destMacAddr engine o
  unfold createReceiveAudioStream
  dsimp only
  rw [mapResultCode_ok]
  by_cases hinit : h.isInitialized = false
  · rw [if_pos hinit, if_neg nofun]
    exact .refused (.refl h) nofun
  by_cases hmax : cIasAvbMaxNumChannels < maxNumberChannels
  · rw [if_neg hinit, if_pos hmax, if_neg nofun]
    exact .refused (.refl h) nofun
  rw [if_neg hinit, if_neg hmax]
  split
  · rename_i hok
    exact hreceived.andThen (recoverFromAudio_sameStreams _ streamId recovery) fun _ => hok
  · exact hreceived

theorem createReceiveVideoStream_extends (h : IasAvbStreamHandler) (streamId : Nat)
    (destMacAddr : IasAvbMacAddress) (engine : EngineOutcome) (o : ReceiveOutcome) :
    Extends h (h.createReceiveVideoStream streamId destMacAddr engine o).handler
      ((h.createReceiveVideoStream streamId destMacAddr engine o).result = .eIasAvbResultOk)
      fun x => x = .receive streamId := by
  have hreceived := createReceived_extends h streamId destMacAddr engine o
  unfold createReceiveVideoStream
  dsimp only
  rw [mapResultCode_ok]
  split
  · exact .refused (.refl h) nofun
  · exact hreceived

theorem createReceiveClockReferenceStream_extends (c : HandlerConfig) (h : IasAvbStreamHandler)
    (streamId : Nat) (destMacAddr : IasAvbMacAddress) (clockId : UInt32) (engine : EngineOutcome)
    (o : ReceiveOutcome) (recovery : RecoveryOutcome) :
    Extends h (createReceiveClockReferenceStream c h streamId destMacAddr clockId engine o
        recovery).handler
      ((createReceiveClockReferenceStream c h streamId destMacAddr clockId engine o
        recovery).result = .eIasAvbResultOk) fun x => x = .receive streamId := by
  have hreceived := createReceived_extends h streamId destMacAddr engine o
  unfold createReceiveClockReferenceStream
  dsimp only
  by_cases hinit : h.isInitialized = false
  · rw [if_pos hinit, if_neg nofun]
    exact .refused (.refl h) nofun
  rw [if_neg hinit]
  split
  · rename_i hok
    exact hreceived.andThen (recoverFromReference_sameStreams _ streamId clockId recovery)
      fun _ => mapResultCode_ok.mp hok
  · rename_i hne
    exact hreceived.andThen (.refl _) fun hok => absurd hok hne

/-! ## Transmit streams -/

/-- **The map of the engine**, after a call that has succeeded. -/
structure Transmits (h : IasAvbStreamHandler) (q : TransmitRequest) (h' : IasAvbStreamHandler) :
    Prop where
  free : h.transmitStreams q.streamId = none
  filed : h'.transmitStreams
    = Function.update h.transmitStreams q.streamId (some q.stream)
  receive : h'.receiveStreams = h.receiveStreams

theorem transmitStreams_setTransmit {e : IasAvbTransmitEngine} :
    (h.setTransmit e).transmitStreams = fun id => e.mAvbStreams.lookup id := rfl

theorem transmitStreams_of_some {e : IasAvbTransmitEngine} (he : h.mAvbTransmitEngine = some e) :
    h.transmitStreams = fun id => e.mAvbStreams.lookup id := by
  unfold transmitStreams
  rw [he]
  rfl

/-- One more stream in the map of the engine. -/
theorem lookup_insert_eq (m : AList fun _ : Nat => TransmitStream) (streamId : Nat)
    (s : TransmitStream) :
    (fun id => (m.insert streamId s).lookup id)
      = Function.update (fun id => m.lookup id) streamId (some s) := by
  funext id
  by_cases hid : id = streamId
  · rw [hid, AList.lookup_insert, Function.update_self]
  · rw [AList.lookup_insert_ne hid, Function.update_of_ne hid]

/-- A stream that is to be active is put into the map twice. -/
theorem activateCreated_ok {e : IasAvbTransmitEngine} {q : TransmitRequest} {o : TransmitOutcome}
    (he : h.mAvbTransmitEngine = some e)
    (hfiled : e.mAvbStreams.lookup q.streamId = some { srClass := q.srClass })
    (hok : (h.activateCreated q o).2 = eIasAvbProcOK) :
    (h.activateCreated q o).1.transmitStreams
        = Function.update h.transmitStreams q.streamId
          (some { srClass := q.srClass, active := true })
      ∧ (h.activateCreated q o).1.receiveStreams = h.receiveStreams := by
  have hactivate : e.activateAvbStream q.streamId o.addition
      = if o.addition ≠ eIasAvbProcOK then (e, o.addition)
        else (e.setActive q.streamId { srClass := q.srClass } true, eIasAvbProcOK) := by
    unfold IasAvbTransmitEngine.activateAvbStream
    rw [hfiled]
    exact if_neg Bool.false_ne_true
  revert hok
  unfold activateCreated
  rw [he]
  dsimp only
  rw [hactivate]
  by_cases hadd : o.addition ≠ eIasAvbProcOK
  · -- without its place in a sequencer the stream stays inactive, and the call fails
    rw [if_pos hadd]
    split
    · rename_i heq
      exact absurd (Prod.mk.inj heq).2 hadd
    · rename_i hne heq
      intro hok
      exact absurd ((Prod.mk.inj heq).2.trans hok) hadd
  · rw [if_neg hadd, transmitStreams_of_some he]
    exact fun _ => ⟨lookup_insert_eq _ _ _, rfl⟩

/-- The stream is there, and not active yet. -/
theorem createTransmitted_ok {q : TransmitRequest} {o : TransmitOutcome}
    (hok : (h.createTransmitted q o).2 = eIasAvbProcOK) :
    h.transmitStreams q.streamId = none
      ∧ (h.createTransmitted q o).1.transmitStreams
        = Function.update h.transmitStreams q.streamId (some { srClass := q.srClass })
      ∧ (h.createTransmitted q o).1.receiveStreams = h.receiveStreams
      ∧ ∃ e, (h.createTransmitted q o).1.mAvbTransmitEngine = some e := by
  revert hok
  unfold createTransmitted
  by_cases hclock : (h.mAvbClockDomains.lookup q.clockId).isNone
  · rw [if_pos hclock]
    exact nofun
  rw [if_neg hclock]
  by_cases hmode : q.assignMode ≠ .eIasAvbIdAssignModeStatic
  · rw [if_pos hmode]
    exact nofun
  rw [if_neg hmode]
  cases he : h.mAvbTransmitEngine with
  | none => exact nofun
  | some e =>
      dsimp only
      intro hok
      obtain ⟨-, -, hcreated⟩ :=
        @IasAvbTransmitEngine.createTransmitStream_spec e q.streamId q.srClass o
      obtain ⟨hfree, hfiled⟩ := hcreated hok
      rw [transmitStreams_of_some he, transmitStreams_setTransmit, hfiled]
      exact ⟨hfree, lookup_insert_eq _ _ _, rfl, _, rfl⟩

theorem createTransmitStream_ok {check : IasAvbProcessingResult} {q : TransmitRequest}
    {engine : EngineOutcome} {o : TransmitOutcome}
    (hok : (h.createTransmitStream check q engine o).2 = eIasAvbProcOK) :
    Transmits h q (h.createTransmitStream check q engine o).1 := by
  have hengine := (createTransmitEngine_unchanged h engine).sameStreams
  revert hok
  unfold createTransmitStream
  split
  · exact nofun
  split
  · rename_i hcheck
    exact fun hok => absurd hok hcheck
  split
  swap
  · rename_i hne _
    exact fun hok => absurd hok hne
  rename_i h₁ heq
  rw [heq] at hengine
  have hengine : SameStreams h h₁ := hengine
  split
  swap
  · rename_i hne _
    exact fun hok => absurd hok hne
  rename_i h₂ hcreate
  have hcreated := @createTransmitted_ok h₁ q o (congrArg Prod.snd hcreate)
  rw [hcreate, hengine.transmit] at hcreated
  obtain ⟨hfree, hset, hreceive, e, he⟩ := hcreated
  have hset : h₂.transmitStreams = Function.update h.transmitStreams q.streamId
    (some { srClass := q.srClass }) := hset
  have hstream : ∀ active, q.active = active →
      q.stream = { srClass := q.srClass, active := active } :=
    fun active hactive => congrArg (TransmitStream.mk q.srClass) hactive
  -- a stream that is to be active is activated now, and if that failed the call would have, too
  split
  · rename_i hactive
    intro hok
    have hlookup : e.mAvbStreams.lookup q.streamId = some { srClass := q.srClass } := by
      have hat := congrFun ((transmitStreams_of_some he).symm.trans hset) q.streamId
      rwa [Function.update_self] at hat
    obtain ⟨hactivated, hreceive'⟩ := activateCreated_ok he hlookup hok
    refine ⟨hfree, ?_, hreceive'.trans (hreceive.trans hengine.receive)⟩
    rw [hactivated, hset, Function.update_idem, hstream true hactive]
  · rename_i hactive
    intro _
    refine ⟨hfree, ?_, hreceive.trans hengine.receive⟩
    rw [hstream false (Bool.eq_false_iff.mpr hactive)]
    exact hset

/-- **The three calls** that create a transmit stream. -/
theorem createTransmitStream_extends (h : IasAvbStreamHandler) (check : IasAvbProcessingResult)
    (q : TransmitRequest) (engine : EngineOutcome) (o : TransmitOutcome) :
    Extends h (h.createTransmitStream check q engine o).1
      ((h.createTransmitStream check q engine o).2 = eIasAvbProcOK)
      fun x => x = .transmit q.streamId q.stream := by
  by_cases hok : (h.createTransmitStream check q engine o).2 = eIasAvbProcOK
  swap
  · exact .refused (createTransmitStream_unchanged h check q engine o hok).sameStreams hok
  have hlocals := createTransmitStream_locals h check q engine o
  obtain ⟨hfree, hfiled, hreceive⟩ := createTransmitStream_ok hok
  generalize (h.createTransmitStream check q engine o).1 = h' at hlocals hfiled hreceive ⊢
  have hlocals : h'.locals = h.locals := hlocals
  have hnew : h'.Has (.transmit q.streamId q.stream) := by
    show h'.transmitStreams q.streamId = _
    rw [hfiled, Function.update_self]
  refine .added rfl hnew fun x hx => ?_
  cases x with
  | receive id =>
      unfold Has
      rw [hreceive]
  | transmit id s =>
      show h'.transmitStreams id = some s ↔ h.transmitStreams id = some s
      rw [hfiled]
      by_cases hid : id = q.streamId
      · -- under the id of the new stream there was none before, and there is no second one now
        subst hid
        rw [Function.update_self, hfree]
        exact iff_of_false (fun hs => hx (Option.some.inj hs ▸ rfl)) nofun
      · rw [Function.update_of_ne hid]
  | ofLocal id =>
      unfold Has
      rw [hlocals]

/-! ## Local streams -/

/-- The id that a local stream was asked for, or any if it was asked for none. -/
def NamesLocal (streamId : UInt16) (x : StreamName) : Prop :=
  ∃ id, id ≠ 0 ∧ (streamId ≠ 0 → id = streamId) ∧ x = .ofLocal id

theorem extends_local {w : LocalStreams} {streamId : UInt16} {r : CreateResult}
    (hone : LocalStreams.CreatesOne streamId h.locals w r) (hlocals : h'.locals = w)
    (hreceive : h'.receiveStreams = h.receiveStreams)
    (htransmit : h'.transmitStreams = h.transmitStreams) :
    Extends h h' (mapResultCode r.result = .eIasAvbResultOk) (NamesLocal streamId) := by
  rw [mapResultCode_ok]
  rcases hone with ⟨herror, -, hsame⟩ | ⟨-, hne, hgiven, kind, a, hadds⟩
  · exact .refused ⟨hreceive, htransmit, hlocals ▸ hsame.index⟩ herror
  have hnew : h'.Has (.ofLocal r.streamId) := by
    refine ⟨kind, ?_⟩
    rw [hlocals, hadds.index, Function.update_self]
    exact nofun
  have hnames : NamesLocal streamId (.ofLocal r.streamId) := ⟨_, hne, hgiven, rfl⟩
  refine .added hnames hnew fun x hx => ?_
  cases x with
  | receive id =>
      unfold Has
      rw [hreceive]
  | transmit id s =>
      unfold Has
      rw [htransmit]
  | ofLocal id =>
      have hid : id ≠ r.streamId := fun heq => hx (heq ▸ rfl)
      unfold Has
      rw [hlocals, hadds.index]
      refine exists_congr fun kind' => ?_
      rw [Function.update_of_ne fun hkey => hid (congrArg Prod.snd hkey)]

end IasAvbStreamHandler

end AvbStreamHandler
