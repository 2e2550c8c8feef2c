import AvbStreamHandler.Config.SetupRuns
import AvbStreamHandler.Control.HandlerStreams

/-!
# The stream handler behind the configuration

The calls of `setup`, made of the stream handler itself, and the start-up as a whole: `init`, then
`setup`, then `cleanup` if anything has gone wrong. After a start-up that has gone well the
handler has the streams of the tables, and after one that has not it has none.
-/

namespace AvbStreamHandler

open Kit Kit.Run Kit.Script IasAvbProcessingResult ContinueStatus SetupState

/-- What the steps below a call come across. -/
structure CallOutcome where
  engine : EngineOutcome := {}
  receive : ReceiveOutcome := {}
  recovery : RecoveryOutcome := {}
  transmit : TransmitOutcome := {}
  /-- There is memory for the ALSA engine, or for the video interface. -/
  interfaceMemory : Bool := true
  alsa : AlsaOutcome := {}
  /-- Of a test tone stream or a local video stream. -/
  memory : Bool := true
  init : IasAvbProcessingResult := eIasAvbProcOK
  /-- Of the engine that is to connect two streams, or of the stream that is to set a tone. -/
  result : IasAvbResult := .eIasAvbResultOk

def macAddress (dmac : UInt64) : IasAvbMacAddress :=
  (List.range cIasAvbMacAddressLength).map fun i =>
    UInt8.ofNat (dmac.toNat >>> ((cIasAvbMacAddressLength - i - 1) * 8))

def StreamParamsAlsa.stream (direction : IasAvbStreamDirection) (sampleFreq periodSize : UInt32)
    (deviceName : String) (streamId : UInt16) (alsaDeviceType : IasAlsaDeviceTypes) :
    AlsaStream where
  alsaDeviceType := alsaDeviceType
  direction := direction
  streamId := streamId
  deviceName := deviceName
  periodSize := periodSize
  sampleFrequency := sampleFreq

namespace IasAvbStreamHandler

/-- The id of the clock of a new clock reference stream, as it comes back. -/
def referenceClockId (h : IasAvbStreamHandler) (streamId : Nat) (destMacAddr : IasAvbMacAddress)
    (clockId : UInt32) (o : CallOutcome) : UInt32 :=
  let created := h.createReceived streamId destMacAddr o.engine o.receive
  if h.isInitialized = true ∧ mapResultCode created.2 = .eIasAvbResultOk then
    (created.1.deriveClockDomainFromRxStream streamId clockId o.recovery).clockId
  else clockId

/-- Any stream that goes by the id is connected, if the engine agrees. -/
def connectStreams (h : IasAvbStreamHandler) (localStreamId : UInt16) (o : CallOutcome) :
    IasAvbStreamHandler × IasAvbResult :=
  if h.isInitialized = false then (h, .eIasAvbResultErr)
  else if h.locals.reach localStreamId = [] then (h, .eIasAvbResultErr)
  else if o.result ≠ .eIasAvbResultOk then (h, o.result)
  else
    let streams := h.locals.reach localStreamId
    let locals := streams.foldl (fun w stream => w.setConnected stream true) h.locals
    ({ h with locals := locals }, .eIasAvbResultOk)

def setTestToneParams (h : IasAvbStreamHandler) (localStreamId : UInt16) (o : CallOutcome) :
    IasAvbResult :=
  if h.isInitialized = false then .eIasAvbResultErr
  else
    match h.locals.getLocalAudioStreamById localStreamId with
    | some (.other _) => o.result
    | _ => .eIasAvbResultInvalidParam

/-- The calls of the interface. -/
def answer (c : HandlerConfig) (o : CallOutcome) (h : IasAvbStreamHandler) :
    SetupCall → Reply IasAvbStreamHandler
  | .createTestToneStream _ _ format _ streamId =>
      let r := h.createTestToneStream streamId format o.memory o.init
      { handler := r.handler, result := r.result }
  | .setTestToneParams localStreamId _ _ _ _ _ =>
      { handler := h, result := h.setTestToneParams localStreamId o }
  | .createReceiveClockReferenceStream _ _ _ streamId dmac clockId =>
      let mac := macAddress dmac
      let r := createReceiveClockReferenceStream c h streamId.toNat mac clockId o.engine o.receive
        o.recovery
      { handler := r.handler
        result := r.result
        clockId := h.referenceClockId streamId.toNat mac clockId o }
  | .createTransmitClockReferenceStream srClass _ _ _ _ _ clockId assignMode streamId _ active =>
      let r := h.createTransmitClockReferenceStream
        { streamId := streamId.toNat, srClass := srClass, clockId := clockId
          assignMode := assignMode, active := active } o.engine o.transmit
      { handler := r.handler, result := r.result }
  | .createReceiveAudioStream _ maxNumberChannels _ streamId destMacAddr =>
      let r := createReceiveAudioStream c h maxNumberChannels streamId.toNat
        (macAddress destMacAddr) o.engine o.receive o.recovery
      { handler := r.handler, result := r.result }
  | .createTransmitAudioStream srClass maxNumberChannels _ _ clockId assignMode streamId _ active =>
      let r := h.createTransmitAudioStream maxNumberChannels
        { streamId := streamId.toNat, srClass := srClass, clockId := clockId
          assignMode := assignMode, active := active } o.engine o.transmit
      { handler := r.handler, result := r.result }
  | .createReceiveVideoStream _ _ _ _ streamId destMacAddr =>
      let r := h.createReceiveVideoStream streamId.toNat (macAddress destMacAddr) o.engine
        o.receive
      { handler := r.handler, result := r.result }
  | .createTransmitVideoStream srClass _ _ _ clockId assignMode streamId _ active =>
      let r := h.createTransmitVideoStream
        { streamId := streamId.toNat, srClass := srClass, clockId := clockId
          assignMode := assignMode, active := active } o.engine o.transmit
      { handler := r.handler, result := r.result }
  | .createAlsaStream direction numberOfChannels sampleFreq _ clockId periodSize _ _ _ deviceName
      streamId alsaDeviceType _ =>
      let stream := StreamParamsAlsa.stream direction sampleFreq periodSize deviceName streamId
        alsaDeviceType
      let r := createAlsaStream c h streamId numberOfChannels clockId stream o.interfaceMemory
        o.alsa
      { handler := r.handler, result := r.result }
  | .createLocalVideoStream direction _ _ _ _ streamId =>
      let r := h.createLocalVideoStream streamId direction o.interfaceMemory o.memory o.init
      { handler := r.handler, result := r.result }
  | .deriveClockDomainFromRxStream rxStreamId clockId =>
      let d := h.deriveClockDomainFromRxStream rxStreamId.toNat clockId o.recovery
      { handler := d.handler, result := d.result, clockId := d.clockId }
  | .setClockRecoveryParams masterClockId slaveClockId _ =>
      let r := h.setClockRecoveryParams masterClockId slaveClockId o.recovery
      { handler := r.1, result := r.2 }
  | .connectStreams _ localStreamId =>
      let r := h.connectStreams localStreamId o
      { handler := r.1, result := r.2 }

/-- The handler as what `setup` calls, with the number of calls so far: the one that comes next
has the outcome of that number. -/
def target (c : HandlerConfig) (outcome : Nat → CallOutcome) :
    SetupTarget (IasAvbStreamHandler × Nat) where
  call call h :=
    let r := answer c (outcome h.2) h.1 call
    { handler := (r.handler, h.2 + 1), result := r.result, clockId := r.clockId }

/-- All of `init`. The configuration has its part in it only if `runSetup` asks for it. -/
def startUp (c : HandlerConfig) (outcome : Nat → CallOutcome) (b : IasAvbConfigurationBase)
    (h : IasAvbStreamHandler) (result : IasAvbProcessingResult) (runSetup : Bool) :
    IasAvbStreamHandler × IasAvbProcessingResult :=
  let r := h.init c result
  if r.result = eIasAvbProcOK ∧ runSetup = true then
    let s := setup (target c outcome) b (r.handler, 0)
    if s.2 then (s.1.handler.1, eIasAvbProcOK)
    else (s.1.handler.1.cleanup.handler, eIasAvbProcInitializationFailed)
  else (r.handler, r.result)

end IasAvbStreamHandler

/-! ## The streams of a call -/

namespace SetupCall

/-- What the stream that a call creates is known by. -/
def names : SetupCall → StreamName → Prop
  | .createTestToneStream _ _ _ _ streamId, x => IasAvbStreamHandler.NamesLocal streamId x
  | .createReceiveClockReferenceStream _ _ _ streamId _ _, x => x = .receive streamId.toNat
  | .createTransmitClockReferenceStream srClass _ _ _ _ _ _ _ streamId _ active, x =>
      x = .transmit streamId.toNat { srClass := srClass, active := active }
  | .createReceiveAudioStream _ _ _ streamId _, x => x = .receive streamId.toNat
  | .createTransmitAudioStream srClass _ _ _ _ _ streamId _ active, x =>
      x = .transmit streamId.toNat { srClass := srClass, active := active }
  | .createReceiveVideoStream _ _ _ _ streamId _, x => x = .receive streamId.toNat
  | .createTransmitVideoStream srClass _ _ _ _ _ streamId _ active, x =>
      x = .transmit streamId.toNat { srClass := srClass, active := active }
  | .createAlsaStream _ _ _ _ _ _ _ _ _ _ streamId _ _, x =>
      IasAvbStreamHandler.NamesLocal streamId x
  | .createLocalVideoStream _ _ _ _ _ streamId, x => IasAvbStreamHandler.NamesLocal streamId x
  | _, _ => False

/-- It is to create a stream. -/
def Creates (c : SetupCall) : Prop := ∃ x, c.names x

end SetupCall

namespace IasAvbStreamHandler

variable {c : HandlerConfig} {o : CallOutcome} {h h' : IasAvbStreamHandler} {call : SetupCall}

/-- **What an answer does to the streams.** One to a call for the clock recovery changes nothing,
also if it is an error. -/
structure Answered (call : SetupCall) (h h' : IasAvbStreamHandler) (ok : Prop) : Prop where
  ready : h'.locals.Ready
  kept : ∀ x, h.Has x → h'.Has x
  there : ok → call.Creates → ∃ x, call.names x ∧ h'.Has x
  only : ok ∨ call.isRecovery = true → ∀ x, h'.Has x → h.Has x ∨ call.names x

theorem Answered.ofExtends {ok : Prop} (hcall : call.isRecovery = false)
    (he : Extends h h' ok call.names) (hready : h'.locals.Ready) : Answered call h h' ok where
  ready := hready
  kept := he.kept
  there := fun hok _ => he.there hok
  only := fun hok => he.only (hok.resolve_right (hcall ▸ Bool.false_ne_true))

theorem Answered.ofSame {ok : Prop} (hcall : ¬ call.Creates) (hs : SameStreams h h')
    (hready : h'.locals.Ready) : Answered call h h' ok where
  ready := hready
  kept := fun x hx => (hs.has x).mpr hx
  there := fun _ hcreates => absurd hcreates hcall
  only := fun _ x hx => .inl ((hs.has x).mp hx)

theorem connectStreams_same (hready : h.locals.Ready) (localStreamId : UInt16) :
    SameStreams h (h.connectStreams localStreamId o).1
      ∧ (h.connectStreams localStreamId o).1.locals.Ready := by
  have hconnected : ∀ (l : List LocalStreamRef) (w : LocalStreams), w.Ready →
      (l.foldl (fun w stream => w.setConnected stream true) w).index = w.index
        ∧ (l.foldl (fun w stream => w.setConnected stream true) w).Ready := by
    intro l
    -- one stream after the other is marked, and none is moved
    induction l with
    | nil => exact fun w hw => ⟨rfl, hw⟩
    | cons stream l ih =>
        intro w hw
        have hsame := LocalStreams.same_setConnected w stream true
        have hkeeps := LocalStreams.keeps_setConnected w stream true
        obtain ⟨hindex, hready⟩ := ih (w.setConnected stream true)
          ⟨hsame.fresh hw.fresh, hkeeps.ready hw.alsa⟩
        exact ⟨hindex.trans hsame.index, hready⟩
  unfold connectStreams
  split
  · exact ⟨.refl h, hready⟩
  split
  · exact ⟨.refl h, hready⟩
  split
  · exact ⟨.refl h, hready⟩
  · obtain ⟨hindex, hready'⟩ := hconnected (h.locals.reach localStreamId) h.locals hready
    exact ⟨⟨rfl, rfl, hindex⟩, hready'⟩

/-- **Every call is answered** in that way. -/
theorem answer_answered (c : HandlerConfig) (o : CallOutcome) (hready : h.locals.Ready)
    (call : SetupCall) :
    Answered call h (answer c o h call).handler
      ((answer c o h call).result = .eIasAvbResultOk) := by
  have hstep := fun e => ready_step (c := c) h e hready
  have htransmit : ∀ (check : IasAvbProcessingResult) (q : TransmitRequest),
      Extends h (h.createTransmitStream check q o.engine o.transmit).1
        (mapResultCode (h.createTransmitStream check q o.engine o.transmit).2
          = .eIasAvbResultOk) fun x => x = .transmit q.streamId q.stream := by
    intro check q
    rw [mapResultCode_ok]
    exact createTransmitStream_extends h check q o.engine o.transmit
  cases call with
  | createTestToneStream numberOfChannels sampleFreq format channelLayout streamId =>
      exact .ofExtends rfl (extends_local
        (LocalStreams.createTestToneStream_cases hready.fresh).1 rfl rfl rfl)
        (hstep (.createTestToneStream streamId format o.memory o.init))
  | setTestToneParams localStreamId channel signalFrequency level mode userParam =>
      exact .ofSame (fun ⟨_, hx⟩ => hx) (.refl h) hready
  | createReceiveClockReferenceStream srClass type maxCrfStampsPerPdu streamId dmac clockId =>
      exact .ofExtends rfl (createReceiveClockReferenceStream_extends c h _ _ _ _ _ _)
        (hstep (.createReceiveClockReferenceStream _ _ _ _ _ _))
  | createTransmitClockReferenceStream srClass type crfStampsPerPdu crfStampInterval baseFreq pull
      clockId assignMode streamId dmac active =>
      exact .ofExtends rfl (htransmit eIasAvbProcOK _)
        (hstep (.createTransmitClockReferenceStream _ _ _))
  | createReceiveAudioStream srClass maxNumberChannels sampleFreq streamId destMacAddr =>
      exact .ofExtends rfl (createReceiveAudioStream_extends c h _ _ _ _ _ _)
        (hstep (.createReceiveAudioStream _ _ _ _ _ _))
  | createTransmitAudioStream srClass maxNumberChannels sampleFreq format clockId assignMode
      streamId destMacAddr active =>
      exact .ofExtends rfl (htransmit _ _) (hstep (.createTransmitAudioStream _ _ _ _))
  | createReceiveVideoStream srClass maxPacketRate maxPacketSize format streamId destMacAddr =>
      exact .ofExtends rfl (createReceiveVideoStream_extends h _ _ _ _)
        (hstep (.createReceiveVideoStream _ _ _ _))
  | createTransmitVideoStream srClass maxPacketRate maxPacketSize format clockId assignMode
      streamId dmac active =>
      exact .ofExtends rfl (htransmit eIasAvbProcOK _) (hstep (.createTransmitVideoStream _ _ _))
  | createAlsaStream direction numberOfChannels sampleFreq format clockId periodSize numPeriods
      channelLayout hasSideChannel deviceName streamId alsaDeviceType sampleFreqASRC =>
      exact .ofExtends rfl (extends_local
        (LocalStreams.createAlsaStream_cases hready.fresh).1 rfl rfl rfl)
        (hstep (.createAlsaStream _ _ _ _ _ _))
  | createLocalVideoStream direction maxPacketRate maxPacketSize format ipcName streamId =>
      exact .ofExtends rfl (extends_local
        (LocalStreams.createLocalVideoStream_cases hready.fresh).1 rfl rfl rfl)
        (hstep (.createLocalVideoStream _ _ _ _ _))
  | deriveClockDomainFromRxStream rxStreamId clockId =>
      exact .ofSame (fun ⟨_, hx⟩ => hx) (derive_sameStreams h _ _ _)
        (hstep (.deriveClockDomainFromRxStream _ _ _))
  | setClockRecoveryParams masterClockId slaveClockId driverId =>
      exact .ofSame (fun ⟨_, hx⟩ => hx) (recovery_sameStreams h _ _ _)
        (hstep (.setClockRecoveryParams _ _ _))
  | connectStreams networkStreamId localStreamId =>
      obtain ⟨hsame, hready'⟩ := connectStreams_same (o := o) hready localStreamId
      exact .ofSame (fun ⟨_, hx⟩ => hx) hsame hready'

/-! ## The whole setup -/

/-- **The invariant**: nothing that was there has gone, all that the calls have created is there,
and nothing else as long as there is no error. -/
structure SetUpFrom (h₀ : IasAvbStreamHandler) (h : IasAvbStreamHandler)
    (calls : List (SetupCall × IasAvbResult)) (result : IasAvbResult) : Prop where
  ready : h.locals.Ready
  kept : ∀ x, h₀.Has x → h.Has x
  there : ∀ p ∈ calls, IsOk p.2 → p.1.Creates → ∃ x, p.1.names x ∧ h.Has x
  only : IsOk result → ∀ x, h.Has x → h₀.Has x ∨ ∃ p ∈ calls, p.1.names x

variable {h₀ : IasAvbStreamHandler} {calls : List (SetupCall × IasAvbResult)}
  {result : IasAvbResult}

theorem SetUpFrom.answered {result' r : IasAvbResult} (hs : SetUpFrom h₀ h calls result)
    (ha : Answered call h h' (r = .eIasAvbResultOk))
    (hgood : IsOk result' → IsOk result ∧ (IsOk r ∨ call.isRecovery = true)) :
    SetUpFrom h₀ h' (calls ++ [(call, r)]) result' where
  ready := ha.ready
  kept := fun x hx => ha.kept x (hs.kept x hx)
  there := by
    intro p hp hok hcreates
    rcases List.mem_append.mp hp with hold | hnew
    · obtain ⟨x, hnames, hx⟩ := hs.there p hold hok hcreates
      exact ⟨x, hnames, ha.kept x hx⟩
    · obtain rfl := List.mem_singleton.mp hnew
      exact ha.there hok hcreates
  only := by
    intro hok x hx
    obtain ⟨hbefore, hcall⟩ := hgood hok
    rcases ha.only hcall x hx with hold | hnames
    · rcases hs.only hbefore x hold with hfirst | ⟨p, hp, hnames⟩
      · exact .inl hfirst
      · exact .inr ⟨p, List.mem_append_left _ hp, hnames⟩
    · exact .inr ⟨_, List.mem_append_right _ List.mem_cons_self, hnames⟩

theorem setUp_invariant (c : HandlerConfig) (outcome : Nat → CallOutcome)
    (b : IasAvbConfigurationBase) (hready : h₀.locals.Ready) (n : Nat) :
    SetUpFrom h₀ (setupStreams (target c outcome) b (h₀, n)).handler.1
      (setupStreams (target c outcome) b (h₀, n)).calls
      (setupStreams (target c outcome) b (h₀, n)).result := by
  have hkept : KeptByCalls (target c outcome)
      (fun h : IasAvbStreamHandler × Nat => SetUpFrom h₀ h.1) := by
    refine ⟨?_, ?_, ?_⟩
    · intro h calls call hcall hs
      dsimp only [target]
      have hanswer := answer_answered c (outcome h.2) hs.ready call
      exact hs.answered hanswer fun hgood => ⟨rfl, .inl hgood⟩
    · intro h calls result call hcall hs
      dsimp only [target]
      have hanswer := answer_answered c (outcome h.2) hs.ready call
      exact hs.answered hanswer fun hgood => ⟨hgood, .inr hcall⟩
    · intro h calls hs
      exact ⟨hs.ready, hs.kept, hs.there, fun hok => nomatch hok⟩
  refine hkept.setupStreams ?_
  exact ⟨hready, fun _ hx => hx, fun p hp => absurd hp List.not_mem_nil, fun _ x hx => .inl hx⟩

/-- The streams of the tables, by their names, and those that were there before. -/
structure AsConfigured (b : IasAvbConfigurationBase) (h₀ h : IasAvbStreamHandler) : Prop where
  kept : ∀ x, h₀.Has x → h.Has x
  there : ∀ call ∈ b.script, call.Creates → ∃ x, call.names x ∧ h.Has x
  only : ∀ x, h.Has x → h₀.Has x ∨ ∃ call ∈ b.script, call.names x

theorem asConfigured_of_good {c : HandlerConfig} {outcome : Nat → CallOutcome}
    {b : IasAvbConfigurationBase} {n : Nat} (hready : h₀.locals.Ready)
    (hgood : IsOk (setupStreams (target c outcome) b (h₀, n)).result) :
    AsConfigured b h₀ (setupStreams (target c outcome) b (h₀, n)).handler.1 := by
  have hone : b.mAvbClkRefStreamRx.num ≤ 1 :=
    Nat.not_lt.mp fun hmany => setupStreams_refused hmany _ hgood
  have hinv := setUp_invariant c outcome b hready n
  -- it has gone well, so the calls are the whole script, and each has succeeded
  obtain ⟨made, ok, hcalls, hmade, hiff⟩ :=
    (follows_setupStreams (t := target c outcome) hone (h₀, n)).made rfl
  generalize setupStreams (target c outcome) b (h₀, n) = s at hgood hinv hcalls hiff ⊢
  obtain rfl := hiff.mpr hgood
  have hcalls : s.streamCalls = made := hcalls
  have hscript : b.script = s.streamCalls.map Prod.fst := hcalls ▸ hmade.all_calls.symm
  have hall : ∀ p ∈ s.streamCalls, IsOk p.2 := hcalls ▸ hmade.through_iff.mp rfl
  refine ⟨hinv.kept, ?_, ?_⟩
  · rw [hscript]
    intro call hmem hcreates
    obtain ⟨p, hp, rfl⟩ := List.mem_map.mp hmem
    exact hinv.there p (List.mem_of_mem_filter hp) (hall p hp) hcreates
  · intro x hx
    rcases hinv.only hgood x hx with hfirst | ⟨p, hp, hnames⟩
    · exact .inl hfirst
    · -- a call for the clock recovery names no stream
      have hstream : p.1.isRecovery = false := by
        obtain ⟨call, r⟩ := p
        cases call <;> first | rfl | exact hnames.elim
      refine .inr ⟨p.1, ?_, hnames⟩
      rw [hscript]
      refine List.mem_map_of_mem (List.mem_filter.mpr ⟨hp, ?_⟩)
      rw [hstream]
      rfl

/-- No override does anything. -/
theorem setup_target (c : HandlerConfig) (outcome : Nat → CallOutcome)
    (b : IasAvbConfigurationBase) (h : IasAvbStreamHandler × Nat) :
    setup (target c outcome) b h
      = if (setupStreams (target c outcome) b h).result ≠ .eIasAvbResultOk then
          (setupStreams (target c outcome) b h, false)
        else (setupStreams (target c outcome) b h, true) := rfl

theorem cleanup_has (h : IasAvbStreamHandler) (x : StreamName) : ¬ h.cleanup.handler.Has x := by
  cases x with
  | receive id => exact fun hx => hx rfl
  | transmit id s => exact nofun
  | ofLocal id =>
      rintro ⟨kind, hx⟩
      cases kind <;> exact hx rfl

/-- The steps before `setup` go well and leave the streams, or nothing is left. -/
theorem init_streams (c : HandlerConfig) (result : IasAvbProcessingResult)
    (hnew : h.isInitialized = false) (hready : h.locals.Ready) :
    ((h.init c result).result = eIasAvbProcOK ∧ SameStreams h (h.init c result).handler
        ∧ (h.init c result).handler.locals.Ready)
      ∨ ((h.init c result).result ≠ eIasAvbProcOK
        ∧ ∀ x, ¬ (h.init c result).handler.Has x) := by
  unfold init
  rw [if_neg (hnew ▸ Bool.false_ne_true)]
  rcases Decidable.em (result = eIasAvbProcOK) with hok | hfailed
  · rw [if_neg (not_not.mpr hok)]
    exact .inl ⟨rfl, ⟨rfl, rfl, rfl⟩, hready.flags true h.locals.started⟩
  · rw [if_pos hfailed]
    exact .inr ⟨hfailed, cleanup_has h⟩

/-- The start-up of a handler that is not initialised. -/
theorem startUp_new (c : HandlerConfig) (outcome : Nat → CallOutcome)
    (b : IasAvbConfigurationBase) (result : IasAvbProcessingResult)
    (hnew : h.isInitialized = false) (hready : h.locals.Ready) :
    ((startUp c outcome b h result true).2 = eIasAvbProcOK
        ∧ AsConfigured b h (startUp c outcome b h result true).1)
      ∨ ((startUp c outcome b h result true).2 ≠ eIasAvbProcOK
        ∧ ∀ x, ¬ (startUp c outcome b h result true).1.Has x) := by
  unfold startUp
  dsimp only
  rcases init_streams c result hnew hready with ⟨hok, hsame, hready'⟩ | ⟨hfailed, hnone⟩
  · rw [if_pos ⟨hok, rfl⟩, setup_target]
    rcases Decidable.em ((setupStreams (target c outcome) b
      ((h.init c result).handler, 0)).result = .eIasAvbResultOk) with hgood | hbad
    · have hstreams := asConfigured_of_good hready' hgood
      rw [if_neg (not_not.mpr hgood)]
      refine .inl ⟨rfl, fun x hx => hstreams.kept x ((hsame.has x).mpr hx), hstreams.there, ?_⟩
      exact fun x hx => (hstreams.only x hx).imp_left (hsame.has x).mp
    · rw [if_pos hbad]
      exact .inr ⟨nofun, cleanup_has _⟩
  · rw [if_neg (fun hgo => hfailed hgo.1)]
    exact .inr ⟨hfailed, hnone⟩

end IasAvbStreamHandler

end AvbStreamHandler
