import AvbStreamHandler.Receive.StreamRegistry
import AvbStreamHandler.Transmit.Engine

/-!
# The network engines, as the stream handler sees them

What `IasAvbStreamHandler` asks of the transmit and of the receive engine: to create, activate
and destroy a stream, to start and to stop. A call is one step here, and what the steps below
the engine come to is part of it: memory, the initialisation of a stream, the sequencer that is
made on demand, the admission of a stream, the binding of its address, the threads.

The transmit engine starts its sequencers one after the other and stops at the first that does
not start. It means to stop those again that did, but `stop` has nothing to do for an engine
that is not running yet.
-/

namespace AvbStreamHandler

open Kit IasAvbProcessingResult

/-! ## The transmit engine -/

def cIasAvbNumSupportedClasses : Nat := 2

structure TransmitStream where
  srClass : IasAvbSrClass
  active : Bool := false
deriving DecidableEq, Repr

structure IasAvbTransmitEngine where
  mAvbStreams : AList fun _ : Nat => TransmitStream := ∅
  /-- In the order of the array; whether the thread runs. -/
  mSequencers : List (IasAvbSrClass × Bool) := []
  mRunning : Bool := false

/-- What the steps of a call that creates a transmit stream come across. -/
structure TransmitOutcome where
  memory : Bool := true
  init : IasAvbProcessingResult := eIasAvbProcOK
  /-- Of a sequencer that is made on demand: memory, `init`, the registration, `start`. -/
  sequencer : IasAvbProcessingResult := eIasAvbProcOK
  /-- `addStreamToTransmitList`. -/
  addition : IasAvbProcessingResult := eIasAvbProcOK

namespace IasAvbTransmitEngine

def createSequencerOnDemand (e : IasAvbTransmitEngine) (qavClass : IasAvbSrClass)
    (result : IasAvbProcessingResult) : IasAvbTransmitEngine × IasAvbProcessingResult :=
  if e.mSequencers.any (·.1 = qavClass) then (e, eIasAvbProcOK)
  else if e.mSequencers.length = cIasAvbNumSupportedClasses then (e, eIasAvbProcNoSpaceLeft)
  else if result ≠ eIasAvbProcOK then (e, result)
  else ({ e with mSequencers := e.mSequencers ++ [(qavClass, e.mRunning)] }, eIasAvbProcOK)

/-- `createTransmitAudioStream`, `createTransmitVideoStream` and
`createTransmitClockReferenceStream`, which differ in the stream they initialise. -/
def createTransmitStream (e : IasAvbTransmitEngine) (streamId : Nat) (srClass : IasAvbSrClass)
    (o : TransmitOutcome) : IasAvbTransmitEngine × IasAvbProcessingResult :=
  if (e.mAvbStreams.lookup streamId).isSome then (e, eIasAvbProcInvalidParam)
  else if o.memory = false then (e, eIasAvbProcNotEnoughMemory)
  else if o.init ≠ eIasAvbProcOK then (e, o.init)
  else
    match e.createSequencerOnDemand srClass o.sequencer with
    | (e, eIasAvbProcOK) =>
        ({ e with mAvbStreams := e.mAvbStreams.insert streamId { srClass := srClass } },
          eIasAvbProcOK)
    | (e, result) => (e, result)

def setActive (e : IasAvbTransmitEngine) (streamId : Nat) (s : TransmitStream) (active : Bool) :
    IasAvbTransmitEngine :=
  { e with mAvbStreams := e.mAvbStreams.insert streamId { s with active := active } }

/-- `addition` is what `addStreamToTransmitList` reports. -/
def activateAvbStream (e : IasAvbTransmitEngine) (streamId : Nat)
    (addition : IasAvbProcessingResult) : IasAvbTransmitEngine × IasAvbProcessingResult :=
  match e.mAvbStreams.lookup streamId with
  | none => (e, eIasAvbProcInvalidParam)
  | some s =>
      if s.active then (e, eIasAvbProcOK)
      else if addition ≠ eIasAvbProcOK then (e, addition)
      else (e.setActive streamId s true, eIasAvbProcOK)

/-- `removal` is what `removeStreamFromTransmitList` reports; the stream is active again if it
fails. -/
def deactivateAvbStream (e : IasAvbTransmitEngine) (streamId : Nat)
    (removal : IasAvbProcessingResult) : IasAvbTransmitEngine × IasAvbProcessingResult :=
  match e.mAvbStreams.lookup streamId with
  | none => (e, eIasAvbProcInvalidParam)
  | some s =>
      if s.active = false then (e, eIasAvbProcOK)
      else if removal ≠ eIasAvbProcOK then (e, removal)
      else (e.setActive streamId s false, eIasAvbProcOK)

def destroyAvbStream (e : IasAvbTransmitEngine) (streamId : Nat)
    (removal : IasAvbProcessingResult) : IasAvbTransmitEngine × IasAvbProcessingResult :=
  match e.deactivateAvbStream streamId removal with
  | (e, eIasAvbProcOK) =>
      ({ e with mAvbStreams := e.mAvbStreams.erase streamId }, eIasAvbProcOK)
  | (e, result) => (e, result)

/-- The loop of `start`, and whether it comes to its end. `starts` tells which threads can be
started; one that runs is not started again. -/
def startSequencers (starts : IasAvbSrClass → Bool) :
    List (IasAvbSrClass × Bool) → List (IasAvbSrClass × Bool) × Bool
  | [] => ([], true)
  | (c, running) :: rest =>
      if running || starts c then
        let r := startSequencers starts rest
        ((c, true) :: r.1, r.2)
      else ((c, running) :: rest, false)

def start (e : IasAvbTransmitEngine) (starts : IasAvbSrClass → Bool) :
    IasAvbTransmitEngine × IasAvbProcessingResult :=
  if e.mRunning then (e, eIasAvbProcOK)
  else
    let r := startSequencers starts e.mSequencers
    -- `stop` does not find the engine running
    ({ e with mSequencers := r.1, mRunning := r.2 },
      if r.2 then eIasAvbProcOK else eIasAvbProcThreadStartFailed)

def stop (e : IasAvbTransmitEngine) : IasAvbTransmitEngine :=
  if e.mRunning then
    { e with mSequencers := e.mSequencers.map fun q => (q.1, false), mRunning := false }
  else e

/-! ### What the calls do to the map of streams -/

variable {e e' : IasAvbTransmitEngine} {streamId : Nat} {srClass : IasAvbSrClass}
  {o : TransmitOutcome} {result : IasAvbProcessingResult} {starts : IasAvbSrClass → Bool}
  {l : List (IasAvbSrClass × Bool)}

/-- The engine runs as it did: so do the sequencers that were there. -/
structure SameRunning (e e' : IasAvbTransmitEngine) : Prop where
  running : e'.mRunning = e.mRunning
  sequencers : e.mSequencers <+: e'.mSequencers

theorem SameRunning.refl (e : IasAvbTransmitEngine) : SameRunning e e := ⟨rfl, List.prefix_rfl⟩

theorem SameRunning.trans {e'' : IasAvbTransmitEngine} (h : SameRunning e e')
    (h' : SameRunning e' e'') : SameRunning e e'' :=
  ⟨h'.running.trans h.running, h.sequencers.trans h'.sequencers⟩

theorem createSequencerOnDemand_spec :
    (e.createSequencerOnDemand srClass result).1.mAvbStreams = e.mAvbStreams
      ∧ SameRunning e (e.createSequencerOnDemand srClass result).1 := by
  unfold createSequencerOnDemand
  split
  · exact ⟨rfl, SameRunning.refl e⟩
  · split
    · exact ⟨rfl, SameRunning.refl e⟩
    · split
      · exact ⟨rfl, SameRunning.refl e⟩
      · exact ⟨rfl, rfl, List.prefix_append ..⟩

/-- **A stream is created, or nothing is.** -/
theorem createTransmitStream_spec :
    SameRunning e (e.createTransmitStream streamId srClass o).1
      ∧ ((e.createTransmitStream streamId srClass o).2 ≠ eIasAvbProcOK →
          (e.createTransmitStream streamId srClass o).1.mAvbStreams = e.mAvbStreams)
      ∧ ((e.createTransmitStream streamId srClass o).2 = eIasAvbProcOK →
          e.mAvbStreams.lookup streamId = none
            ∧ (e.createTransmitStream streamId srClass o).1.mAvbStreams
              = e.mAvbStreams.insert streamId { srClass := srClass }) := by
  unfold createTransmitStream
  split
  · exact ⟨SameRunning.refl e, fun _ => rfl, nofun⟩
  · rename_i hfree
    split
    · exact ⟨SameRunning.refl e, fun _ => rfl, nofun⟩
    · split
      · rename_i hinit
        exact ⟨SameRunning.refl e, fun _ => rfl, fun h => absurd h hinit⟩
      · have hspec := @createSequencerOnDemand_spec e srClass o.sequencer
        have hnone : e.mAvbStreams.lookup streamId = none := by simpa using hfree
        split
        · rename_i e' heq
          rw [heq] at hspec
          refine ⟨⟨hspec.2.running, hspec.2.sequencers⟩, fun h => absurd rfl h, fun _ => ?_⟩
          exact ⟨hnone, by rw [hspec.1]⟩
        · rename_i e' result hne heq
          rw [heq] at hspec
          exact ⟨hspec.2, fun _ => hspec.1, fun h => absurd h hne⟩

/-- A stream that could not be activated can be destroyed. -/
theorem destroy_inactive {s : TransmitStream} (hs : e.mAvbStreams.lookup streamId = some s)
    (hinactive : s.active = false) (removal : IasAvbProcessingResult) :
    (e.destroyAvbStream streamId removal).1
      = { e with mAvbStreams := e.mAvbStreams.erase streamId } := by
  have hdeactivate : e.deactivateAvbStream streamId removal = (e, eIasAvbProcOK) := by
    unfold deactivateAvbStream
    rw [hs]
    exact if_pos hinactive
  unfold destroyAvbStream
  rw [hdeactivate]

/-- An activation that fails changes nothing. -/
theorem activate_failed (h : (e.activateAvbStream streamId result).2 ≠ eIasAvbProcOK) :
    (e.activateAvbStream streamId result).1 = e := by
  revert h
  unfold activateAvbStream
  split
  · exact fun _ => rfl
  · split
    · exact fun h => absurd rfl h
    · split
      · exact fun _ => rfl
      · exact fun h => absurd rfl h

/-! ### Starting -/

/-- The first sequencer that does not run is not started. -/
def FirstFails (starts : IasAvbSrClass → Bool) (l : List (IasAvbSrClass × Bool)) : Prop :=
  ∃ c, l.find? (fun q => !q.2) = some (c, false) ∧ starts c = false

theorem startSequencers_ok :
    (startSequencers starts l).2 = true ↔ ∀ q ∈ l, q.2 = true ∨ starts q.1 = true := by
  induction l with
  | nil => exact iff_of_true rfl nofun
  | cons q l ih =>
      obtain ⟨c, running⟩ := q
      unfold startSequencers
      rw [List.forall_mem_cons, ← ih]
      split
      · rename_i hgo
        exact ⟨fun h => ⟨by simpa using hgo, h⟩, fun h => h.2⟩
      · rename_i hgo
        exact ⟨nofun, fun h => absurd (by simpa using h.1) hgo⟩

/-- **Nothing is started before the loop fails** exactly if it fails at the first thread it
could start. -/
theorem startSequencers_same (hfail : (startSequencers starts l).2 = false) :
    (startSequencers starts l).1 = l ↔ FirstFails starts l := by
  induction l with
  | nil => exact nomatch hfail
  | cons q l ih =>
      obtain ⟨c, running⟩ := q
      unfold startSequencers at hfail ⊢
      unfold FirstFails
      cases running with
      | true =>
          rw [Bool.true_or, if_pos rfl] at hfail ⊢
          rw [List.find?_cons_of_neg (by simp)]
          refine Iff.trans ?_ (ih hfail)
          exact ⟨fun h => (List.cons.inj h).2, fun h => congrArg _ h⟩
      | false =>
          rw [Bool.false_or] at hfail ⊢
          rw [List.find?_cons_of_pos (by simp)]
          by_cases hstarts : starts c = true
          · rw [if_pos hstarts]
            refine iff_of_false ?_ ?_
            · exact fun h => nomatch (Prod.mk.inj (List.cons.inj h).1).2
            · rintro ⟨c', hc', hnot⟩
              obtain ⟨rfl, -⟩ := Prod.mk.inj (Option.some.inj hc')
              exact nomatch hstarts.symm.trans hnot
          · rw [if_neg hstarts]
            exact iff_of_true rfl ⟨c, rfl, by simpa using hstarts⟩

theorem startSequencers_length : (startSequencers starts l).1.length = l.length := by
  induction l with
  | nil => rfl
  | cons q l ih =>
      obtain ⟨c, running⟩ := q
      unfold startSequencers
      split
      · exact congrArg (· + 1) ih
      · rfl

theorem FirstFails.not_starts (h : FirstFails starts l) :
    ¬ ∀ q ∈ l, q.2 = true ∨ starts q.1 = true := by
  obtain ⟨c, hfind, hfails⟩ := h
  intro hall
  rcases hall (c, false) (List.mem_of_find?_eq_some hfind) with hruns | hstarts
  · exact nomatch hruns
  · exact nomatch hfails.symm.trans hstarts

/-- When `start` succeeds. -/
def Starts (e : IasAvbTransmitEngine) (starts : IasAvbSrClass → Bool) : Prop :=
  e.mRunning = true ∨ ∀ q ∈ e.mSequencers, q.2 = true ∨ starts q.1 = true

theorem start_streams : (e.start starts).1.mAvbStreams = e.mAvbStreams := by
  unfold start
  split <;> rfl

theorem start_ok : (e.start starts).2 = eIasAvbProcOK ↔ e.Starts starts := by
  unfold start Starts
  split
  · rename_i hruns
    exact iff_of_true rfl (.inl hruns)
  · rename_i hidle
    dsimp only
    rw [← startSequencers_ok]
    split
    · rename_i hall
      exact iff_of_true rfl (.inr hall)
    · rename_i hnot
      exact iff_of_false nofun fun h => h.elim hidle hnot

/-- An engine that was started runs as before only if it did run. -/
theorem start_same_of_ok (hok : e.Starts starts) :
    e.SameRunning (e.start starts).1 ↔ e.mRunning = true := by
  unfold start
  split
  · rename_i hruns
    exact iff_of_true (SameRunning.refl e) hruns
  · rename_i hidle
    refine iff_of_false (fun h => hidle ?_) hidle
    have hall := startSequencers_ok.mpr (hok.resolve_left hidle)
    exact h.running.symm.trans hall

/-- **A start that fails** leaves an engine as it was only if nothing was started. -/
theorem start_same_of_failed (hfail : ¬ e.Starts starts) :
    e.SameRunning (e.start starts).1 ↔ e.mRunning = false ∧ FirstFails starts e.mSequencers := by
  have hidle : e.mRunning = false := by
    cases hruns : e.mRunning with
    | true => exact absurd (.inl hruns) hfail
    | false => rfl
  have hnot : (startSequencers starts e.mSequencers).2 = false := by
    cases hall : (startSequencers starts e.mSequencers).2 with
    | true => exact absurd (.inr (startSequencers_ok.mp hall)) hfail
    | false => rfl
  unfold start
  rw [if_neg (by rw [hidle]; exact nofun)]
  dsimp only
  rw [← startSequencers_same hnot]
  constructor
  · intro h
    exact ⟨hidle, (h.sequencers.eq_of_length startSequencers_length.symm).symm⟩
  · rintro ⟨-, hsame⟩
    refine ⟨hnot.trans hidle.symm, ?_⟩
    show e.mSequencers <+: (startSequencers starts e.mSequencers).1
    exact ⟨[], by rw [List.append_nil, hsame]⟩

end IasAvbTransmitEngine

/-! ## The receive engine -/

/-- `IasAvbReceiveEngine` with its thread. -/
structure IasAvbReceiver where
  engine : IasAvbReceiveEngine := {}
  running : Bool := false

/-- What the steps of a call that creates a receive stream come across. -/
structure ReceiveOutcome where
  /-- Of a new stream object: memory and `initReceive`. -/
  init : IasAvbProcessingResult := eIasAvbProcOK
  bindMcastAddr : Bool := true

namespace IasAvbReceiver

/-- What the call of the engine returned. -/
def returned (w : IasAvbReceiveEngine) : IasAvbProcessingResult :=
  match w.call with
  | .returned result => result
  | _ => eIasAvbProcErr

/-- All of `createReceiveAudioStream`, `createReceiveVideoStream` or
`createReceiveClockReferenceStream`, with no frame coming in between. -/
def createReceiveStream (r : IasAvbReceiver) (streamId : Nat) (destMacAddr : IasAvbMacAddress)
    (o : ReceiveOutcome) : IasAvbReceiver × IasAvbProcessingResult :=
  let w := (((r.engine.setCall (.returned eIasAvbProcOK)).createReceiveStream streamId
    destMacAddr).initReceive o.init).bindMcastAddr o.bindMcastAddr
  ({ r with engine := w }, returned w)

def destroyAvbStream (r : IasAvbReceiver) (streamId : Nat) :
    IasAvbReceiver × IasAvbProcessingResult :=
  let w := (r.engine.setCall (.returned eIasAvbProcOK)).destroyAvbStream streamId
  ({ r with engine := w }, returned w)

/-- `result` tells what the start of the packet reception and of the thread comes to. -/
def start (r : IasAvbReceiver) (result : IasAvbProcessingResult) :
    IasAvbReceiver × IasAvbProcessingResult :=
  if result = eIasAvbProcOK then ({ r with running := true }, eIasAvbProcOK) else (r, result)

def stop (r : IasAvbReceiver) : IasAvbReceiver := { r with running := false }

/-- When a stream is created: its id is free, and all goes well. -/
def Creates (r : IasAvbReceiver) (streamId : Nat) (o : ReceiveOutcome) : Prop :=
  r.engine.index streamId = none ∧ o.init = eIasAvbProcOK ∧ o.bindMcastAddr = true

/-- What a call leaves in the registry, and what it reports. -/
inductive Created (r : IasAvbReceiver) (streamId : Nat) (o : ReceiveOutcome) :
    IasAvbReceiver × IasAvbProcessingResult → Prop
  | refused (r' : IasAvbReceiver) (result : IasAvbProcessingResult) (error : result ≠ eIasAvbProcOK)
      (reason : ¬ r.Creates streamId o) (index : r'.engine.index = r.engine.index)
      (running : r'.running = r.running) : Created r streamId o (r', result)
  | created (r' : IasAvbReceiver) (goes : r.Creates streamId o)
      (index : r'.engine.index
        = Function.update r.engine.index streamId (some r.engine.allocated))
      (running : r'.running = r.running) : Created r streamId o (r', eIasAvbProcOK)

/-- **A stream is created, or nothing is.** -/
theorem createReceiveStream_cases (r : IasAvbReceiver) (streamId : Nat)
    (destMacAddr : IasAvbMacAddress) (o : ReceiveOutcome) :
    Created r streamId o (r.createReceiveStream streamId destMacAddr o) := by
  unfold createReceiveStream
  dsimp only
  cases hid : r.engine.mAvbStreams.lookup streamId with
  | some data =>
      -- the id is taken, so the engine refuses before it does anything
      have hindex := IasAvbReceiveEngine.index_of_lookup hid
      have hcheck : (r.engine.setCall (.returned eIasAvbProcOK)).createReceiveStream streamId
          destMacAddr = r.engine.setCall (.returned eIasAvbProcAlreadyInUse) := by
        unfold IasAvbReceiveEngine.createReceiveStream IasAvbReceiveEngine.checkStreamIdInUse
          IasAvbReceiveEngine.setCall
        dsimp only
        rw [hid]
        rfl
      rw [hcheck]
      exact .refused _ eIasAvbProcAlreadyInUse nofun
        (fun h => nomatch hindex.symm.trans h.1) rfl rfl
  | none =>
      -- the id is free: the stream is initialised, filed and bound, in this order
      have hindex := IasAvbReceiveEngine.index_eq_none.mpr hid
      have hcheck : (r.engine.setCall (.returned eIasAvbProcOK)).createReceiveStream streamId
          destMacAddr = r.engine.setCall (.checked streamId destMacAddr) := by
        unfold IasAvbReceiveEngine.createReceiveStream IasAvbReceiveEngine.checkStreamIdInUse
          IasAvbReceiveEngine.setCall
        dsimp only
        rw [hid]
        rfl
      rw [hcheck]
      by_cases hinit : o.init = eIasAvbProcOK
      swap
      · have hcall : (r.engine.setCall (.checked streamId destMacAddr)).initReceive o.init
            = r.engine.setCall (.returned o.init) := if_neg hinit
        rw [hcall]
        exact .refused _ o.init hinit (fun h => hinit h.2.1) rfl rfl
      have hadd : (r.engine.setCall (.checked streamId destMacAddr)).initReceive o.init
          = (r.engine.addStream streamId destMacAddr).setCall
            (.added streamId r.engine.allocated) := if_pos hinit
      have hfiled := r.engine.index_addStream streamId destMacAddr
      rw [hadd]
      cases hbind : o.bindMcastAddr with
      | true => exact .created _ ⟨hindex, hinit, hbind⟩ hfiled rfl
      | false =>
          -- the address cannot be bound, so the stream that was filed is removed again
          have hlookup : (r.engine.addStream streamId destMacAddr).mAvbStreams.lookup streamId
              = some { stream := r.engine.allocated, lastState := .eIasAvbStreamInactive } :=
            AList.lookup_insert _
          unfold IasAvbReceiveEngine.bindMcastAddr IasAvbReceiveEngine.setCall
          dsimp only
          rw [if_neg nofun, hlookup]
          refine .refused _ eIasAvbProcErr nofun (fun h => nomatch hbind.symm.trans h.2.2) ?_ rfl
          show ((r.engine.addStream streamId destMacAddr).remove streamId r.engine.allocated).index = _
          rw [IasAvbReceiveEngine.index_remove, hfiled, Function.update_idem, ← hindex,
            Function.update_eq_self]

end IasAvbReceiver

end AvbStreamHandler
