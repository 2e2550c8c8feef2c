import AvbStreamHandler.Transmit.Engine
import Mathlib.Algebra.BigOperators.Group.List.Basic
import Mathlib.Algebra.GroupWithZero.Nat

/-!
# The account of the transmit engine

What a user of the engine counts on between calls is `Accounted`: a stream is active
exactly if its sequencer serves it, and the running sums are the sums over the streams
served. During a call, and during a reset by the sequencer thread, none of this holds as
it stands.

The invariant says what holds instead, seen from one stream at a time. A `View` is all
that the engine knows about a stream; `View.Ok` is a table with a row for each phase a
call about that stream can be in. A step changes the view of one stream, or the same
field in all of them, so that each step needs one look at the table.

The table is closed under every step but two. A call that looks at the active flag while
the sequencer has the stream deactivated for a moment takes it for inactive: an activation
then counts the stream a second time, a destruction deletes it while it is still served.
`CheckOk` excludes exactly these.
-/

namespace AvbStreamHandler

open Kit Kit.Run Kit.Word

/-! ## What the engine knows about one stream -/

/-- Is the stream deactivated by a reset of the sequencer thread at this moment? -/
def SequencerPc.resets : SequencerPc → Nat → Bool
  | .resetting t, s => decide (t = s)
  | .restartingStream t _, s => decide (t = s)
  | _, _ => false

structure View where
  /-- In the set of its sequencer. -/
  inSet : Bool
  /-- In the sequence of its sequencer. -/
  inSequence : Bool
  /-- Deactivated by a reset at this moment. -/
  inReset : Bool
  /-- The sequencer holds its lock. -/
  locked : Bool
  isActive : Bool
  /-- In the engine's map. -/
  listed : Bool
  /-- Where the call about this stream is, if there is one. -/
  phase : Option ApiPhase

/-- What holds for a stream that no call changes. -/
structure View.Settled (v : View) : Prop where
  sequence : v.inSequence = true → v.inSet = true
  active : v.isActive = true → v.inSet = true
  set : v.inSet = true → v.inReset = false → v.isActive = true
  listed : v.inSet = true → v.listed = true

/-- **The table**: what holds for a stream in each phase of a call about it. -/
def View.Row (v : View) : Option ApiPhase → Prop
  | none => v.Settled
  | some .activating => v.Settled ∧ v.listed = true
  | some .admitted =>
      v.listed = true ∧ v.inSet = false ∧ v.inSequence = false ∧ v.isActive = false
  | some .inserted => v.listed = true ∧ v.inSet = true
  | some .requested => v.listed = true ∧ v.inSet = true
  | some .deactivating =>
      v.listed = true ∧ v.inSet = true ∧ (v.inReset = false → v.isActive = true)
  | some .removing => v.listed = true ∧ v.inSet = true
  | some .erased => v.listed = true ∧ v.inSet = false
  | some .waiting => v.listed = true ∧ v.inSet = false
  | some .timedOut => v.listed = true ∧ v.inSet = false
  | some .restored => v.listed = true ∧ v.inSet = true
  | some .failed => v.listed = true ∧ v.inSet = true
  | some .confirmed => v.listed = true ∧ v.inSet = false ∧ v.inSequence = false
  | some .accounted => v.listed = true ∧ v.inSet = false ∧ v.inSequence = false
  | some .deleting =>
      v.listed = true ∧ v.inSet = false ∧ v.inSequence = false ∧ v.isActive = false

structure View.Ok (v : View) : Prop where
  /-- The service loop resets streams of the sequence, the restart loop streams of the
  set. -/
  reset : v.inReset = true → if v.locked then v.inSet = true else v.inSequence = true
  row : v.Row v.phase

/-! ## The table is closed -/

theorem View.Ok.goto {v : View} (h : v.Ok) {p : Option ApiPhase} (hrow : v.Row p) :
    ({ v with phase := p } : View).Ok := by
  refine ⟨h.reset, ?_⟩
  -- a row does not look at the phase
  cases p with
  | none => exact ⟨hrow.sequence, hrow.active, hrow.set, hrow.listed⟩
  | some p =>
      cases p with
      | activating =>
          exact ⟨⟨hrow.1.sequence, hrow.1.active, hrow.1.set, hrow.1.listed⟩, hrow.2⟩
      | _ => exact hrow

theorem View.Ok.intoSet {v : View} (h : v.Ok) {p : ApiPhase}
    (hrow : ({ v with inSet := true, phase := some p } : View).Row (some p)) :
    ({ v with inSet := true, phase := some p } : View).Ok := by
  refine ⟨?_, hrow⟩
  intro hr
  have hreset := h.reset hr
  dsimp only
  split
  · rfl
  · rename_i hl
    rw [if_neg hl] at hreset
    exact hreset

theorem View.Ok.outOfSet {v : View} (h : v.Ok) (hlock : v.locked = false)
    (hlisted : v.listed = true) :
    ({ v with inSet := false, phase := some .erased } : View).Ok := by
  refine ⟨?_, hlisted, rfl⟩
  intro hr
  have hreset := h.reset hr
  dsimp only
  rw [hlock] at hreset ⊢
  exact hreset

/-- A stream of the set that is active is settled. -/
theorem View.Ok.activate {v : View} (h : v.Ok) (hset : v.inSet = true)
    (hlisted : v.listed = true) : ({ v with isActive := true, phase := none } : View).Ok :=
  ⟨h.reset, fun _ => hset, fun _ => hset, fun _ _ => rfl, fun _ => hlisted⟩

namespace TxEngine

variable (spec : TxSpec)

/-- The phase of a call about the stream `s`. -/
def phaseOf (s : Nat) : Option ApiCall → Option ApiPhase
  | none => none
  | some call => if call.stream = s then some call.phase else none

/-- The view of the stream `s`. -/
def view (e : TxEngine) (s : Nat) : View where
  inSet := decide (s ∈ (e.getSequencerByStream spec s).mActiveStreams)
  inSequence := decide (s ∈ (e.getSequencerByStream spec s).mSequence)
  inReset := (e.getSequencerByStream spec s).pc.resets s
  locked := (e.getSequencerByStream spec s).locked
  isActive := e.mActive s
  listed := e.mAvbStreams s
  phase := phaseOf s e.api

/-! ## The invariant -/

/-- The streams of the restart loop are streams of the set. -/
def PcOk (q : SequencerAccount) : Prop :=
  match q.pc with
  | .restarting todo => ∀ s ∈ todo, s ∈ q.mActiveStreams
  | .restartingStream _ todo => ∀ s ∈ todo, s ∈ q.mActiveStreams
  | _ => True

/-- What holds for the sequencer of class `c`. -/
structure SequencerOk (c : IasAvbSrClass) (q : SequencerAccount) : Prop where
  nodup : q.mActiveStreams.Nodup
  set : ∀ s ∈ q.mActiveStreams, spec.getClass s = c
  sequence : ∀ s ∈ q.mSequence, spec.getClass s = c
  pc : PcOk q
  resets : ∀ s, q.pc.resets s = true → spec.getClass s = c
  /-- No request is answered before it is made. -/
  answered : q.mResponseCount ≤ q.mRequestCount
  /-- A reconciliation answers a request that was made. -/
  answering : q.pc = .reconciled → q.mResponseCount + 1 ≤ q.mRequestCount
  stopped : q.running = false → q.mSequence = [] ∧ q.pc = .idle

/-- A removed stream that is still in the sequence has a request of its own open. -/
def Pending (s : Nat) (q : SequencerAccount) : Prop :=
  s ∈ q.mSequence → q.mResponseCount < q.mRequestCount ∧
    (q.pc = .reconciled → q.mResponseCount + 1 < q.mRequestCount)

/-- The stream of a call that is in the sums and not in the set. -/
def owed (c : IasAvbSrClass) (f : Nat → Nat) : Option ApiCall → Nat
  | none => 0
  | some call =>
      if spec.getClass call.stream = c ∧
          call.phase ∈ [.admitted, .erased, .waiting, .timedOut, .confirmed] then
        f call.stream
      else 0

/-- The sum of `f` over a set of streams. -/
def sumOver (f : Nat → Nat) (l : List Nat) : Nat := (l.map f).sum

/-- The running sums, which stay below what their registers can hold. -/
structure SumsOk (e : TxEngine) (c : IasAvbSrClass) : Prop where
  bandwidth : (e.sequencer c).mCurrentBandwidth =
    sumOver spec.getRequiredBandwidth (e.sequencer c).mActiveStreams +
      owed spec c spec.getRequiredBandwidth e.api
  frames : (e.sequencer c).mCurrentMaxIntervalFrames =
    sumOver spec.getMaxIntervalFrames (e.sequencer c).mActiveStreams +
      owed spec c spec.getMaxIntervalFrames e.api
  bandwidth_lt : (e.sequencer c).mCurrentBandwidth < 4294967296
  frames_lt : (e.sequencer c).mCurrentMaxIntervalFrames < 4294967296

/-- **The invariant** of the engine and its sequencer threads. -/
structure Inv (e : TxEngine) : Prop where
  sequencers : ∀ c, SequencerOk spec c (e.sequencer c)
  sums : ∀ c, SumsOk spec e c
  views : ∀ s, (e.view spec s).Ok
  pending : ∀ call, e.api = some call → call.phase = .waiting →
    Pending call.stream (e.getSequencerByStream spec call.stream)

theorem inv_init : Inv spec {} where
  sequencers c :=
    ⟨List.nodup_nil, by simp, by simp, trivial, by simp [SequencerPc.resets], by simp, by simp,
      fun _ => ⟨rfl, rfl⟩⟩
  sums c := ⟨rfl, rfl, Nat.zero_lt_succ _, Nat.zero_lt_succ _⟩
  views s := by
    refine ⟨by simp [view, getSequencerByStream, SequencerPc.resets], ?_⟩
    exact ⟨by simp [view, getSequencerByStream], by simp [view],
      by simp [view, getSequencerByStream], by simp [view]⟩
  pending call h := by simp at h

/-! ## What a step of a call may touch -/

variable {spec} {e e' : TxEngine} {c : IasAvbSrClass} {s t : Nat} {call : ApiCall}

@[simp] theorem sequencer_updateSequencer_self (f : SequencerAccount → SequencerAccount) :
    (e.updateSequencer c f).sequencer c = f (e.sequencer c) := Function.update_self ..

theorem sequencer_updateSequencer_ne {c' : IasAvbSrClass} (h : c' ≠ c)
    (f : SequencerAccount → SequencerAccount) :
    (e.updateSequencer c f).sequencer c' = e.sequencer c' := Function.update_of_ne h ..

/-- A step of a call about `t` only touches what concerns `t`. -/
structure Frame (spec : TxSpec) (t : Nat) (e e' : TxEngine) : Prop where
  others : ∀ c, c ≠ spec.getClass t → e'.sequencer c = e.sequencer c
  active : ∀ s, s ≠ t → e'.mActive s = e.mActive s
  listed : ∀ s, s ≠ t → e'.mAvbStreams s = e.mAvbStreams s
  set : ∀ s, s ≠ t → (s ∈ (e'.getSequencerByStream spec t).mActiveStreams ↔
    s ∈ (e.getSequencerByStream spec t).mActiveStreams)
  sequence : (e'.getSequencerByStream spec t).mSequence =
    (e.getSequencerByStream spec t).mSequence
  pc : (e'.getSequencerByStream spec t).pc = (e.getSequencerByStream spec t).pc
  /-- The call in progress is about `t`, before and after. -/
  call : ∀ call, e.api = some call ∨ e'.api = some call → call.stream = t

theorem Frame.phaseOf_ne (h : Frame spec t e e') (hs : s ≠ t) :
    phaseOf s e.api = none ∧ phaseOf s e'.api = none := by
  have key : ∀ a : Option ApiCall, (∀ call, a = some call → call.stream = t) →
      phaseOf s a = none := by
    intro a ha
    cases a with
    | none => rfl
    | some call =>
        unfold phaseOf
        dsimp only
        rw [if_neg]
        rw [ha call rfl]
        exact fun h => hs h.symm
  exact ⟨key _ fun call hc => h.call call (Or.inl hc), key _ fun call hc => h.call call (Or.inr hc)⟩

theorem Frame.view_ne (h : Frame spec t e e') (hs : s ≠ t) : e'.view spec s = e.view spec s := by
  have hp := h.phaseOf_ne hs
  unfold view
  rw [hp.1, hp.2, h.active s hs, h.listed s hs]
  by_cases hc : spec.getClass s = spec.getClass t
  · have hq : e'.getSequencerByStream spec s = e'.getSequencerByStream spec t := by
      unfold getSequencerByStream
      rw [hc]
    have hq' : e.getSequencerByStream spec s = e.getSequencerByStream spec t := by
      unfold getSequencerByStream
      rw [hc]
    have hlock : (e'.getSequencerByStream spec t).locked =
        (e.getSequencerByStream spec t).locked := by
      unfold SequencerAccount.locked
      rw [h.pc]
    rw [hq, hq', hlock, h.sequence, h.pc]
    simp only [h.set s hs]
  · unfold getSequencerByStream
    rw [h.others _ hc]

theorem Frame.owed_ne (h : Frame spec t e e') (hc : c ≠ spec.getClass t) (f : Nat → Nat) :
    owed spec c f e'.api = owed spec c f e.api := by
  have key : ∀ a : Option ApiCall, (∀ call, a = some call → call.stream = t) →
      owed spec c f a = 0 := by
    intro a ha
    cases a with
    | none => rfl
    | some call =>
        unfold owed
        dsimp only
        rw [if_neg]
        rw [ha call rfl]
        exact fun h => hc h.1.symm
  rw [key _ fun call hc => h.call call (Or.inl hc), key _ fun call hc => h.call call (Or.inr hc)]

/-- **The step rule for calls**: only what concerns the call's stream is left to show. -/
theorem Inv.of_frame (h : Inv spec e) (hf : Frame spec t e e')
    (hok : SequencerOk spec (spec.getClass t) (e'.getSequencerByStream spec t))
    (hsums : SumsOk spec e' (spec.getClass t)) (hview : (e'.view spec t).Ok)
    (hpending : phaseOf t e'.api = some .waiting → Pending t (e'.getSequencerByStream spec t)) :
    Inv spec e' where
  sequencers c := by
    by_cases hc : c = spec.getClass t
    · subst hc
      exact hok
    · rw [hf.others c hc]
      exact h.sequencers c
  sums c := by
    by_cases hc : c = spec.getClass t
    · subst hc
      exact hsums
    · have hs := h.sums c
      refine ⟨?_, ?_, ?_, ?_⟩
      · rw [hf.others c hc, hf.owed_ne hc]
        exact hs.bandwidth
      · rw [hf.others c hc, hf.owed_ne hc]
        exact hs.frames
      · rw [hf.others c hc]
        exact hs.bandwidth_lt
      · rw [hf.others c hc]
        exact hs.frames_lt
  views s := by
    by_cases hs : s = t
    · subst hs
      exact hview
    · rw [hf.view_ne hs]
      exact h.views s
  pending call hcall hphase := by
    have ht := hf.call call (Or.inr hcall)
    rw [ht]
    refine hpending ?_
    unfold phaseOf
    rw [hcall]
    dsimp only
    rw [if_pos ht, hphase]

/-! ## The steps of a call -/

/-- A change of the sequencer that leaves the thread's own data alone. -/
structure ApiChange (t : Nat) (f : SequencerAccount → SequencerAccount) (q : SequencerAccount) :
    Prop where
  set : ∀ s, s ≠ t → (s ∈ (f q).mActiveStreams ↔ s ∈ q.mActiveStreams)
  sequence : (f q).mSequence = q.mSequence
  pc : (f q).pc = q.pc

theorem apiChange_insert (q : SequencerAccount) : ApiChange t (·.insert t) q where
  set s hs := by
    unfold SequencerAccount.insert
    dsimp only
    split
    · exact Iff.rfl
    · simp only [List.mem_orderedInsert, hs, false_or]
  sequence := rfl
  pc := rfl

theorem apiChange_erase (q : SequencerAccount) : ApiChange t (·.erase t) q where
  set _ hs := List.mem_erase_of_ne hs
  sequence := rfl
  pc := rfl

theorem apiChange_of_same {f : SequencerAccount → SequencerAccount} {q : SequencerAccount}
    (hset : (f q).mActiveStreams = q.mActiveStreams) (hseq : (f q).mSequence = q.mSequence)
    (hpc : (f q).pc = q.pc) : ApiChange t f q :=
  ⟨fun s _ => by rw [hset], hseq, hpc⟩

/-- A call that goes on is about the same stream. -/
theorem call_of_goto (hcall : e.api = some call) {a : Option ApiCall}
    (ha : ∀ call', a = some call' → call'.stream = call.stream) :
    ∀ call', e.api = some call' ∨ a = some call' → call'.stream = call.stream := by
  intro call' h
  rcases h with h | h
  · rw [hcall] at h
    rw [Option.some.inj h]
  · exact ha call' h

theorem goto_stream (phase : ApiPhase) : ∀ call',
    some { call with phase := phase } = some call' → call'.stream = call.stream := by
  intro call' h
  rw [← Option.some.inj h]

theorem none_stream : ∀ call', (none : Option ApiCall) = some call' →
    call'.stream = call.stream := by
  intro call' h
  exact absurd h (by simp)

theorem frame_update (hcall : e.api = some call) {f : SequencerAccount → SequencerAccount}
    (hf : ApiChange call.stream f (e.getSequencerByStream spec call.stream))
    {a : Option ApiCall} (ha : ∀ call', a = some call' → call'.stream = call.stream) :
    Frame spec call.stream e
      { e.updateSequencer (spec.getClass call.stream) f with api := a } where
  others c hc := sequencer_updateSequencer_ne hc f
  active _ _ := rfl
  listed _ _ := rfl
  set s hs := by
    show s ∈ ((e.updateSequencer (spec.getClass call.stream) f).sequencer _).mActiveStreams ↔ _
    rw [sequencer_updateSequencer_self]
    exact hf.set s hs
  sequence := by
    show ((e.updateSequencer (spec.getClass call.stream) f).sequencer _).mSequence = _
    rw [sequencer_updateSequencer_self]
    exact hf.sequence
  pc := by
    show ((e.updateSequencer (spec.getClass call.stream) f).sequencer _).pc = _
    rw [sequencer_updateSequencer_self]
    exact hf.pc
  call := call_of_goto hcall ha

theorem frame_active (hcall : e.api = some call) (b : Bool) {a : Option ApiCall}
    (ha : ∀ call', a = some call' → call'.stream = call.stream) :
    Frame spec call.stream e { e.setActive call.stream b with api := a } where
  others _ _ := rfl
  active _ hs := Function.update_of_ne hs ..
  listed _ _ := rfl
  set _ _ := Iff.rfl
  sequence := rfl
  pc := rfl
  call := call_of_goto hcall ha

theorem frame_api (hcall : e.api = some call) {a : Option ApiCall}
    (ha : ∀ call', a = some call' → call'.stream = call.stream) :
    Frame spec call.stream e { e with api := a } where
  others _ _ := rfl
  active _ _ := rfl
  listed _ _ := rfl
  set _ _ := Iff.rfl
  sequence := rfl
  pc := rfl
  call := call_of_goto hcall ha

theorem view_update {f : SequencerAccount → SequencerAccount} {a : Option ApiCall}
    (hf : ApiChange t f (e.getSequencerByStream spec t)) :
    ({ e.updateSequencer (spec.getClass t) f with api := a } : TxEngine).view spec t =
      { e.view spec t with
        inSet := decide (t ∈ (f (e.getSequencerByStream spec t)).mActiveStreams)
        phase := phaseOf t a } := by
  have hq : ({ e.updateSequencer (spec.getClass t) f with api := a } :
      TxEngine).getSequencerByStream spec t = f (e.getSequencerByStream spec t) :=
    sequencer_updateSequencer_self f
  have hlock : (f (e.getSequencerByStream spec t)).locked =
      (e.getSequencerByStream spec t).locked := by
    unfold SequencerAccount.locked
    rw [hf.pc]
  unfold view
  rw [hq, hf.sequence, hf.pc, hlock]
  rfl

theorem view_active (b : Bool) (a : Option ApiCall) :
    ({ e.setActive t b with api := a } : TxEngine).view spec t =
      { e.view spec t with isActive := b, phase := phaseOf t a } := by
  unfold view setActive
  dsimp only
  rw [Function.update_self]
  rfl

theorem phaseOf_self (h : e.api = some call) : phaseOf call.stream e.api = some call.phase := by
  rw [h]
  exact if_pos rfl

/-- The row of the stream a call is about. -/
theorem Inv.row (h : Inv spec e) (hcall : e.api = some call) :
    (e.view spec call.stream).Row (some call.phase) := by
  have hrow := (h.views call.stream).row
  have hphase : (e.view spec call.stream).phase = some call.phase := phaseOf_self hcall
  rw [hphase] at hrow
  exact hrow

theorem SequencerOk.request {q : SequencerAccount} (h : SequencerOk spec c q) :
    SequencerOk spec c q.request where
  nodup := h.nodup
  set := h.set
  sequence := h.sequence
  pc := h.pc
  resets := h.resets
  answered := by
    have := h.answered
    show q.mResponseCount ≤ q.mRequestCount + 1
    omega
  answering hpc := by
    have := h.answering hpc
    show q.mResponseCount + 1 ≤ q.mRequestCount + 1
    omega
  stopped := h.stopped

theorem SequencerOk.addSums {q : SequencerAccount} (h : SequencerOk spec c q) (s : Nat) :
    SequencerOk spec c (q.addSums spec s) :=
  ⟨h.nodup, h.set, h.sequence, h.pc, h.resets, h.answered, h.answering, h.stopped⟩

theorem SequencerOk.subSums {q : SequencerAccount} (h : SequencerOk spec c q) (s : Nat) :
    SequencerOk spec c (q.subSums spec s) :=
  ⟨h.nodup, h.set, h.sequence, h.pc, h.resets, h.answered, h.answering, h.stopped⟩

theorem pcOk_of_unlocked {q : SequencerAccount} (h : q.locked = false) : PcOk q := by
  unfold SequencerAccount.locked at h
  unfold PcOk
  split <;> simp_all

theorem SequencerOk.insert {q : SequencerAccount} (h : SequencerOk spec c q)
    (hclass : spec.getClass s = c) (hlock : q.locked = false) :
    SequencerOk spec c (q.insert s) where
  nodup := by
    unfold SequencerAccount.insert
    dsimp only
    split
    · exact h.nodup
    · rename_i hs
      exact (List.perm_orderedInsert (· ≤ ·) s q.mActiveStreams).nodup_iff.mpr
        (List.nodup_cons.mpr ⟨hs, h.nodup⟩)
  set u hu := by
    by_cases hus : u = s
    · rw [hus]
      exact hclass
    · exact h.set u (((apiChange_insert q).set u hus).mp hu)
  sequence := h.sequence
  pc := pcOk_of_unlocked hlock
  resets := h.resets
  answered := h.answered
  answering := h.answering
  stopped := h.stopped

theorem SequencerOk.erase {q : SequencerAccount} (h : SequencerOk spec c q)
    (hlock : q.locked = false) : SequencerOk spec c (q.erase s) where
  nodup := h.nodup.erase s
  set u hu := h.set u (List.mem_of_mem_erase hu)
  sequence := h.sequence
  pc := pcOk_of_unlocked hlock
  resets := h.resets
  answered := h.answered
  answering := h.answering
  stopped := h.stopped

/-! ## The sums during a call -/

theorem owed_self (f : Nat → Nat) : owed spec (spec.getClass call.stream) f (some call) =
    if call.phase ∈ [.admitted, .erased, .waiting, .timedOut, .confirmed] then f call.stream
    else 0 := by
  unfold owed
  simp only [true_and]

theorem sumOver_insert (f : Nat → Nat) {q : SequencerAccount} (hs : s ∉ q.mActiveStreams) :
    sumOver f (q.insert s).mActiveStreams = sumOver f q.mActiveStreams + f s := by
  unfold sumOver SequencerAccount.insert
  dsimp only
  rw [if_neg hs, ((List.perm_orderedInsert (· ≤ ·) s q.mActiveStreams).map f).sum_nat,
    List.map_cons, List.sum_cons, Nat.add_comm]

theorem sumOver_erase (f : Nat → Nat) {q : SequencerAccount} (hs : s ∈ q.mActiveStreams) :
    sumOver f (q.erase s).mActiveStreams + f s = sumOver f q.mActiveStreams := by
  unfold sumOver SequencerAccount.erase
  dsimp only
  rw [((List.perm_cons_erase hs).map f).sum_nat, List.map_cons, List.sum_cons, Nat.add_comm]

/-- Nothing the sums depend on changed. -/
theorem SumsOk.congr (h : SumsOk spec e c)
    (hbw : (e'.sequencer c).mCurrentBandwidth = (e.sequencer c).mCurrentBandwidth)
    (hfr : (e'.sequencer c).mCurrentMaxIntervalFrames =
      (e.sequencer c).mCurrentMaxIntervalFrames)
    (hset : (e'.sequencer c).mActiveStreams = (e.sequencer c).mActiveStreams)
    (howed : ∀ f, owed spec c f e'.api = owed spec c f e.api) : SumsOk spec e' c := by
  refine ⟨?_, ?_, ?_, ?_⟩
  · rw [hbw, hset, howed]
    exact h.bandwidth
  · rw [hfr, hset, howed]
    exact h.frames
  · rw [hbw]
    exact h.bandwidth_lt
  · rw [hfr]
    exact h.frames_lt

/-- The set and what is owed change against each other. -/
theorem SumsOk.exchange (h : SumsOk spec e c)
    (hbw : (e'.sequencer c).mCurrentBandwidth = (e.sequencer c).mCurrentBandwidth)
    (hfr : (e'.sequencer c).mCurrentMaxIntervalFrames =
      (e.sequencer c).mCurrentMaxIntervalFrames)
    (hsum : ∀ f, sumOver f (e'.sequencer c).mActiveStreams + owed spec c f e'.api =
      sumOver f (e.sequencer c).mActiveStreams + owed spec c f e.api) : SumsOk spec e' c := by
  refine ⟨?_, ?_, ?_, ?_⟩
  · rw [hbw, hsum]
    exact h.bandwidth
  · rw [hfr, hsum]
    exact h.frames
  · rw [hbw]
    exact h.bandwidth_lt
  · rw [hfr]
    exact h.frames_lt

/-! ## Every step of a call keeps the invariant -/

theorem Inv.sumsOk (h : Inv spec e) (t : Nat) : SumsOk spec e (spec.getClass t) := h.sums _

theorem Inv.sequencerOk (h : Inv spec e) (t : Nat) :
    SequencerOk spec (spec.getClass t) (e.getSequencerByStream spec t) := h.sequencers _

/-- A step that only moves the call on. -/
theorem inv_goto (h : Inv spec e) (hcall : e.api = some call) {a : Option ApiCall}
    (ha : ∀ call', a = some call' → call'.stream = call.stream)
    (howed : ∀ f, owed spec (spec.getClass call.stream) f a =
      owed spec (spec.getClass call.stream) f e.api)
    (hrow : (e.view spec call.stream).Row (phaseOf call.stream a))
    (hphase : phaseOf call.stream a ≠ some .waiting) : Inv spec { e with api := a } := by
  refine h.of_frame (frame_api hcall ha) (h.sequencerOk _)
    ((h.sumsOk call.stream).congr rfl rfl rfl howed) ?_ (fun hw => absurd hw hphase)
  exact (h.views call.stream).goto hrow

end TxEngine

end AvbStreamHandler
