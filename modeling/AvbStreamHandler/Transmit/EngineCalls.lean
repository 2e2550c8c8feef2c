import AvbStreamHandler.Transmit.EngineAccount

/-!
# The calls of the transmit engine keep the account

The step lemmas for API calls: one for each kind of step a call takes, and one for each
way a call begins. A step only touches what concerns the call's stream, so that each lemma
is the step rule of `Transmit/EngineAccount.lean` with one row of the table.
-/

namespace AvbStreamHandler.TxEngine

open Kit Kit.Run Kit.Word

variable {spec : TxSpec} {e : TxEngine} {c : IasAvbSrClass} {s t : Nat} {call : ApiCall}

/-! ## What a call owes -/

/-- What a call owes in a phase. -/
theorem owed_phase (call : ApiCall) (p : ApiPhase) (f : Nat → Nat) :
    owed spec (spec.getClass call.stream) f (some { call with phase := p })
      = if p ∈ [.admitted, .erased, .waiting, .timedOut, .confirmed] then f call.stream else 0 :=
  @owed_self spec { call with phase := p } f

/-- Two phases that owe the same. -/
theorem owed_goto (hcall : e.api = some call) {p p' : ApiPhase} (hphase : call.phase = p')
    (hp : decide (p ∈ [ApiPhase.admitted, .erased, .waiting, .timedOut, .confirmed])
      = decide (p' ∈ [ApiPhase.admitted, .erased, .waiting, .timedOut, .confirmed]))
    (f : Nat → Nat) :
    owed spec (spec.getClass call.stream) f (some { call with phase := p })
      = owed spec (spec.getClass call.stream) f e.api := by
  rw [owed_phase, hcall, owed_self, hphase]
  exact if_congr (decide_eq_decide.mp hp) rfl rfl

/-- The last phase of a call owes nothing. -/
theorem owed_end (hcall : e.api = some call) {p : ApiPhase} (hphase : call.phase = p)
    (hp : decide (p ∈ [ApiPhase.admitted, .erased, .waiting, .timedOut, .confirmed]) = false)
    (f : Nat → Nat) :
    owed spec (spec.getClass call.stream) f none
      = owed spec (spec.getClass call.stream) f e.api := by
  rw [hcall, owed_self, hphase, if_neg (of_decide_eq_false hp)]
  rfl

/-- The sums take in the stream, which the call owes from then on. -/
theorem SumsOk.addSums {e' : TxEngine} (h : SumsOk spec e (spec.getClass s))
    (hq : e'.sequencer (spec.getClass s) = (e.sequencer (spec.getClass s)).addSums spec s)
    (hbwfit : (e.sequencer (spec.getClass s)).mCurrentBandwidth
      + spec.getRequiredBandwidth s < 4294967296)
    (hfrfit : (e.sequencer (spec.getClass s)).mCurrentMaxIntervalFrames
      + spec.getMaxIntervalFrames s < 4294967296)
    (howed : ∀ f, owed spec (spec.getClass s) f e.api = 0)
    (howed' : ∀ f, owed spec (spec.getClass s) f e'.api = f s) :
    SumsOk spec e' (spec.getClass s) := by
  have hbw := h.bandwidth
  have hfr := h.frames
  rw [howed, Nat.add_zero] at hbw hfr
  refine ⟨?_, ?_, ?_, ?_⟩
  · rw [howed', hq]
    show add32 (e.sequencer (spec.getClass s)).mCurrentBandwidth _
      = sumOver _ (e.sequencer (spec.getClass s)).mActiveStreams + _
    rw [add32_of_lt hbwfit, hbw]
  · rw [howed', hq]
    show add32 (e.sequencer (spec.getClass s)).mCurrentMaxIntervalFrames _
      = sumOver _ (e.sequencer (spec.getClass s)).mActiveStreams + _
    rw [add32_of_lt hfrfit, hfr]
  · rw [hq]
    exact Nat.mod_lt _ (by decide)
  · rw [hq]
    exact Nat.mod_lt _ (by decide)

/-- The sums let go of the stream, which the call owes no longer. -/
theorem SumsOk.subSums {e' : TxEngine} (h : SumsOk spec e (spec.getClass s))
    (hq : e'.sequencer (spec.getClass s) = (e.sequencer (spec.getClass s)).subSums spec s)
    (howed : ∀ f, owed spec (spec.getClass s) f e.api = f s)
    (howed' : ∀ f, owed spec (spec.getClass s) f e'.api = 0) :
    SumsOk spec e' (spec.getClass s) := by
  have hbw := h.bandwidth
  have hfr := h.frames
  rw [howed] at hbw hfr
  have hbwlt := h.bandwidth_lt
  have hfrlt := h.frames_lt
  refine ⟨?_, ?_, ?_, ?_⟩
  · rw [howed', hq]
    show sub32 (e.sequencer (spec.getClass s)).mCurrentBandwidth _
      = sumOver _ (e.sequencer (spec.getClass s)).mActiveStreams + 0
    rw [sub32_of_le (by omega) hbwlt]
    omega
  · rw [howed', hq]
    show sub32 (e.sequencer (spec.getClass s)).mCurrentMaxIntervalFrames _
      = sumOver _ (e.sequencer (spec.getClass s)).mActiveStreams + 0
    rw [sub32_of_le (by omega) hfrlt]
    omega
  · rw [hq]
    exact Nat.mod_lt _ (by decide)
  · rw [hq]
    exact Nat.mod_lt _ (by decide)

/-! ## Steps of a call -/

theorem inv_setActive (h : Inv spec e) (hcall : e.api = some call) (b : Bool)
    {a : Option ApiCall} (ha : ∀ call', a = some call' → call'.stream = call.stream)
    (howed : ∀ f, owed spec (spec.getClass call.stream) f a =
      owed spec (spec.getClass call.stream) f e.api)
    (hview : ({ e.view spec call.stream with
      isActive := b, phase := phaseOf call.stream a } : View).Ok)
    (hphase : phaseOf call.stream a ≠ some .waiting) :
    Inv spec { e.setActive call.stream b with api := a } := by
  refine h.of_frame (frame_active hcall b ha) (h.sequencerOk _)
    ((h.sumsOk call.stream).congr rfl rfl rfl howed) ?_ (fun hw => absurd hw hphase)
  rw [view_active]
  exact hview

/-- A request leaves everything as it is but the counter. -/
theorem inv_request (h : Inv spec e) (hcall : e.api = some call) {p : ApiPhase}
    (howed : ∀ f, owed spec (spec.getClass call.stream) f (some { call with phase := p }) =
      owed spec (spec.getClass call.stream) f e.api)
    (hrow : (e.view spec call.stream).Row (some p)) :
    Inv spec { e.updateSequencer (spec.getClass call.stream) (·.request) with
      api := some { call with phase := p } } := by
  have hchange : ApiChange call.stream (·.request) (e.getSequencerByStream spec call.stream) :=
    apiChange_of_same rfl rfl rfl
  have hq : ({ e.updateSequencer (spec.getClass call.stream) (·.request) with
      api := some { call with phase := p } } : TxEngine).getSequencerByStream spec call.stream =
        (e.getSequencerByStream spec call.stream).request :=
    Function.update_self ..
  refine h.of_frame (frame_update hcall hchange (goto_stream p)) ?_ ?_ ?_ ?_
  · rw [hq]
    exact (h.sequencerOk _).request
  · refine (h.sumsOk call.stream).congr ?_ ?_ ?_ howed
    · exact (congrArg SequencerAccount.mCurrentBandwidth hq :)
    · exact (congrArg SequencerAccount.mCurrentMaxIntervalFrames hq :)
    · exact (congrArg SequencerAccount.mActiveStreams hq :)
  · rw [view_update hchange]
    have hp : phaseOf call.stream (some { call with phase := p }) = some p := if_pos rfl
    rw [hp]
    exact (h.views call.stream).goto hrow
  · intro _
    rw [hq]
    intro _
    have hans := (h.sequencerOk call.stream).answered
    refine ⟨?_, ?_⟩
    · show (e.getSequencerByStream spec call.stream).mResponseCount <
        (e.getSequencerByStream spec call.stream).mRequestCount + 1
      omega
    · intro hpc
      have := (h.sequencerOk call.stream).answering hpc
      show (e.getSequencerByStream spec call.stream).mResponseCount + 1 <
        (e.getSequencerByStream spec call.stream).mRequestCount + 1
      omega

/-- The sums take in a stream that is not in the set. -/
theorem inv_admit (h : Inv spec e) (hcall : e.api = some call)
    (hphase : call.phase = .activating)
    (hnew : call.stream ∉ (e.getSequencerByStream spec call.stream).mActiveStreams)
    (hbwfit : (e.getSequencerByStream spec call.stream).mCurrentBandwidth +
      spec.getRequiredBandwidth call.stream < 4294967296)
    (hfrfit : (e.getSequencerByStream spec call.stream).mCurrentMaxIntervalFrames +
      spec.getMaxIntervalFrames call.stream < 4294967296) :
    Inv spec { e.updateSequencer (spec.getClass call.stream) (·.addSums spec call.stream) with
      api := some { call with phase := .admitted } } := by
  have hchange : ApiChange call.stream (·.addSums spec call.stream)
      (e.getSequencerByStream spec call.stream) := apiChange_of_same rfl rfl rfl
  have hq : ({ e.updateSequencer (spec.getClass call.stream) (·.addSums spec call.stream) with
      api := some { call with phase := .admitted } } : TxEngine).getSequencerByStream spec
        call.stream = (e.getSequencerByStream spec call.stream).addSums spec call.stream :=
    Function.update_self ..
  have hrow := h.row hcall
  rw [hphase] at hrow
  have hset : (e.view spec call.stream).inSet = false := decide_eq_false hnew
  refine h.of_frame (frame_update hcall hchange (goto_stream .admitted)) ?_ ?_ ?_ ?_
  · rw [hq]
    exact (h.sequencerOk _).addSums _
  · refine (h.sumsOk call.stream).addSums hq hbwfit hfrfit (fun f => ?_) fun f => ?_
    · rw [hcall, owed_self, hphase]
      rfl
    · exact (owed_phase call .admitted f).trans (if_pos (by decide))
  · rw [view_update hchange]
    have hp : phaseOf call.stream (some { call with phase := .admitted }) = some .admitted :=
      if_pos rfl
    rw [hp]
    refine (h.views call.stream).goto ⟨hrow.2, hset, ?_, ?_⟩
    · by_contra hseq
      have := hrow.1.sequence (Bool.eq_true_of_not_eq_false hseq)
      rw [hset] at this
      exact Bool.noConfusion this
    · by_contra hact
      have := hrow.1.active (Bool.eq_true_of_not_eq_false hact)
      rw [hset] at this
      exact Bool.noConfusion this
  · intro hw
    simp [phaseOf] at hw

/-- The stream of the call enters the set, and is no longer owed. -/
theorem inv_insert (h : Inv spec e) (hcall : e.api = some call) {p : ApiPhase}
    (hp : p = .inserted ∨ p = .restored)
    (hphase : call.phase = .admitted ∨ call.phase = .timedOut)
    (hlock : (e.getSequencerByStream spec call.stream).locked = false) :
    Inv spec { e.updateSequencer (spec.getClass call.stream) (·.insert call.stream) with
      api := some { call with phase := p } } := by
  have hrow := h.row hcall
  have hlisted : (e.view spec call.stream).listed = true := by
    rcases hphase with hph | hph <;> rw [hph] at hrow <;> exact hrow.1
  have hset : (e.view spec call.stream).inSet = false := by
    rcases hphase with hph | hph <;> rw [hph] at hrow
    · exact hrow.2.1
    · exact hrow.2
  have hnew : call.stream ∉ (e.getSequencerByStream spec call.stream).mActiveStreams :=
    of_decide_eq_false hset
  have hchange := apiChange_insert (t := call.stream) (e.getSequencerByStream spec call.stream)
  have hq : ({ e.updateSequencer (spec.getClass call.stream) (·.insert call.stream) with
      api := some { call with phase := p } } : TxEngine).getSequencerByStream spec
        call.stream = (e.getSequencerByStream spec call.stream).insert call.stream :=
    Function.update_self ..
  refine h.of_frame (frame_update hcall hchange (goto_stream p)) ?_ ?_ ?_ ?_
  · rw [hq]
    exact (h.sequencerOk _).insert rfl hlock
  · refine (h.sumsOk call.stream).exchange ?_ ?_ ?_
    · exact (congrArg SequencerAccount.mCurrentBandwidth hq :)
    · exact (congrArg SequencerAccount.mCurrentMaxIntervalFrames hq :)
    · intro f
      have hsum := congrArg (fun q => sumOver f q.mActiveStreams) hq
      dsimp only at hsum
      rw [sumOver_insert f hnew] at hsum
      have howed : owed spec (spec.getClass call.stream) f e.api = f call.stream := by
        rw [hcall, owed_self]
        rcases hphase with hph | hph <;> rw [hph] <;> rfl
      have howed' : owed spec (spec.getClass call.stream) f (some { call with phase := p }) =
          0 := by
        unfold owed
        rcases hp with hp | hp <;> subst hp <;> simp
      rw [howed, howed', Nat.add_zero]
      exact hsum
  · rw [view_update hchange]
    have hin : decide (call.stream ∈
        ((e.getSequencerByStream spec call.stream).insert call.stream).mActiveStreams) =
          true := by
      refine decide_eq_true ?_
      unfold SequencerAccount.insert
      dsimp only
      rw [if_neg hnew]
      exact (List.perm_orderedInsert (· ≤ ·) call.stream _).mem_iff.mpr List.mem_cons_self
    have hph : phaseOf call.stream (some { call with phase := p }) = some p := if_pos rfl
    rw [hin, hph]
    refine (h.views call.stream).intoSet ?_
    rcases hp with hp | hp <;> subst hp <;> exact ⟨hlisted, rfl⟩
  · intro hw
    rcases hp with hp | hp <;> subst hp <;> simp [phaseOf] at hw

/-- The stream of the call leaves the set, and is owed from then on. -/
theorem inv_erase (h : Inv spec e) (hcall : e.api = some call) (hphase : call.phase = .removing)
    (hlock : (e.getSequencerByStream spec call.stream).locked = false) :
    Inv spec { e.updateSequencer (spec.getClass call.stream) (·.erase call.stream) with
      api := some { call with phase := .erased } } := by
  have hrow := h.row hcall
  rw [hphase] at hrow
  have hmem : call.stream ∈ (e.getSequencerByStream spec call.stream).mActiveStreams :=
    of_decide_eq_true hrow.2
  have hchange := apiChange_erase (t := call.stream) (e.getSequencerByStream spec call.stream)
  have hq : ({ e.updateSequencer (spec.getClass call.stream) (·.erase call.stream) with
      api := some { call with phase := .erased } } : TxEngine).getSequencerByStream spec
        call.stream = (e.getSequencerByStream spec call.stream).erase call.stream :=
    Function.update_self ..
  refine h.of_frame (frame_update hcall hchange (goto_stream .erased)) ?_ ?_ ?_ ?_
  · rw [hq]
    exact (h.sequencerOk _).erase hlock
  · refine (h.sumsOk call.stream).exchange ?_ ?_ ?_
    · exact (congrArg SequencerAccount.mCurrentBandwidth hq :)
    · exact (congrArg SequencerAccount.mCurrentMaxIntervalFrames hq :)
    · intro f
      have hsum := congrArg (fun q => sumOver f q.mActiveStreams) hq
      dsimp only at hsum
      have herase := sumOver_erase f hmem
      have howed : owed spec (spec.getClass call.stream) f e.api = 0 := by
        rw [hcall, owed_self, hphase]
        rfl
      have howed' : owed spec (spec.getClass call.stream) f
          (some { call with phase := .erased }) = f call.stream := by
        unfold owed
        simp
      rw [howed, howed', Nat.add_zero]
      exact (congrArg (· + f call.stream) hsum).trans herase
  · rw [view_update hchange]
    have hout : decide (call.stream ∈
        ((e.getSequencerByStream spec call.stream).erase call.stream).mActiveStreams) =
          false := by
      refine decide_eq_false ?_
      exact (h.sequencerOk call.stream).nodup.not_mem_erase
    have hph : phaseOf call.stream (some { call with phase := .erased }) = some .erased :=
      if_pos rfl
    rw [hout, hph]
    exact (h.views call.stream).outOfSet hlock hrow.1
  · intro hw
    simp [phaseOf] at hw

/-- The sums let go of the stream that is out of the set. -/
theorem inv_subtract (h : Inv spec e) (hcall : e.api = some call)
    (hphase : call.phase = .confirmed) :
    Inv spec { e.updateSequencer (spec.getClass call.stream) (·.subSums spec call.stream) with
      api := some { call with phase := .accounted } } := by
  have hchange : ApiChange call.stream (·.subSums spec call.stream)
      (e.getSequencerByStream spec call.stream) := apiChange_of_same rfl rfl rfl
  have hq : ({ e.updateSequencer (spec.getClass call.stream) (·.subSums spec call.stream) with
      api := some { call with phase := .accounted } } : TxEngine).getSequencerByStream spec
        call.stream = (e.getSequencerByStream spec call.stream).subSums spec call.stream :=
    Function.update_self ..
  have hrow := h.row hcall
  rw [hphase] at hrow
  refine h.of_frame (frame_update hcall hchange (goto_stream .accounted)) ?_ ?_ ?_ ?_
  · rw [hq]
    exact (h.sequencerOk _).subSums _
  · refine (h.sumsOk call.stream).subSums hq (fun f => ?_) fun f => ?_
    · rw [hcall, owed_self, hphase]
      rfl
    · exact (owed_phase call .accounted f).trans (if_neg (by decide))
  · rw [view_update hchange]
    have hp : phaseOf call.stream (some { call with phase := .accounted }) = some .accounted :=
      if_pos rfl
    rw [hp]
    exact (h.views call.stream).goto hrow
  · intro hw
    simp [phaseOf] at hw

/-- The stream of the call leaves the map; nothing else knows it any more. -/
theorem inv_delete (h : Inv spec e) (hcall : e.api = some call) (hphase : call.phase = .deleting) :
    Inv spec { e with
      mAvbStreams := Function.update e.mAvbStreams call.stream false, api := none } := by
  have hrow := h.row hcall
  rw [hphase] at hrow
  have hframe : Frame spec call.stream e { e with
      mAvbStreams := Function.update e.mAvbStreams call.stream false, api := none } :=
    { others := fun _ _ => rfl
      active := fun _ _ => rfl
      listed := fun _ hs => Function.update_of_ne hs ..
      set := fun _ _ => Iff.rfl
      sequence := rfl
      pc := rfl
      call := call_of_goto hcall none_stream }
  refine h.of_frame hframe (h.sequencerOk _) ((h.sumsOk call.stream).congr rfl rfl rfl ?_) ?_
    (fun hw => absurd hw (by simp [phaseOf]))
  · intro f
    rw [hcall, owed_self, hphase]
    rfl
  · obtain ⟨-, hset, hseq, hact⟩ := hrow
    refine ⟨(h.views call.stream).reset, ?_, ?_, ?_, ?_⟩
    · intro hs
      exact absurd (hseq.symm.trans hs) (by decide)
    · intro ha
      exact absurd (hact.symm.trans ha) (by decide)
    · intro hs
      exact absurd (hset.symm.trans hs) (by decide)
    · intro hs
      exact absurd (hset.symm.trans hs) (by decide)

/-- A stream that is not in the set, and whose share the sums can take. -/
structure Admissible (spec : TxSpec) (q : SequencerAccount) (s : Nat) : Prop where
  new : s ∉ q.mActiveStreams
  bandwidth : q.mCurrentBandwidth + spec.getRequiredBandwidth s < 4294967296
  frames : q.mCurrentMaxIntervalFrames + spec.getMaxIntervalFrames s < 4294967296

instance (q : SequencerAccount) (s : Nat) : Decidable (Admissible spec q s) :=
  decidable_of_iff (s ∉ q.mActiveStreams ∧
    q.mCurrentBandwidth + spec.getRequiredBandwidth s < 4294967296 ∧
    q.mCurrentMaxIntervalFrames + spec.getMaxIntervalFrames s < 4294967296)
    ⟨fun h => ⟨h.1, h.2.1, h.2.2⟩, fun h => ⟨h.new, h.bandwidth, h.frames⟩⟩

/-- The condition on one event: an activation only admits what is admissible, and a
destruction does not look at the active flag while a reset has it down. -/
def CheckOk (spec : TxSpec) (e : TxEngine) : Event → Prop
  | .api _ =>
      match e.api with
      | none => True
      | some call => call.phase = .activating →
          (e.getSequencerByStream spec call.stream).Admits spec call.stream →
            Admissible spec (e.getSequencerByStream spec call.stream) call.stream
  | .destroyAvbStream s => e.api = none → e.mAvbStreams s = true → e.mActive s = false →
      (e.getSequencerByStream spec s).pc.resets s = false
  | _ => True

instance (e : TxEngine) (ev : Event) : Decidable (CheckOk spec e ev) := by
  unfold CheckOk
  split
  · split <;> infer_instance
  all_goals infer_instance

theorem phaseOf_goto (call : ApiCall) (p : ApiPhase) :
    phaseOf call.stream (some { call with phase := p }) = some p := if_pos rfl

/-- An activation is through, or a deactivation has failed. -/
theorem inv_activated (h : Inv spec e) (hcall : e.api = some call) {p : ApiPhase}
    (hphase : call.phase = p) (hp : p = .requested ∨ p = .failed) :
    Inv spec { e.setActive call.stream true with api := none } := by
  have hrow := h.row hcall
  rw [hphase] at hrow
  have hset : (e.view spec call.stream).listed = true ∧ (e.view spec call.stream).inSet = true := by
    rcases hp with rfl | rfl <;> exact hrow
  have howed : ∀ f, owed spec (spec.getClass call.stream) f none =
      owed spec (spec.getClass call.stream) f e.api := by
    rcases hp with rfl | rfl <;> exact owed_end hcall hphase rfl
  refine inv_setActive h hcall true none_stream howed ?_ (by simp [phaseOf])
  exact (h.views call.stream).activate hset.2 hset.1

/-- The removal is requested; without a thread there is nobody to wait for. -/
theorem inv_erased (h : Inv spec e) (hcall : e.api = some call) (hphase : call.phase = .erased) :
    Inv spec { e.updateSequencer (spec.getClass call.stream) (·.request) with
      api := if (e.getSequencerByStream spec call.stream).running then
        some { call with phase := .waiting } else some { call with phase := .confirmed } } := by
  have hrow := h.row hcall
  rw [hphase] at hrow
  split
  · exact inv_request h hcall (owed_goto hcall hphase rfl) hrow
  · rename_i hrun
    have hstop := (h.sequencerOk call.stream).stopped (Bool.eq_false_of_not_eq_true hrun)
    refine inv_request h hcall (owed_goto hcall hphase rfl) ⟨hrow.1, hrow.2, decide_eq_false ?_⟩
    rw [hstop.1]
    exact List.not_mem_nil

/-- The answer is there: the stream is gone from the sequence. -/
theorem inv_answered (h : Inv spec e) (hcall : e.api = some call)
    (hphase : call.phase = .waiting)
    (hanswered : (e.getSequencerByStream spec call.stream).mRequestCount
      = (e.getSequencerByStream spec call.stream).mResponseCount) :
    Inv spec { e with api := some { call with phase := .confirmed } } := by
  have hrow := h.row hcall
  rw [hphase] at hrow
  refine inv_goto h hcall (goto_stream .confirmed) (owed_goto hcall hphase rfl) ?_
    (by simp [phaseOf])
  rw [phaseOf_goto]
  refine ⟨hrow.1, hrow.2, decide_eq_false fun hmem => ?_⟩
  have hpending := (h.pending call hcall hphase hmem).1
  omega

/-- The removal is through. -/
theorem inv_accounted (h : Inv spec e) (hcall : e.api = some call)
    (hphase : call.phase = .accounted) :
    Inv spec { e.setActive call.stream false with
      api := if call.destroy then some { call with phase := .deleting } else none } := by
  have hrow := h.row hcall
  rw [hphase] at hrow
  obtain ⟨hlisted, hset, hseq⟩ := hrow
  split
  · refine inv_setActive h hcall false (goto_stream .deleting) (owed_goto hcall hphase rfl) ?_
      (by simp [phaseOf])
    rw [phaseOf_goto]
    exact ⟨(h.views call.stream).reset, hlisted, hset, hseq, rfl⟩
  · refine inv_setActive h hcall false none_stream (owed_end hcall hphase rfl) ?_
      (by simp [phaseOf])
    refine ⟨(h.views call.stream).reset, ?_, ?_, ?_, ?_⟩
    · intro hs
      exact absurd (hseq.symm.trans hs) (by decide)
    · intro ha
      exact Bool.noConfusion ha
    · intro hs
      exact absurd (hset.symm.trans hs) (by decide)
    · intro hs
      exact absurd (hset.symm.trans hs) (by decide)

/-- **Every step of a call keeps the invariant.** -/
theorem inv_apiStep (h : Inv spec e) (timeout : Bool) (hok : CheckOk spec e (.api timeout)) :
    Inv spec (e.apiStep spec timeout) := by
  unfold apiStep
  split
  · exact h
  · rename_i call hcall
    have hrow := h.row hcall
    dsimp only
    split
    · -- activating
      rename_i hphase
      rw [hphase] at hrow
      split
      · rename_i hadmit
        unfold CheckOk at hok
        rw [hcall] at hok
        have hnew := hok hphase hadmit
        exact inv_admit h hcall hphase hnew.new hnew.bandwidth hnew.frames
      · exact inv_goto h hcall none_stream (owed_end hcall hphase rfl) hrow.1 (by simp [phaseOf])
    · -- admitted
      rename_i hphase
      split
      · exact h
      · rename_i hlock
        exact inv_insert h hcall (Or.inl rfl) (Or.inl hphase) (Bool.eq_false_of_not_eq_true hlock)
    · -- inserted
      rename_i hphase
      rw [hphase] at hrow
      exact inv_request h hcall (owed_goto hcall hphase rfl) hrow
    · -- requested
      rename_i hphase
      exact inv_activated h hcall hphase (Or.inl rfl)
    · -- deactivating
      rename_i hphase
      rw [hphase] at hrow
      refine inv_setActive h hcall false (goto_stream .removing) (owed_goto hcall hphase rfl) ?_
        (by simp [phaseOf])
      rw [phaseOf_goto]
      exact ⟨(h.views call.stream).reset, hrow.1, hrow.2.1⟩
    · -- removing
      rename_i hphase
      split
      · exact h
      · rename_i hlock
        exact inv_erase h hcall hphase (Bool.eq_false_of_not_eq_true hlock)
    · -- erased
      rename_i hphase
      exact inv_erased h hcall hphase
    · -- waiting
      rename_i hphase
      rw [hphase] at hrow
      split
      · rename_i hanswered
        exact inv_answered h hcall hphase hanswered
      · split
        · refine inv_goto h hcall (goto_stream .timedOut) (owed_goto hcall hphase rfl) ?_
            (by simp [phaseOf])
          rw [phaseOf_goto]
          exact hrow
        · exact h
    · -- timedOut
      rename_i hphase
      split
      · exact h
      · rename_i hlock
        exact inv_insert h hcall (Or.inr rfl) (Or.inr hphase) (Bool.eq_false_of_not_eq_true hlock)
    · -- restored
      rename_i hphase
      rw [hphase] at hrow
      exact inv_request h hcall (owed_goto hcall hphase rfl) hrow
    · -- failed
      rename_i hphase
      exact inv_activated h hcall hphase (Or.inr rfl)
    · -- confirmed
      rename_i hphase
      exact inv_subtract h hcall hphase
    · -- accounted
      rename_i hphase
      exact inv_accounted h hcall hphase
    · -- deleting
      rename_i hphase
      exact inv_delete h hcall hphase

/-! ## Calls that begin -/

/-- A call that begins touches no data. -/
theorem inv_begin (h : Inv spec e) (hapi : e.api = none) (call : ApiCall)
    (howed : ∀ c f, owed spec c f (some call) = 0)
    (hrow : (e.view spec call.stream).Row (some call.phase))
    (hphase : call.phase ≠ .waiting) : Inv spec { e with api := some call } := by
  have hframe : Frame spec call.stream e { e with api := some call } :=
    { others := fun _ _ => rfl
      active := fun _ _ => rfl
      listed := fun _ _ => rfl
      set := fun _ _ => Iff.rfl
      sequence := rfl
      pc := rfl
      call := by
        intro call' hc
        rcases hc with hc | hc
        · rw [hapi] at hc
          exact absurd hc (by simp)
        · rw [← Option.some.inj hc] }
  have hself : phaseOf call.stream (some call) = some call.phase := if_pos rfl
  refine h.of_frame hframe (h.sequencerOk _)
    ((h.sumsOk call.stream).congr rfl rfl rfl ?_) ?_ ?_
  · intro f
    rw [howed, hapi]
    rfl
  · have hgoto := (h.views call.stream).goto hrow
    rw [← hself] at hgoto
    exact hgoto
  · intro hw
    rw [hself] at hw
    exact absurd (Option.some.inj hw) hphase

/-- Without a call, every stream is settled. -/
theorem Inv.settled (h : Inv spec e) (hapi : e.api = none) (s : Nat) :
    (e.view spec s).Settled := by
  have hrow := (h.views s).row
  have hphase : (e.view spec s).phase = none := by
    show phaseOf s e.api = none
    rw [hapi]
    rfl
  rw [hphase] at hrow
  exact hrow

theorem inv_activateAvbStream (h : Inv spec e) (hapi : e.api = none) :
    Inv spec (e.activateAvbStream s) := by
  unfold activateAvbStream
  split
  · rename_i hs
    refine inv_begin h hapi _ ?_ ⟨h.settled hapi s, hs.1⟩ (by simp)
    intro c f
    simp [owed]
  · exact h

theorem inv_deactivateAvbStream (h : Inv spec e) (hapi : e.api = none) (destroy : Bool)
    (hok : destroy = true → e.mAvbStreams s = true → e.mActive s = false →
      (e.getSequencerByStream spec s).pc.resets s = false) :
    Inv spec (e.deactivateAvbStream s destroy) := by
  have hsettled := h.settled hapi s
  unfold deactivateAvbStream
  split
  · exact h
  · rename_i hlisted
    have hlisted := Bool.eq_true_of_not_eq_false hlisted
    split
    · rename_i hactive
      refine inv_begin h hapi _ ?_ ⟨hlisted, hsettled.active hactive, fun _ => hactive⟩ (by simp)
      intro c f
      simp [owed]
    · rename_i hactive
      have hactive := Bool.eq_false_of_not_eq_true hactive
      split
      · rename_i hdestroy
        -- an inactive stream that no reset holds is out of the set
        have hset : (e.view spec s).inSet = false := by
          by_contra hin
          have hact := hsettled.set (Bool.eq_true_of_not_eq_false hin)
            (hok hdestroy hlisted hactive)
          exact Bool.noConfusion (hact.symm.trans hactive)
        have hseq : (e.view spec s).inSequence = false := by
          by_contra hin
          have := hsettled.sequence (Bool.eq_true_of_not_eq_false hin)
          exact Bool.noConfusion (this.symm.trans hset)
        refine inv_begin h hapi _ ?_ ⟨hlisted, hset, hseq, hactive⟩ (by simp)
        intro c f
        simp [owed]
      · exact h

end AvbStreamHandler.TxEngine
