import AvbStreamHandler.Transmit.EngineCalls

/-!
# The account of the transmit engine over whole runs

The steps of a sequencer thread keep the invariant as they are: a reset takes a stream
that the sequencer serves and gives it back active. With the calls, this carries the
invariant through every interleaving in which each event meets `CheckOk`, and with it the
account that holds whenever nothing is in progress.

At the end stand the two interleavings that break the account: a reset is under way, and
an activation or a destruction reads the flag in between.
-/

namespace AvbStreamHandler

open Kit Kit.Run Kit.Word

/-! ## The table under the thread's steps -/

/-- The sequence follows the set, while no reset is under way. -/
theorem View.Ok.reconcile {v : View} (h : v.Ok) (hreset : v.inReset = false) :
    ({ v with inSequence := v.inSet } : View).Ok := by
  obtain ⟨set, seq, rst, lock, act, listed, phase⟩ := v
  obtain ⟨hr, hrow⟩ := h
  dsimp only at hreset
  subst hreset
  refine ⟨by simp, ?_⟩
  cases phase with
  | none => exact ⟨id, hrow.active, hrow.set, hrow.listed⟩
  | some p =>
      cases p with
      | activating => exact ⟨⟨id, hrow.1.active, hrow.1.set, hrow.1.listed⟩, hrow.2⟩
      | admitted => exact ⟨hrow.1, hrow.2.1, hrow.2.1, hrow.2.2.2⟩
      | confirmed => exact ⟨hrow.1, hrow.2.1, hrow.2.1⟩
      | accounted => exact ⟨hrow.1, hrow.2.1, hrow.2.1⟩
      | deleting => exact ⟨hrow.1, hrow.2.1, hrow.2.1, hrow.2.2.2⟩
      | _ => exact hrow

/-- The sequence is dropped, while no reset is under way. -/
theorem View.Ok.dropSequence {v : View} (h : v.Ok) (hreset : v.inReset = false) :
    ({ v with inSequence := false } : View).Ok := by
  obtain ⟨set, seq, rst, lock, act, listed, phase⟩ := v
  obtain ⟨hr, hrow⟩ := h
  dsimp only at hreset
  subst hreset
  refine ⟨by simp, ?_⟩
  cases phase with
  | none => exact ⟨by simp, hrow.active, hrow.set, hrow.listed⟩
  | some p =>
      cases p with
      | activating => exact ⟨⟨by simp, hrow.1.active, hrow.1.set, hrow.1.listed⟩, hrow.2⟩
      | admitted => exact ⟨hrow.1, hrow.2.1, rfl, hrow.2.2.2⟩
      | confirmed => exact ⟨hrow.1, hrow.2.1, rfl⟩
      | accounted => exact ⟨hrow.1, hrow.2.1, rfl⟩
      | deleting => exact ⟨hrow.1, hrow.2.1, rfl, hrow.2.2.2⟩
      | _ => exact hrow

/-- The lock is taken or given back, while no reset is under way. -/
theorem View.Ok.lock {v : View} (h : v.Ok) (hreset : v.inReset = false) (b : Bool) :
    ({ v with locked := b } : View).Ok := by
  obtain ⟨set, seq, rst, lock, act, listed, phase⟩ := v
  obtain ⟨hr, hrow⟩ := h
  dsimp only at hreset
  subst hreset
  refine ⟨by simp, ?_⟩
  cases phase with
  | none => exact ⟨hrow.sequence, hrow.active, hrow.set, hrow.listed⟩
  | some p =>
      cases p with
      | activating =>
          exact ⟨⟨hrow.1.sequence, hrow.1.active, hrow.1.set, hrow.1.listed⟩, hrow.2⟩
      | _ => exact hrow

/-- A stream that the thread resets is in the set, or its removal is not confirmed yet. -/
def View.Served (v : View) : Prop :=
  if v.locked then v.inSet = true else v.inSequence = true

/-- A settled stream that the thread serves is in the set. -/
theorem View.Settled.inSet_of_served {v : View} (h : v.Settled) (hv : v.Served) :
    v.inSet = true := by
  unfold View.Served at hv
  split at hv
  · exact hv
  · exact h.sequence hv

/-- The thread serves no stream that is out of the set and of the sequence. -/
theorem View.Served.false {v : View} {α : Prop} (hv : v.Served) (hset : v.inSet = false)
    (hseq : v.inSequence = false) : α := by
  unfold View.Served at hv
  split at hv
  · exact Bool.noConfusion (hset.symm.trans hv)
  · exact Bool.noConfusion (hseq.symm.trans hv)

theorem View.Ok.beginReset {v : View} (h : v.Ok) (hv : v.Served) :
    ({ v with inReset := true, isActive := false } : View).Ok := by
  obtain ⟨set, seq, rst, lock, act, listed, phase⟩ := v
  obtain ⟨hr, hrow⟩ := h
  refine ⟨fun _ => hv, ?_⟩
  cases phase with
  | none => exact ⟨hrow.sequence, by simp, by simp, hrow.listed⟩
  | some p =>
      cases p with
      | activating => exact ⟨⟨hrow.1.sequence, by simp, by simp, hrow.1.listed⟩, hrow.2⟩
      | admitted => exact hv.false hrow.2.1 hrow.2.2.1
      | deactivating => exact ⟨hrow.1, hrow.2.1, by simp⟩
      | confirmed => exact hv.false hrow.2.1 hrow.2.2
      | accounted => exact hv.false hrow.2.1 hrow.2.2
      | deleting => exact hv.false hrow.2.1 hrow.2.2.1
      | _ => exact hrow

theorem View.Ok.endReset {v : View} (h : v.Ok) (hreset : v.inReset = true) :
    ({ v with inReset := false, isActive := true } : View).Ok := by
  have hv : v.Served := h.reset hreset
  obtain ⟨set, seq, rst, lock, act, listed, phase⟩ := v
  obtain ⟨hr, hrow⟩ := h
  refine ⟨by simp, ?_⟩
  cases phase with
  | none =>
      have hset : set = true := View.Settled.inSet_of_served hrow hv
      exact ⟨hrow.sequence, fun _ => hset, fun _ _ => rfl, hrow.listed⟩
  | some p =>
      cases p with
      | activating =>
          have hset : set = true := View.Settled.inSet_of_served hrow.1 hv
          exact ⟨⟨hrow.1.sequence, fun _ => hset, fun _ _ => rfl, hrow.1.listed⟩, hrow.2⟩
      | admitted => exact hv.false hrow.2.1 hrow.2.2.1
      | deactivating => exact ⟨hrow.1, hrow.2.1, fun _ => rfl⟩
      | confirmed => exact hv.false hrow.2.1 hrow.2.2
      | accounted => exact hv.false hrow.2.1 hrow.2.2
      | deleting => exact hv.false hrow.2.1 hrow.2.2.1
      | _ => exact hrow

namespace TxEngine

variable {spec : TxSpec} {e e' : TxEngine} {c : IasAvbSrClass} {s t : Nat} {call : ApiCall}

/-! ## Steps of a sequencer thread -/

/-- A step of the thread of class `c` only touches what concerns that class, and neither
the set nor the sums. -/
structure ThreadFrame (spec : TxSpec) (c : IasAvbSrClass) (e e' : TxEngine) : Prop where
  others : ∀ c', c' ≠ c → e'.sequencer c' = e.sequencer c'
  active : ∀ s, spec.getClass s ≠ c → e'.mActive s = e.mActive s
  listed : e'.mAvbStreams = e.mAvbStreams
  api : e'.api = e.api
  set : (e'.sequencer c).mActiveStreams = (e.sequencer c).mActiveStreams
  bandwidth : (e'.sequencer c).mCurrentBandwidth = (e.sequencer c).mCurrentBandwidth
  frames : (e'.sequencer c).mCurrentMaxIntervalFrames =
    (e.sequencer c).mCurrentMaxIntervalFrames

theorem ThreadFrame.view_ne (h : ThreadFrame spec c e e') (hs : spec.getClass s ≠ c) :
    e'.view spec s = e.view spec s := by
  unfold view getSequencerByStream
  rw [h.others _ hs, h.active s hs, h.listed, h.api]

theorem ThreadFrame.view_eq (h : ThreadFrame spec c e e') (hs : spec.getClass s = c) :
    e'.view spec s =
      { e.view spec s with
        inSequence := decide (s ∈ (e'.sequencer c).mSequence)
        inReset := (e'.sequencer c).pc.resets s
        locked := (e'.sequencer c).locked
        isActive := e'.mActive s } := by
  subst hs
  unfold view getSequencerByStream
  rw [h.set, h.listed, h.api]

/-- **The step rule for threads.** -/
theorem Inv.of_thread (h : Inv spec e) (hf : ThreadFrame spec c e e')
    (hok : SequencerOk spec c (e'.sequencer c))
    (hviews : ∀ s, spec.getClass s = c → (e'.view spec s).Ok)
    (hpending : ∀ call, e.api = some call → call.phase = .waiting →
      spec.getClass call.stream = c → Pending call.stream (e.sequencer c) →
        Pending call.stream (e'.sequencer c)) : Inv spec e' where
  sequencers c' := by
    by_cases hc : c' = c
    · subst hc
      exact hok
    · rw [hf.others c' hc]
      exact h.sequencers c'
  sums c' := by
    have howed : ∀ f, owed spec c' f e'.api = owed spec c' f e.api := by
      intro f
      rw [hf.api]
    by_cases hc : c' = c
    · subst hc
      exact (h.sums c').congr hf.bandwidth hf.frames hf.set howed
    · have hq := hf.others c' hc
      exact (h.sums c').congr (congrArg _ hq) (congrArg _ hq) (congrArg _ hq) howed
  views s := by
    by_cases hc : spec.getClass s = c
    · exact hviews s hc
    · rw [hf.view_ne hc]
      exact h.views s
  pending call hcall hphase := by
    rw [hf.api] at hcall
    have hp := h.pending call hcall hphase
    unfold getSequencerByStream at hp ⊢
    by_cases hc : spec.getClass call.stream = c
    · rw [hc] at hp ⊢
      exact hpending call hcall hphase hc hp
    · rw [hf.others _ hc]
      exact hp

/-- A change of the sequencer of class `c` that leaves the set and the sums alone. -/
structure ThreadChange (q q' : SequencerAccount) : Prop where
  set : q'.mActiveStreams = q.mActiveStreams
  bandwidth : q'.mCurrentBandwidth = q.mCurrentBandwidth
  frames : q'.mCurrentMaxIntervalFrames = q.mCurrentMaxIntervalFrames

theorem threadFrame_update {f : SequencerAccount → SequencerAccount}
    (hf : ThreadChange (e.sequencer c) (f (e.sequencer c))) :
    ThreadFrame spec c e (e.updateSequencer c f) where
  others _ hc := sequencer_updateSequencer_ne hc f
  active _ _ := rfl
  listed := rfl
  api := rfl
  set := by
    rw [sequencer_updateSequencer_self]
    exact hf.set
  bandwidth := by
    rw [sequencer_updateSequencer_self]
    exact hf.bandwidth
  frames := by
    rw [sequencer_updateSequencer_self]
    exact hf.frames

theorem threadFrame_setActive {f : SequencerAccount → SequencerAccount} {b : Bool}
    (ht : spec.getClass t = c) (hf : ThreadChange (e.sequencer c) (f (e.sequencer c))) :
    ThreadFrame spec c e ((e.setActive t b).updateSequencer c f) where
  others _ hc := sequencer_updateSequencer_ne hc f
  active s hs := by
    have hst : s ≠ t := by
      intro h
      rw [h] at hs
      exact hs ht
    exact Function.update_of_ne hst ..
  listed := rfl
  api := rfl
  set := by
    rw [sequencer_updateSequencer_self]
    exact hf.set
  bandwidth := by
    rw [sequencer_updateSequencer_self]
    exact hf.bandwidth
  frames := by
    rw [sequencer_updateSequencer_self]
    exact hf.frames

/-- The view of a stream of the class, part by part. -/
theorem view_class (hs : spec.getClass s = c) :
    e.view spec s =
      { inSet := decide (s ∈ (e.sequencer c).mActiveStreams)
        inSequence := decide (s ∈ (e.sequencer c).mSequence)
        inReset := (e.sequencer c).pc.resets s
        locked := (e.sequencer c).locked
        isActive := e.mActive s
        listed := e.mAvbStreams s
        phase := phaseOf s e.api } := by
  subst hs
  rfl

/-! ### The answer to a request -/

theorem inv_reconcile (h : Inv spec e) : Inv spec (e.sequencerStep c .reconcile) := by
  unfold sequencerStep
  dsimp only
  split
  · rename_i hc
    obtain ⟨hrun, hpc, hopen⟩ := hc
    have hok := h.sequencers c
    have hframe : ThreadFrame spec c e (e.updateSequencer c fun q =>
        { q with mSequence := q.mActiveStreams, pc := .reconciled }) :=
      threadFrame_update ⟨rfl, rfl, rfl⟩
    refine h.of_thread hframe ?_ ?_ ?_
    · rw [sequencer_updateSequencer_self]
      refine ⟨hok.nodup, hok.set, hok.set, trivial, by simp [SequencerPc.resets], hok.answered,
        ?_, ?_⟩
      · intro _
        show (e.sequencer c).mResponseCount + 1 ≤ (e.sequencer c).mRequestCount
        omega
      · intro hstop
        exact Bool.noConfusion (hstop.symm.trans hrun)
    · intro s hs
      have hreset : (e.view spec s).inReset = false := by
        rw [view_class hs, hpc]
        rfl
      have hv := (h.views s).reconcile hreset
      rw [view_class hs, hpc] at hv
      rw [hframe.view_eq hs, view_class hs, sequencer_updateSequencer_self]
      unfold SequencerAccount.locked at hv ⊢
      rw [hpc] at hv
      exact hv
    · -- the stream of the call is out of the set, so out of the sequence now
      intro call hcall hphase hc _ hmem
      rw [sequencer_updateSequencer_self] at hmem
      have hrow := h.row hcall
      rw [hphase, view_class hc] at hrow
      exact absurd hmem (of_decide_eq_false hrow.2)
  · exact h

theorem inv_respond (h : Inv spec e) : Inv spec (e.sequencerStep c .respond) := by
  unfold sequencerStep
  dsimp only
  split
  · rename_i hpc
    have hok := h.sequencers c
    have hframe : ThreadFrame spec c e (e.updateSequencer c fun q =>
        { q with mResponseCount := q.mResponseCount + 1, pc := .idle }) :=
      threadFrame_update ⟨rfl, rfl, rfl⟩
    refine h.of_thread hframe ?_ ?_ ?_
    · rw [sequencer_updateSequencer_self]
      refine ⟨hok.nodup, hok.set, hok.sequence, trivial, by simp [SequencerPc.resets],
        hok.answering hpc, by simp, ?_⟩
      intro hstop
      exact ⟨(hok.stopped hstop).1, rfl⟩
    · intro s hs
      have hv := h.views s
      rw [view_class hs, hpc] at hv
      rw [hframe.view_eq hs, view_class hs, sequencer_updateSequencer_self]
      unfold SequencerAccount.locked at hv ⊢
      rw [hpc] at hv
      exact hv
    · intro call _ _ _ hp hmem
      rw [sequencer_updateSequencer_self] at hmem ⊢
      have hlt := (hp hmem).2 hpc
      exact ⟨hlt, by simp⟩
  · exact h

/-! ### Resets -/

/-- The thread moves on, and nothing else changes in the sequencer. -/
def moveTo (pc : SequencerPc) (q : SequencerAccount) : SequencerAccount := { q with pc := pc }

/-- What half a reset of `t` changes in the views. -/
theorem view_half (ht : spec.getClass t = c) (hs : spec.getClass s = c) {pc : SequencerPc}
    (b : Bool) (hlock : (moveTo pc (e.sequencer c)).locked = (e.sequencer c).locked) :
    ((e.setActive t b).updateSequencer c (moveTo pc)).view spec s =
      { e.view spec s with
        inReset := pc.resets s, isActive := Function.update e.mActive t b s } := by
  have hframe : ThreadFrame spec c e ((e.setActive t b).updateSequencer c (moveTo pc)) :=
    threadFrame_setActive ht ⟨rfl, rfl, rfl⟩
  have hq : ((e.setActive t b).updateSequencer c (moveTo pc)).sequencer c =
      moveTo pc (e.sequencer c) := Function.update_self ..
  rw [hframe.view_eq hs, hq, hlock, view_class hs]
  rfl

/-- Half a reset of `t` keeps the invariant if it keeps the table. -/
theorem inv_half (h : Inv spec e) {pc : SequencerPc} (b : Bool) (ht : spec.getClass t = c)
    (hresets : ∀ s, pc.resets s = true → spec.getClass s = c) (hne : pc ≠ .reconciled)
    (hrun : (e.sequencer c).running = true) (hpcok : PcOk (moveTo pc (e.sequencer c)))
    (hlock : (moveTo pc (e.sequencer c)).locked = (e.sequencer c).locked)
    (hother : ∀ s, s ≠ t → pc.resets s = (e.sequencer c).pc.resets s)
    (hview : ({ e.view spec t with inReset := pc.resets t, isActive := b } : View).Ok) :
    Inv spec ((e.setActive t b).updateSequencer c (moveTo pc)) := by
  have hok := h.sequencers c
  have hq : ((e.setActive t b).updateSequencer c (moveTo pc)).sequencer c =
      moveTo pc (e.sequencer c) := Function.update_self ..
  refine h.of_thread (threadFrame_setActive ht ⟨rfl, rfl, rfl⟩) ?_ ?_ ?_
  · rw [hq]
    refine ⟨hok.nodup, hok.set, hok.sequence, hpcok, hresets, hok.answered, ?_, ?_⟩
    · intro hpc
      exact absurd hpc hne
    · intro hstop
      exact Bool.noConfusion (hstop.symm.trans hrun)
  · intro s hs
    rw [view_half ht hs b hlock]
    by_cases hst : s = t
    · rw [hst, Function.update_self]
      exact hview
    · rw [Function.update_of_ne hst, hother s hst]
      have hv := h.views s
      rw [view_class hs] at hv ⊢
      exact hv
  · intro call _ _ _ hp hmem
    rw [hq] at hmem ⊢
    exact ⟨(hp hmem).1, fun hpc => absurd hpc hne⟩

/-- The first half of a reset of `t`. -/
theorem inv_beginReset (h : Inv spec e) (pc : SequencerPc) (ht : spec.getClass t = c)
    (hidle : ∀ s, (e.sequencer c).pc.resets s = false) (hserved : (e.view spec t).Served)
    (hresets : ∀ s, pc.resets s = decide (t = s)) (hne : pc ≠ .reconciled)
    (hrun : (e.sequencer c).running = true) (hpcok : PcOk (moveTo pc (e.sequencer c)))
    (hlock : (moveTo pc (e.sequencer c)).locked = (e.sequencer c).locked) :
    Inv spec ((e.setActive t false).updateSequencer c (moveTo pc)) := by
  refine inv_half h false ht ?_ hne hrun hpcok hlock ?_ ?_
  · intro s hs
    rw [hresets] at hs
    rw [← of_decide_eq_true hs]
    exact ht
  · intro s hst
    rw [hresets, hidle]
    exact decide_eq_false fun h => hst h.symm
  · rw [hresets, decide_eq_true rfl]
    exact (h.views t).beginReset hserved

/-- The second half of a reset of `t`. -/
theorem inv_endReset (h : Inv spec e) (pc : SequencerPc)
    (hresets : ∀ s, (e.sequencer c).pc.resets s = decide (t = s))
    (hidle : ∀ s, pc.resets s = false) (hne : pc ≠ .reconciled)
    (hrun : (e.sequencer c).running = true) (hpcok : PcOk (moveTo pc (e.sequencer c)))
    (hlock : (moveTo pc (e.sequencer c)).locked = (e.sequencer c).locked) :
    Inv spec ((e.setActive t true).updateSequencer c (moveTo pc)) := by
  have hself : (e.sequencer c).pc.resets t = true := by
    rw [hresets]
    exact decide_eq_true rfl
  have ht : spec.getClass t = c := (h.sequencers c).resets t hself
  refine inv_half h true ht ?_ hne hrun hpcok hlock ?_ ?_
  · intro s hs
    rw [hidle] at hs
    exact Bool.noConfusion hs
  · intro s hst
    rw [hresets, hidle]
    exact (decide_eq_false fun h => hst h.symm).symm
  · rw [hidle]
    refine (h.views t).endReset ?_
    rw [view_class ht]
    exact hself

/-- The lock is taken or given back between resets. -/
theorem inv_lock (h : Inv spec e) {f : SequencerAccount → SequencerAccount}
    (hf : ThreadChange (e.sequencer c) (f (e.sequencer c)))
    (hok : SequencerOk spec c (f (e.sequencer c)))
    (hidle : ∀ s, (e.sequencer c).pc.resets s = false)
    (hidle' : ∀ s, (f (e.sequencer c)).pc.resets s = false)
    (hseq : (f (e.sequencer c)).mSequence = (e.sequencer c).mSequence)
    (hreq : (f (e.sequencer c)).mRequestCount = (e.sequencer c).mRequestCount)
    (hresp : (f (e.sequencer c)).mResponseCount ≤ (e.sequencer c).mResponseCount)
    (hne : (f (e.sequencer c)).pc ≠ .reconciled) : Inv spec (e.updateSequencer c f) := by
  have hframe : ThreadFrame spec c e (e.updateSequencer c f) := threadFrame_update hf
  refine h.of_thread hframe ?_ ?_ ?_
  · rw [sequencer_updateSequencer_self]
    exact hok
  · intro s hs
    have hreset : (e.view spec s).inReset = false := by
      rw [view_class hs]
      exact hidle s
    have hv := (h.views s).lock hreset (f (e.sequencer c)).locked
    rw [view_class hs, hidle s] at hv
    rw [hframe.view_eq hs, view_class hs, sequencer_updateSequencer_self, hidle' s, hseq]
    exact hv
  · intro call _ _ _ hp hmem
    rw [sequencer_updateSequencer_self] at hmem ⊢
    rw [hseq] at hmem
    have hlt := (hp hmem).1
    refine ⟨?_, fun hpc => absurd hpc hne⟩
    rw [hreq]
    omega

theorem idle_resets (s : Nat) : SequencerPc.idle.resets s = false := rfl

/-- A thread that is anywhere but idle is running. -/
theorem running_of_pc (h : Inv spec e) (hpc : (e.sequencer c).pc ≠ .idle) :
    (e.sequencer c).running = true := by
  by_contra hrun
  exact hpc ((h.sequencers c).stopped (Bool.eq_false_of_not_eq_true hrun)).2

/-- The streams a restart has still to reset are in the set. -/
theorem mem_of_restartingStream (h : Inv spec e) {todo : List Nat}
    (hpc : (e.sequencer c).pc = .restartingStream s todo) :
    ∀ u ∈ todo, u ∈ (e.sequencer c).mActiveStreams := by
  have hp := (h.sequencers c).pc
  unfold PcOk at hp
  rw [hpc] at hp
  exact hp

theorem mem_of_restarting (h : Inv spec e) {todo : List Nat}
    (hpc : (e.sequencer c).pc = .restarting todo) :
    ∀ u ∈ todo, u ∈ (e.sequencer c).mActiveStreams := by
  have hp := (h.sequencers c).pc
  unfold PcOk at hp
  rw [hpc] at hp
  exact hp

/-- The service loop begins a reset. -/
theorem inv_reset (h : Inv spec e) (hrun : (e.sequencer c).running = true)
    (hpc : (e.sequencer c).pc = .idle) (hmem : s ∈ (e.sequencer c).mSequence) :
    Inv spec ((e.setActive s false).updateSequencer c (moveTo (.resetting s))) := by
  have ht := (h.sequencers c).sequence s hmem
  refine inv_beginReset h (.resetting s) ht ?_ ?_ (fun _ => rfl) (by simp) hrun trivial ?_
  · intro u
    rw [hpc]
    rfl
  · unfold View.Served
    rw [view_class ht]
    unfold SequencerAccount.locked
    rw [hpc]
    exact decide_eq_true hmem
  · unfold SequencerAccount.locked moveTo
    rw [hpc]

/-- A reset in the restart loop begins. -/
theorem inv_restartStream (h : Inv spec e) {todo : List Nat}
    (hpc : (e.sequencer c).pc = .restarting (s :: todo)) :
    Inv spec ((e.setActive s false).updateSequencer c (moveTo (.restartingStream s todo))) := by
  have htodo := mem_of_restarting h hpc
  have hmem := htodo s List.mem_cons_self
  have ht := (h.sequencers c).set s hmem
  have hrun := running_of_pc h (by rw [hpc]; simp)
  refine inv_beginReset h (.restartingStream s todo) ht ?_ ?_ (fun _ => rfl) (by simp) hrun ?_ ?_
  · intro u
    rw [hpc]
    rfl
  · unfold View.Served
    rw [view_class ht]
    unfold SequencerAccount.locked
    rw [hpc]
    exact decide_eq_true hmem
  · exact fun u hu => htodo u (List.mem_cons_of_mem _ hu)
  · unfold SequencerAccount.locked moveTo
    rw [hpc]

/-- The restart takes the lock. -/
theorem inv_restart (h : Inv spec e) (hrun : (e.sequencer c).running = true)
    (hpc : (e.sequencer c).pc = .idle) :
    Inv spec (e.updateSequencer c fun q => { q with pc := .restarting q.mActiveStreams }) := by
  have hok := h.sequencers c
  refine inv_lock h ⟨rfl, rfl, rfl⟩ ?_ ?_ (fun _ => rfl) rfl rfl (le_refl _) (by simp)
  · refine ⟨hok.nodup, hok.set, hok.sequence, fun _ hu => hu, by simp [SequencerPc.resets],
      hok.answered, by simp, ?_⟩
    intro hstop
    exact Bool.noConfusion (hstop.symm.trans hrun)
  · intro u
    rw [hpc]
    rfl

/-- And gives it back; a response is taken back with it. -/
theorem inv_restarted (h : Inv spec e) (hpc : (e.sequencer c).pc = .restarting []) :
    Inv spec (e.updateSequencer c fun q =>
      { q with mResponseCount := q.mResponseCount - 1, pc := .idle }) := by
  have hok := h.sequencers c
  have hrun := running_of_pc h (by rw [hpc]; simp)
  have hresp := hok.answered
  refine inv_lock h ⟨rfl, rfl, rfl⟩ ?_ ?_ (fun _ => rfl) rfl rfl ?_ (by simp)
  · refine ⟨hok.nodup, hok.set, hok.sequence, trivial, by simp [SequencerPc.resets], ?_, by simp,
      ?_⟩
    · show (e.sequencer c).mResponseCount - 1 ≤ (e.sequencer c).mRequestCount
      omega
    · intro hstop
      exact Bool.noConfusion (hstop.symm.trans hrun)
  · intro u
    rw [hpc]
    rfl
  · show (e.sequencer c).mResponseCount - 1 ≤ (e.sequencer c).mResponseCount
    omega

/-- The thread ends with an empty sequence. -/
theorem inv_threadEnd (h : Inv spec e) (hpc : (e.sequencer c).pc = .idle) :
    Inv spec (e.updateSequencer c fun q => { q with mSequence := [], running := false }) := by
  have hok := h.sequencers c
  have hframe : ThreadFrame spec c e (e.updateSequencer c fun q =>
      { q with mSequence := [], running := false }) := threadFrame_update ⟨rfl, rfl, rfl⟩
  refine h.of_thread hframe ?_ ?_ ?_
  · rw [sequencer_updateSequencer_self]
    exact ⟨hok.nodup, hok.set, by simp, hok.pc, hok.resets, hok.answered, hok.answering,
      fun _ => ⟨rfl, hpc⟩⟩
  · intro s hs
    have hreset : (e.view spec s).inReset = false := by
      rw [view_class hs, hpc]
      rfl
    have hv := (h.views s).dropSequence hreset
    rw [view_class hs] at hv
    rw [hframe.view_eq hs, view_class hs, sequencer_updateSequencer_self]
    exact hv
  · intro call _ _ _ _ hmem
    rw [sequencer_updateSequencer_self] at hmem
    exact absurd hmem List.not_mem_nil

/-- **Every step of a sequencer thread keeps the invariant.** -/
theorem inv_sequencerStep (h : Inv spec e) (what : SequencerStep) :
    Inv spec (e.sequencerStep c what) := by
  cases what with
  | reconcile => exact inv_reconcile h
  | respond => exact inv_respond h
  | reset s =>
      unfold sequencerStep
      dsimp only
      split
      · rename_i hc
        exact inv_reset h hc.1 hc.2.1 hc.2.2
      · exact h
  | restart =>
      unfold sequencerStep
      dsimp only
      split
      · rename_i hc
        exact inv_restart h hc.1 hc.2
      · exact h
  | go =>
      unfold sequencerStep
      dsimp only
      split
      · exact h
      · exact h
      · -- the end of a reset in the service loop
        rename_i s hpc
        refine inv_endReset h .idle ?_ idle_resets (by simp)
          (running_of_pc h (by rw [hpc]; simp)) trivial ?_
        · intro u
          rw [hpc]
          rfl
        · unfold SequencerAccount.locked moveTo
          rw [hpc]
      · -- the end of the restart loop
        rename_i hpc
        exact inv_restarted h hpc
      · -- a reset in the restart loop begins
        rename_i s todo hpc
        exact inv_restartStream h hpc
      · -- and ends
        rename_i s todo hpc
        refine inv_endReset h (.restarting todo) ?_ (fun _ => rfl) (by simp)
          (running_of_pc h (by rw [hpc]; simp)) (mem_of_restartingStream h hpc) ?_
        · intro u
          rw [hpc]
          rfl
        · unfold SequencerAccount.locked moveTo
          rw [hpc]
  | threadEnd =>
      unfold sequencerStep
      dsimp only
      split
      · rename_i hpc
        exact inv_threadEnd h hpc
      · exact h

/-! ## Runs -/

/-- A sequencer starts with a request of its own open. -/
theorem inv_start (h : Inv spec e) (hapi : e.api = none) :
    Inv spec (e.updateSequencer c fun q => { q.request with running := true }) := by
  have hok := (h.sequencers c).request
  have hframe : ThreadFrame spec c e
      (e.updateSequencer c fun q => { q.request with running := true }) :=
    threadFrame_update ⟨rfl, rfl, rfl⟩
  refine h.of_thread hframe ?_ ?_ ?_
  · rw [sequencer_updateSequencer_self]
    exact ⟨hok.nodup, hok.set, hok.sequence, hok.pc, hok.resets, hok.answered, hok.answering,
      fun hstop => Bool.noConfusion hstop⟩
  · intro s hs
    have hv := h.views s
    rw [view_class hs] at hv
    rw [hframe.view_eq hs, view_class hs, sequencer_updateSequencer_self]
    exact hv
  · intro call hcall
    rw [hapi] at hcall
    exact absurd hcall (by simp)

theorem inv_step (h : Inv spec e) (ev : Event) (hok : CheckOk spec e ev) :
    Inv spec (e.step spec ev) := by
  cases ev with
  | activateAvbStream s =>
      unfold step
      dsimp only
      split
      · rename_i hapi
        exact inv_activateAvbStream h hapi
      · exact h
  | deactivateAvbStream s =>
      unfold step
      dsimp only
      split
      · rename_i hapi
        exact inv_deactivateAvbStream h hapi false (by simp)
      · exact h
  | destroyAvbStream s =>
      unfold step
      dsimp only
      split
      · rename_i hapi
        exact inv_deactivateAvbStream h hapi true fun _ => hok hapi
      · exact h
  | start c =>
      unfold step
      dsimp only
      split
      · rename_i hc
        exact inv_start h hc.1
      · exact h
  | api timeout => exact inv_apiStep h timeout hok
  | sequencer c what => exact inv_sequencerStep h what

/-- No call is in progress, and no sequencer thread is in the middle of a reset. -/
def Quiet (e : TxEngine) : Prop :=
  e.api = none ∧ ∀ c s, (e.sequencer c).pc.resets s = false

/-- What a user of the engine counts on. -/
structure Accounted (spec : TxSpec) (e : TxEngine) : Prop where
  active : ∀ s, e.mAvbStreams s = true →
    (e.mActive s = true ↔ s ∈ (e.getSequencerByStream spec s).mActiveStreams)
  nodup : ∀ c, (e.sequencer c).mActiveStreams.Nodup
  bandwidth : ∀ c, (e.sequencer c).mCurrentBandwidth =
    sumOver spec.getRequiredBandwidth (e.sequencer c).mActiveStreams
  frames : ∀ c, (e.sequencer c).mCurrentMaxIntervalFrames =
    sumOver spec.getMaxIntervalFrames (e.sequencer c).mActiveStreams
  destroyed : ∀ s, e.mAvbStreams s = false → ∀ c, s ∉ (e.sequencer c).mActiveStreams

theorem Inv.accounted (h : Inv spec e) (hquiet : Quiet e) : Accounted spec e where
  active s _ := by
    have hsettled := h.settled hquiet.1 s
    constructor
    · intro hact
      exact of_decide_eq_true (hsettled.active hact)
    · intro hmem
      exact hsettled.set (decide_eq_true hmem) (hquiet.2 _ s)
  nodup c := (h.sequencers c).nodup
  bandwidth c := by
    have hs := (h.sums c).bandwidth
    rw [hquiet.1] at hs
    exact hs
  frames c := by
    have hs := (h.sums c).frames
    rw [hquiet.1] at hs
    exact hs
  destroyed s hs c hmem := by
    have hc := (h.sequencers c).set s hmem
    subst hc
    have hlisted := (h.settled hquiet.1 s).listed (decide_eq_true hmem)
    exact Bool.noConfusion (hlisted.symm.trans hs)

/-- **The account holds whenever nothing is in progress**, after every run in which no
activation admits a stream that is in the set already or whose share does not fit, and no
destruction takes a stream in a reset for inactive. -/
theorem accounted_of_checkOk (spec : TxSpec) (events : List Event)
    (hok : Always (step spec) (CheckOk spec) {} events)
    (hquiet : Quiet (exec (step spec) {} events)) :
    Accounted spec (exec (step spec) {} events) := by
  have hstep : ∀ (e : TxEngine) (ev : Event), Inv spec e → CheckOk spec e ev →
      Inv spec (step spec e ev) := fun _ ev h => inv_step h ev
  have hinv : Inv spec (exec (step spec) {} events) :=
    @inv_exec _ _ _ _ (Inv spec) hstep _ _ (inv_init spec) hok
  exact hinv.accounted hquiet


/-- One class, every stream takes 5 kBit/s in one frame. -/
def small : TxSpec where
  getClass _ := .eIasAvbSrClassLow
  getRequiredBandwidth _ := 5
  getMaxIntervalFrames _ := 1
  getPacketsPerSecondByClass _ := 4000
  txMaxBandwidth := 100000
  txWindowWidth := 24000000
  getTxRingSize := 512

/-- Stream 0 is activated, and its sequencer answers both requests. -/
def activated : List Event :=
  [.start .eIasAvbSrClassLow, .activateAvbStream 0, .api false, .api false, .api false, .api false,
    .sequencer .eIasAvbSrClassLow .reconcile, .sequencer .eIasAvbSrClassLow .respond,
    .sequencer .eIasAvbSrClassLow .reconcile, .sequencer .eIasAvbSrClassLow .respond]

/-- A run with a reset, a removal that the thread confirms, and a destruction. -/
theorem accounted_of_checkOk_small :
    Accounted small (exec (step small) {} (activated ++
      [.sequencer .eIasAvbSrClassLow (.reset 0), .sequencer .eIasAvbSrClassLow .go,
        .deactivateAvbStream 0, .api false, .api false, .api false,
        .sequencer .eIasAvbSrClassLow .reconcile, .sequencer .eIasAvbSrClassLow .respond,
        .api false, .api false, .api false, .destroyAvbStream 0, .api false])) := by
  refine accounted_of_checkOk small _ (by decide) ⟨rfl, ?_⟩
  intro c s
  cases c <;> rfl

/-- **Both conditions are needed.** While the sequencer has stream 0 deactivated in a reset,
an activation takes it in a second time: in the end the bandwidth is counted twice. A
destruction in the same place deletes it and leaves it in the set. -/
theorem reset_fools_the_check :
    (Quiet (exec (step small) {} (activated ++
        [.sequencer .eIasAvbSrClassLow (.reset 0), .activateAvbStream 0, .api false, .api false,
          .api false, .api false, .sequencer .eIasAvbSrClassLow .go])) ∧
      ¬ Accounted small (exec (step small) {} (activated ++
        [.sequencer .eIasAvbSrClassLow (.reset 0), .activateAvbStream 0, .api false, .api false,
          .api false, .api false, .sequencer .eIasAvbSrClassLow .go]))) ∧
    (Quiet (exec (step small) {} (activated ++
        [.sequencer .eIasAvbSrClassLow (.reset 0), .destroyAvbStream 0, .api false,
          .sequencer .eIasAvbSrClassLow .go])) ∧
      ¬ Accounted small (exec (step small) {} (activated ++
        [.sequencer .eIasAvbSrClassLow (.reset 0), .destroyAvbStream 0, .api false,
          .sequencer .eIasAvbSrClassLow .go]))) := by
  refine ⟨⟨⟨rfl, ?_⟩, ?_⟩, ⟨rfl, ?_⟩, ?_⟩
  · intro c s
    cases c <;> rfl
  · intro h
    exact absurd (h.bandwidth .eIasAvbSrClassLow) (by decide)
  · intro c s
    cases c <;> rfl
  · intro h
    exact absurd (h.destroyed 0 (by decide) .eIasAvbSrClassLow) (by decide)

end TxEngine

end AvbStreamHandler
