import AvbStreamHandler.Kit.Run
import AvbStreamHandler.Receive.StreamJournal

/-!
# Runs of the receive thread

The client is told exactly the changes, in every run: entries and journal go together.

The timeouts are another matter. A general timeout is one: the counter of the cycles never runs
ahead of what was waited since the last packet. A single stream is judged by an unsigned
difference, and if the clock has stepped back behind the stream's last packet that is huge.
So the timeouts are right as long as no check meets such a stream.
-/

namespace AvbStreamHandler

open Kit Kit.Run Kit.Word IasAvbProcessingResult IasAvbReceiveEngine

namespace ReceiveThread

variable {c : ReceiveThreadConfig} {t : ReceiveThread} {w : IasAvbReceiveEngine}
  {report : Nat → StateReport} {key idle : Nat} {data : StreamData}

/-! ## A pass -/

theorem idleWaitNs_eq (c : ReceiveThreadConfig) : c.idleWaitNs = c.idleWait * 1000 := by
  refine Nat.mod_eq_of_lt ?_
  unfold ReceiveThreadConfig.idleWait
  split
  · rename_i ns _
    have hns := ns.toNat_lt
    omega
  · decide

theorem JournalInv.generalTimeout (h : JournalInv t) :
    JournalInv (t.generalTimeout c report) := by
  refine JournalInv.timeouts ?_
  split
  · exact h.reset
  · exact h.wait (Nat.le_add_right _ _)

/-- **Nothing was received for the idle time**, so every stream is idle. -/
theorem justified_generalTimeout (h : JournalInv t) {p : ReceivePass}
    (htimedOut : timedOut c t p = true) :
    TimeoutsJustified (c.idleWait * 1000) (t.generalTimeout c report).journal ↔
      TimeoutsJustified (c.idleWait * 1000) t.journal := by
  unfold timedOut at htimedOut
  unfold ReceiveThread.generalTimeout
  cases hdirect : c.directRxDma with
  | true =>
      rw [hdirect, if_pos rfl, decide_eq_true_eq] at htimedOut
      rw [if_pos rfl, justified_timeouts h.reset]
      refine and_iff_left fun k _ data _ _ => Or.inl ?_
      have helapsed := h.elapsed data.stream
      show c.idleWait * 1000 ≤ waitedSince data.stream t.journal
      omega
  | false =>
      have hwait : JournalInv (t.write (.waited (c.idleWait * 1000))) :=
        h.wait (Nat.le_add_right _ _)
      rw [if_neg Bool.false_ne_true, justified_timeouts hwait]
      refine (and_iff_left fun k _ data _ _ => Or.inl ?_).trans (timeoutsJustified_waited _)
      show _ ≤ waitedSince data.stream (t.journal ++ [.waited _])
      rw [waitedSince_concat]
      exact Nat.le_add_left _ _

theorem JournalInv.receive (h : JournalInv t) (f : PolledFrame) : JournalInv (t.receive c f) := by
  unfold ReceiveThread.receive
  have hserves : FrameServes t.engine t.now (fun stream => (f.report stream).after)
      (receiveFrame c.engine t.engine f.frame f.reception.recvLength t.now
        fun stream => (f.report stream).after) := receiveFrame_serves h.one
  generalize receiveFrame c.engine t.engine f.frame f.reception.recvLength t.now
    (fun stream => (f.report stream).after) = result at hserves ⊢
  obtain ⟨w, trace⟩ := result
  rcases hserves with ⟨rfl, hnone⟩ | ⟨d, data, hd, hstream, hserves⟩
  · have hempty : frameEntries t.engine t.engine trace t.now f.report = [] := by
      unfold frameEntries
      rw [hnone]
    dsimp only
    rw [hempty, List.append_nil]
    exact h.reset
  · obtain ⟨k, hentry⟩ := hserves.entry
    have hone : frameEntries t.engine w trace t.now f.report = [.dispatched
        (data.record (w.idOf d.stream) true t.now (f.report data.stream))] := by
      unfold frameEntries
      rw [hd]
      dsimp only
      rw [hstream, entryOf_eq h.one hentry]
    dsimp only
    rw [hone]
    exact h.dispatch hserves (Nat.zero_le _) fun _ => rfl

/-- A frame is no timeout. -/
theorem justified_receive (f : PolledFrame) :
    TimeoutsJustified idle (t.receive c f).journal ↔ TimeoutsJustified idle t.journal := by
  show TimeoutsJustified idle (t.journal ++ frameEntries _ _ _ _ _) ↔ _
  unfold frameEntries
  split
  · split
    · exact timeoutsJustified_dispatched.trans
        (and_iff_left fun hpacket => Bool.noConfusion hpacket)
    · rw [List.append_nil]
  · rw [List.append_nil]

theorem JournalInv.receiveFrames (h : JournalInv t) (fs : List PolledFrame) :
    JournalInv (t.receiveFrames c fs) := by
  induction fs generalizing t with
  | nil => exact h
  | cons f fs ih =>
      unfold ReceiveThread.receiveFrames
      split
      · exact h
      · exact ih (h.receive f)

theorem justified_receiveFrames (fs : List PolledFrame) :
    TimeoutsJustified idle (t.receiveFrames c fs).journal ↔
      TimeoutsJustified idle t.journal := by
  induction fs generalizing t with
  | nil => exact Iff.rfl
  | cons f fs ih =>
      unfold receiveFrames
      split
      · exact Iff.rfl
      · exact ih.trans (justified_receive f)

theorem JournalInv.sleep (h : JournalInv t) : JournalInv (t.sleep c) := by
  unfold ReceiveThread.sleep
  split
  · exact h
  · exact h.wait (Nat.mod_le _ _)

theorem justified_sleep :
    TimeoutsJustified idle (t.sleep c).journal ↔ TimeoutsJustified idle t.journal := by
  unfold sleep
  split
  · exact Iff.rfl
  · exact timeoutsJustified_waited _

/-- The pass checks the single streams. -/
def ChecksStreams (c : ReceiveThreadConfig) (t : ReceiveThread) (p : ReceivePass) : Prop :=
  timedOut c t p = false ∧ selectFailed c p = false ∧ checkDue c t = true

/-- **The clock is not behind the last packet** of any stream, when the single streams are
checked; or so far behind that the difference is small, or the stream is idle anyway. -/
def Punctual (c : ReceiveThreadConfig) (t : ReceiveThread) : ReceiveEvent → Prop
  | .pass p => ChecksStreams c t p → ∀ k data, t.engine.mAvbStreams.lookup k = some data →
      ∀ last ∈ lastPacket data.stream t.journal,
        last ≤ t.now ∨ sub64 t.now last ≤ c.idleWaitNs
          ∨ c.idleWaitNs ≤ waitedSince data.stream t.journal
  | _ => True

/-- What the unsigned difference makes of a stream. -/
theorem idle_of_due_iff (h : JournalInv t) (hentry : t.engine.mAvbStreams.lookup key = some data) :
    (Due t (some idle) data → Idle idle t.journal data.stream t.now) ↔
      ∀ last ∈ lastPacket data.stream t.journal,
        last ≤ t.now ∨ sub64 t.now last ≤ idle ∨ idle ≤ waitedSince data.stream t.journal := by
  have hnow := h.now_lt
  constructor
  · intro hidle last hlast
    have htime := h.lastTime key data hentry last hlast
    by_cases hdue : idle < sub64 t.now last
    · rcases hidle fun wait hwait => by
        obtain rfl := Option.some.inj hwait
        rw [htime]
        exact hdue with hwaited | hread
      · exact Or.inr (Or.inr hwaited)
      · have hlt := hread last hlast
        exact Or.inl (by omega)
    · exact Or.inr (Or.inl (Nat.le_of_not_lt hdue))
  · intro hall hdue
    refine or_iff_not_imp_left.mpr fun hshort last hlast => ?_
    have htime := h.lastTime key data hentry last hlast
    have hdiff : idle < sub64 t.now last := htime ▸ hdue idle rfl
    rcases hall last hlast with hle | hsmall | hwaited
    · -- the difference is the one of the readings
      unfold sub64 at hdiff
      omega
    · exact absurd hdiff (Nat.not_lt.mpr hsmall)
    · exact absurd hwaited hshort

theorem forall_keys_iff {P : StreamData → Prop} {w : IasAvbReceiveEngine} :
    (∀ k ∈ w.mAvbStreams.keys, ∀ data, w.mAvbStreams.lookup k = some data → P data) ↔
      ∀ k data, w.mAvbStreams.lookup k = some data → P data := by
  constructor
  · intro h k data hentry
    have hmem : k ∈ w.mAvbStreams := AList.lookup_isSome.mp (hentry ▸ rfl)
    exact h k (AList.mem_keys.mp hmem) data hentry
  · exact fun h k _ => h k

/-- **A check of the single streams** is right exactly if the clock is not behind. -/
theorem justified_checkStreams (h : JournalInv t) :
    TimeoutsJustified (c.idleWait * 1000) (t.checkStreams c report).journal ↔
      TimeoutsJustified (c.idleWait * 1000) t.journal
        ∧ ∀ k data, t.engine.mAvbStreams.lookup k = some data →
          ∀ last ∈ lastPacket data.stream t.journal,
            last ≤ t.now ∨ sub64 t.now last ≤ c.idleWaitNs
              ∨ c.idleWaitNs ≤ waitedSince data.stream t.journal := by
  show TimeoutsJustified _ (t.timeouts (some c.idleWaitNs) report).journal ↔ _
  rw [← idleWaitNs_eq, justified_timeouts h]
  refine and_congr_right fun _ => ?_
  have hkeys := forall_keys_iff (P := fun data => Due t (some c.idleWaitNs) data →
    Idle c.idleWaitNs t.journal data.stream t.now) (w := t.engine)
  refine hkeys.trans (forall_congr' fun k => forall_congr' fun data => ?_)
  exact imp_congr_right fun hentry => idle_of_due_iff h hentry

theorem JournalInv.work (h : JournalInv t) (p : ReceivePass) : JournalInv (t.work c p) := by
  unfold ReceiveThread.work
  split
  · exact h.generalTimeout
  · split
    · exact h
    · split
      · have htimeouts : JournalInv (t.timeouts (some c.idleWaitNs) p.report) := h.timeouts
        exact { htimeouts with }
      · exact (h.receiveFrames p.frames).sleep

theorem justified_work (h : JournalInv t) (p : ReceivePass) :
    TimeoutsJustified (c.idleWait * 1000) (t.work c p).journal ↔
      TimeoutsJustified (c.idleWait * 1000) t.journal ∧ Punctual c t (.pass p) := by
  unfold work
  split
  · rename_i htimedOut
    refine (justified_generalTimeout h htimedOut).trans (and_iff_left fun hchecks => ?_).symm
    exact absurd hchecks.1 (by simp [htimedOut])
  · rename_i htimedOut
    split
    · rename_i hfailed
      refine (and_iff_left fun hchecks => ?_).symm
      exact absurd hchecks.2.1 (by simp [hfailed])
    · rename_i hfailed
      split
      · rename_i hdue
        refine (justified_checkStreams h).trans (and_congr_right fun _ => ?_)
        refine ⟨fun hall _ => hall, fun hall => hall ⟨?_, ?_, hdue⟩⟩
        · exact Bool.not_eq_true _ ▸ htimedOut
        · exact Bool.not_eq_true _ ▸ hfailed
      · rename_i hdue
        refine (justified_sleep.trans (justified_receiveFrames p.frames)).trans
          (and_iff_left fun hchecks => absurd hchecks.2.2 hdue).symm

/-! ## The calls of the clients -/

/-- No entry is added or changed. -/
theorem JournalInv.keeps (h : JournalInv t) (hallocated : w.allocated = t.engine.allocated)
    (hentries : ∀ k data, w.mAvbStreams.lookup k = some data →
      t.engine.mAvbStreams.lookup k = some data) : JournalInv (t.setEngine w) where
  now_lt := h.now_lt
  elapsed := h.elapsed
  lastState := fun k data hentry => h.lastState k data (hentries k data hentry)
  lastTime := fun k data hentry => h.lastTime k data (hentries k data hentry)
  allocated := fun k data hentry => hallocated ▸ h.allocated k data (hentries k data hentry)
  one := fun k k' data data' hentry hentry' =>
    h.one k k' data data' (hentries k data hentry) (hentries k' data' hentry')
  fresh := fun stream hfresh => h.fresh stream (hallocated ▸ hfresh)
  changes := h.changes

theorem JournalInv.setCall (h : JournalInv t) (call : ReceiveCall) :
    JournalInv (t.setEngine (t.engine.setCall call)) := h.keeps rfl fun _ _ hentry => hentry

theorem JournalInv.remove (h : JournalInv t) (streamId stream : Nat) (call : ReceiveCall) :
    JournalInv (t.setEngine ((t.engine.remove streamId stream).setCall call)) := by
  refine h.keeps rfl fun k data hentry => ?_
  have hlookup : (t.engine.mAvbStreams.erase streamId).lookup k = some data := hentry
  by_cases hk : k = streamId
  · rw [hk, AList.lookup_erase] at hlookup
    cases hlookup
  · rwa [AList.lookup_erase_ne hk] at hlookup

/-- A new stream: nothing is in the journal about it. -/
theorem JournalInv.addStream (h : JournalInv t) (streamId : Nat) (mac : IasAvbMacAddress)
    (call : ReceiveCall) :
    JournalInv (t.setEngine ((t.engine.addStream streamId mac).setCall call)) := by
  have hcases : ∀ k data, (t.engine.addStream streamId mac).mAvbStreams.lookup k = some data →
      (k = streamId ∧ data = ⟨t.engine.allocated, .eIasAvbStreamInactive, 0⟩)
        ∨ t.engine.mAvbStreams.lookup k = some data := by
    intro k data hentry
    have hlookup : (t.engine.mAvbStreams.insert streamId
      ⟨t.engine.allocated, .eIasAvbStreamInactive, 0⟩).lookup k = some data := hentry
    by_cases hk : k = streamId
    · rw [hk, AList.lookup_insert] at hlookup
      exact Or.inl ⟨hk, (Option.some.inj hlookup).symm⟩
    · rw [AList.lookup_insert_ne hk] at hlookup
      exact Or.inr hlookup
  have hnew := h.fresh t.engine.allocated (Nat.le_refl _)
  refine ⟨h.now_lt, h.elapsed, ?_, ?_, ?_, ?_, ?_, h.changes⟩
  · intro k data hentry
    rcases hcases k data hentry with ⟨_, rfl⟩ | hold
    · show _ = (reportsOf t.engine.allocated t.journal).getLastD _
      rw [hnew.1]
      rfl
    · exact h.lastState k data hold
  · intro k data hentry last hlast
    rcases hcases k data hentry with ⟨_, rfl⟩ | hold
    · have hnone : last ∈ lastPacket t.engine.allocated t.journal := hlast
      rw [hnew.2] at hnone
      cases hnone
    · exact h.lastTime k data hold last hlast
  · intro k data hentry
    show data.stream < t.engine.allocated + 1
    rcases hcases k data hentry with ⟨_, rfl⟩ | hold
    · exact Nat.lt_succ_self _
    · exact Nat.lt_succ_of_lt (h.allocated k data hold)
  · intro k k' data data' hentry hentry' hsame
    rcases hcases k data hentry with ⟨hk, rfl⟩ | hold <;>
      rcases hcases k' data' hentry' with ⟨hk', rfl⟩ | hold'
    · exact hk.trans hk'.symm
    · exact absurd hsame (h.allocated k' data' hold').ne'
    · exact absurd hsame (h.allocated k data hold).ne
    · exact h.one k k' data data' hold hold' hsame
  · intro stream hfresh
    exact h.fresh stream (Nat.le_of_succ_le hfresh)

theorem JournalInv.createReceiveStream (h : JournalInv t) (streamId : Nat)
    (mac : IasAvbMacAddress) :
    JournalInv (t.setEngine (t.engine.createReceiveStream streamId mac)) := by
  unfold IasAvbReceiveEngine.createReceiveStream
  split
  · split
    · exact h.setCall _
    · exact h.setCall _
  · exact h

theorem JournalInv.initReceive (h : JournalInv t) (result : IasAvbProcessingResult) :
    JournalInv (t.setEngine (t.engine.initReceive result)) := by
  unfold IasAvbReceiveEngine.initReceive
  split
  · split
    · exact h.addStream _ _ _
    · exact h.setCall _
  · exact h

theorem JournalInv.bindMcastAddr (h : JournalInv t) (success : Bool) :
    JournalInv (t.setEngine (t.engine.bindMcastAddr success)) := by
  unfold IasAvbReceiveEngine.bindMcastAddr
  split
  · split
    · exact h.setCall _
    · split
      · exact h.remove _ _ _
      · exact h.setCall _
  · exact h

theorem JournalInv.destroyAvbStream (h : JournalInv t) (streamId : Nat) :
    JournalInv (t.setEngine (t.engine.destroyAvbStream streamId)) := by
  unfold IasAvbReceiveEngine.destroyAvbStream
  split
  · split
    · exact h.remove _ _ _
    · exact h.setCall _
  · exact h

/-! ## Whole runs -/

theorem JournalInv.step (h : JournalInv t) (ev : ReceiveEvent) : JournalInv (t.step c ev) := by
  cases ev with
  | pass p =>
      have hwork : JournalInv (t.work c p) := h.work p
      exact { hwork with now_lt := p.localTime.toNat_lt }
  | createReceiveStream streamId mac => exact h.createReceiveStream streamId mac
  | initReceive result => exact h.initReceive result
  | bindMcastAddr success => exact h.bindMcastAddr success
  | destroyAvbStream streamId => exact h.destroyAvbStream streamId

/-- **A step keeps the timeouts right** exactly if it is punctual. -/
theorem justified_step (h : JournalInv t) (ev : ReceiveEvent) :
    TimeoutsJustified (c.idleWait * 1000) (t.step c ev).journal ↔
      TimeoutsJustified (c.idleWait * 1000) t.journal ∧ Punctual c t ev := by
  cases ev with
  | pass p => exact justified_work h p
  | createReceiveStream | initReceive | bindMcastAddr | destroyAvbStream =>
      exact (and_iff_left trivial).symm

/-- **The client is told every change, once and in order**, whatever the clock says. -/
theorem changesTold_run (c : ReceiveThreadConfig) (localTime : UInt64) (es : List ReceiveEvent) :
    ChangesTold (exec (step c) (start localTime) es).journal := by
  have hinv : JournalInv (exec (step c) (start localTime) es) :=
    inv_exec_of_step (fun _ ev h => h.step ev) (journalInv_start localTime) es
  exact hinv.changesTold

/-- A stream gets a packet at a second past, and during the sleep behind it the clock steps back
by a nanosecond. -/
def clockStepsBack : List ReceiveEvent :=
  [.createReceiveStream 7 streamMac, .initReceive eIasAvbProcOK, .bindMcastAddr true,
    .pass {
      frames := [⟨.igbReceive (some 60), frameSeven, fun _ => ⟨.eIasAvbStreamNoData,
        .eIasAvbStreamValid⟩⟩]
      report := fun _ => ⟨.eIasAvbStreamNoData, .eIasAvbStreamNoData⟩
      localTime := 999999999 },
    .pass {
      report := fun _ => ⟨.eIasAvbStreamValid, .eIasAvbStreamNoData⟩
      localTime := 1002000000 }]

end ReceiveThread

end AvbStreamHandler
