import AvbStreamHandler.Transmit.Handshake

/-!
# What the counters tell

The difference of the counters, less the response that is still to be counted for a finished
update, is the number of updates to come. It is never negative. A request raises it *after*
the set was changed, and a restart raises it after the sequence was cleared; an update lowers
it. So once it is zero, an update has come after the last change that was counted: the sequence
has the active streams, unless a call in progress has made another change and not counted it.
-/

namespace AvbStreamHandler

open Kit Kit.Run Kit.Cycle TxWorld

namespace TxHandshake

variable {spec : ShaperSpec} {mClass : IasAvbSrClass} {h : TxHandshake} {e : Event}
  {w' : TxWorld} {s n : Nat}

/-- Is there a response to be counted? -/
def owed : ThreadPlace → Int
  | .reconciled _ => 1
  | _ => 0

/-- The updates to come. -/
def pending (h : TxHandshake) : Int :=
  h.world.mRequestCount - h.world.mResponseCount - owed h.thread

/-- The places where the sequence is cleared. -/
def Cleared : ThreadPlace → Prop
  | .notRunning => True
  | .outerLoop => True
  | .restarting => True
  | _ => False

/-- The thread works on the sequence, or goes straight on to do so. -/
def Follows (h : TxHandshake) : Prop :=
  match h.thread with
  | .notRunning => False
  | .outerLoop => h.world.unflagged = true
  | .restarting => False
  | _ => True

/-- The places of a call between a change and its request. -/
def Uncounted : ApiPlace → Prop
  | .inserted _ => True
  | .erased _ => True
  | .restored _ => True
  | .starting => True
  | _ => False

/-- What the removal in progress has done to the set and the sums. -/
def RemovalOk (h : TxHandshake) : Prop :=
  match h.api with
  | .removing _ => h.AsBefore ∧ ∀ x ∈ h.removed, x ∉ h.activeBefore
  | .erased s | .requested s | .waiting s | .timedOut s =>
      h.world.mActiveStreams.Perm (h.activeBefore.erase s) ∧ h.activeBefore.Nodup
        ∧ h.sums = h.sumsBefore ∧ ∀ x ∈ h.removed, x ∉ h.activeBefore
  | .restored _ | .failed _ => h.AsBefore
  | _ => True

/-- What every step keeps. -/
structure Inv (h : TxHandshake) : Prop where
  distinct : (streams h.world.mSequence).Nodup
  active : h.world.mActiveStreams.Nodup
  cursor : CursorOk h.world.mSequence.length h.world.nextStreamToService
  answered : 0 ≤ h.pending
  /-- A request that was seen is still to be answered. -/
  seen : ∀ n, h.thread = .requestSeen n → 0 < h.pending
  cleared : Cleared h.thread → h.world.mSequence = []
  /-- With no update to come, the sequence has the active streams, but for a change that is
  not counted. -/
  synced : h.Follows → h.pending = 0 → (Synced h.world ↔ h.ahead = false)
  window : h.ahead = true → Uncounted h.api
  out : ∀ x ∈ h.removed, x ∉ h.world.mActiveStreams ∧ x ∉ streams h.world.mSequence
  removal : h.RemovalOk

/-! ## The halves of the steps -/

theorem reconcile_reconciled (hdistinct : (streams h.world.mSequence).Nodup)
    (hcursor : CursorOk h.world.mSequence.length h.world.nextStreamToService) :
    Synced h.world.reconcile
      ∧ CursorOk h.world.reconcile.mSequence.length h.world.reconcile.nextStreamToService := by
  have hround := updateOnce_reconciled hdistinct hcursor
  rw [updateOnce_eq] at hround
  exact ⟨hround.streams, hround.cursor⟩

theorem reconcile_setting (hdistinct : (streams h.world.mSequence).Nodup)
    (hcursor : CursorOk h.world.mSequence.length h.world.nextStreamToService) :
    SameSetting h.world h.world.reconcile := by
  have herase := eraseObsolete_erased h.world.mSequence [] h.world.mActiveStreams h.world hdistinct
    (by rwa [List.length_nil, Nat.zero_add])
  exact herase.setting.trans (foldl_insertNew_inserted _ _ herase.cursor).setting

theorem endUpdate_unmoved (w : TxWorld) (n : Nat) : Unmoved w (w.endUpdate n) := by
  unfold endUpdate
  split
  · exact ⟨⟨rfl, rfl, rfl, rfl, rfl⟩, rfl, rfl⟩
  · exact Unmoved.refl w

theorem insertStream_perm (w : TxWorld) (hnew : s ∉ w.mActiveStreams) :
    (w.insertStream s).mActiveStreams.Perm (s :: w.mActiveStreams) := by
  unfold insertStream
  rw [if_neg hnew]
  exact List.perm_orderedInsert _ s _

theorem insertStream_of_mem (w : TxWorld) (hmem : s ∈ w.mActiveStreams) :
    w.insertStream s = w := by
  unfold insertStream
  rw [if_pos hmem]

theorem eraseStream_of_notMem (w : TxWorld) (hnot : s ∉ w.mActiveStreams) :
    w.eraseStream s = w := by
  unfold eraseStream
  rw [List.erase_of_not_mem hnot]

/-- The members of the set after an insertion. -/
theorem mem_insertStream (w : TxWorld) (x : Nat) :
    x ∈ (w.insertStream s).mActiveStreams ↔ x = s ∨ x ∈ w.mActiveStreams := by
  by_cases hmem : s ∈ w.mActiveStreams
  · rw [insertStream_of_mem w hmem]
    exact ⟨.inr, fun h => h.elim (fun heq => heq ▸ hmem) id⟩
  · rw [(insertStream_perm w hmem).mem_iff, List.mem_cons]

theorem nodup_insertStream (w : TxWorld) (hactive : w.mActiveStreams.Nodup) :
    (w.insertStream s).mActiveStreams.Nodup := by
  by_cases hmem : s ∈ w.mActiveStreams
  · rwa [insertStream_of_mem w hmem]
  · exact (insertStream_perm w hmem).nodup_iff.mpr (List.nodup_cons.mpr ⟨hmem, hactive⟩)

/-- An insertion is noticed exactly if the stream is new. -/
theorem synced_insertStream {w : TxWorld} (hsynced : Synced w) :
    Synced (w.insertStream s) ↔ decide (s ∉ w.mActiveStreams) = false := by
  by_cases hmem : s ∈ w.mActiveStreams
  · rw [insertStream_of_mem w hmem]
    exact iff_of_true hsynced (decide_eq_false (not_not.mpr hmem))
  · refine iff_of_false ?_ (ne_of_eq_of_ne (decide_eq_true hmem) (by decide))
    intro hafter
    have hlen := hafter.length_eq.symm.trans hsynced.length_eq
    rw [(insertStream_perm w hmem).length_eq, List.length_cons] at hlen
    omega

/-- An erasure is noticed exactly if the stream was there. -/
theorem synced_eraseStream {w : TxWorld} (hsynced : Synced w) :
    Synced (w.eraseStream s) ↔ decide (s ∈ w.mActiveStreams) = false := by
  by_cases hmem : s ∈ w.mActiveStreams
  · refine iff_of_false ?_ (ne_of_eq_of_ne (decide_eq_true hmem) (by decide))
    intro hafter
    have hlen := hafter.length_eq.symm.trans hsynced.length_eq
    rw [show (w.eraseStream s).mActiveStreams = w.mActiveStreams.erase s from rfl,
      List.length_erase_of_mem hmem] at hlen
    have hpos := List.length_pos_of_mem hmem
    omega
  · rw [eraseStream_of_notMem w hmem]
    exact iff_of_true hsynced (decide_eq_false hmem)

/-! ## Steps that change one thing -/

/-- Of the world, only the flags decide whether the thread follows. -/
theorem follows_of_unflagged (hflags : w'.unflagged = h.world.unflagged)
    (hfollows : (h.setWorld w').Follows) : h.Follows := by
  unfold Follows setWorld at hfollows
  rw [hflags] at hfollows
  exact hfollows

/-- What the thread does leaves the removal in progress alone. -/
theorem RemovalOk.of_active (hr : h.RemovalOk) (hset : w'.mActiveStreams = h.world.mActiveStreams)
    (t : ThreadPlace) (ahead : Bool) :
    TxHandshake.RemovalOk { h with world := w', thread := t, ahead := ahead } := by
  unfold RemovalOk AsBefore at hr ⊢
  dsimp only
  rw [hset]
  exact hr

/-- The sequence is visited, or something else in the world is touched. -/
theorem Inv.visited (hi : Inv h) (hv : Visited h.world w')
    (hf : (h.setWorld w').Follows → h.Follows) : Inv (h.setWorld w') := by
  have hpending : (h.setWorld w').pending = h.pending := by
    unfold pending
    rw [show (h.setWorld w').world = w' from rfl, hv.setting.requests, hv.setting.responses]
    rfl
  have hactive : (h.setWorld w').world.mActiveStreams = h.world.mActiveStreams :=
    hv.setting.active
  refine ⟨hv.streams.nodup_iff.mpr hi.distinct, hactive ▸ hi.active, hv.cursor hi.cursor,
    hpending ▸ hi.answered, fun n hn => hpending ▸ hi.seen n hn, fun hc => ?_, ?_, hi.window, ?_,
    hi.removal.of_active hactive h.thread h.ahead⟩
  · exact ThreadWorld.idle_of_visited hv (hi.cleared hc)
  · intro hfollows hzero
    refine Iff.trans ?_ (hi.synced (hf hfollows) (hpending ▸ hzero))
    unfold Synced
    rw [hactive]
    exact ⟨hv.streams.symm.trans, hv.streams.trans⟩
  · intro x hx
    rw [hactive]
    exact ⟨(hi.out x hx).1, fun hin => (hi.out x hx).2 (hv.streams.mem_iff.mp hin)⟩

/-- The thread goes on, and the world stays as it is. -/
theorem Inv.setThread (hi : Inv h) (t : ThreadPlace) (howed : owed t = owed h.thread)
    (hseen : ∀ n, t = .requestSeen n → 0 < h.pending)
    (hcleared : Cleared t → h.world.mSequence = [])
    (hf : (h.setThread t).Follows → h.Follows) : Inv (h.setThread t) := by
  have hpending : (h.setThread t).pending = h.pending := by
    unfold pending
    rw [show (h.setThread t).thread = t from rfl, howed]
    rfl
  refine ⟨hi.distinct, hi.active, hi.cursor, hpending ▸ hi.answered, ?_, hcleared, ?_, hi.window,
    hi.out, hi.removal⟩
  · exact fun n hn => hpending ▸ hseen n hn
  · exact fun hfollows hzero => hi.synced (hf hfollows) (hpending ▸ hzero)

/-- The thread goes on to a place where it follows and nothing has been seen. -/
theorem Inv.goto (hi : Inv h) {t t' : ThreadPlace} (ht : h.thread = t) (howed : owed t' = owed t)
    (hin : ¬ Cleared t') (hunseen : ∀ n, t' ≠ .requestSeen n) (hfollows : h.Follows) :
    Inv (h.setThread t') := by
  refine hi.setThread t' ?_ (fun n hn => (hunseen n hn).elim) (fun hc => (hin hc).elim)
    fun _ => hfollows
  rw [ht, howed]

/-- The thread stops following where the sequence is cleared. -/
theorem Inv.rest (hi : Inv h) {t t' : ThreadPlace} (ht : h.thread = t) (howed : owed t' = owed t)
    (hcleared : Cleared t) (hunseen : ∀ n, t' ≠ .requestSeen n)
    (hstill : ¬ (h.setThread t').Follows) : Inv (h.setThread t') := by
  refine hi.setThread t' ?_ (fun n hn => (hunseen n hn).elim) (fun _ => hi.cleared ?_)
    fun hf => (hstill hf).elim
  · rw [ht, howed]
  · rwa [ht]

/-- Outside the windows a call notes something of its own: the world stays as it is. -/
theorem Inv.noted (hi : Inv h) (hahead : h.ahead = false) (a : ApiPlace) (sums : TxSums)
    (before : List Nat) (sumsBefore : TxSums)
    (hremoval : TxHandshake.RemovalOk
      { h with api := a, sums := sums, activeBefore := before, sumsBefore := sumsBefore }) :
    Inv { h with api := a, sums := sums, activeBefore := before, sumsBefore := sumsBefore } :=
  have hwindow : h.ahead = true → Uncounted a := fun hset => nomatch hahead.symm.trans hset
  ⟨hi.distinct, hi.active, hi.cursor, hi.answered, hi.seen, hi.cleared, hi.synced, hwindow,
    hi.out, hremoval⟩

/-- The call goes on, and nothing else changes. -/
theorem Inv.setApi (hi : Inv h) (a : ApiPlace) (hahead : h.ahead = false)
    (hremoval : (h.setApi a).RemovalOk) : Inv (h.setApi a) :=
  hi.noted hahead a h.sums h.activeBefore h.sumsBefore hremoval

/-- Outside the windows nothing is ahead of the counters. -/
theorem Inv.counted (hi : Inv h) (ha : ¬ Uncounted h.api) : h.ahead = false :=
  Bool.eq_false_iff.mpr fun hahead => ha (hi.window hahead)

/-- A request is counted. -/
theorem Inv.request (hi : Inv h) (a : ApiPlace) (hremoval : (h.request a).RemovalOk) :
    Inv (h.request a) := by
  have hpending : (h.request a).pending = h.pending + 1 := by
    unfold pending TxHandshake.request countRequest
    dsimp only
    omega
  have hanswered := hi.answered
  refine ⟨hi.distinct, hi.active, hi.cursor, by omega, fun _ _ => by omega, hi.cleared, ?_, nofun,
    hi.out, hremoval⟩
  intro _ hzero
  omega

/-- A stream enters the set. -/
theorem Inv.insert (hi : Inv h) (a : ApiPlace) (hahead : h.ahead = false) (ha : Uncounted a)
    {removed : List Nat} (hsub : ∀ x ∈ removed, x ∈ h.removed ∧ x ≠ s)
    (hremoval : ({ h.insert s a with removed := removed } : TxHandshake).RemovalOk) :
    Inv { h.insert s a with removed := removed } := by
  refine ⟨hi.distinct, nodup_insertStream _ hi.active, hi.cursor, hi.answered, hi.seen, hi.cleared,
    ?_, fun _ => ha, ?_, hremoval⟩
  · intro hfollows hzero
    exact synced_insertStream ((hi.synced hfollows hzero).mpr hahead)
  · intro x hx
    obtain ⟨hin, hne⟩ := hsub x hx
    refine ⟨fun hmem => ?_, (hi.out x hin).2⟩
    exact ((mem_insertStream _ x).mp hmem).elim hne (hi.out x hin).1

/-- A stream leaves the set. -/
theorem Inv.erase (hi : Inv h) (a : ApiPlace) (hahead : h.ahead = false) (ha : Uncounted a)
    (hremoval : (h.erase s a).RemovalOk) : Inv (h.erase s a) := by
  refine ⟨hi.distinct, hi.active.erase s, hi.cursor, hi.answered, hi.seen, hi.cleared,
    ?_, fun _ => ha, ?_, hremoval⟩
  · intro hfollows hzero
    exact synced_eraseStream ((hi.synced hfollows hzero).mpr hahead)
  · intro x hx
    exact ⟨fun hmem => (hi.out x hx).1 (List.mem_of_mem_erase hmem), (hi.out x hx).2⟩

/-! ## The steps of the thread -/

theorem follows_of_visited {t : ThreadPlace} (ht : h.thread = t) (hin : ¬ Cleared t) :
    h.Follows := by
  unfold Follows
  cases t <;> first | (exact absurd trivial hin) | (rw [ht]; trivial)

/-- A request is seen, so an update is to come. -/
theorem inv_see (hi : Inv h) (ht : h.thread = .comparing n)
    (hpos : 0 < h.world.mRequestCount - h.world.mResponseCount) :
    Inv (h.setThread (.requestSeen n)) := by
  refine hi.setThread _ ?_ (fun _ _ => ?_) False.elim fun _ => follows_of_visited ht id
  · rw [ht]
    rfl
  · unfold pending
    rw [ht]
    show 0 < h.world.mRequestCount - h.world.mResponseCount - 0
    omega

/-- The update under the lock. -/
theorem inv_reconcile (hi : Inv h) (ht : h.thread = .requestSeen n) :
    Inv { h with world := h.world.reconcile, thread := .reconciled n, ahead := false } := by
  obtain ⟨hsynced, hcursor⟩ := reconcile_reconciled hi.distinct hi.cursor
  have hset := reconcile_setting hi.distinct hi.cursor
  have hseen := hi.seen n ht
  have hpending : TxHandshake.pending
      { h with world := h.world.reconcile, thread := .reconciled n, ahead := false }
      = h.pending - 1 := by
    unfold pending
    rw [ht]
    dsimp only
    rw [hset.requests, hset.responses]
    show _ - _ - 1 = _ - _ - 0 - 1
    omega
  have hstreams : ∀ x, x ∈ streams h.world.reconcile.mSequence ↔ x ∈ h.world.mActiveStreams := by
    intro x
    rw [hsynced.mem_iff, hset.active]
  have hactive : h.world.reconcile.mActiveStreams.Nodup := hset.active ▸ hi.active
  refine ⟨hsynced.nodup_iff.mpr hactive, hactive, hcursor, by omega, nofun, nofun,
    fun _ _ => iff_of_true hsynced rfl, nofun, ?_, hi.removal.of_active hset.active _ _⟩
  intro x hx
  have hgone := (hi.out x hx).1
  exact ⟨hset.active ▸ hgone, fun hin => hgone ((hstreams x).mp hin)⟩

/-- The response is counted, which was owed. -/
theorem inv_respond (hi : Inv h) (ht : h.thread = .reconciled n) :
    Inv ((h.setWorld h.world.countResponse).setThread (.comparing n)) := by
  have hpending : ((h.setWorld h.world.countResponse).setThread (.comparing n)).pending
      = h.pending := by
    unfold pending
    rw [ht]
    show h.world.mRequestCount - (h.world.mResponseCount + 1) - 0
      = h.world.mRequestCount - h.world.mResponseCount - 1
    omega
  refine ⟨hi.distinct, hi.active, hi.cursor, hpending ▸ hi.answered, nofun, nofun, ?_, hi.window,
    hi.out, hi.removal⟩
  exact fun _ hzero => hi.synced (follows_of_visited ht nofun) (hpending ▸ hzero)

theorem returnEntryPacket_unflagged (w : TxWorld) (d : StreamData) :
    (w.returnEntryPacket d).unflagged = w.unflagged := by
  unfold returnEntryPacket
  cases d.packet <;> rfl

theorem endThread_unflagged (w : TxWorld) : w.endThread.unflagged = w.unflagged := by
  have hheld : ∀ (l : List StreamData) (w : TxWorld), (w.returnHeld l).unflagged = w.unflagged := by
    intro l
    induction l with
    | nil => exact fun _ => rfl
    | cons d l ih => exact fun w => (ih _).trans (returnEntryPacket_unflagged w d)
  exact hheld w.mSequence w

/-- The end of the loop over the passes clears the sequence. -/
theorem inv_leave (hi : Inv h) (ht : h.thread = .passLoop) (hflag : h.world.unflagged = false) :
    Inv ((h.setWorld h.world.endThread).setThread .outerLoop) := by
  have hset : SameSetting h.world h.world.endThread :=
    (ThreadWorld.returnHeld_setting h.world.mSequence h.world).trans ⟨rfl, rfl, rfl, rfl, rfl⟩
  have hpending : ((h.setWorld h.world.endThread).setThread .outerLoop).pending = h.pending := by
    unfold pending
    rw [ht]
    show h.world.endThread.mRequestCount - h.world.endThread.mResponseCount - 0 = _ - 0
    rw [hset.requests, hset.responses]
  refine ⟨List.nodup_nil, hset.active ▸ hi.active, .inr ⟨rfl, rfl⟩, hpending ▸ hi.answered, nofun,
    fun _ => rfl, ?_, hi.window, ?_, hi.removal.of_active hset.active _ _⟩
  · intro hfollows
    have hfollows : h.world.endThread.unflagged = true := hfollows
    rw [endThread_unflagged, hflag] at hfollows
    exact nomatch hfollows
  · exact fun x hx => ⟨hset.active ▸ (hi.out x hx).1, List.not_mem_nil⟩

/-- The restart takes a response back, so that an update is to come. -/
theorem inv_unlock (hi : Inv h) (ht : h.thread = .restarting) :
    Inv ((h.setWorld h.world.restartThread).setThread .passLoop) := by
  have hfold := ThreadWorld.foldl_toggle_unmoved h.world.mActiveStreams h.world
  have hsequence : h.world.restartThread.mSequence = h.world.mSequence := hfold.sequence
  have hcursor : h.world.restartThread.nextStreamToService = h.world.nextStreamToService :=
    hfold.cursor
  have hactive : h.world.restartThread.mActiveStreams = h.world.mActiveStreams :=
    hfold.setting.active
  have hpending : ((h.setWorld h.world.restartThread).setThread .passLoop).pending
      = h.pending + 1 := by
    unfold pending
    rw [ht]
    show h.world.restartThread.mRequestCount - (h.world.mResponseCount - 1) - 0
      = h.world.mRequestCount - h.world.mResponseCount - 0 + 1
    rw [show h.world.restartThread.mRequestCount = h.world.mRequestCount from
      hfold.setting.requests]
    omega
  have hanswered := hi.answered
  refine ⟨hsequence ▸ hi.distinct, hactive ▸ hi.active, ?_, by omega, nofun, nofun, ?_, hi.window,
    ?_, hi.removal.of_active hactive _ _⟩
  · show CursorOk h.world.restartThread.mSequence.length h.world.restartThread.nextStreamToService
    rw [hsequence, hcursor]
    exact hi.cursor
  · intro _ hzero
    omega
  · intro x hx
    exact ⟨hactive ▸ (hi.out x hx).1, hsequence ▸ (hi.out x hx).2⟩

theorem setFlags_visited (w : TxWorld) (endThread restartThread : Bool) :
    Visited w { w with cFlagEndThread := endThread, cFlagRestartThread := restartThread } :=
  Visited.of_unmoved ⟨⟨rfl, rfl, rfl, rfl, rfl⟩, rfl, rfl⟩

/-- **Every step of the thread keeps the invariant.** -/
theorem inv_threadStep (what : ThreadStep) (hi : Inv h) : Inv (h.threadStep what) := by
  cases what with
  | enterPassLoop =>
      dsimp only [threadStep]
      split
      · rename_i hgo
        -- no flag is set, so the thread followed before
        refine hi.goto hgo.1 rfl id (fun _ => ThreadPlace.noConfusion) ?_
        unfold Follows
        rw [hgo.1]
        exact hgo.2
      · exact hi
  | enterPass =>
      dsimp only [threadStep]
      split
      · rename_i hgo
        exact hi.goto hgo.1 rfl id (fun _ => ThreadPlace.noConfusion) (follows_of_visited hgo.1 id)
      · exact hi
  | compare =>
      dsimp only [threadStep]
      split
      · rename_i n ht
        split
        · rename_i hpos
          exact inv_see hi ht hpos
        · -- no request is to be answered: what is left of the update only sets the window
          have hfollows : h.Follows := follows_of_visited ht id
          have hv := hi.visited (Visited.of_unmoved (endUpdate_unmoved h.world n))
            fun _ => hfollows
          exact hv.goto ht rfl id (fun _ => ThreadPlace.noConfusion) (follows_of_visited ht id)
      · exact hi
  | reconcile =>
      dsimp only [threadStep]
      split
      · rename_i n ht
        exact inv_reconcile hi ht
      · exact hi
  | respond =>
      dsimp only [threadStep]
      split
      · rename_i n ht
        exact inv_respond hi ht
      · exact hi
  | beginCycle =>
      dsimp only [threadStep]
      split
      · rename_i ht
        exact hi.visited (ThreadWorld.beginCycle_visited _) fun _ => follows_of_visited ht id
      · exact hi
  | service windowStart result preps =>
      dsimp only [threadStep]
      split
      · rename_i hgo
        exact hi.visited (serviceStream_visited ..) fun _ => follows_of_visited hgo.1 id
      · exact hi
  | endCycle =>
      dsimp only [threadStep]
      split
      · rename_i ht
        exact hi.visited (ThreadWorld.endCycle_visited _) fun _ => follows_of_visited ht id
      · exact hi
  | requestRestart =>
      dsimp only [threadStep]
      split
      · rename_i ht
        exact hi.visited (setFlags_visited ..) fun _ => follows_of_visited ht id
      · exact hi
  | requestEnd =>
      dsimp only [threadStep]
      split
      · rename_i ht
        exact hi.visited (setFlags_visited ..) fun _ => follows_of_visited ht id
      · exact hi
  | endPass =>
      dsimp only [threadStep]
      split
      · rename_i ht
        exact hi.goto ht rfl id (fun _ => ThreadPlace.noConfusion) (follows_of_visited ht id)
      · exact hi
  | leave =>
      dsimp only [threadStep]
      split
      · rename_i hgo
        exact inv_leave hi hgo.1 hgo.2
      · exact hi
  | lock =>
      dsimp only [threadStep]
      split
      · rename_i hgo
        exact hi.rest hgo.1 rfl trivial (fun _ => ThreadPlace.noConfusion) id
      · exact hi
  | unlock =>
      dsimp only [threadStep]
      split
      · rename_i ht
        exact inv_unlock hi ht
      · exact hi
  | quit =>
      dsimp only [threadStep]
      split
      · rename_i hgo
        exact hi.rest hgo.1 rfl trivial (fun _ => ThreadPlace.noConfusion) id
      · exact hi

/-! ## The steps of the API -/

/-- A confirmed removal: the stream is in neither the set nor the sequence. -/
theorem inv_confirm (hi : Inv h) (hahead : h.ahead = false)
    (hout : s ∉ h.world.mActiveStreams ∧ s ∉ streams h.world.mSequence) : Inv (h.confirm s) := by
  refine ⟨hi.distinct, hi.active, hi.cursor, hi.answered, hi.seen, hi.cleared, hi.synced, ?_, ?_,
    trivial⟩
  · intro hset
    exact nomatch hahead.symm.trans hset
  · intro x hx
    rcases List.mem_cons.mp hx with rfl | hx
    · exact hout
    · exact hi.out x hx

theorem notRunning_of_stopped (hstopped : ¬ h.isRunning = true) : h.thread = .notRunning := by
  unfold isRunning at hstopped
  simpa using hstopped

/-- The stream of a removal is out of the set. -/
theorem notMem_of_erased (hperm : h.world.mActiveStreams.Perm (h.activeBefore.erase s))
    (hnodup : h.activeBefore.Nodup) : s ∉ h.world.mActiveStreams :=
  fun hmem => hnodup.not_mem_erase (hperm.mem_iff.mp hmem)

/-- **Equal counters confirm the removal.** -/
theorem notMem_streams_of_answered (hi : Inv h) (hahead : h.ahead = false)
    (hs : s ∉ h.world.mActiveStreams)
    (hequal : h.world.mRequestCount = h.world.mResponseCount) :
    s ∉ streams h.world.mSequence := by
  have hanswered := hi.answered
  unfold pending at hanswered
  by_cases hcleared : Cleared h.thread
  · rw [hi.cleared hcleared]
    exact List.not_mem_nil
  · -- no response is owed, since there would be too many
    have howed : owed h.thread = 0 := by
      revert hanswered
      unfold owed
      split <;> omega
    have hzero : h.pending = 0 := by
      unfold pending
      rw [howed]
      omega
    have hsynced := (hi.synced (follows_of_visited rfl hcleared) hzero).mpr hahead
    exact fun hin => hs (hsynced.mem_iff.mp hin)

/-- What a stream that is put back makes of the set. -/
theorem asBefore_insert (hperm : h.world.mActiveStreams.Perm (h.activeBefore.erase s))
    (hnodup : h.activeBefore.Nodup) :
    (h.world.insertStream s).mActiveStreams.Perm h.activeBefore ↔ s ∈ h.activeBefore := by
  have hinsert := insertStream_perm h.world (notMem_of_erased hperm hnodup)
  constructor
  · intro hsame
    exact hsame.subset (hinsert.symm.subset List.mem_cons_self)
  · intro hmem
    exact hinsert.trans ((List.Perm.cons s hperm).trans (List.perm_cons_erase hmem).symm)

theorem inv_start (hi : Inv h) (hidle : h.api = .idle) (created : Bool) :
    Inv (h.start created) := by
  have hahead := hi.counted (by rw [hidle]; exact id)
  unfold start
  split
  · rename_i hnew
    have hempty := hi.cleared (hnew.1 ▸ trivial)
    have hpending : TxHandshake.pending
        { h with
          world := h.world.beginRun, thread := .outerLoop, api := .starting
          ahead := decide (h.world.mActiveStreams ≠ []) } = h.pending := by
      unfold pending
      rw [hnew.1]
      rfl
    refine ⟨hi.distinct, hi.active, ?_, hpending ▸ hi.answered, nofun, fun _ => hempty, ?_,
      fun _ => trivial, hi.out, trivial⟩
    · show CursorOk h.world.mSequence.length h.world.mSequence.length
      rw [hempty]
      exact .inr ⟨rfl, rfl⟩
    · intro _ _
      show (streams h.world.mSequence).Perm h.world.mActiveStreams ↔ _
      rw [hempty, show streams [] = [] from rfl, List.nil_perm]
      simp
  · exact hi.setApi _ hahead trivial

/-- **Every step of a call keeps the invariant**, if only a stream that was active is put
back. -/
theorem inv_apiStep (hi : Inv h) (timeout : Bool)
    (hwas : ∀ s, h.restores (.api timeout) = some s → s ∈ h.activeBefore) :
    Inv (h.apiStep spec mClass timeout) := by
  have hremoval := hi.removal
  have hcounted := hi.counted
  unfold RemovalOk at hremoval
  unfold apiStep
  cases hat : h.api with
  | idle => exact hi
  | admitted s =>
      rw [hat] at hcounted
      dsimp only
      split
      · exact hi
      · refine hi.insert (.inserted s) (hcounted id) trivial ?_ trivial
        intro x hx
        obtain ⟨hin, hne⟩ := List.mem_filter.mp hx
        exact ⟨hin, of_decide_eq_true hne⟩
  | inserted s => exact hi.request _ trivial
  | removing s =>
      rw [hat] at hremoval hcounted
      obtain ⟨⟨hperm, hsums⟩, hout⟩ := hremoval
      dsimp only
      split
      · exact hi
      · refine hi.erase _ (hcounted id) trivial ⟨hperm.erase s, ?_, hsums, hout⟩
        exact hperm.nodup_iff.mp hi.active
  | erased s =>
      rw [hat] at hremoval
      exact hi.request _ hremoval
  | requested s =>
      rw [hat] at hremoval hcounted
      dsimp only
      split
      · exact hi.setApi _ (hcounted id) hremoval
      · rename_i hstopped
        have hnone := notRunning_of_stopped hstopped
        refine inv_confirm hi (hcounted id) ⟨notMem_of_erased hremoval.1 hremoval.2.1, ?_⟩
        rw [hi.cleared (hnone ▸ trivial)]
        exact List.not_mem_nil
  | waiting s =>
      rw [hat] at hremoval hcounted
      have hs := notMem_of_erased hremoval.1 hremoval.2.1
      dsimp only
      split
      · rename_i hequal
        exact inv_confirm hi (hcounted id)
          ⟨hs, notMem_streams_of_answered hi (hcounted id) hs hequal⟩
      · split
        · exact hi.setApi _ (hcounted id) hremoval
        · exact hi
  | timedOut s =>
      rw [hat] at hremoval hcounted
      obtain ⟨hperm, hnodup, hsums, hout⟩ := hremoval
      dsimp only
      split
      · exact hi
      · rename_i hfree
        have hmem : s ∈ h.activeBefore := by
          refine hwas s ?_
          unfold restores
          rw [hat]
          exact if_neg hfree
        have hothers : ∀ x ∈ h.removed, x ∈ h.removed ∧ x ≠ s :=
          fun x hx => ⟨hx, fun heq => hout x hx (heq ▸ hmem)⟩
        exact hi.insert (.restored s) (hcounted id) trivial hothers
          ⟨(asBefore_insert hperm hnodup).mpr hmem, hsums⟩
  | restored s =>
      rw [hat] at hremoval
      exact hi.request _ hremoval
  | failed s =>
      rw [hat] at hcounted
      exact hi.setApi _ (hcounted id) trivial
  | confirmed s =>
      rw [hat] at hcounted
      exact hi.noted (hcounted id) .idle _ _ _ trivial
  | starting => exact hi.request _ trivial
  | stopping =>
      rw [hat] at hcounted
      dsimp only
      split
      · exact hi
      · have hflags := hi.visited (setFlags_visited h.world true false) ?_
        · exact hflags.setApi _ (hcounted id) trivial
        · -- the flag keeps the thread from following
          unfold Follows setWorld
          dsimp only
          cases h.thread <;> first | exact id | exact nofun
  | joining =>
      rw [hat] at hcounted
      dsimp only
      split
      · exact hi
      · have hfold := hi.visited
          (Visited.of_unmoved (ThreadWorld.foldl_toggle_unmoved h.world.mActiveStreams h.world)) ?_
        · exact hfold.setApi _ (hcounted id) trivial
        · rename_i hstopped
          have hnone := notRunning_of_stopped hstopped
          unfold Follows setWorld
          dsimp only
          rw [hnone]
          exact id

/-! ## Runs -/

theorem inv_step (h : TxHandshake) (e : Event) (hi : Inv h) (hok : h.StepOk e) :
    Inv (h.step spec mClass e) := by
  cases e with
  | addStreamToTransmitList s =>
      dsimp only [step]
      split
      · rename_i hidle
        have hahead := hi.counted (by rw [hidle]; exact id)
        unfold addStreamToTransmitList
        split
        · exact hi
        · split
          · exact hi.noted hahead (.admitted s) _ _ _ trivial
          · exact hi
      · exact hi
  | removeStreamFromTransmitList s =>
      dsimp only [step]
      split
      · rename_i hidle
        have hahead := hi.counted (by rw [hidle]; exact id)
        unfold removeStreamFromTransmitList
        -- only the class of the stream is checked, not whether it is in the set
        split
        · exact hi
        · exact hi.noted hahead (.removing s) _ _ _
            ⟨⟨List.Perm.refl _, rfl⟩, fun x hx => (hi.out x hx).1⟩
      · exact hi
  | start created =>
      dsimp only [step]
      split
      · rename_i hidle
        exact inv_start hi hidle created
      · exact hi
  | stop =>
      dsimp only [step]
      split
      · rename_i hidle
        have hahead := hi.counted (by rw [hidle]; exact id)
        unfold stop
        split
        · exact hi.setApi _ hahead trivial
        · exact hi
      · exact hi
  | api timeout => exact inv_apiStep hi timeout hok.wasActive
  | thread what => exact inv_threadStep what hi
  | reclaim p =>
      refine hi.visited (Visited.of_unmoved (ThreadWorld.reclaimPacket_unmoved _ p)) ?_
      refine follows_of_unflagged ?_
      unfold reclaimPacket
      split <;> rfl
  | fillRing s =>
      refine hi.visited (Visited.of_unmoved (ThreadWorld.fillRing_unmoved _ s)) ?_
      refine follows_of_unflagged ?_
      unfold TxWorld.fillRing
      split <;> rfl

/-- At the top of a pass no update is to come. -/
theorem Inv.atTop (hi : Inv h) (htop : h.AtTop e) : Synced h.world ↔ h.ahead = false := by
  unfold AtTop at htop
  split at htop
  · obtain ⟨ht, -, hequal⟩ := htop
    refine hi.synced (follows_of_visited ht id) ?_
    unfold pending
    rw [ht]
    show h.world.mRequestCount - h.world.mResponseCount - 0 = 0
    omega
  · split at htop
    · rename_i n ht
      refine hi.synced (follows_of_visited ht id) ?_
      unfold pending
      rw [ht]
      show h.world.mRequestCount - h.world.mResponseCount - 0 = 0
      omega
    · exact htop.elim
  · exact htop.elim

theorem Inv.asBefore (hi : Inv h) (hfailing : h.Failing) : h.AsBefore := by
  have hremoval := hi.removal
  unfold Failing at hfailing
  unfold RemovalOk at hremoval
  split at hfailing <;> rename_i heq
  · rwa [heq] at hremoval
  · rwa [heq] at hremoval
  · exact hfailing.elim

/-- What is put back was there before, if the set is as before. -/
theorem wasActive_of_restored (hi : Inv h) (hres : h.restores e = some s)
    (hgood : (h.step spec mClass e).Failing → (h.step spec mClass e).AsBefore) :
    s ∈ h.activeBefore := by
  unfold restores at hres
  split at hres
  swap
  · exact nomatch hres
  rename_i timeout
  split at hres
  swap
  · exact nomatch hres
  rename_i s' hat
  split at hres
  · exact nomatch hres
  rename_i hfree
  obtain rfl := Option.some.inj hres
  have hremoval := hi.removal
  unfold RemovalOk at hremoval
  rw [hat] at hremoval
  have hstep : h.step spec mClass (.api timeout) = h.insert s' (.restored s') := by
    show h.apiStep spec mClass timeout = _
    unfold apiStep
    rw [hat]
    exact if_neg hfree
  rw [hstep] at hgood
  exact (asBefore_insert hremoval.1 hremoval.2.1).mp (hgood trivial).1

/-- **The condition is exact**, step by step. -/
theorem stepOk_iff_good (hi : Inv h) : h.StepOk e ↔ h.Good spec mClass e := by
  constructor
  · intro hok
    have hnext : Inv (h.step spec mClass e) := inv_step h e hi hok
    exact ⟨fun htop => (hi.atTop htop).mpr (hok.counted htop), fun s hs => (hnext.out s hs).2,
      hnext.asBefore⟩
  · intro hgood
    exact ⟨fun htop => (hi.atTop htop).mp (hgood.caughtUp htop),
      fun s hres => wasActive_of_restored hi hres hgood.restored⟩

theorem inv_init (pools : PacketPools) (config : SequencerConfig) (strictOrder : Bool)
    (shaperBwRate : Nat) : Inv (init spec pools config strictOrder shaperBwRate) :=
  ⟨List.nodup_nil, List.nodup_nil, .inr ⟨rfl, rfl⟩, Int.le_refl 0, nofun, fun _ => rfl, nofun,
    nofun, nofun, trivial⟩

/--
**The handshake of the stream removal.**

In every run of a sequencer, with the calls, the thread and their surroundings in any order, the
handshake holds at every step exactly if at every step the condition is met. The handshake: at the
top of a pass with equal counters the sequence has the active streams; a stream that was removed
successfully and not added since is not in the sequence; a removal that timed out leaves the set
and the sums as they were. The condition: when a pass finds equal counters, no call in progress has
changed the set, or started the thread while there are active streams, without counting its request
and without an update coming across it; and a removal that times out was one of an active stream.
-/
theorem handshake_iff (spec : ShaperSpec) (mClass : IasAvbSrClass) (pools : PacketPools)
    (config : SequencerConfig) (strictOrder : Bool) (shaperBwRate : Nat) (events : List Event) :
    Always (step spec mClass) (Good spec mClass)
        (init spec pools config strictOrder shaperBwRate) events
      ↔ Always (step spec mClass) StepOk (init spec pools config strictOrder shaperBwRate) events :=
  have hiff : ∀ h e, Inv h → (h.Good spec mClass e ↔ h.StepOk e) :=
    fun _ _ hi => (stepOk_iff_good hi).symm
  always_congr hiff (fun h e hi hgood => inv_step h e hi ((hiff h e hi).mp hgood))
    (inv_init pools config strictOrder shaperBwRate)

/-- Streams that are admitted as long as there are few of them. -/
def modestStreams : ShaperSpec where
  getClass _ := .eIasAvbSrClassHigh
  getRequiredBandwidth _ := 6000
  getMaxIntervalFrames _ := 1
  getPacketsPerSecondByClass _ := 8000
  txMaxBandwidth := 100000
  txWindowWidth := 24 * 125000
  getTxRingSize := 4096
  getMaxFrameSize _ := 100
  mUseShaper := false

/-- Two packets for each stream. -/
def twoPackets : PacketPools where
  home p := p / 2
  packets s := [2 * s, 2 * s + 1]
  homed s p hp := by
    simp only [List.mem_cons, List.not_mem_nil, or_false] at hp
    omega
  nodup s := by simp

/-- Stream 1 is added, the thread is started and brings the sequence in line; then it is stopped
and started again, and begins a pass before `start` has counted its request. -/
def stopAndStart : List Event :=
  [.addStreamToTransmitList 1, .api false, .api false,
    .start true, .api false,
    .thread .enterPassLoop, .thread .enterPass, .thread .compare, .thread .reconcile,
    .thread .respond, .thread .compare, .thread .reconcile, .thread .respond, .thread .compare,
    .thread .endPass,
    .stop, .api false, .thread .leave, .thread .quit, .api false,
    .start true, .thread .enterPassLoop, .thread .enterPass]

/-- **The first pass after a restart of the thread** finds equal counters and an empty sequence,
although there is an active stream. -/
theorem first_pass_not_caughtUp : ¬ Always (step modestStreams .eIasAvbSrClassHigh)
    (Good modestStreams .eIasAvbSrClassHigh) (init modestStreams twoPackets {} false 100)
    stopAndStart := by
  decide +kernel

end TxHandshake

end AvbStreamHandler
