import AvbStreamHandler.Transmit.OwnershipRuns

/-!
# The sequence follows the active streams

The API changes a *set* of active streams and asks the thread to follow; `updateSequence`
erases the entries that are obsolete, returns their packets, and puts entries for the new
streams in. Throughout, the service cursor stays an iterator into the list.

First what one update does, whatever the sequence and the set. Then the runs of the thread:
it works on the sequence only between its start and its end, and in all of them the sequence
is one that an update brings in line with the set.
-/

namespace AvbStreamHandler.TxWorld

open Kit Kit.Run Kit.Cycle

/-- The streams of the entries. -/
def streams (l : List StreamData) : List Nat := l.map StreamData.stream

/-- The entries an update removes. -/
def obsolete (w : TxWorld) : List StreamData :=
  w.mSequence.filter fun e => e.stream ∉ w.mActiveStreams

/-- The stack of its pool takes a packet, unless it holds too many already. -/
def pushFree (home size : Nat → Nat) (stack : Nat → List Nat) (p : Nat) : Nat → List Nat :=
  if (stack (home p)).length ≤ size (home p) then
    Function.update stack (home p) (p :: stack (home p))
  else stack

/-- The packets of `l` go back one by one. -/
def giveBackAll (w : TxWorld) (l : List StreamData) : Nat → List Nat :=
  (l.filterMap StreamData.packet).foldl (pushFree w.mHome w.mPoolSize) w.mFreeBufferStack

/-- The cursor `c` points to one of `n` entries, or to the end of an empty list. -/
def CursorOk (n c : Nat) : Prop := c < n ∨ n = 0 ∧ c = 0

/-- The sequence has caught up with the set. -/
def Synced (w : TxWorld) : Prop := (streams w.mSequence).Perm w.mActiveStreams

/-- A sequence an update can work on. -/
structure Orderly (w : TxWorld) : Prop where
  /-- No stream has two entries. -/
  distinct : (streams w.mSequence).Nodup
  /-- The active streams are a set. -/
  active : w.mActiveStreams.Nodup
  cursor : CursorOk w.mSequence.length w.nextStreamToService
  /-- A change of the set comes with a request. -/
  synced : w.mRequestCount ≤ w.mResponseCount → Synced w

/-- `w'` is `w` with the sequence in line with the set. -/
structure Reconciled (w w' : TxWorld) : Prop where
  /-- The streams of the sequence are the active ones, each of them once. -/
  streams : Synced w'
  active : w'.mActiveStreams = w.mActiveStreams
  /-- An entry whose stream stays active stays as it is. -/
  kept : ∀ e ∈ w.mSequence, e.stream ∈ w.mActiveStreams → e ∈ w'.mSequence
  /-- The packets of the entries that were removed went back, and no others. -/
  pools : w'.mFreeBufferStack = w.giveBackAll w.obsolete
  /-- They are in their pools, unless a pool holds more packets than it has. -/
  returned : ∀ e ∈ w.mSequence, e.stream ∉ w.mActiveStreams → ∀ p, e.packet = some p →
    (w'.mFreeBufferStack (w.mHome p)).length ≤ w.mPoolSize (w.mHome p) →
      p ∈ w'.mFreeBufferStack (w.mHome p)
  /-- The cursor points to an entry, if there is one. -/
  cursor : CursorOk w'.mSequence.length w'.nextStreamToService

variable {w w' : TxWorld} {p s n c : Nat}

/-! ## Giving packets back -/

theorem pushFree_mono (home size : Nat → Nat) (stack : Nat → List Nat) (p t : Nat) :
    stack t <:+ pushFree home size stack p t := by
  unfold pushFree
  split
  · by_cases ht : t = home p
    · subst ht
      rw [Function.update_self]
      exact List.suffix_cons ..
    · have hkept : Function.update stack (home p) (p :: stack (home p)) t = stack t :=
        Function.update_of_ne ht ..
      exact hkept ▸ List.suffix_refl _
  · exact List.suffix_refl _

theorem foldl_pushFree_mono (home size : Nat → Nat) (ps : List Nat) (stack : Nat → List Nat)
    (t : Nat) : stack t <:+ ps.foldl (pushFree home size) stack t := by
  induction ps generalizing stack with
  | nil => exact List.suffix_refl _
  | cons p ps ih => exact (pushFree_mono home size stack p t).trans (ih _)

/-- **A packet that goes back is in its pool**, or the pool is too full. -/
theorem mem_foldl_pushFree {home size : Nat → Nat} {ps : List Nat} {stack : Nat → List Nat}
    (hp : p ∈ ps) (hroom : (ps.foldl (pushFree home size) stack (home p)).length ≤ size (home p)) :
    p ∈ ps.foldl (pushFree home size) stack (home p) := by
  induction ps generalizing stack with
  | nil => exact absurd hp List.not_mem_nil
  | cons q ps ih =>
      rcases List.mem_cons.mp hp with rfl | hrest
      · have hmono := foldl_pushFree_mono home size ps (pushFree home size stack p) (home p)
        have hfits : (stack (home p)).length ≤ size (home p) :=
          ((foldl_pushFree_mono home size (p :: ps) stack (home p)).length_le).trans hroom
        refine hmono.subset ?_
        unfold pushFree
        rw [if_pos hfits, Function.update_self]
        exact List.mem_cons_self
      · exact ih hrest hroom

theorem returnPacket_stack (w : TxWorld) (p : Nat) :
    (w.returnPacket p).mFreeBufferStack = pushFree w.mHome w.mPoolSize w.mFreeBufferStack p := rfl

/-- What an entry that leaves does to the pools. -/
theorem giveBackAll_cons (w : TxWorld) (e : StreamData) (l : List StreamData) (c : Nat) :
    w.giveBackAll (e :: l)
      = giveBackAll { w.returnEntryPacket e with nextStreamToService := c } l := by
  unfold giveBackAll returnEntryPacket
  cases hp : e.packet with
  | none => rw [List.filterMap_cons_none hp]
  | some p => rw [List.filterMap_cons_some hp]; rfl

/-! ## The cursor -/

theorem CursorOk.lt (h : CursorOk n c) (hn : n ≠ 0) : c < n := by
  rcases h with h | h
  · exact h
  · exact absurd h.1 hn

/-- Erasing an entry. -/
theorem cursorOk_afterErase {i : Nat} (hi : i < n) (hc : c < n) :
    CursorOk (n - 1) (cursorAfterErase n i c) := by
  unfold cursorAfterErase Kit.Cycle.next CursorOk
  dsimp only
  split_ifs <;> omega

theorem sortByLaunchTime_cursor (hc : w.nextStreamToService < w.mSequence.length) :
    w.sortByLaunchTime.nextStreamToService < w.sortByLaunchTime.mSequence.length := by
  rw [(sortByLaunchTime_reorders w).perm.length_eq]
  unfold sortByLaunchTime
  dsimp only
  split
  · exact hc
  · split
    · exact hc
    · split
      · exact next_lt hc
      · dsimp only
        split_ifs <;> omega

/-! ## One round -/

/-- What no round changes. -/
structure SameSetting (w w' : TxWorld) : Prop where
  active : w'.mActiveStreams = w.mActiveStreams
  requests : w'.mRequestCount = w.mRequestCount
  responses : w'.mResponseCount = w.mResponseCount
  home : w'.mHome = w.mHome
  size : w'.mPoolSize = w.mPoolSize

theorem SameSetting.refl (w : TxWorld) : SameSetting w w := ⟨rfl, rfl, rfl, rfl, rfl⟩

theorem SameSetting.trans {w'' : TxWorld} (h : SameSetting w w') (h' : SameSetting w' w'') :
    SameSetting w w'' :=
  ⟨h'.active.trans h.active, h'.requests.trans h.requests, h'.responses.trans h.responses,
    h'.home.trans h.home, h'.size.trans h.size⟩

theorem sameSetting_returnEntryPacket (w : TxWorld) (e : StreamData) (c : Nat) :
    SameSetting w { w.returnEntryPacket e with nextStreamToService := c } := by
  unfold returnEntryPacket
  cases e.packet with
  | none => exact ⟨rfl, rfl, rfl, rfl, rfl⟩
  | some p => exact ⟨rfl, rfl, rfl, rfl, rfl⟩

/-- The outcome of the first half, when `rest` is still to be looked at. -/
structure Erased (kept rest : List StreamData) (temp : List Nat) (w : TxWorld)
    (r : List Nat × TxWorld) : Prop where
  sequence : r.2.mSequence = kept ++ rest.filter fun e => e.stream ∈ temp
  /-- What is left of `temp` are the streams without an entry. -/
  fresh : (streams (rest.filter fun e => e.stream ∈ temp) ++ r.1).Perm temp
  pools : r.2.mFreeBufferStack = w.giveBackAll (rest.filter fun e => e.stream ∉ temp)
  setting : SameSetting w r.2
  cursor : CursorOk r.2.mSequence.length r.2.nextStreamToService

/-- **The first half erases the obsolete entries.** -/
theorem eraseObsolete_erased (rest kept : List StreamData) (temp : List Nat) (w : TxWorld)
    (hdistinct : (streams rest).Nodup)
    (hcursor : CursorOk (kept.length + rest.length) w.nextStreamToService) :
    Erased kept rest temp w (eraseObsolete kept rest temp w) := by
  induction rest generalizing kept temp w with
  | nil =>
      exact ⟨(List.append_nil _).symm, List.Perm.refl _, rfl, ⟨rfl, rfl, rfl, rfl, rfl⟩, hcursor⟩
  | cons e rest ih =>
      have hdistinct' : (streams rest).Nodup := (List.nodup_cons.mp hdistinct).2
      -- a stream has one entry, so what becomes of this one does not matter to the others
      have hother : ∀ e' ∈ rest, e'.stream ≠ e.stream := by
        intro e' he' heq
        exact (List.nodup_cons.mp hdistinct).1 (heq ▸ List.mem_map_of_mem he')
      unfold eraseObsolete
      by_cases hmem : e.stream ∈ temp
      · rw [if_pos hmem]
        -- active: the entry is kept, and the stream is none of the new ones
        have hsame : ∀ e' ∈ rest, (e'.stream ∈ temp.erase e.stream ↔ e'.stream ∈ temp) :=
          fun e' he' => List.mem_erase_of_ne (hother e' he')
        have hin : (rest.filter fun e' => e'.stream ∈ temp.erase e.stream)
            = rest.filter fun e' => e'.stream ∈ temp :=
          List.filter_congr fun e' he' => decide_eq_decide.mpr (hsame e' he')
        have hout : (rest.filter fun e' => e'.stream ∉ temp.erase e.stream)
            = rest.filter fun e' => e'.stream ∉ temp :=
          List.filter_congr fun e' he' => decide_eq_decide.mpr (not_congr (hsame e' he'))
        have hlen : (kept ++ [e]).length + rest.length = kept.length + (e :: rest).length := by
          rw [List.length_append, List.length_singleton, List.length_cons]
          omega
        have h := ih (kept ++ [e]) (temp.erase e.stream) w hdistinct' (hlen ▸ hcursor)
        refine ⟨?_, ?_, ?_, h.setting, h.cursor⟩
        · rw [h.sequence, hin, List.filter_cons_of_pos (by simpa using hmem), List.append_assoc]
          rfl
        · rw [List.filter_cons_of_pos (by simpa using hmem)]
          have hfresh := h.fresh
          rw [hin] at hfresh
          exact (List.Perm.cons e.stream hfresh).trans (List.perm_cons_erase hmem).symm
        · rw [h.pools, hout, List.filter_cons_of_neg (by simpa using hmem)]
      · rw [if_neg hmem]
        -- obsolete: the entry goes with its packet, and the cursor closes up
        have hcursor' : CursorOk (kept.length + rest.length)
            (cursorAfterErase (kept.length + rest.length + 1) kept.length
              w.nextStreamToService) := by
          have hlen : kept.length + (e :: rest).length = kept.length + rest.length + 1 := rfl
          rw [hlen] at hcursor
          exact cursorOk_afterErase (by omega) (hcursor.lt (by omega))
        have h := ih kept temp
          { w.returnEntryPacket e with
            nextStreamToService :=
              cursorAfterErase (kept.length + rest.length + 1) kept.length w.nextStreamToService }
          hdistinct' hcursor'
        refine ⟨?_, ?_, ?_, (sameSetting_returnEntryPacket w e _).trans h.setting, h.cursor⟩
        · rw [h.sequence, List.filter_cons_of_neg (by simpa using hmem)]
        · rw [List.filter_cons_of_neg (by simpa using hmem)]
          exact h.fresh
        · rw [h.pools, List.filter_cons_of_pos (by simpa using hmem), ← giveBackAll_cons]

/-- The outcome of the second half. -/
structure Inserted (temp : List Nat) (w w' : TxWorld) : Prop where
  sequence : w'.mSequence.Perm (temp.reverse.map (fun s => { stream := s }) ++ w.mSequence)
  pools : w'.mFreeBufferStack = w.mFreeBufferStack
  setting : SameSetting w w'
  cursor : CursorOk w'.mSequence.length w'.nextStreamToService

theorem sortByLaunchTime_setting (w : TxWorld) : SameSetting w w.sortByLaunchTime := by
  unfold sortByLaunchTime
  dsimp only
  split
  · exact SameSetting.refl w
  · split
    · exact SameSetting.refl w
    · split <;> exact ⟨rfl, rfl, rfl, rfl, rfl⟩

theorem insertNew_inserted (stream : Nat)
    (hcursor : CursorOk w.mSequence.length w.nextStreamToService) :
    Inserted [stream] w (w.insertNew stream) := by
  have hreorders := sortByLaunchTime_reorders (w.pushFront stream)
  have hpush : (w.pushFront stream).nextStreamToService
      < (w.pushFront stream).mSequence.length := by
    show (if w.nextStreamToService = w.mSequence.length then 0 else w.nextStreamToService + 1)
      < w.mSequence.length + 1
    unfold CursorOk at hcursor
    split <;> omega
  have hset : SameSetting w (w.pushFront stream) := ⟨rfl, rfl, rfl, rfl, rfl⟩
  exact ⟨hreorders.perm, hreorders.stack, hset.trans (sortByLaunchTime_setting _),
    Or.inl (sortByLaunchTime_cursor hpush)⟩

/-- **The second half adds the new streams.** -/
theorem foldl_insertNew_inserted (temp : List Nat) (w : TxWorld)
    (hcursor : CursorOk w.mSequence.length w.nextStreamToService) :
    Inserted temp w (temp.foldl insertNew w) := by
  induction temp generalizing w with
  | nil => exact ⟨List.Perm.refl _, rfl, SameSetting.refl w, hcursor⟩
  | cons stream temp ih =>
      have hfirst := insertNew_inserted stream hcursor
      have h := ih (w.insertNew stream) hfirst.cursor
      refine ⟨?_, h.pools.trans hfirst.pools, hfirst.setting.trans h.setting, h.cursor⟩
      rw [List.reverse_cons, List.map_append, List.append_assoc]
      exact h.sequence.trans (List.Perm.append_left _ hfirst.sequence)

/-- Every packet that goes back is in its pool, if the pool is not too full. -/
theorem mem_giveBackAll {l : List StreamData} {e : StreamData} (he : e ∈ l)
    (hp : e.packet = some p)
    (hroom : (w.giveBackAll l (w.mHome p)).length ≤ w.mPoolSize (w.mHome p)) :
    p ∈ w.giveBackAll l (w.mHome p) :=
  mem_foldl_pushFree (List.mem_filterMap.mpr ⟨e, he, hp⟩) hroom

/-- **One round brings the sequence in line.** -/
theorem updateOnce_reconciled (hdistinct : (streams w.mSequence).Nodup)
    (hcursor : CursorOk w.mSequence.length w.nextStreamToService) :
    Reconciled w w.updateOnce := by
  have herase := eraseObsolete_erased w.mSequence [] w.mActiveStreams w hdistinct
    (by rwa [List.length_nil, Nat.zero_add])
  have hinsert := foldl_insertNew_inserted (eraseObsolete [] w.mSequence w.mActiveStreams w).1 _
    herase.cursor
  have hsequence := hinsert.sequence
  rw [herase.sequence, List.nil_append] at hsequence
  have hpools : w.updateOnce.mFreeBufferStack = w.giveBackAll w.obsolete :=
    hinsert.pools.trans herase.pools
  refine ⟨?_, (herase.setting.trans hinsert.setting).active, ?_, hpools, ?_, hinsert.cursor⟩
  · have hset : w.updateOnce.mActiveStreams = w.mActiveStreams :=
      (herase.setting.trans hinsert.setting).active
    have hstreams := hsequence.map StreamData.stream
    rw [List.map_append, List.map_map] at hstreams
    unfold Synced
    rw [hset]
    refine hstreams.trans (List.Perm.trans (List.perm_append_comm.trans ?_) herase.fresh)
    refine List.Perm.append_left _ ?_
    rw [show (StreamData.stream ∘ fun s => ({ stream := s } : StreamData)) = id from rfl,
      List.map_id]
    exact List.reverse_perm _
  · intro e he hactive
    refine hsequence.symm.subset (List.mem_append_right _ (List.mem_filter.mpr ⟨he, ?_⟩))
    exact decide_eq_true hactive
  · intro e he hactive p hp hroom
    rw [hpools] at hroom ⊢
    exact mem_giveBackAll (List.mem_filter.mpr ⟨he, decide_eq_true hactive⟩) hp hroom

/-! ## As many rounds as there are requests -/

/-- A sequence that has caught up has nothing obsolete. -/
theorem Synced.obsolete (h : Synced w) : w.obsolete = [] := by
  unfold TxWorld.obsolete
  rw [List.filter_eq_nil_iff]
  intro e he hnot
  exact of_decide_eq_true hnot (h.subset (List.mem_map_of_mem he))

/-- A sequence that has caught up stays as it is. -/
theorem Reconciled.of_synced (h : Synced w)
    (hcursor : CursorOk w.mSequence.length w.nextStreamToService) : Reconciled w w := by
  refine ⟨h, rfl, fun e he _ => he, ?_, ?_, hcursor⟩
  · rw [h.obsolete]
    rfl
  · intro e he hnot
    exact absurd (h.subset (List.mem_map_of_mem he)) hnot

theorem Reconciled.trans {w'' : TxWorld} (h : Reconciled w w') (h' : Reconciled w' w'') :
    Reconciled w w'' := by
  -- the first round leaves nothing to remove
  have hstack : w''.mFreeBufferStack = w'.mFreeBufferStack := by
    rw [h'.pools, h.streams.obsolete]
    rfl
  refine ⟨h'.streams, h'.active.trans h.active, ?_, hstack.trans h.pools, ?_, h'.cursor⟩
  · intro e he hactive
    exact h'.kept e (h.kept e he hactive) (h.active ▸ hactive)
  · rw [hstack]
    exact h.returned

theorem iterate_updateOnce_reconciled (rounds : Nat) (w : TxWorld)
    (hdistinct : (streams w.mSequence).Nodup) (hactive : w.mActiveStreams.Nodup)
    (hcursor : CursorOk w.mSequence.length w.nextStreamToService)
    (hsynced : rounds = 0 → Synced w) : Reconciled w (updateOnce^[rounds] w) := by
  induction rounds generalizing w with
  | zero => exact Reconciled.of_synced (hsynced rfl) hcursor
  | succ rounds ih =>
      have hfirst := updateOnce_reconciled hdistinct hcursor
      have hactive' : w.updateOnce.mActiveStreams.Nodup := hfirst.active ▸ hactive
      rw [Function.iterate_succ_apply]
      exact hfirst.trans (ih _ (hfirst.streams.nodup_iff.mpr hactive') hactive' hfirst.cursor
        fun _ => hfirst.streams)

/-- **An update reconciles**, whatever the sequence and the set. -/
theorem Orderly.reconciled (h : Orderly w) : Reconciled w w.updateSequence := by
  have hrounds := iterate_updateOnce_reconciled (w.mRequestCount - w.mResponseCount).toNat w
    h.distinct h.active h.cursor fun hzero => h.synced (by omega)
  unfold updateSequence
  dsimp only
  split
  · exact ⟨hrounds.streams, hrounds.active, hrounds.kept, hrounds.pools, hrounds.returned,
      hrounds.cursor⟩
  · exact hrounds

/-- As long as all packets are where they belong, no pool is too full. -/
theorem Reconciled.mem_pool (h : Reconciled w w') (hf : Full w') (hsize : w'.mPoolSize = w.mPoolSize)
    {e : StreamData} (he : e ∈ w.mSequence) (hactive : e.stream ∉ w.mActiveStreams)
    (hp : e.packet = some p) : p ∈ w'.mFreeBufferStack (w.mHome p) := by
  refine h.returned e he hactive p hp ?_
  have hall : (w'.mFreeBufferStack (w.mHome p)).countP (w'.ofPool (w.mHome p))
      = (w'.mFreeBufferStack (w.mHome p)).length :=
    List.countP_eq_length.mpr fun q hq => decide_eq_true (hf.homed.stack _ q hq)
  have hcomplete := hf.complete (w.mHome p)
  rw [hsize] at hcomplete
  unfold total loose at hcomplete
  omega

/-! ## Requests and answers -/

/-- `answers` requests were answered, and none came in. -/
structure Answers (answers : Nat) (w w' : TxWorld) : Prop where
  requests : w'.mRequestCount = w.mRequestCount
  responses : w'.mResponseCount = w.mResponseCount + answers

theorem updateOnce_answers (hdistinct : (streams w.mSequence).Nodup)
    (hcursor : CursorOk w.mSequence.length w.nextStreamToService) :
    Answers 1 w w.updateOnce := by
  have herase := eraseObsolete_erased w.mSequence [] w.mActiveStreams w hdistinct
    (by rwa [List.length_nil, Nat.zero_add])
  have hinsert := foldl_insertNew_inserted (eraseObsolete [] w.mSequence w.mActiveStreams w).1 _
    herase.cursor
  have hsetting := herase.setting.trans hinsert.setting
  exact ⟨hsetting.requests, congrArg (· + 1) hsetting.responses⟩

theorem iterate_updateOnce_answers (rounds : Nat) (w : TxWorld)
    (hdistinct : (streams w.mSequence).Nodup) (hactive : w.mActiveStreams.Nodup)
    (hcursor : CursorOk w.mSequence.length w.nextStreamToService) :
    Answers rounds w (updateOnce^[rounds] w) := by
  induction rounds generalizing w with
  | zero => exact ⟨rfl, (Int.add_zero _).symm⟩
  | succ rounds ih =>
      have hfirst := updateOnce_reconciled hdistinct hcursor
      have hanswers := updateOnce_answers hdistinct hcursor
      have hactive' : w.updateOnce.mActiveStreams.Nodup := hfirst.active ▸ hactive
      have h := ih w.updateOnce (hfirst.streams.nodup_iff.mpr hactive') hactive' hfirst.cursor
      rw [Function.iterate_succ_apply]
      refine ⟨h.requests.trans hanswers.requests, ?_⟩
      rw [h.responses, hanswers.responses]
      omega

/-- **An update answers all requests.** -/
theorem Orderly.answers (h : Orderly w) :
    Answers (w.mRequestCount - w.mResponseCount).toNat w w.updateSequence := by
  have hrounds := iterate_updateOnce_answers (w.mRequestCount - w.mResponseCount).toNat w
    h.distinct h.active h.cursor
  unfold updateSequence
  dsimp only
  split
  · exact ⟨hrounds.requests, hrounds.responses⟩
  · exact hrounds

/-! ## A visit -/

/-- Neither the list nor what concerns it differs. -/
structure Unmoved (w w' : TxWorld) : Prop where
  setting : SameSetting w w'
  sequence : w'.mSequence = w.mSequence
  cursor : w'.nextStreamToService = w.nextStreamToService

theorem Unmoved.refl (w : TxWorld) : Unmoved w w := ⟨SameSetting.refl w, rfl, rfl⟩

theorem Unmoved.trans {w'' : TxWorld} (h : Unmoved w w') (h' : Unmoved w' w'') : Unmoved w w'' :=
  ⟨h.setting.trans h'.setting, h'.sequence.trans h.sequence, h'.cursor.trans h.cursor⟩

theorem returnPacket_unmoved (w : TxWorld) (p : Nat) : Unmoved w (w.returnPacket p) :=
  ⟨⟨rfl, rfl, rfl, rfl, rfl⟩, rfl, rfl⟩

theorem toggle_unmoved (w : TxWorld) (s : Nat) : Unmoved w (w.toggle s) :=
  ⟨⟨rfl, rfl, rfl, rfl, rfl⟩, rfl, rfl⟩

theorem preparePacket_unmoved (w : TxWorld) (s : Nat) (prep : Prepared) :
    Unmoved w (w.preparePacket s prep).1 := by
  unfold preparePacket
  cases prep with
  | fromPool attime dummy => dsimp only; split <;> exact ⟨⟨rfl, rfl, rfl, rfl, rfl⟩, rfl, rfl⟩
  | fromRing attime => dsimp only; split <;> exact ⟨⟨rfl, rfl, rfl, rfl, rfl⟩, rfl, rfl⟩
  | ringFailed => dsimp only; split <;> exact ⟨⟨rfl, rfl, rfl, rfl, rfl⟩, rfl, rfl⟩
  | failed => exact Unmoved.refl w

theorem transmit_unmoved (w : TxWorld) (cur : StreamData) (p : Nat) (result : Int) :
    Unmoved w (w.transmit cur p result).world
      ∧ (w.transmit cur p result).current.stream = cur.stream := by
  unfold transmit
  dsimp only
  split
  · exact ⟨⟨⟨rfl, rfl, rfl, rfl, rfl⟩, rfl, rfl⟩, rfl⟩
  · split
    · exact ⟨⟨⟨rfl, rfl, rfl, rfl, rfl⟩, rfl, rfl⟩, rfl⟩
    · split
      · dsimp only
        split <;> exact ⟨⟨⟨rfl, rfl, rfl, rfl, rfl⟩, rfl, rfl⟩, rfl⟩
      · exact ⟨⟨⟨rfl, rfl, rfl, rfl, rfl⟩, rfl, rfl⟩, rfl⟩

theorem sendCurrent_unmoved (w : TxWorld) (windowStart : Nat) (cur : StreamData) (result : Int) :
    Unmoved w (w.sendCurrent windowStart cur result).world
      ∧ (w.sendCurrent windowStart cur result).current.stream = cur.stream := by
  unfold sendCurrent
  split
  · exact ⟨Unmoved.refl w, rfl⟩
  · rename_i p _
    split
    · exact ⟨Unmoved.refl w, rfl⟩
    · split
      · exact ⟨returnPacket_unmoved w p, rfl⟩
      · exact transmit_unmoved w cur p result

theorem fetchLoop_unmoved (windowStart droppedOld : Nat) (preps : List Prepared)
    (resetCnt : Nat) (w : TxWorld) (cur : StreamData) :
    Unmoved w (fetchLoop windowStart droppedOld preps resetCnt w cur).1
      ∧ (fetchLoop windowStart droppedOld preps resetCnt w cur).2.1.stream = cur.stream := by
  induction preps generalizing resetCnt w cur with
  | nil => exact ⟨Unmoved.refl w, rfl⟩
  | cons prep preps ih =>
      have hprep := preparePacket_unmoved w cur.stream prep
      rw [fetchLoop]
      split
      · rename_i w' h
        rw [h] at hprep
        exact ⟨hprep, rfl⟩
      · rename_i w' p h
        rw [h] at hprep
        have hback := hprep.trans (returnPacket_unmoved w' p)
        have hreset := hback.trans (toggle_unmoved _ cur.stream)
        have hdrop : Unmoved w { w'.returnPacket p with
            mDiag := { (w'.returnPacket p).mDiag with
              dropped := Word.add32 (w'.returnPacket p).mDiag.dropped 1 } } :=
          hback.trans ⟨⟨rfl, rfl, rfl, rfl, rfl⟩, rfl, rfl⟩
        dsimp only
        split
        · exact ⟨hprep, rfl⟩
        · split
          · split
            · exact (ih _ _ _).imp hreset.trans id
            · exact ⟨hreset, rfl⟩
          · split
            · split
              · exact ⟨hdrop.trans (toggle_unmoved _ _), rfl⟩
              · exact (ih _ _ _).imp hdrop.trans id
            · exact ⟨hprep, rfl⟩

theorem skipDone_lt {l : List StreamData} {start : Nat} (fuel : Nat) (hc : c < l.length) :
    (skipDone l start fuel c).1 < l.length := by
  induction fuel generalizing c with
  | zero => exact hc
  | succ fuel ih =>
      rw [skipDone]
      split
      · exact hc
      · split
        · exact hc
        · dsimp only
          split
          · exact next_lt hc
          · exact ih (next_lt hc)

/-- The list behind a visit: other entries for the same streams, maybe in another order. -/
structure Visited (w w' : TxWorld) : Prop where
  setting : SameSetting w w'
  streams : (streams w'.mSequence).Perm (streams w.mSequence)
  cursor : CursorOk w.mSequence.length w.nextStreamToService →
    CursorOk w'.mSequence.length w'.nextStreamToService

theorem Visited.of_unmoved (h : Unmoved w w') : Visited w w' := by
  refine ⟨h.setting, h.sequence ▸ List.Perm.refl _, fun hc => ?_⟩
  rwa [h.sequence, h.cursor]

/-- The entry goes back into the list, for the stream it was taken from. -/
theorem streams_set {l : List StreamData} {cur cur' : StreamData} (hcur : l[c]? = some cur)
    (hstream : cur'.stream = cur.stream) : streams (l.set c cur') = streams l := by
  obtain ⟨hc, hget⟩ := List.getElem?_eq_some_iff.mp hcur
  unfold streams
  rw [List.map_set, hstream, ← hget, ← List.getElem_map StreamData.stream (h := by simpa using hc),
    List.set_getElem_self]

theorem Visited.trans {w'' : TxWorld} (h : Visited w w') (h' : Visited w' w'') : Visited w w'' :=
  ⟨h.setting.trans h'.setting, h'.streams.trans h.streams, fun hc => h'.cursor (h.cursor hc)⟩

/-- The place in the list that a visit leads to. -/
theorem advance_visited (hc : w.nextStreamToService < w.mSequence.length) (advance : Advance) :
    Visited w (match advance with
      | .stay => w
      | .next => { w with nextStreamToService := next w.mSequence.length w.nextStreamToService }
      | .sortByLaunchTime => w.sortByLaunchTime) := by
  cases advance with
  | stay => exact Visited.of_unmoved (Unmoved.refl w)
  | next => exact ⟨⟨rfl, rfl, rfl, rfl, rfl⟩, List.Perm.refl _, fun _ => Or.inl (next_lt hc)⟩
  | sortByLaunchTime =>
      have hperm := (sortByLaunchTime_reorders w).perm
      exact ⟨sortByLaunchTime_setting w, hperm.map _, fun _ =>
        Or.inl (sortByLaunchTime_cursor hc)⟩

theorem settle_visited {cur cur' : StreamData}
    (hcur : w.mSequence[w.nextStreamToService]? = some cur) (hstream : cur'.stream = cur.stream)
    (advance : Advance) : Visited w (w.settle cur' advance) := by
  have hset : Visited w { w with mSequence := w.mSequence.set w.nextStreamToService cur' } := by
    refine ⟨⟨rfl, rfl, rfl, rfl, rfl⟩, ?_, fun hc => ?_⟩
    · rw [streams_set hcur hstream]
    · show CursorOk (w.mSequence.set w.nextStreamToService cur').length _
      rwa [List.length_set]
  have hlt := (List.getElem?_eq_some_iff.mp hcur).1
  have hadvance := hset.trans
    (@advance_visited { w with mSequence := w.mSequence.set w.nextStreamToService cur' }
      (by rwa [List.length_set]) advance)
  unfold settle
  dsimp only
  refine ⟨⟨hadvance.setting.active, hadvance.setting.requests, hadvance.setting.responses,
    hadvance.setting.home, hadvance.setting.size⟩, hadvance.streams, fun hc => Or.inl ?_⟩
  have hlen := hadvance.streams.length_eq
  unfold streams at hlen
  rw [List.length_map, List.length_map] at hlen
  exact skipDone_lt _ ((hadvance.cursor hc).lt (by omega))

theorem serviceStream_visited (w : TxWorld) (windowStart : Nat) (result : Int)
    (preps : List Prepared) : Visited w (w.serviceStream windowStart result preps).1 := by
  unfold serviceStream
  split
  · exact Visited.of_unmoved (Unmoved.refl w)
  · rename_i cur hcur
    have hsend := sendCurrent_unmoved w windowStart cur result
    dsimp only
    split
    · have hloop := fetchLoop_unmoved windowStart
        (w.sendCurrent windowStart cur result).world.mDiag.dropped preps 0
        (w.sendCurrent windowStart cur result).world (w.sendCurrent windowStart cur result).current
      have hall := hsend.1.trans hloop.1
      refine (Visited.of_unmoved hall).trans (settle_visited ?_ (hloop.2.trans hsend.2) _)
      rw [hall.sequence, hall.cursor]
      exact hcur
    · refine (Visited.of_unmoved hsend.1).trans (settle_visited ?_ hsend.2 _)
      rw [hsend.1.sequence, hsend.1.cursor]
      exact hcur

/-! ## The runs of the thread -/

/-- The world, and whether the thread works on the sequence: from its start, or from the
acknowledged restart, to its end, when it clears the sequence. -/
structure ThreadWorld where
  world : TxWorld
  running : Bool := false

namespace ThreadWorld

/-- The thread's own steps need a thread, and a thread starts only once. -/
def allows (t : ThreadWorld) : Event → Bool
  | .service _ _ _ => t.running
  | .update => t.running
  | .beginCycle => t.running
  | .endCycle => t.running
  | .endThread => t.running
  | .restart => !t.running
  | .startThread => !t.running
  | .add _ => true
  | .remove _ => true
  | .reclaim _ => true
  | .fillRing _ => true

def runs (t : ThreadWorld) : Event → Bool
  | .endThread => false
  | .restart => true
  | .startThread => true
  | _ => t.running

def step (t : ThreadWorld) (e : Event) : ThreadWorld :=
  if t.allows e then { world := t.world.step e, running := t.runs e } else t

/-- What every step keeps. -/
structure Inv (t : ThreadWorld) : Prop where
  distinct : (streams t.world.mSequence).Nodup
  active : t.world.mActiveStreams.Nodup
  cursor : CursorOk t.world.mSequence.length t.world.nextStreamToService
  answered : t.world.mResponseCount ≤ t.world.mRequestCount
  synced : t.running = true → t.world.mRequestCount ≤ t.world.mResponseCount → Synced t.world
  /-- Between two threads there is nothing in the sequence. -/
  idle : t.running = false → t.world.mSequence = []

variable {t : ThreadWorld}

theorem Inv.orderly (h : Inv t) (hrunning : t.running = true) : Orderly t.world :=
  ⟨h.distinct, h.active, h.cursor, h.synced hrunning⟩

/-- Steps that leave the set and the requests alone. -/
theorem Inv.of_visited (h : Inv t) (hv : Visited t.world w') (hidle : t.world.mSequence = [] →
    w'.mSequence = []) : Inv { world := w', running := t.running } := by
  refine ⟨hv.streams.nodup_iff.mpr h.distinct, ?_, hv.cursor h.cursor, ?_, ?_, ?_⟩
  · show w'.mActiveStreams.Nodup
    rw [hv.setting.active]
    exact h.active
  · show w'.mResponseCount ≤ w'.mRequestCount
    rw [hv.setting.responses, hv.setting.requests]
    exact h.answered
  · intro hrunning hanswered
    show (streams w'.mSequence).Perm w'.mActiveStreams
    rw [hv.setting.active]
    refine hv.streams.trans (h.synced hrunning ?_)
    rw [← hv.setting.requests, ← hv.setting.responses]
    exact hanswered
  · exact fun hrunning => hidle (h.idle hrunning)

theorem idle_of_visited (hv : Visited w w') (hidle : w.mSequence = []) : w'.mSequence = [] := by
  have hlen := hv.streams.length_eq
  unfold streams at hlen
  rw [hidle, List.length_map, List.map_nil, List.length_nil] at hlen
  exact List.length_eq_zero_iff.mp hlen

/-- A change of the set, with its request. -/
theorem inv_request (h : Inv t) (active : List Nat) (hactive : active.Nodup) :
    Inv { world := { t.world with
            mActiveStreams := active, mRequestCount := t.world.mRequestCount + 1 },
          running := t.running } := by
  have hanswered := h.answered
  refine ⟨h.distinct, hactive, h.cursor, ?_, ?_, h.idle⟩
  · show t.world.mResponseCount ≤ t.world.mRequestCount + 1
    omega
  · intro _ hpending
    have hpending : t.world.mRequestCount + 1 ≤ t.world.mResponseCount := hpending
    omega

theorem inv_update (h : Inv t) (hrunning : t.running = true) :
    Inv { world := t.world.updateSequence, running := t.running } := by
  have hreconciled := (h.orderly hrunning).reconciled
  have hanswers := (h.orderly hrunning).answers
  have hactive : t.world.updateSequence.mActiveStreams.Nodup :=
    hreconciled.active ▸ h.active
  have hanswered := h.answered
  refine ⟨hreconciled.streams.nodup_iff.mpr hactive, hactive, hreconciled.cursor, ?_,
    fun _ _ => hreconciled.streams, fun hidle => absurd (hrunning.symm.trans hidle) (by simp)⟩
  show t.world.updateSequence.mResponseCount ≤ t.world.updateSequence.mRequestCount
  rw [hanswers.responses, hanswers.requests]
  omega

theorem foldl_toggle_unmoved (l : List Nat) (w : TxWorld) : Unmoved w (l.foldl toggle w) := by
  induction l generalizing w with
  | nil => exact Unmoved.refl w
  | cons s l ih => exact (toggle_unmoved w s).trans (ih _)

/-- The acknowledged restart takes an answer back. -/
theorem inv_restart (h : Inv t) : Inv { world := t.world.restartThread, running := true } := by
  have hfold := foldl_toggle_unmoved t.world.mActiveStreams t.world
  have hanswered := h.answered
  have hresponses : t.world.restartThread.mResponseCount = t.world.mResponseCount - 1 := rfl
  have hrequests : t.world.restartThread.mRequestCount = t.world.mRequestCount :=
    hfold.setting.requests
  have hsequence : t.world.restartThread.mSequence = t.world.mSequence := hfold.sequence
  have hcursor : t.world.restartThread.nextStreamToService = t.world.nextStreamToService :=
    hfold.cursor
  refine ⟨hsequence ▸ h.distinct, ?_, ?_, ?_, ?_, fun hidle => nomatch hidle⟩
  · show t.world.restartThread.mActiveStreams.Nodup
    rw [show t.world.restartThread.mActiveStreams = t.world.mActiveStreams from
      hfold.setting.active]
    exact h.active
  · show CursorOk t.world.restartThread.mSequence.length t.world.restartThread.nextStreamToService
    rw [hsequence, hcursor]
    exact h.cursor
  · show t.world.restartThread.mResponseCount ≤ t.world.restartThread.mRequestCount
    omega
  · intro _ hpending
    have hpending : t.world.restartThread.mRequestCount ≤ t.world.restartThread.mResponseCount :=
      hpending
    omega

theorem inv_startThread (h : Inv t) (hidle : t.running = false) :
    Inv { world := t.world.startThread, running := true } := by
  have hempty := h.idle hidle
  have hanswered := h.answered
  refine ⟨h.distinct, h.active, ?_, ?_, ?_, fun hidle => nomatch hidle⟩
  · show CursorOk t.world.mSequence.length t.world.mSequence.length
    rw [hempty]
    exact Or.inr ⟨rfl, rfl⟩
  · show t.world.mResponseCount ≤ t.world.mRequestCount + 1
    omega
  · intro _ hpending
    have hpending : t.world.mRequestCount + 1 ≤ t.world.mResponseCount := hpending
    omega

theorem returnHeld_setting (l : List StreamData) (w : TxWorld) : SameSetting w (w.returnHeld l) := by
  induction l generalizing w with
  | nil => exact SameSetting.refl w
  | cons e l ih =>
      have hentry := sameSetting_returnEntryPacket w e (w.returnEntryPacket e).nextStreamToService
      exact hentry.trans (ih _)

/-- The end of the thread clears the sequence. -/
theorem inv_endThread (h : Inv t) : Inv { world := t.world.endThread, running := false } := by
  have hsetting := returnHeld_setting t.world.mSequence t.world
  refine ⟨List.nodup_nil, ?_, Or.inr ⟨rfl, rfl⟩, ?_, (fun hrunning => nomatch hrunning), fun _ => rfl⟩
  · show (t.world.returnHeld t.world.mSequence).mActiveStreams.Nodup
    rw [hsetting.active]
    exact h.active
  · show (t.world.returnHeld t.world.mSequence).mResponseCount
      ≤ (t.world.returnHeld t.world.mSequence).mRequestCount
    rw [hsetting.responses, hsetting.requests]
    exact h.answered

theorem beginCycle_visited (w : TxWorld) : Visited w w.beginCycle := by
  refine ⟨⟨rfl, rfl, rfl, rfl, rfl⟩, ?_, fun hc => ?_⟩
  · unfold streams beginCycle
    rw [List.map_map]
    exact List.Perm.refl _
  · show CursorOk (w.mSequence.map _).length w.nextStreamToService
    rwa [List.length_map]

theorem endCycle_visited (w : TxWorld) : Visited w w.endCycle := by
  unfold endCycle
  split
  · have hperm := List.mergeSort_perm w.mSequence
      fun a b => decide (a.launchTime ≤ b.launchTime)
    refine ⟨⟨rfl, rfl, rfl, rfl, rfl⟩, hperm.map _, fun _ => ?_⟩
    show CursorOk _ 0
    unfold CursorOk
    omega
  · exact Visited.of_unmoved (Unmoved.refl w)

theorem reclaimPacket_unmoved (w : TxWorld) (p : Nat) : Unmoved w (w.reclaimPacket p) := by
  unfold reclaimPacket
  split <;> exact ⟨⟨rfl, rfl, rfl, rfl, rfl⟩, rfl, rfl⟩

theorem fillRing_unmoved (w : TxWorld) (s : Nat) : Unmoved w (w.fillRing s) := by
  unfold fillRing
  split <;> exact ⟨⟨rfl, rfl, rfl, rfl, rfl⟩, rfl, rfl⟩

theorem Inv.visited (h : Inv t) (hv : Visited t.world w') :
    Inv { world := w', running := t.running } :=
  h.of_visited hv (idle_of_visited hv)

/-- **Every step keeps the sequence orderly.** -/
theorem inv_step (t : ThreadWorld) (e : Event) (h : Inv t) : Inv (t.step e) := by
  unfold step
  split
  · rename_i hallows
    cases e with
    | service windowStart result preps => exact h.visited (serviceStream_visited ..)
    | update => exact inv_update h hallows
    | beginCycle => exact h.visited (beginCycle_visited _)
    | endCycle => exact h.visited (endCycle_visited _)
    | restart => exact inv_restart h
    | endThread => exact inv_endThread h
    | startThread => exact inv_startThread h (by simpa [allows] using hallows)
    | add s =>
        refine inv_request h _ ?_
        split
        · exact h.active
        · rename_i hnew
          exact (List.perm_orderedInsert _ s _).nodup_iff.mpr (List.nodup_cons.mpr ⟨hnew, h.active⟩)
    | remove s => exact inv_request h _ (h.active.erase s)
    | reclaim p => exact h.visited (Visited.of_unmoved (reclaimPacket_unmoved _ p))
    | fillRing s => exact h.visited (Visited.of_unmoved (fillRing_unmoved _ s))
  · exact h

/-- Before the thread has ever been started. -/
def start (pools : PacketPools) (config : SequencerConfig) (useShaper strictOrder : Bool)
    (shaperBwRate : Nat) : ThreadWorld where
  world := TxWorld.start pools config useShaper strictOrder shaperBwRate

theorem inv_start (pools : PacketPools) (config : SequencerConfig) (useShaper strictOrder : Bool)
    (shaperBwRate : Nat) : Inv (start pools config useShaper strictOrder shaperBwRate) :=
  ⟨List.nodup_nil, List.nodup_nil, Or.inr ⟨rfl, rfl⟩, Int.le_refl 0, (fun h => nomatch h),
    fun _ => rfl⟩

theorem inv_run (pools : PacketPools) (config : SequencerConfig) (useShaper strictOrder : Bool)
    (shaperBwRate : Nat) (events : List Event) :
    Inv (exec step (start pools config useShaper strictOrder shaperBwRate) events) :=
  inv_exec_of_step inv_step (inv_start pools config useShaper strictOrder shaperBwRate) events

/-- Stream 1 leaves while the cursor is on its entry, stream 2 stays, stream 3 is new. -/
def cursorOnLeaver : TxWorld where
  mSequence := [{ stream := 2, packet := some 20, launchTime := 700 },
    { stream := 1, packet := some 10, launchTime := 900 }]
  nextStreamToService := 1
  mActiveStreams := [2, 3]
  mRequestCount := 5
  mResponseCount := 3
  mHome p := p / 10
  mFreeBufferStack s := if s = 1 then [11] else []
  mPoolSize _ := 2

end ThreadWorld

end AvbStreamHandler.TxWorld
