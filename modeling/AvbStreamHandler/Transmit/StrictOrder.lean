import AvbStreamHandler.Transmit.LaunchOrderRuns

/-!
# Strict packet order

With strict packet order the list is sorted behind every pass. What happens until the next one
does not disturb it: an entry that is erased leaves the others in their order, also if the
cursor has to move on, and an entry for a new stream has no launch time and moves nothing. So
every pass begins in order, and stays in order.
-/

namespace AvbStreamHandler.TxWorld

open Kit Kit.Word Kit.Run Kit.Cycle

/-! ## Between two passes -/

theorem Ascending.sublist {l l' : List StreamData} (h : Ascending l) (hsub : l'.Sublist l) :
    Ascending l' :=
  List.Pairwise.sublist (hsub.filter _) h

/-- Where the cursor goes: it stays, moves on or around the end, or moves up. -/
theorem cursorAfterErase_eq {n i c : Nat} (hi : i < n) (hc : c < n) :
    cursorAfterErase n i c
      = if c < i then c else if c = i then (if i + 1 = n then 0 else i) else c - 1 := by
  unfold cursorAfterErase next
  dsimp only
  split_ifs <;> omega

/-- An erased entry is missing from what the cursor sees, and the rest is as before. -/
theorem rotate_erase (X Y : List StreamData) (e : StreamData) {c : Nat}
    (hc : c < (X ++ e :: Y).length) :
    ((X ++ Y).rotate (cursorAfterErase (X ++ e :: Y).length X.length c)).Sublist
      ((X ++ e :: Y).rotate c) := by
  rw [List.length_append, List.length_cons] at hc ⊢
  rw [cursorAfterErase_eq (by omega) hc]
  rcases Nat.lt_trichotomy c X.length with hless | rfl | hmore
  · rw [if_pos hless, List.rotate_eq_drop_append_take (by rw [List.length_append]; omega),
      List.rotate_eq_drop_append_take (by rw [List.length_append]; omega),
      List.drop_append_of_le_length (Nat.le_of_lt hless),
      List.drop_append_of_le_length (Nat.le_of_lt hless),
      List.take_append_of_le_length (Nat.le_of_lt hless),
      List.take_append_of_le_length (Nat.le_of_lt hless)]
    exact ((List.sublist_cons_self e Y).append_left _).append_right _
  · rw [if_neg (Nat.lt_irrefl _), if_pos rfl, rotate_at]
    have hrest : (Y ++ X).Sublist (e :: (Y ++ X)) := List.sublist_cons_self e _
    by_cases hY : Y = []
    · subst hY
      rw [List.length_nil, if_pos rfl, List.rotate_zero, List.append_nil]
      exact hrest
    · have hlen : Y.length ≠ 0 := fun h => hY (List.length_eq_zero_iff.mp h)
      rw [if_neg (by omega), List.rotate_append_length_eq]
      exact hrest
  · obtain ⟨A, B, rfl, hA⟩ : ∃ A B, Y = A ++ B ∧ c = (X ++ e :: A).length := by
      refine ⟨Y.take (c - (X.length + 1)), Y.drop (c - (X.length + 1)),
        (List.take_append_drop ..).symm, ?_⟩
      rw [List.length_append, List.length_cons, List.length_take]
      omega
    have hup : c - 1 = (X ++ A).length := by
      rw [hA, List.length_append, List.length_append, List.length_cons]
      omega
    have hsplit : X ++ e :: (A ++ B) = (X ++ e :: A) ++ B := by
      rw [List.append_assoc, List.cons_append]
    rw [if_neg (by omega), if_neg (by omega), hup, hA, hsplit, ← List.append_assoc,
      List.rotate_append_length_eq, List.rotate_append_length_eq]
    exact ((List.sublist_cons_self e A).append_left X).append_left B

section Update

variable {w : TxWorld}

theorem returnEntryPacket_sequence (w : TxWorld) (e : StreamData) :
    (w.returnEntryPacket e).mSequence = w.mSequence := by
  unfold returnEntryPacket
  cases e.packet with
  | none => rfl
  | some p => rfl

/-- **Erasing entries** keeps the others in order. -/
theorem eraseObsolete_inOrder (rest kept : List StreamData) (temp : List Nat) (w : TxWorld)
    (hcursor : CursorOk (kept.length + rest.length) w.nextStreamToService)
    (h : Ascending ((kept ++ rest).rotate w.nextStreamToService)) :
    InOrder (eraseObsolete kept rest temp w).2 := by
  induction rest generalizing kept temp w with
  | nil =>
      rw [List.append_nil] at h
      exact h
  | cons e rest ih =>
      have hlen : kept.length + (e :: rest).length = kept.length + rest.length + 1 := rfl
      unfold eraseObsolete
      split
      · refine ih (kept ++ [e]) (temp.erase e.stream) w ?_ ?_
        · rw [List.length_append, List.length_singleton, Nat.add_assoc, Nat.add_comm 1]
          exact hcursor
        · rwa [List.append_assoc]
      · rw [hlen] at hcursor
        have hlt := hcursor.lt (by omega)
        refine ih kept temp _ (cursorOk_afterErase (by omega) hlt) (h.sublist ?_)
        have hsub := rotate_erase kept rest e (c := w.nextStreamToService)
          (by rw [List.length_append, List.length_cons]; omega)
        rw [List.length_append, List.length_cons] at hsub
        exact hsub

/-- **An entry for a new stream** moves nothing. -/
theorem insertNew_inOrder (stream : Nat)
    (hcursor : CursorOk w.mSequence.length w.nextStreamToService) (h : InOrder w) :
    InOrder (w.insertNew stream) := by
  have hpush : InOrder (w.pushFront stream)
      ∧ ∃ cur, (w.pushFront stream).mSequence[(w.pushFront stream).nextStreamToService]?
        = some cur := by
    rcases hcursor with hlt | ⟨hzero, hfirst⟩
    · obtain ⟨x, hx⟩ : ∃ x, w.mSequence[w.nextStreamToService]? = some x :=
        ⟨_, List.getElem?_eq_getElem hlt⟩
      obtain ⟨X, Y, hl, hc⟩ := exists_at hx
      have hnext : (w.pushFront stream).nextStreamToService
          = (({ stream := stream } : StreamData) :: X).length := by
        rw [List.length_cons, hc]
        exact if_neg (by omega)
      have hfront : (w.pushFront stream).mSequence
          = (({ stream := stream } : StreamData) :: X) ++ x :: Y := congrArg (_ :: ·) hl
      have hsame : (w.pushFront stream).ahead.filter (fun e => e.launchTime ≠ 0)
          = w.ahead.filter fun e => e.launchTime ≠ 0 := by
        have hnew : (({ stream := stream } : StreamData) :: X).filter (fun e => e.launchTime ≠ 0)
            = X.filter fun e => e.launchTime ≠ 0 := List.filter_cons_of_neg (by simp)
        unfold ahead
        rw [hfront, hnext, rotate_at, hl, ← hc, rotate_at, ← List.cons_append, ← List.cons_append,
          List.filter_append, List.filter_append, hnew]
      refine ⟨?_, x, ?_⟩
      · unfold InOrder Ascending
        rw [hsame]
        exact h
      · rw [hfront, hnext, List.getElem?_append_right (Nat.le_refl _), Nat.sub_self]
        rfl
    · have hnil : w.mSequence = [] := List.length_eq_zero_iff.mp hzero
      have hfront : (w.pushFront stream).mSequence = [{ stream := stream }] :=
        congrArg (_ :: ·) hnil
      have hnext : (w.pushFront stream).nextStreamToService = 0 :=
        if_pos (hfirst.trans hzero.symm)
      refine ⟨?_, { stream := stream }, by rw [hfront, hnext]; rfl⟩
      unfold InOrder ahead Ascending
      rw [hfront, hnext]
      exact List.Pairwise.nil
  obtain ⟨horder, cur, hcur⟩ := hpush
  obtain ⟨A, B, hsplit, -, hA, hsorted⟩ := ahead_sortByLaunchTime hcur
  have hnone : A = [] := by
    rcases hA with hnil | ⟨A', a, rfl, hlaunch, hless⟩
    · exact hnil
    · -- nothing comes before the entry under the cursor
      exfalso
      unfold InOrder Ascending at horder
      rw [hsplit, List.filter_cons_of_pos (by simpa using Nat.ne_of_gt (Nat.zero_lt_of_lt hless))]
        at horder
      have hle := (List.pairwise_cons.mp horder).1 a
        (List.mem_filter.mpr ⟨by simp, decide_eq_true hlaunch⟩)
      omega
  subst hnone
  unfold insertNew InOrder
  rw [hsorted]
  unfold InOrder at horder
  rwa [hsplit] at horder

theorem foldl_insertNew_inOrder (temp : List Nat) (w : TxWorld)
    (hcursor : CursorOk w.mSequence.length w.nextStreamToService) (h : InOrder w) :
    InOrder (temp.foldl insertNew w) := by
  induction temp generalizing w with
  | nil => exact h
  | cons stream temp ih =>
      exact ih (w.insertNew stream) (insertNew_inserted stream hcursor).cursor
        (insertNew_inOrder stream hcursor h)

/-- What a round of the update needs, and leaves. -/
structure Sorted (w : TxWorld) : Prop where
  distinct : (streams w.mSequence).Nodup
  cursor : CursorOk w.mSequence.length w.nextStreamToService
  active : w.mActiveStreams.Nodup
  homely : Homely w
  order : InOrder w

theorem returnEntryPacket_homely (e : StreamData) (hh : WellHomed w) :
    (w.returnEntryPacket e).mStrictPktOrderEn = w.mStrictPktOrderEn
      ∧ (w.returnEntryPacket e).mHome = w.mHome ∧ WellHomed (w.returnEntryPacket e) := by
  unfold returnEntryPacket
  cases e.packet with
  | none => exact ⟨rfl, rfl, hh⟩
  | some p => exact ⟨rfl, rfl, wellHomed_returnPacket hh⟩

theorem eraseObsolete_homely (rest kept : List StreamData) (temp : List Nat) (w : TxWorld)
    (hstrict : w.mStrictPktOrderEn = true) (hh : WellHomed w)
    (hheld : ∀ e ∈ kept ++ rest, ∀ p, e.packet = some p → w.mHome p = e.stream) :
    Homely (eraseObsolete kept rest temp w).2 := by
  induction rest generalizing kept temp w with
  | nil =>
      rw [List.append_nil] at hheld
      exact ⟨hstrict, ⟨hh.stack, hh.ring⟩, hheld⟩
  | cons e rest ih =>
      unfold eraseObsolete
      split
      · refine ih (kept ++ [e]) (temp.erase e.stream) w hstrict hh ?_
        rwa [List.append_assoc]
      · obtain ⟨hstrict', hhome, hh'⟩ := returnEntryPacket_homely e hh
        refine ih kept temp _ (hstrict'.trans hstrict) ⟨hh'.stack, hh'.ring⟩ ?_
        intro e' he' p hp
        have hold : e' ∈ kept ++ e :: rest :=
          ((List.sublist_cons_self e rest).append_left kept).subset he'
        rw [hhome]
        exact hheld e' hold p hp

theorem insertNew_homely (h : Homely w) (stream : Nat) : Homely (w.insertNew stream) := by
  have hpush : Homely (w.pushFront stream) := by
    refine h.of_entries rfl rfl ⟨h.homed.stack, h.homed.ring⟩ ?_
    intro e he
    rcases List.mem_cons.mp he with rfl | he
    · exact Or.inl rfl
    · exact Or.inr ⟨e, he, rfl, rfl⟩
  have hr := sortByLaunchTime_reorders (w.pushFront stream)
  refine hpush.of_entries (sortByLaunchTime_strict _) hr.home (hr.conserves hpush.homed).homed ?_
  exact fun e he => Or.inr ⟨e, hr.perm.subset he, rfl, rfl⟩

theorem foldl_insertNew_homely (temp : List Nat) (w : TxWorld) (h : Homely w) :
    Homely (temp.foldl insertNew w) := by
  induction temp generalizing w with
  | nil => exact h
  | cons stream temp ih => exact ih _ (insertNew_homely h stream)

theorem Sorted.updateOnce (h : Sorted w) : Sorted w.updateOnce := by
  have hempty : CursorOk (([] : List StreamData).length + w.mSequence.length)
      w.nextStreamToService := by
    rw [List.length_nil, Nat.zero_add]
    exact h.cursor
  have hreconciled := updateOnce_reconciled h.distinct h.cursor
  have herase := eraseObsolete_erased w.mSequence [] w.mActiveStreams w h.distinct hempty
  have hactive : w.updateOnce.mActiveStreams.Nodup := hreconciled.active ▸ h.active
  refine ⟨hreconciled.streams.nodup_iff.mpr hactive, hreconciled.cursor, hactive, ?_, ?_⟩
  · have hhomely := foldl_insertNew_homely
      (eraseObsolete [] w.mSequence w.mActiveStreams w).1 _
      (eraseObsolete_homely w.mSequence [] w.mActiveStreams w h.homely.strict h.homely.homed
        h.homely.held)
    exact hhomely.of_rest rfl rfl rfl rfl rfl
  · have horder := eraseObsolete_inOrder w.mSequence [] w.mActiveStreams w hempty h.order
    exact foldl_insertNew_inOrder (eraseObsolete [] w.mSequence w.mActiveStreams w).1 _
      herase.cursor horder

/-- **An update** keeps what is there in order. -/
theorem Sorted.updateSequence (h : Sorted w) : Sorted w.updateSequence := by
  have hrounds : Sorted (TxWorld.updateOnce^[(w.mRequestCount - w.mResponseCount).toNat] w) := by
    generalize (w.mRequestCount - w.mResponseCount).toNat = rounds
    induction rounds generalizing w with
    | zero => exact h
    | succ rounds ih =>
        rw [Function.iterate_succ_apply]
        exact ih h.updateOnce
  unfold TxWorld.updateSequence
  dsimp only
  split
  · exact ⟨hrounds.distinct, hrounds.cursor, hrounds.active,
      hrounds.homely.of_rest rfl rfl rfl rfl rfl, hrounds.order⟩
  · exact hrounds

end Update

/-! ## Rounds of the thread -/

/-- What the thread does in its main loop, and what happens in between. -/
inductive RoundEvent
  /-- A pass over the streams, from the start of a window. -/
  | pass (windowStart : Nat) (events : List PassEvent)
  | other (e : Event)

/-- The steps of a pass happen in passes only. -/
def betweenPasses : Event → Bool
  | .service _ _ _ => false
  | .beginCycle => false
  | .endCycle => false
  | _ => true

/-- One round: a pass ends with `endCycle`. -/
def ThreadWorld.round (t : ThreadWorld) : RoundEvent → ThreadWorld
  | .pass windowStart events =>
      if t.running then
        { world := (exec (Pass.step windowStart) (beginPass t.world) events).world.endCycle
          running := true }
      else t
  | .other e => if betweenPasses e then t.step e else t

section Rounds

variable {w : TxWorld} {t : ThreadWorld}

theorem endCycle_inOrder (h : w.mStrictPktOrderEn = true) : InOrder w.endCycle := by
  unfold endCycle
  rw [if_pos h]
  unfold InOrder Ascending ahead
  rw [List.rotate_zero]
  refine List.Pairwise.filter _ ?_
  have hsorted := @List.pairwise_mergeSort StreamData
    (fun a b => decide (a.launchTime ≤ b.launchTime))
    (fun a b c hab hbc => decide_eq_true
      (Nat.le_trans (of_decide_eq_true hab) (of_decide_eq_true hbc)))
    (fun a b => by
      rw [Bool.or_eq_true, decide_eq_true_eq, decide_eq_true_eq]
      exact Nat.le_total ..) w.mSequence
  exact hsorted.imp of_decide_eq_true

theorem Homely.endCycle (h : Homely w) : Homely w.endCycle := by
  have hh := (endCycle_conserves h.homed).homed
  unfold TxWorld.endCycle at hh ⊢
  rw [if_pos h.strict] at hh ⊢
  refine h.of_entries rfl rfl hh ?_
  exact fun e he => Or.inr ⟨e, (List.mergeSort_perm _ _).subset he, rfl, rfl⟩

theorem Homely.beginCycle (h : Homely w) : Homely w.beginCycle := by
  refine h.of_entries rfl rfl ⟨h.homed.stack, h.homed.ring⟩ ?_
  intro e he
  obtain ⟨e', he', rfl⟩ := List.mem_map.mp he
  exact Or.inr ⟨e', he', rfl, rfl⟩

theorem Homely.outside (h : Homely w) {e : Event} (he : fromOutside e = true) :
    Homely (w.step e) := by
  obtain ⟨hsame, hsequence, -, hhomed⟩ := outside_same he w
  refine h.of_same ?_ hsame.home hsequence (hhomed h.homed)
  cases e with
  | add s => rfl
  | remove s => rfl
  | reclaim p =>
      show (w.reclaimPacket p).mStrictPktOrderEn = _
      unfold reclaimPacket
      split <;> rfl
  | fillRing s =>
      show (w.fillRing s).mStrictPktOrderEn = _
      unfold fillRing
      split <;> rfl
  | _ => exact nomatch he

/-- A step of a pass leaves the sequence orderly. -/
theorem ThreadWorld.Inv.passStep {s : Pass}
    (hinv : ThreadWorld.Inv { world := s.world, running := true }) (windowStart : Nat)
    (e : PassEvent) :
    ThreadWorld.Inv { world := (s.step windowStart e).world, running := true } := by
  cases e with
  | visit result preps =>
      unfold Pass.step
      dsimp only
      split
      · exact hinv.visited (serviceStream_visited ..)
      · exact hinv
  | outside e =>
      unfold Pass.step
      dsimp only
      split
      · rename_i he
        have hstep := ThreadWorld.inv_step { world := s.world, running := true } e hinv
        unfold ThreadWorld.step at hstep
        cases e <;> first | exact hstep | exact nomatch he
      · exact hinv

theorem ThreadWorld.Inv.beginPass (hinv : t.Inv) (hrunning : t.running = true) :
    ThreadWorld.Inv { world := (beginPass t.world).world, running := true } := by
  obtain ⟨w, running⟩ := t
  dsimp only at hrunning
  subst hrunning
  exact hinv.visited (ThreadWorld.beginCycle_visited w)

/-- **A pass** leaves every packet with its stream, and the sequence orderly. -/
theorem pass_homely (windowStart : Nat) (events : List PassEvent) (hinv : t.Inv)
    (hrunning : t.running = true) (h : Homely t.world) :
    ThreadWorld.Inv {
        world := (exec (Pass.step windowStart) (beginPass t.world) events).world, running := true }
      ∧ Homely (exec (Pass.step windowStart) (beginPass t.world) events).world := by
  refine @inv_exec_of_step _ _ _ (fun s : Pass =>
    ThreadWorld.Inv { world := s.world, running := true } ∧ Homely s.world) ?_ _ ?_ events
  · rintro s e ⟨hinv, h⟩
    refine ⟨hinv.passStep windowStart e, ?_⟩
    cases e with
    | visit result preps =>
        unfold Pass.step
        dsimp only
        split
        · exact h.serviceStream windowStart result preps
        · exact h
    | outside e =>
        unfold Pass.step
        dsimp only
        split
        · rename_i he
          exact h.outside he
        · exact h
  · exact ⟨hinv.beginPass hrunning, h.beginCycle⟩

/-- **Every round** leaves the sequence orderly, in strict order or not. -/
theorem ThreadWorld.Inv.round (h : t.Inv) (e : RoundEvent) : (t.round e).Inv := by
  cases e with
  | pass windowStart events =>
      unfold ThreadWorld.round
      dsimp only
      split
      · rename_i hrunning
        have hpass := @inv_exec_of_step _ _ (Pass.step windowStart) (fun s : Pass =>
          ThreadWorld.Inv { world := s.world, running := true })
          (fun s e hinv => hinv.passStep windowStart e) _ (h.beginPass hrunning) events
        exact hpass.visited (ThreadWorld.endCycle_visited _)
      · exact h
  | other e =>
      unfold ThreadWorld.round
      dsimp only
      split
      · exact ThreadWorld.inv_step t e h
      · exact h

/-- What holds between the rounds. -/
structure ThreadWorld.Strict (t : ThreadWorld) : Prop where
  inv : t.Inv
  homely : Homely t.world
  order : InOrder t.world

theorem inOrder_of_same {w' : TxWorld} (h : InOrder w) (hsequence : w'.mSequence = w.mSequence)
    (hcursor : w'.nextStreamToService = w.nextStreamToService) : InOrder w' := by
  unfold InOrder ahead
  rw [hsequence, hcursor]
  exact h

theorem inOrder_of_empty (h : w.mSequence = []) : InOrder w := by
  unfold InOrder ahead
  rw [h, List.rotate_nil]
  exact List.Pairwise.nil

theorem foldl_toggle_strict (l : List Nat) (w : TxWorld) :
    (l.foldl toggle w).mStrictPktOrderEn = w.mStrictPktOrderEn := by
  induction l generalizing w with
  | nil => rfl
  | cons s l ih => exact ih (w.toggle s)

theorem returnHeld_homely (l : List StreamData) (w : TxWorld) (hh : WellHomed w) :
    (w.returnHeld l).mStrictPktOrderEn = w.mStrictPktOrderEn
      ∧ (w.returnHeld l).mHome = w.mHome ∧ WellHomed (w.returnHeld l) := by
  induction l generalizing w with
  | nil => exact ⟨rfl, rfl, hh⟩
  | cons e l ih =>
      obtain ⟨hstrict, hhome, hh'⟩ := returnEntryPacket_homely e hh
      obtain ⟨hstrict', hhome', hh''⟩ := ih (w.returnEntryPacket e) hh'
      exact ⟨hstrict'.trans hstrict, hhome'.trans hhome, hh''⟩

/-- **Everything but the pass** keeps the order. -/
theorem ThreadWorld.Strict.step (h : t.Strict) {e : Event} (he : betweenPasses e = true) :
    (t.step e).Strict := by
  have hinv := inv_step t e h.inv
  unfold ThreadWorld.step at hinv ⊢
  split
  · rename_i hallows
    rw [if_pos hallows] at hinv
    have hboth : Homely (t.world.step e) ∧ InOrder (t.world.step e) := by
      cases e with
      | update =>
          have hsorted : Sorted t.world :=
            ⟨h.inv.distinct, h.inv.cursor, h.inv.active, h.homely, h.order⟩
          exact ⟨hsorted.updateSequence.homely, hsorted.updateSequence.order⟩
      | restart =>
          have hfold := foldl_toggle_unmoved t.world.mActiveStreams t.world
          exact ⟨h.homely.of_same (foldl_toggle_strict _ _) hfold.setting.home hfold.sequence
              (restartThread_conserves h.homely.homed).homed,
            inOrder_of_same h.order hfold.sequence hfold.cursor⟩
      | endThread =>
          obtain ⟨hstrict, hhome, hh⟩ :=
            returnHeld_homely t.world.mSequence t.world h.homely.homed
          refine ⟨⟨hstrict.trans h.homely.strict, ⟨hh.stack, hh.ring⟩, ?_⟩, inOrder_of_empty rfl⟩
          exact fun e he => absurd he List.not_mem_nil
      | startThread =>
          have hempty := h.inv.idle (by simpa [allows] using hallows)
          exact ⟨h.homely.of_rest rfl rfl rfl rfl rfl, inOrder_of_empty hempty⟩
      | add s => exact ⟨h.homely.outside rfl, inOrder_of_same h.order rfl rfl⟩
      | remove s => exact ⟨h.homely.outside rfl, inOrder_of_same h.order rfl rfl⟩
      | reclaim p =>
          have hsame := reclaimPacket_unmoved t.world p
          exact ⟨h.homely.outside rfl, inOrder_of_same h.order hsame.sequence hsame.cursor⟩
      | fillRing s =>
          have hsame := fillRing_unmoved t.world s
          exact ⟨h.homely.outside rfl, inOrder_of_same h.order hsame.sequence hsame.cursor⟩
      | _ => exact Bool.noConfusion he
    exact ⟨hinv, hboth.1, hboth.2⟩
  · exact h

/-- **Every round** leaves the sequence in order. -/
theorem ThreadWorld.Strict.round (h : t.Strict) (e : RoundEvent) : (t.round e).Strict := by
  cases e with
  | pass windowStart events =>
      unfold ThreadWorld.round
      dsimp only
      split
      · rename_i hrunning
        obtain ⟨hinv, hhomely⟩ := pass_homely windowStart events h.inv hrunning h.homely
        exact ⟨hinv.visited (endCycle_visited _), hhomely.endCycle, endCycle_inOrder hhomely.strict⟩
      · exact h
  | other e =>
      unfold ThreadWorld.round
      dsimp only
      split
      · rename_i he
        exact h.step he
      · exact h

theorem ThreadWorld.strict_start (pools : PacketPools) (config : SequencerConfig)
    (useShaper : Bool) (shaperBwRate : Nat) :
    (ThreadWorld.start pools config useShaper true shaperBwRate).Strict where
  inv := inv_start pools config useShaper true shaperBwRate
  homely := ⟨rfl, (intact_start pools config useShaper true shaperBwRate).full.homed,
    fun _ he => absurd he List.not_mem_nil⟩
  order := inOrder_of_empty rfl

end Rounds

/-! ## Every pass -/

/-- The entry has a packet, for the first launch time of its stream's plan. A packet that a
failed transmission has delayed already is on the same side of the window's end as the launch
time. -/
def Ready (plan : Nat → Nat → Nat) (w : TxWorld) (windowStart : Nat) (e : StreamData) : Prop :=
  ∃ p ∈ e.packet, e.launchTime ≠ 0
    ∧ (w.attime p ≤ w.windowEnd windowStart ↔ e.launchTime ≤ w.windowEnd windowStart)
    ∧ e.launchTime = plan e.stream 0

namespace ThreadWorld

/-- Behind a pass that has left the sequence sorted, only the cursor moves. -/
def settled (t : ThreadWorld) (windowStart : Nat) (events : List PassEvent) : ThreadWorld where
  world := { (exec (Pass.step windowStart) (beginPass t.world) events).world with
    nextStreamToService := 0 }
  running := true

theorem round_settled {t : ThreadWorld} {windowStart : Nat} {events : List PassEvent}
    (hrunning : t.running = true)
    (hstrict : (settled t windowStart events).world.mStrictPktOrderEn = true)
    (hsorted : (settled t windowStart events).world.mSequence.Pairwise
      fun a b => a.launchTime ≤ b.launchTime) :
    t.round (.pass windowStart events) = settled t windowStart events := by
  unfold round
  dsimp only
  rw [if_pos hrunning]
  unfold settled at hstrict hsorted ⊢
  unfold endCycle
  rw [if_pos hstrict, List.mergeSort_of_pairwise (hsorted.imp decide_eq_true)]

theorem exec_settled {t : ThreadWorld} {before after : List RoundEvent} {windowStart : Nat}
    {events : List PassEvent} (hrunning : (exec round t before).running = true)
    (hstrict : (settled (exec round t before) windowStart events).world.mStrictPktOrderEn = true)
    (hsorted : (settled (exec round t before) windowStart events).world.mSequence.Pairwise
      fun a b => a.launchTime ≤ b.launchTime) :
    exec round t (before ++ .pass windowStart events :: after)
      = exec round (settled (exec round t before) windowStart events) after := by
  rw [exec_append, exec_cons, round_settled hrunning hstrict hsorted]

/-! ## Two streams -/

/-- Streams 0 and 1, each with a pool of four packets. -/
def twoStreams : PacketPools where
  home p := p / 10
  packets s := if s = 0 then [0, 1, 2, 3] else if s = 1 then [10, 11, 12, 13] else []
  homed := by
    intro s p hp
    split at hp
    · rename_i hs
      subst hs
      revert p
      decide
    · split at hp
      · rename_i hs
        subst hs
        revert p
        decide
      · exact absurd hp List.not_mem_nil
  nodup s := by
    split
    · decide
    · split <;> decide

/-- A visit that finds the device willing and the stream with a packet for `attime`. -/
def fetches (attime : Nat) : PassEvent := .visit 0 [.fromPool attime false]

/-- The thread is started, with streams 0 and 1. -/
def bothStreams : List RoundEvent :=
  [.other (.add 0), .other (.add 1), .other .startThread, .other .update]

/-- Both streams send in the first window; what they have next lies beyond it, and stream 1
comes first. -/
def firstWindow : List PassEvent :=
  [fetches 2900000, fetches 3025000, fetches 2950000, fetches 3012500]

/-- One packet of each stream every three milliseconds. -/
def everyWindow (stream j : Nat) : Nat :=
  (if stream = 0 then 3025000 else 3012500) + j * 3000000

theorem everyWindow_strictMono (stream : Nat) : StrictMono (everyWindow stream) := by
  intro i j h
  unfold everyWindow
  omega

instance (plan : Nat → Nat → Nat) (w : TxWorld) (windowStart : Nat) (e : StreamData) :
    Decidable (Ready plan w windowStart e) :=
  inferInstanceAs (Decidable (∃ p ∈ e.packet, e.launchTime ≠ 0
    ∧ (w.attime p ≤ w.windowEnd windowStart ↔ e.launchTime ≤ w.windowEnd windowStart)
    ∧ e.launchTime = plan e.stream 0))

/-- The streams in the second window, with strict packet order. -/
def secondWindow : ThreadWorld :=
  settled (exec round (start twoStreams {} false true 100) bothStreams) 0 firstWindow

theorem exec_secondWindow :
    exec round (start twoStreams {} false true 100) (bothStreams ++ [.pass 0 firstWindow])
      = secondWindow :=
  exec_settled (by decide +kernel) (by decide +kernel) (by decide +kernel)

/-- Stream 1 comes first. -/
def inOrderPass : List PassEvent :=
  [fetches 6012500, .outside (.reclaim 10), fetches 6025000]

/-- Nothing goes wrong in a visit: what is handed to the device goes out, and the stream is
neither dry nor reset. -/
def Untroubled (windowStart : Nat) (s : Pass) : PassEvent → Prop
  | .visit result preps => s.Continues →
      result = 0 ∧ (s.world.serviceStream windowStart result preps).2 ≠ .eDry
        ∧ ∀ e ∈ s.world.mSequence,
          (s.world.serviceStream windowStart result preps).1.mActive e.stream
            = s.world.mActive e.stream
  | .outside _ => True

instance (windowStart : Nat) (s : Pass) : (e : PassEvent) → Decidable (Untroubled windowStart s e)
  | .visit result preps => inferInstanceAs (Decidable (s.Continues →
      result = 0 ∧ (s.world.serviceStream windowStart result preps).2 ≠ .eDry
        ∧ ∀ e ∈ s.world.mSequence,
          (s.world.serviceStream windowStart result preps).1.mActive e.stream
            = s.world.mActive e.stream))
  | .outside _ => inferInstanceAs (Decidable True)

/-- A pass over streams 0 and 1 in which nothing goes wrong, to its end. -/
structure FinePass (config : SequencerConfig) (strictOrder : Bool) (t : ThreadWorld)
    (windowStart : Nat) (events : List PassEvent) (launchTimes : List Nat) : Prop where
  reached : ∃ rounds, exec round (start twoStreams config false strictOrder 100) rounds = t
  untroubled : Always (Pass.step windowStart) (Untroubled windowStart) (beginPass t.world) events
  complete : (exec (Pass.step windowStart) (beginPass t.world) events).streamsToService = 0
  launchTimes :
    (exec (Pass.step windowStart) (beginPass t.world) events).served.map Served.launchTime
      = launchTimes

/-- The streams in the second window, without strict packet order. -/
def crossing : ThreadWorld :=
  exec round (start twoStreams {} false false 100) (bothStreams ++ [.pass 0 firstWindow])

/-- The thread is started, with stream 0. -/
def oneStream : List RoundEvent := [.other (.add 0), .other .startThread, .other .update]

/-- Stream 1 is new in the second window. -/
def newcomer : ThreadWorld :=
  exec round
    (settled (exec round (start twoStreams {} false true 100) oneStream) 0
      [fetches 2900000, fetches 3025000])
    [.other (.add 1), .other .update]

/-- Windows that begin every 25 microseconds. -/
def denseWindows : SequencerConfig where
  txWindowPitchInit := 25000
  txWindowPitch := 25000

/-- The device could not take the packet for 2950000 in the first window. -/
def delayed : ThreadWorld :=
  settled (exec round (start twoStreams denseWindows false true 100) oneStream) 0
    [fetches 2950000, .visit (-11) [], .visit 0 []]

/-- Windows of one millisecond, every four milliseconds. -/
def sparseWindows : SequencerConfig where
  txWindowWidthInit := 1000000
  txWindowWidth := 1000000
  txWindowPitchInit := 4000000
  txWindowPitch := 4000000

def late : ThreadWorld :=
  settled (exec round (start twoStreams sparseWindows false true 100) oneStream) 0
    [fetches 1100000]

end ThreadWorld

end AvbStreamHandler.TxWorld
