import AvbStreamHandler.Kit.Progress
import AvbStreamHandler.Transmit.FetchRounds
import AvbStreamHandler.Transmit.StrictOrder

/-!
# The count of a pass

The loop over the streams counts down what the visits report, and the visits mark the entries.
The two agree: the counter is the number of entries that are not done, whatever the streams and
the device do. The cursor does not rest on an entry that is done as long as there is another
one, so that a visit takes an entry that is to be serviced, and an entry that is done stays as
it is. A fatal error of the device is the one exception. It marks its entry and sets the counter
to zero, and the pass is over with the other entries unserviced.

A visit that leaves its entry in the window has got a packet for it that is launched later, or
has been told to try again. So a pass comes to its end if launch times increase and the device
does not put it off forever.
-/

namespace AvbStreamHandler.TxWorld

open Kit Kit.Word Kit.Run Kit.Cycle

variable {w w' : TxWorld} {cur cur' : StreamData} {windowStart : Nat} {result : Int}
  {preps : List Prepared} {advance : Advance}

/-! ## What becomes of the entry -/

/-- The entry behind the visit, and where the cursor goes. -/
def visit (w : TxWorld) (windowStart : Nat) (result : Int) (preps : List Prepared)
    (cur : StreamData) : TxWorld × StreamData × Advance :=
  let v := w.sendCurrent windowStart cur result
  if v.fetch then fetchLoop windowStart v.world.mDiag.dropped preps 0 v.world v.current
  else (v.world, v.current, v.advance)

theorem serviceStream_visit (hcur : w.mSequence[w.nextStreamToService]? = some cur) :
    w.serviceStream windowStart result preps
      = ((w.visit windowStart result preps cur).1.settle
          (w.visit windowStart result preps cur).2.1 (w.visit windowStart result preps cur).2.2,
        (w.visit windowStart result preps cur).2.1.done) := by
  unfold serviceStream visit
  rw [hcur]
  dsimp only
  split <;> rfl

theorem visit_unmoved : Unmoved w (w.visit windowStart result preps cur).1 := by
  have hsend := (sendCurrent_unmoved w windowStart cur result).1
  unfold visit
  dsimp only
  split
  · exact hsend.trans (fetchLoop_unmoved ..).1
  · exact hsend

/-- The device has neither taken the entry's packet nor rejected it. -/
def PutOff (w : TxWorld) (windowStart : Nat) (result : Int) (cur : StreamData) : Prop :=
  ∃ p ∈ cur.packet, w.Transmits windowStart p
    ∧ ¬ (result = 0 ∨ result = -EINVAL ∨ result = - ENXIO ∨ result = ENOSPC)

/-- The first half of a visit: on to the second half, or one of three ways out. -/
theorem sendCurrent_ends (hnot : cur.done = .eNotDone) :
    ((w.sendCurrent windowStart cur result).fetch = true
        ∧ (w.sendCurrent windowStart cur result).current.done = .eNotDone)
      ∨ ((w.sendCurrent windowStart cur result).fetch = false
        ∧ ((w.sendCurrent windowStart cur result).current.done = .eEndOfWindow
          ∨ (w.sendCurrent windowStart cur result).current.done = .eTxError
          ∨ (w.sendCurrent windowStart cur result).current = cur
            ∧ w.PutOff windowStart result cur
            ∧ (w.sendCurrent windowStart cur result).advance = .stay)) := by
  unfold sendCurrent
  split
  · exact Or.inl ⟨rfl, hnot⟩
  · rename_i p hp
    split
    · exact Or.inr ⟨rfl, Or.inl rfl⟩
    · rename_i hdue
      split
      · exact Or.inl ⟨rfl, hnot⟩
      · rename_i hdummy
        unfold transmit
        dsimp only
        split
        · exact Or.inr ⟨rfl, Or.inr (Or.inl rfl)⟩
        · rename_i hfatal
          split
          · exact Or.inl ⟨rfl, hnot⟩
          · rename_i hsent
            split
            · exact Or.inl ⟨rfl, hnot⟩
            · rename_i hspace
              refine Or.inr ⟨rfl, Or.inr (Or.inr ⟨rfl, ?_, rfl⟩)⟩
              refine ⟨p, hp, ⟨not_not.mp hdue, by simpa using hdummy⟩, ?_⟩
              rintro (h | h | h | h)
              · exact hsent h
              · exact hfatal (Or.inl h)
              · exact hfatal (Or.inr h)
              · exact hspace h

/-- The second half: a packet is kept, or the entry is done. -/
theorem fetchLoop_ends (windowStart droppedOld : Nat) (preps : List Prepared) (resetCnt : Nat)
    (w : TxWorld) (cur : StreamData) (hnot : cur.done = .eNotDone) :
    ((fetchLoop windowStart droppedOld preps resetCnt w cur).2.1.done = .eNotDone
        ∧ (fetchLoop windowStart droppedOld preps resetCnt w cur).2.2 = .sortByLaunchTime)
      ∨ (fetchLoop windowStart droppedOld preps resetCnt w cur).2.1.done = .eEndOfWindow
      ∨ (fetchLoop windowStart droppedOld preps resetCnt w cur).2.1.done = .eDry := by
  induction preps generalizing resetCnt w cur with
  | nil => exact Or.inr (Or.inr rfl)
  | cons prep preps ih =>
      rw [fetchLoop]
      split
      · exact Or.inr (Or.inr rfl)
      · dsimp only
        split
        · exact Or.inr (Or.inl rfl)
        · split
          · split
            · exact ih _ _ _ hnot
            · exact Or.inr (Or.inr rfl)
          · split
            · split
              · exact Or.inr (Or.inr rfl)
              · exact ih _ _ _ hnot
            · exact Or.inl ⟨hnot, rfl⟩

/-- **A visit** keeps a packet for its entry, is put off, or marks its entry. -/
theorem visit_ends (hnot : cur.done = .eNotDone) :
    ((w.visit windowStart result preps cur).2.1.done = .eNotDone
        ∧ (w.visit windowStart result preps cur).2.2 = .sortByLaunchTime)
      ∨ ((w.visit windowStart result preps cur).2.1 = cur ∧ w.PutOff windowStart result cur)
      ∨ (w.visit windowStart result preps cur).2.1.done = .eEndOfWindow
      ∨ (w.visit windowStart result preps cur).2.1.done = .eDry
      ∨ (w.visit windowStart result preps cur).2.1.done = .eTxError := by
  unfold visit
  dsimp only
  rcases @sendCurrent_ends w cur windowStart result hnot with
    ⟨hfetch, hcurrent⟩ | ⟨hfetch, hend | hfatal | ⟨hsame, hoff, -⟩⟩
  · rw [if_pos hfetch]
    rcases fetchLoop_ends windowStart (w.sendCurrent windowStart cur result).world.mDiag.dropped
      preps 0 (w.sendCurrent windowStart cur result).world _ hcurrent with hkept | hend | hdry
    · exact Or.inl hkept
    · exact Or.inr (Or.inr (Or.inl hend))
    · exact Or.inr (Or.inr (Or.inr (Or.inl hdry)))
  · rw [hfetch]
    exact Or.inr (Or.inr (Or.inl hend))
  · rw [hfetch]
    exact Or.inr (Or.inr (Or.inr (Or.inr hfatal)))
  · rw [hfetch]
    exact Or.inr (Or.inl ⟨hsame, hoff⟩)

/-! ## What becomes of the list -/

/-- The list behind a visit has the new entry in the place of the old one, up to the order. -/
theorem serviceStream_perm {X Y : List StreamData} (hl : w.mSequence = X ++ cur :: Y)
    (hc : X.length = w.nextStreamToService) :
    ((w.serviceStream windowStart result preps).1.mSequence).Perm
      (X ++ (w.visit windowStart result preps cur).2.1 :: Y) := by
  have hcur : w.mSequence[w.nextStreamToService]? = some cur := by
    rw [hl, ← hc, List.getElem?_append_right (Nat.le_refl _), Nat.sub_self]
    rfl
  have hsame : Unmoved w (w.visit windowStart result preps cur).1 := visit_unmoved
  rw [serviceStream_visit hcur]
  refine (settle_reorders _ _ _).perm.trans ?_
  dsimp only
  rw [hsame.sequence, hsame.cursor, hl, ← hc, List.set_append_right _ _ (Nat.le_refl _),
    Nat.sub_self, List.set_cons_zero]

/-- The cursor skips what is done. -/
theorem settle_pointed (hlt : w.nextStreamToService < w.mSequence.length) :
    (w.settle cur advance).Pointed := by
  have hset : w.nextStreamToService < (w.mSequence.set w.nextStreamToService cur).length := by
    rwa [List.length_set]
  let w₀ : TxWorld := { w with mSequence := w.mSequence.set w.nextStreamToService cur }
  cases advance with
  | stay => exact (@todo_skip w₀ (w.settle cur .stay) hset rfl rfl).2.1
  | next =>
      exact (@todo_skip { w₀ with
        nextStreamToService := next w₀.mSequence.length w₀.nextStreamToService }
        (w.settle cur .next) (next_lt hset) rfl rfl).2.1
  | sortByLaunchTime =>
      exact (@todo_skip w₀.sortByLaunchTime (w.settle cur .sortByLaunchTime)
        (sortByLaunchTime_cursor hset) rfl rfl).2.1

theorem serviceStream_pointed (hcur : w.mSequence[w.nextStreamToService]? = some cur) :
    (w.serviceStream windowStart result preps).1.Pointed := by
  have hsame : Unmoved w (w.visit windowStart result preps cur).1 := visit_unmoved
  rw [serviceStream_visit hcur]
  refine settle_pointed ?_
  rw [hsame.sequence, hsame.cursor]
  exact (List.getElem?_eq_some_iff.mp hcur).1

/-- There is an entry to be serviced under the cursor. -/
theorem Pointed.not_done (h : w.Pointed)
    (hleft : 0 < w.mSequence.countP fun e => e.done = .eNotDone) :
    ∃ e, w.mSequence[w.nextStreamToService]? = some e ∧ e.done = .eNotDone := by
  refine h.resolve_left ?_
  intro hnil
  obtain ⟨e, he, hnot⟩ := List.countP_pos_iff.mp hleft
  unfold todo ahead at hnil
  exact List.filter_eq_nil_iff.mp hnil e (List.mem_rotate.mpr he) hnot

/-! ## The pass -/

namespace Pass

variable {s : Pass}

/-- The entries that are not done. -/
def left (s : Pass) : Nat := s.world.mSequence.countP fun e => e.done = .eNotDone

/-- The device has reported a fatal error. -/
def Failed (s : Pass) : Prop := ∃ e ∈ s.world.mSequence, e.done = .eTxError

instance (s : Pass) : Decidable s.Failed :=
  inferInstanceAs (Decidable (∃ e ∈ s.world.mSequence, e.done = .eTxError))

/-- The counter and the cursor. -/
structure Exact (s : Pass) : Prop where
  cursor : CursorOk s.world.mSequence.length s.world.nextStreamToService
  pointed : s.world.Pointed
  failed : s.Failed → s.streamsToService = 0
  counted : ¬ s.Failed → s.streamsToService = s.left

theorem exact_begin (h : CursorOk w.mSequence.length w.nextStreamToService) :
    Exact (beginPass w) := by
  have hnot : ∀ e ∈ (beginPass w).world.mSequence, e.done = .eNotDone := by
    intro e he
    obtain ⟨e', -, rfl⟩ := List.mem_map.mp he
    rfl
  have hlength : (beginPass w).world.mSequence.length = w.mSequence.length := List.length_map _
  refine ⟨?_, ?_, ?_, fun _ => ?_⟩
  · rw [hlength]
    exact h
  · rcases h with hlt | ⟨hnil, -⟩
    · have hlt' : (beginPass w).world.nextStreamToService < (beginPass w).world.mSequence.length := by
        rw [hlength]
        exact hlt
      refine Or.inr ⟨_, List.getElem?_eq_getElem hlt', hnot _ (List.getElem_mem hlt')⟩
    · refine Or.inl ?_
      have hempty : (beginPass w).world.mSequence = [] := List.eq_nil_of_length_eq_zero
        (hlength.trans hnil)
      unfold todo ahead
      rw [hempty]
      rfl
  · rintro ⟨e, he, hfatal⟩
    rw [hnot e he] at hfatal
    exact nomatch hfatal
  · unfold left
    rw [List.countP_eq_length.mpr fun e he => decide_eq_true (hnot e he), hlength]
    rfl

/-- As long as the loop goes on, the cursor is on an entry that is to be serviced. -/
theorem Exact.next (h : Exact s) (hgoes : s.Continues) :
    ¬ s.Failed ∧ ∃ e, s.world.mSequence[s.world.nextStreamToService]? = some e
      ∧ e.done = .eNotDone := by
  have hnot : ¬ s.Failed := by
    intro hfailed
    have hpos := hgoes.2
    rw [h.failed hfailed] at hpos
    exact absurd hpos (Nat.lt_irrefl 0)
  refine ⟨hnot, h.pointed.not_done ?_⟩
  have hpos := hgoes.2
  rwa [h.counted hnot] at hpos

/-- **What a visit does to the pass.** `X` and `Y` are the other entries. -/
theorem Exact.visit (h : Exact s) (hgoes : s.Continues) (windowStart : Nat) (result : Int)
    (preps : List Prepared) :
    ∃ cur X Y, s.world.mSequence = X ++ cur :: Y ∧ X.length = s.world.nextStreamToService
      ∧ cur.done = .eNotDone
      ∧ ((s.step windowStart (.visit result preps)).world.mSequence).Perm
        (X ++ (s.world.visit windowStart result preps cur).2.1 :: Y)
      ∧ Exact (s.step windowStart (.visit result preps)) := by
  obtain ⟨hnot, cur, hcur, hdone⟩ := h.next hgoes
  obtain ⟨X, Y, hl, hc⟩ := exists_at hcur
  have hstep : s.step windowStart (.visit result preps)
      = { world := (s.world.serviceStream windowStart result preps).1
          streamsToService :=
            streamsLeft s.streamsToService (s.world.serviceStream windowStart result preps).2
          served := s.served ++ (s.world.serves windowStart result).toList } := if_pos hgoes
  -- the visit changes this entry, and sorts it in among the others
  have hperm := @serviceStream_perm _ cur windowStart result preps X Y hl hc
  have hreport : (s.world.serviceStream windowStart result preps).2
      = (s.world.visit windowStart result preps cur).2.1.done :=
    congrArg Prod.snd (serviceStream_visit hcur)
  have hcount : s.streamsToService = (X ++ cur :: Y).countP fun e => e.done = .eNotDone :=
    (h.counted hnot).trans (congrArg (List.countP _) hl)
  -- the pass goes on, so no other entry has failed
  have hothers : ∀ e ∈ X ++ Y, e.done ≠ .eTxError := by
    intro e he hfatal
    refine hnot ⟨e, ?_, hfatal⟩
    rw [hl, List.mem_append, List.mem_cons]
    exact (List.mem_append.mp he).imp_right Or.inr
  have hrest : Exact (s.step windowStart (.visit result preps)) := by
    have hout := @visit_ends s.world cur windowStart result preps hdone
    rw [hstep]
    generalize (s.world.visit windowStart result preps cur).2.1 = cur' at hperm hreport hout
    have hleft := hperm.countP_eq fun e => decide (e.done = .eNotDone)
    rw [List.countP_append, List.countP_cons, if_pos (decide_eq_true hdone)] at hcount
    rw [List.countP_append, List.countP_cons] at hleft
    have hfailed : (∃ e ∈ (s.world.serviceStream windowStart result preps).1.mSequence,
        e.done = .eTxError) ↔ cur'.done = .eTxError := by
      constructor
      · rintro ⟨e, he, hfatal⟩
        rcases List.mem_append.mp (hperm.subset he) with he | he
        · exact absurd hfatal (hothers e (List.mem_append_left _ he))
        · rcases List.mem_cons.mp he with rfl | he
          · exact hfatal
          · exact absurd hfatal (hothers e (List.mem_append_right _ he))
      · intro hfatal
        exact ⟨cur', hperm.symm.subset (List.mem_append_right _ List.mem_cons_self), hfatal⟩
    refine ⟨(serviceStream_visited ..).cursor h.cursor, serviceStream_pointed hcur, ?_, ?_⟩
    · intro hfatal
      dsimp only
      rw [hreport, hfailed.mp hfatal]
      rfl
    · intro hfine
      have hfine : cur'.done ≠ .eTxError := fun hfatal => hfine (hfailed.mpr hfatal)
      unfold left
      dsimp only
      rw [hreport, hleft, hcount]
      -- what the visit ends with decides how many are left
      rcases hout with ⟨hkept, -⟩ | ⟨rfl, -⟩ | hend | hdry | hfatal
      · rw [hkept]
        rfl
      · rw [hdone]
        rfl
      · rw [hend]
        rfl
      · rw [hdry]
        rfl
      · exact absurd hfatal hfine
  exact ⟨cur, X, Y, hl, hc, hdone, by rw [hstep]; exact hperm, hrest⟩

theorem step_outside (windowStart : Nat) (e : Event) :
    (s.step windowStart (.outside e)).streamsToService = s.streamsToService
      ∧ (s.step windowStart (.outside e)).world.mSequence = s.world.mSequence
      ∧ (s.step windowStart (.outside e)).world.nextStreamToService
        = s.world.nextStreamToService := by
  unfold step
  dsimp only
  split
  · rename_i he
    obtain ⟨-, hsequence, hcursor, -⟩ := outside_same he s.world
    exact ⟨rfl, hsequence, hcursor⟩
  · exact ⟨rfl, rfl, rfl⟩

theorem step_over (hover : ¬ s.Continues) (windowStart : Nat) (result : Int)
    (preps : List Prepared) : s.step windowStart (.visit result preps) = s := if_neg hover

/-- Only the list, the cursor and the counter matter. -/
theorem Exact.of_same {s' : Pass} (h : Exact s)
    (hcount : s'.streamsToService = s.streamsToService)
    (hsequence : s'.world.mSequence = s.world.mSequence)
    (hcursor : s'.world.nextStreamToService = s.world.nextStreamToService) : Exact s' := by
  have hfailed : s'.Failed ↔ s.Failed := by
    unfold Failed
    rw [hsequence]
  refine ⟨?_, ?_, ?_, ?_⟩
  · rw [hsequence, hcursor]
    exact h.cursor
  · have hpointed := h.pointed
    unfold Pointed todo ahead at hpointed ⊢
    rw [hsequence, hcursor]
    exact hpointed
  · rw [hcount]
    exact fun hfatal => h.failed (hfailed.mp hfatal)
  · unfold left
    rw [hcount, hsequence]
    exact fun hfine => h.counted fun hfatal => hfine (hfailed.mpr hfatal)

theorem Exact.step (h : Exact s) (windowStart : Nat) (e : PassEvent) :
    Exact (s.step windowStart e) := by
  cases e with
  | visit result preps =>
      by_cases hgoes : s.Continues
      · obtain ⟨-, -, -, -, -, -, -, hexact⟩ := h.visit hgoes windowStart result preps
        exact hexact
      · rw [step_over hgoes]
        exact h
  | outside e =>
      obtain ⟨hcount, hsequence, hcursor⟩ := step_outside (s := s) windowStart e
      exact h.of_same hcount hsequence hcursor

/-- An entry that is done is left alone. -/
theorem Exact.keeps_done (h : Exact s) (windowStart : Nat) (e : PassEvent) {d : StreamData}
    (hd : d ∈ s.world.mSequence) (hdone : d.done ≠ .eNotDone) :
    d ∈ (s.step windowStart e).world.mSequence := by
  cases e with
  | visit result preps =>
      by_cases hgoes : s.Continues
      · obtain ⟨cur, X, Y, hl, -, hnot, hperm, -⟩ := h.visit hgoes windowStart result preps
        refine hperm.symm.subset ?_
        rw [hl, List.mem_append, List.mem_cons] at hd
        rw [List.mem_append, List.mem_cons]
        rcases hd with hd | rfl | hd
        · exact Or.inl hd
        · exact absurd hnot hdone
        · exact Or.inr (Or.inr hd)
      · rw [step_over hgoes]
        exact hd
  | outside e =>
      rw [(step_outside windowStart e).2.1]
      exact hd

end Pass

end AvbStreamHandler.TxWorld
