import AvbStreamHandler.Transmit.LaunchOrder

/-!
# Launch-time order in runs

Whether a pass begins in order depends on the passes before it. A stream that leaves the
window keeps its place in the list, whatever its next packet; only with strict packet order is
the list sorted behind every pass. Between the passes streams come and go: one that goes takes
its entry with it, and one that comes has no launch time yet.
-/

namespace AvbStreamHandler.TxWorld

open Kit Kit.Word Kit.Run Kit.Cycle

/-! ## One pass -/

/-- What happens meanwhile concerns neither the entries nor their packets. -/
theorem outside_same {e : Event} (he : fromOutside e = true) (w : TxWorld) :
    SameTimes w (w.step e) ∧ (w.step e).mSequence = w.mSequence
      ∧ (w.step e).nextStreamToService = w.nextStreamToService
      ∧ (WellHomed w → WellHomed (w.step e)) := by
  cases e with
  | add s => exact ⟨⟨rfl, rfl, rfl, rfl, rfl⟩, rfl, rfl, fun hh => ⟨hh.stack, hh.ring⟩⟩
  | remove s => exact ⟨⟨rfl, rfl, rfl, rfl, rfl⟩, rfl, rfl, fun hh => ⟨hh.stack, hh.ring⟩⟩
  | reclaim p =>
      show SameTimes w (w.reclaimPacket p) ∧ _
      unfold step reclaimPacket
      dsimp only
      split
      · exact ⟨⟨rfl, rfl, rfl, rfl, rfl⟩, rfl, rfl,
          fun hh => wellHomed_returnPacket ⟨hh.stack, hh.ring⟩⟩
      · exact ⟨⟨rfl, rfl, rfl, rfl, rfl⟩, rfl, rfl, id⟩
  | fillRing s =>
      refine ⟨?_, (ThreadWorld.fillRing_unmoved w s).sequence,
        (ThreadWorld.fillRing_unmoved w s).cursor, fun hh => (fillRing_conserves hh s).homed⟩
      show SameTimes w (w.fillRing s)
      unfold fillRing
      split <;> exact ⟨rfl, rfl, rfl, rfl, rfl⟩
  | _ => exact nomatch he

/-- What a step of a pass by the plan comes to. -/
structure Advances (plan : Nat → Nat → Nat) (windowStart : Nat) (s s' : Pass) : Prop where
  merging : Merging plan windowStart s'
  windowEnd : s'.world.windowEnd windowStart = s.world.windowEnd windowStart
  streams : (streams s'.world.mSequence).Perm (streams s.world.mSequence)

section Step

variable {plan : Nat → Nat → Nat} {windowStart : Nat} {s : Pass}

theorem Merging.continues_iff (h : Merging plan windowStart s) :
    s.Continues ↔ 0 < s.streamsToService :=
  and_iff_right h.stocked.running

/-- **A visit** serves, or finds the entry done, and there is less to do. -/
theorem Merging.visit (h : Merging plan windowStart s) (hplan : ∀ stream, StrictMono (plan stream))
    (hrange : s.world.windowEnd windowStart < 9223372036854775808) {result : Int}
    {preps : List Prepared} (hok : s.Smooth plan windowStart (.visit result preps))
    (hmore : s.Continues) :
    Advances plan windowStart s (s.step windowStart (.visit result preps))
      ∧ (s.step windowStart (.visit result preps)).work windowStart < s.work windowStart := by
  have hcount := h.count
  have hpos := h.continues_iff.mp hmore
  -- the pass goes on, so there is an entry to be serviced, with a packet
  obtain ⟨cur, rest, hrest⟩ : ∃ cur rest, s.world.todo = cur :: rest := by
    cases htodo : s.world.todo with
    | nil =>
        rw [htodo, List.length_nil] at hcount
        omega
    | cons cur rest => exact ⟨cur, rest, rfl⟩
  obtain ⟨hcur, hnot, behind, hahead, -⟩ := todo_of_pointed h.pointed hrest
  obtain ⟨p, hp, hhome, -, hside⟩ := h.stocked.loaded cur (List.mem_of_getElem? hcur)
  have hstreams := (serviceStream_visited s.world windowStart result preps).streams
  have hstep : s.step windowStart (.visit result preps) = {
      world := (s.world.serviceStream windowStart result preps).1
      streamsToService := streamsLeft s.streamsToService
        (s.world.serviceStream windowStart result preps).2
      served := s.served ++ (s.world.serves windowStart result).toList } := if_pos hmore
  by_cases hdue : s.world.Due windowStart p
  · obtain ⟨hgood, hsupply⟩ := hok hmore cur hcur p hp hdue
    obtain ⟨w', q, ht, htime, hhome', hservice, hserves⟩ :=
      serviceStream_due hcur h.stocked.homed hp hhome hnot hdue hgood hrange hsupply
    have hdue' := hside.mp ((due_iff hrange).mp hdue)
    have hconfig : ∀ cur' advance, (w'.settle cur' advance).windowEnd windowStart
        = s.world.windowEnd windowStart := by
      intro cur' advance
      rw [(settle_sameTimes w' cur' advance).windowEnd]
      unfold TxWorld.windowEnd
      rw [ht.config]
    rw [hstep, hserves]
    rw [hservice] at hstreams ⊢
    -- it is served: is the stream's next packet still in this window?
    by_cases hbeyond : s.world.windowEnd windowStart < s.upcoming plan cur.stream
    · have hserve := h.serve hplan hahead hcur hrest hdue' ht htime hhome'
        (Or.inl ⟨hbeyond, rfl, rfl⟩) p (s.world.mDummyFlag p)
      rw [if_pos (by exact hbeyond)] at hstreams ⊢
      exact ⟨⟨hserve.1, hconfig _ _, hstreams⟩, hserve.2⟩
    · have hserve := h.serve hplan hahead hcur hrest hdue' ht htime hhome'
        (Or.inr ⟨Nat.le_of_not_lt hbeyond, rfl, rfl⟩) p (s.world.mDummyFlag p)
      have hentry : ({ cur with packet := some q, launchTime := s.upcoming plan cur.stream }
          : StreamData) = refilled cur q (s.upcoming plan cur.stream) .eNotDone := by
        unfold refilled
        rw [← hnot]
      rw [← hentry] at hserve
      rw [if_neg (by exact hbeyond)] at hstreams ⊢
      exact ⟨⟨hserve.1, hconfig _ _, hstreams⟩, hserve.2⟩
  · -- it is not due, so it is done for this window
    have hlate : s.world.windowEnd windowStart < cur.launchTime := by
      by_contra hle
      exact hdue ((due_iff hrange).mpr (hside.mpr (Nat.le_of_not_lt hle)))
    obtain ⟨hservice, hserves⟩ := @serviceStream_late s.world windowStart p cur result preps
      hcur hp hdue
    have hdone := h.late hahead hcur hrest hlate
    rw [hstep, hserves, hservice, Option.toList_none, List.append_nil]
    rw [hservice] at hstreams
    exact ⟨⟨hdone.1, (settle_sameTimes s.world _ _).windowEnd, hstreams⟩, hdone.2⟩

/-- What happens meanwhile changes nothing. -/
theorem Merging.outside (h : Merging plan windowStart s) (e : Event) :
    Advances plan windowStart s (s.step windowStart (.outside e))
      ∧ (s.step windowStart (.outside e)).work windowStart = s.work windowStart
      ∧ (s.step windowStart (.outside e)).streamsToService = s.streamsToService := by
  unfold Pass.step
  dsimp only
  split
  · rename_i he
    obtain ⟨hsame, hsequence, hcursor, hhomed⟩ := outside_same he s.world
    have htodo : (s.world.step e).todo = s.world.todo := by
      unfold todo ahead
      rw [hsequence, hcursor]
    have hend : (s.world.step e).windowEnd windowStart = s.world.windowEnd windowStart :=
      hsame.windowEnd
    refine ⟨⟨⟨⟨⟨?_, ?_⟩, hhomed h.stocked.homed, ?_, ?_, ?_⟩, ?_, ?_, ?_, ?_, h.ordered, ?_, ?_,
      h.history, ?_⟩, hend, ?_⟩, ?_, rfl⟩
    · exact hsame.endThread.trans h.stocked.running.1
    · exact hsame.restartThread.trans h.stocked.running.2
    · rw [hsequence]
      exact h.stocked.distinct
    · rw [hsequence]
      exact fun e he => hsame.loaded (h.stocked.loaded e he)
    · rw [hsequence, hend]
      exact h.stocked.beyond
    · rw [hsequence, hcursor]
      exact h.cursor
    · unfold Pointed
      rw [htodo, hsequence, hcursor]
      exact h.pointed
    · rw [htodo]
      exact h.count
    · rw [htodo]
      exact h.sorted
    · rw [htodo]
      exact h.behind
    · rw [hend]
      exact h.within
    · rw [hsequence]
      exact h.planned
    · rw [hsequence]
    · unfold Pass.work
      rw [htodo, hend]
  · exact ⟨⟨h, rfl, List.Perm.refl _⟩, rfl, rfl⟩

/-- A pass that is over stays over. -/
theorem exec_over (hover : s.streamsToService = 0) (events : List PassEvent) :
    (exec (Pass.step windowStart) s events).streamsToService = 0 := by
  refine @inv_exec_of_step _ _ _ (fun s : Pass => s.streamsToService = 0) ?_ s hover events
  intro s e hover
  cases e with
  | visit result preps =>
      have hstop : ¬ s.Continues := fun h => absurd h.2 (by omega)
      unfold Pass.step
      dsimp only
      rw [if_neg hstop]
      exact hover
  | outside e =>
      unfold Pass.step
      dsimp only
      split
      · exact hover
      · exact hover

def PassEvent.isVisit : PassEvent → Bool
  | .visit _ _ => true
  | .outside _ => false

/-- **A whole pass by the plan**: it merges, and every visit leaves less to do. -/
theorem Merging.exec (h : Merging plan windowStart s) (hplan : ∀ stream, StrictMono (plan stream))
    (hrange : s.world.windowEnd windowStart < 9223372036854775808) {events : List PassEvent}
    (hok : Always (Pass.step windowStart) (Pass.Smooth plan windowStart) s events) :
    Advances plan windowStart s (exec (Pass.step windowStart) s events)
      ∧ ((exec (Pass.step windowStart) s events).streamsToService ≠ 0 →
        (exec (Pass.step windowStart) s events).work windowStart
          + events.countP PassEvent.isVisit ≤ s.work windowStart) := by
  induction events generalizing s with
  | nil => exact ⟨⟨h, rfl, List.Perm.refl _⟩, fun _ => Nat.le_refl _⟩
  | cons e events ih =>
      have hadvance : Advances plan windowStart s (s.step windowStart e)
          ∧ ((exec (Pass.step windowStart) (s.step windowStart e) events).streamsToService ≠ 0 →
            (s.step windowStart e).work windowStart + [e].countP PassEvent.isVisit
              ≤ s.work windowStart) := by
        cases e with
        | visit result preps =>
            by_cases hmore : s.Continues
            · obtain ⟨hadvance, hwork⟩ := h.visit hplan hrange hok.1 hmore
              exact ⟨hadvance, fun _ => hwork⟩
            · have hsame : s.step windowStart (.visit result preps) = s := if_neg hmore
              have hover : s.streamsToService = 0 := by
                have := h.continues_iff.not.mp hmore
                omega
              rw [hsame]
              exact ⟨⟨h, rfl, List.Perm.refl _⟩, fun hne => absurd (exec_over hover events) hne⟩
        | outside e =>
            obtain ⟨hadvance, hwork, -⟩ := h.outside e
            exact ⟨hadvance, fun _ => Nat.le_of_eq hwork⟩
      obtain ⟨hadvance, hwork⟩ := hadvance
      have hrest := ih hadvance.merging (by rw [hadvance.windowEnd]; exact hrange) hok.2
      rw [exec_cons]
      refine ⟨⟨hrest.1.merging, hrest.1.windowEnd.trans hadvance.windowEnd,
        hrest.1.streams.trans hadvance.streams⟩, fun hne => ?_⟩
      have hfirst := hwork hne
      have hlater := hrest.2 hne
      have hcount : (e :: events).countP PassEvent.isVisit
          = [e].countP PassEvent.isVisit + events.countP PassEvent.isVisit := by
        show ([e] ++ events).countP PassEvent.isVisit = _
        exact List.countP_append
      omega

end Step

/-- In launch-time order; entries without a packet have no launch time and no place in it. -/
def Ascending (l : List StreamData) : Prop :=
  (l.filter fun e => e.launchTime ≠ 0).Pairwise fun a b => a.launchTime ≤ b.launchTime

/-- The list, as the cursor sees it, is in launch-time order. -/
def InOrder (w : TxWorld) : Prop := Ascending w.ahead

/-- Every entry has the first packet of its stream's plan. -/
def Planned (plan : Nat → Nat → Nat) (windowStart : Nat) (w : TxWorld) : Prop :=
  ∀ e ∈ w.mSequence, Loaded w windowStart e ∧ e.launchTime = plan e.stream 0

/-- What a pass owes. -/
structure InLaunchOrder (plan : Nat → Nat → Nat) (windowStart : Nat) (w : TxWorld)
    (visits : Nat) (s : Pass) : Prop where
  /-- Nothing goes out before something that was due earlier. -/
  ordered : s.served.Pairwise fun a b => a.launchTime ≤ b.launchTime
  /-- When the pass is over, it has served what is due in the window, and nothing else. -/
  exactly : s.streamsToService = 0 → ∀ stream ∈ streams w.mSequence, ∀ j,
    (∃ r ∈ s.served, r.stream = stream ∧ r.launchTime = plan stream j)
      ↔ plan stream j ≤ w.windowEnd windowStart
  /-- Nothing is served twice. -/
  once : ∀ stream, (s.launches stream).Nodup
  /-- The pass does come to its end. -/
  ends : w.mSequence.length * (w.windowEnd windowStart + 2) ≤ visits → s.streamsToService = 0

section Start

variable {plan : Nat → Nat → Nat} {windowStart : Nat} {w : TxWorld}

theorem sum_le_of_le {l : List StreamData} {f : StreamData → Nat} {n : Nat}
    (h : ∀ e ∈ l, f e ≤ n) : (l.map f).sum ≤ l.length * n := by
  induction l with
  | nil => exact Nat.zero_le _
  | cons e l ih =>
      have hhead := h e List.mem_cons_self
      have htail := ih fun e' he' => h e' (List.mem_cons_of_mem e he')
      rw [List.map_cons, List.sum_cons, List.length_cons, Nat.succ_mul]
      omega

/-- **A pass that begins in order merges.** -/
theorem merging_beginPass (hflags : w.cFlagEndThread = false ∧ w.cFlagRestartThread = false)
    (hh : WellHomed w) (hdistinct : (streams w.mSequence).Nodup)
    (hcursor : CursorOk w.mSequence.length w.nextStreamToService) (horder : InOrder w)
    (hplanned : Planned plan windowStart w) : Merging plan windowStart (beginPass w) := by
  -- a new cycle has all entries to be serviced, where they were
  have hahead : w.beginCycle.ahead = w.ahead.map fun e => { e with done := .eNotDone } :=
    (List.map_rotate ..).symm
  have htodo : w.beginCycle.todo = w.ahead.map fun e => { e with done := .eNotDone } := by
    unfold todo
    rw [hahead, List.filter_eq_self]
    intro e he
    obtain ⟨e', -, rfl⟩ := List.mem_map.mp he
    exact decide_eq_true rfl
  have hsize : w.beginCycle.mSequence.length = w.mSequence.length := List.length_map ..
  have hentry : ∀ e ∈ w.beginCycle.mSequence, ∃ e' ∈ w.mSequence,
      e = { e' with done := .eNotDone } := by
    intro e he
    obtain ⟨e', he', rfl⟩ := List.mem_map.mp he
    exact ⟨e', he', rfl⟩
  refine ⟨⟨hflags, ⟨hh.stack, hh.ring⟩, ?_, ?_, ?_⟩, ?_, ?_, ?_, ?_, List.Pairwise.nil,
    fun _ h => absurd h List.not_mem_nil, fun _ h => absurd h List.not_mem_nil, fun _ => rfl, ?_⟩
  · show ((w.mSequence.map _).map _).Nodup
    rw [List.map_map]
    exact hdistinct
  · intro e he
    obtain ⟨e', he', rfl⟩ := hentry e he
    exact (hplanned e' he').1
  · intro e he hdone
    obtain ⟨e', -, rfl⟩ := hentry e he
    exact absurd rfl hdone
  · show CursorOk w.beginCycle.mSequence.length w.nextStreamToService
    rwa [hsize]
  · rcases hcursor with hlt | ⟨hzero, -⟩
    · have hlt' : w.nextStreamToService < w.beginCycle.mSequence.length := by rwa [hsize]
      refine Or.inr ⟨_, List.getElem?_eq_getElem hlt', ?_⟩
      obtain ⟨e', -, heq⟩ := hentry _ (List.getElem_mem hlt')
      rw [heq]
    · refine Or.inl ?_
      show w.beginCycle.todo = []
      rw [htodo]
      unfold ahead
      rw [List.length_eq_zero_iff.mp hzero, List.rotate_nil]
      rfl
  · show w.mSequence.length = w.beginCycle.todo.length
    rw [htodo, List.length_map]
    exact (List.length_rotate ..).symm
  · show w.beginCycle.todo.Pairwise _
    rw [htodo, List.pairwise_map]
    have hall : w.ahead.filter (fun e => e.launchTime ≠ 0) = w.ahead := by
      rw [List.filter_eq_self]
      intro e he
      obtain ⟨-, -, -, hlaunch, -⟩ := (hplanned e (List.mem_rotate.mp he)).1
      exact decide_eq_true hlaunch
    unfold InOrder Ascending at horder
    rwa [hall] at horder
  · intro e he
    obtain ⟨e', he', rfl⟩ := hentry e he
    exact (hplanned e' he').2

/-- **A pass that begins in order stays in order**, and serves what is due. -/
theorem inLaunchOrder_of_inOrder (hplan : ∀ stream, StrictMono (plan stream))
    (hflags : w.cFlagEndThread = false ∧ w.cFlagRestartThread = false)
    (hh : WellHomed w) (hdistinct : (streams w.mSequence).Nodup)
    (hcursor : CursorOk w.mSequence.length w.nextStreamToService) (horder : InOrder w)
    (hplanned : Planned plan windowStart w)
    (hrange : w.windowEnd windowStart < 9223372036854775808) {events : List PassEvent}
    (hok : Always (Pass.step windowStart) (Pass.Smooth plan windowStart) (beginPass w) events) :
    InLaunchOrder plan windowStart w (events.countP PassEvent.isVisit)
      (exec (Pass.step windowStart) (beginPass w) events) := by
  have hbegin := merging_beginPass hflags hh hdistinct hcursor horder hplanned
  obtain ⟨hadvance, hwork⟩ := hbegin.exec hplan hrange hok
  have hend : (exec (Pass.step windowStart) (beginPass w) events).world.windowEnd windowStart
      = w.windowEnd windowStart := hadvance.windowEnd
  have hmerging := hadvance.merging
  generalize exec (Pass.step windowStart) (beginPass w) events = s at *
  refine ⟨hmerging.ordered, ?_, ?_, ?_⟩
  · intro hover stream hstream j
    have hstreams : stream ∈ streams s.world.mSequence := by
      refine hadvance.streams.symm.subset ?_
      show stream ∈ (w.mSequence.map _).map _
      rw [List.map_map]
      exact hstream
    obtain ⟨e, he, rfl⟩ := List.mem_map.mp hstreams
    have hhistory := hmerging.history e.stream
    -- all entries are done, so the next packet of the stream lies beyond the window
    have hdone : e.done ≠ .eNotDone := by
      intro hnot
      have hmem : e ∈ s.world.todo :=
        List.mem_filter.mpr ⟨List.mem_rotate.mpr he, decide_eq_true hnot⟩
      have hcount := hmerging.count
      rw [hover] at hcount
      rw [List.length_eq_zero_iff.mp hcount.symm] at hmem
      exact absurd hmem List.not_mem_nil
    have hbeyond := hmerging.stocked.beyond e he hdone
    rw [hend, hmerging.planned e he] at hbeyond
    constructor
    · rintro ⟨r, hr, -, hlaunch⟩
      rw [← hlaunch, ← hend]
      exact hmerging.within r hr
    · intro hdue
      have hless : j < (s.launches e.stream).length := by
        by_contra hge
        have := (hplan e.stream).monotone (Nat.le_of_not_lt hge)
        omega
      have hmem : plan e.stream j ∈ s.launches e.stream := by
        rw [hhistory]
        exact List.mem_map_of_mem (List.mem_range.mpr hless)
      obtain ⟨r, hr, hlaunch⟩ := List.mem_map.mp hmem
      obtain ⟨hr, hstream⟩ := List.mem_filter.mp hr
      exact ⟨r, hr, of_decide_eq_true hstream, hlaunch⟩
  · intro stream
    rw [hmerging.history stream]
    exact List.nodup_range.map (hplan stream).injective
  · intro hvisits
    by_contra hne
    have hleft := hwork hne
    have hstart : (beginPass w).work windowStart
        ≤ w.mSequence.length * (w.windowEnd windowStart + 2) := by
      have hcount := hbegin.count
      have hsum := sum_le_of_le (l := (beginPass w).world.todo) (n := w.windowEnd windowStart + 2)
        (f := fun e => w.windowEnd windowStart + 1 - e.launchTime + 1) fun e _ => by omega
      rw [← hcount] at hsum
      exact hsum
    have hpos : 0 < s.work windowStart := by
      cases htodo : s.world.todo with
      | nil =>
          have hcount := hmerging.count
          rw [htodo] at hcount
          exact absurd hcount hne
      | cons e rest =>
          unfold Pass.work
          rw [htodo, List.map_cons, List.sum_cons]
          omega
    omega

end Start

/-! ## Packets at home -/

/-- With strict packet order, every packet with its own stream. -/
structure Homely (w : TxWorld) : Prop where
  strict : w.mStrictPktOrderEn = true
  homed : WellHomed w
  held : ∀ e ∈ w.mSequence, ∀ p, e.packet = some p → w.mHome p = e.stream

section Homely

variable {w w' : TxWorld}

/-- Steps that leave the entries alone. -/
theorem Homely.of_same (h : Homely w) (strict : w'.mStrictPktOrderEn = w.mStrictPktOrderEn)
    (home : w'.mHome = w.mHome) (sequence : w'.mSequence = w.mSequence) (homed : WellHomed w') :
    Homely w' :=
  ⟨strict.trans h.strict, homed, by rw [sequence, home]; exact h.held⟩

theorem Homely.returnPacket (h : Homely w) (p : Nat) : Homely (w.returnPacket p) :=
  h.of_same rfl rfl rfl (wellHomed_returnPacket h.homed)

/-- Steps that concern neither packets nor entries. -/
theorem Homely.of_rest (h : Homely w) (strict : w'.mStrictPktOrderEn = w.mStrictPktOrderEn)
    (home : w'.mHome = w.mHome) (sequence : w'.mSequence = w.mSequence)
    (stack : w'.mFreeBufferStack = w.mFreeBufferStack) (ring : w'.mRing = w.mRing) : Homely w' :=
  h.of_same strict home sequence
    ⟨by rw [stack, home]; exact h.homed.stack, by rw [ring, home]; exact h.homed.ring⟩

/-- Entries that were there before, or have no packet. -/
theorem Homely.of_entries (h : Homely w) (strict : w'.mStrictPktOrderEn = w.mStrictPktOrderEn)
    (home : w'.mHome = w.mHome) (homed : WellHomed w')
    (hold : ∀ e ∈ w'.mSequence, e.packet = none ∨ ∃ e' ∈ w.mSequence,
      e.stream = e'.stream ∧ e.packet = e'.packet) : Homely w' := by
  refine ⟨strict.trans h.strict, homed, ?_⟩
  intro e he p hp
  rw [home]
  rcases hold e he with hnone | ⟨e', he', hstream, hpacket⟩
  · rw [hnone] at hp
    exact nomatch hp
  · rw [hstream]
    exact h.held e' he' p (hpacket ▸ hp)

/-- A stream's packets are its own, and nothing else changes hands. -/
theorem Homely.preparePacket (h : Homely w) (s : Nat) (prep : Prepared) :
    Homely (w.preparePacket s prep).1 ∧ (w.preparePacket s prep).1.mHome = w.mHome
      ∧ ∀ p, (w.preparePacket s prep).2 = some p → w.mHome p = s := by
  refine ⟨?_, ?_, ?_⟩
  · unfold TxWorld.preparePacket
    cases prep with
    | fromPool attime dummy =>
        dsimp only
        split
        · exact h
        · rename_i p rest hstack
          exact h.of_same rfl rfl rfl (popStack_moves h.homed hstack _ _).homed
    | fromRing attime =>
        dsimp only
        split
        · exact h
        · rename_i p rest hring
          exact h.of_same rfl rfl rfl (popRing_moves h.homed hring _).homed
    | ringFailed =>
        dsimp only
        split
        · exact h
        · rename_i p rest hring
          exact h.of_same rfl rfl rfl
            (wellHomed_returnPacket (popRing_moves h.homed hring w.attime).homed)
    | failed => exact h
  · unfold TxWorld.preparePacket
    cases prep with
    | fromPool attime dummy => dsimp only; split <;> rfl
    | fromRing attime => dsimp only; split <;> rfl
    | ringFailed => dsimp only; split <;> rfl
    | failed => rfl
  · intro p hp
    have hboth : w.preparePacket s prep = ((w.preparePacket s prep).1, some p) := by
      rw [← hp]
    exact (preparePacket_touches h.homed hboth).2

/-- An entry in hand, with a packet of its own stream if it has one. -/
structure InHand (w : TxWorld) (cur : StreamData) (w' : TxWorld) (cur' : StreamData) : Prop where
  homely : Homely w'
  home : w'.mHome = w.mHome
  stream : cur'.stream = cur.stream
  held : ∀ p, cur'.packet = some p → w.mHome p = cur.stream

theorem sendCurrent_inHand (h : Homely w) {cur : StreamData}
    (hcur : ∀ p, cur.packet = some p → w.mHome p = cur.stream) (windowStart : Nat) (result : Int) :
    InHand w cur (w.sendCurrent windowStart cur result).world
      (w.sendCurrent windowStart cur result).current := by
  unfold sendCurrent
  split
  · exact ⟨h, rfl, rfl, hcur⟩
  · rename_i p _
    split
    · exact ⟨h, rfl, rfl, hcur⟩
    · split
      · exact ⟨h.returnPacket p, rfl, rfl, fun _ hp => nomatch hp⟩
      · have hstamp : Homely (w.stampLaunch cur p) := h.of_rest rfl rfl rfl rfl rfl
        unfold transmit
        dsimp only
        split
        · exact ⟨hstamp.returnPacket p, rfl, rfl, hcur⟩
        · split
          · exact ⟨hstamp.of_rest rfl rfl rfl rfl rfl, rfl, rfl, hcur⟩
          · split
            · dsimp only
              split
              · exact ⟨hstamp, rfl, rfl, hcur⟩
              · exact ⟨hstamp.of_rest rfl rfl rfl rfl rfl, rfl, rfl, hcur⟩
            · exact ⟨hstamp, rfl, rfl, hcur⟩

theorem fetchLoop_inHand (windowStart droppedOld : Nat) (preps : List Prepared) (resetCnt : Nat)
    (h : Homely w) (cur : StreamData) :
    InHand w cur (fetchLoop windowStart droppedOld preps resetCnt w cur).1
      (fetchLoop windowStart droppedOld preps resetCnt w cur).2.1 := by
  induction preps generalizing resetCnt w cur with
  | nil => exact ⟨h, rfl, rfl, fun _ hp => absurd hp.symm (Option.some_ne_none _)⟩
  | cons prep preps ih =>
      obtain ⟨hprep, hhome, hown⟩ := h.preparePacket cur.stream prep
      rw [fetchLoop]
      split
      · rename_i w' heq
        rw [heq] at hprep hhome
        exact ⟨hprep, hhome, rfl, fun _ hp => absurd hp.symm (Option.some_ne_none _)⟩
      · rename_i w' p heq
        rw [heq] at hprep hhome hown
        have hkept : ∀ q, some p = some q → w.mHome q = cur.stream := fun q hq => hown q hq
        have hback : Homely (w'.returnPacket p) := hprep.returnPacket p
        dsimp only
        split
        · exact ⟨hprep, hhome, rfl, hkept⟩
        · split
          · have hreset : Homely ((w'.returnPacket p).toggle cur.stream) :=
              hback.of_rest rfl rfl rfl rfl rfl
            split
            · have hloop := ih (add64 resetCnt 1) hreset
                { cur with packet := none, launchTime := w'.attime p }
              exact ⟨hloop.homely, hloop.home.trans hhome, hloop.stream,
                fun q hq => by rw [← hhome]; exact hloop.held q hq⟩
            · exact ⟨hreset, hhome, rfl, fun _ hp => absurd hp.symm (Option.some_ne_none _)⟩
          · split
            · split
              · exact ⟨hback.of_rest rfl rfl rfl rfl rfl, hhome, rfl,
                  fun _ hp => absurd hp.symm (Option.some_ne_none _)⟩
              · have hloop := ih resetCnt
                  (hback.of_rest rfl rfl rfl rfl rfl : Homely { w'.returnPacket p with
                    mDiag := { (w'.returnPacket p).mDiag with
                      dropped := add32 (w'.returnPacket p).mDiag.dropped 1 } })
                  { cur with packet := none, launchTime := w'.attime p }
                exact ⟨hloop.homely, hloop.home.trans hhome, hloop.stream,
                  fun q hq => by rw [← hhome]; exact hloop.held q hq⟩
            · exact ⟨hprep, hhome, rfl, hkept⟩

theorem sortByLaunchTime_strict (w : TxWorld) :
    w.sortByLaunchTime.mStrictPktOrderEn = w.mStrictPktOrderEn := by
  unfold sortByLaunchTime
  dsimp only
  split
  · rfl
  · split
    · rfl
    · split <;> rfl

theorem Homely.settle (h : Homely w) (cur : StreamData)
    (hcur : ∀ p, cur.packet = some p → w.mHome p = cur.stream) (advance : Advance) :
    Homely (w.settle cur advance) := by
  have hr := settle_reorders w cur advance
  refine ⟨?_, ?_, ?_⟩
  · cases advance with
    | stay => exact h.strict
    | next => exact h.strict
    | sortByLaunchTime => exact (sortByLaunchTime_strict _).trans h.strict
  · exact (hr.conserves ⟨h.homed.stack, h.homed.ring⟩).homed
  · intro e he p hp
    rw [hr.home]
    rcases List.mem_or_eq_of_mem_set (hr.perm.subset he) with hold | rfl
    · exact h.held e hold p hp
    · exact hcur p hp

theorem Homely.serviceStream (h : Homely w) (windowStart : Nat) (result : Int)
    (preps : List Prepared) : Homely (w.serviceStream windowStart result preps).1 := by
  unfold TxWorld.serviceStream
  split
  · exact h
  · rename_i cur hcur
    have hsend := sendCurrent_inHand h (h.held cur (List.mem_of_getElem? hcur)) windowStart result
    dsimp only
    split
    · have hloop := fetchLoop_inHand windowStart
        (w.sendCurrent windowStart cur result).world.mDiag.dropped preps 0 hsend.homely
        (w.sendCurrent windowStart cur result).current
      refine hloop.homely.settle _ ?_ _
      intro p hp
      rw [hloop.home, hloop.stream]
      exact hloop.held p hp
    · refine hsend.homely.settle _ ?_ _
      intro p hp
      rw [hsend.home, hsend.stream]
      exact hsend.held p hp

end Homely

end AvbStreamHandler.TxWorld
