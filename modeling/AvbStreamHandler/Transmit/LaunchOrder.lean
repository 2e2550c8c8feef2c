import AvbStreamHandler.Transmit.LaunchSort
import Mathlib.Algebra.GroupWithZero.Nat

/-!
# A pass in launch-time order

In one pass the thread merges what the streams have to send. As long as an entry is due it is
served, and goes back to its place with the stream's next packet; once its packet lies beyond
the window, the entry is done. A pass that begins in order stays in order: what was served is
never later than what is still to come.

What the streams come up with is a plan: the launch times of each stream, one after the
other. A pass goes by the plan if the device takes what it is given and each stream has its
next packet in time.
-/

namespace AvbStreamHandler.TxWorld

open Kit Kit.Word Kit.Run Kit.Cycle

/-! ## The pass -/

/-- A packet that had its turn: the device took it, or it was a dummy and went back. -/
structure Served where
  stream : Nat
  packet : Nat
  launchTime : Nat
  dummy : Bool
deriving DecidableEq, Repr

/-- What a visit serves. -/
def serves (w : TxWorld) (windowStart : Nat) (result : Int) : Option Served :=
  match w.mSequence[w.nextStreamToService]? with
  | none => none
  | some cur =>
      match cur.packet with
      | none => none
      | some p =>
          if w.Due windowStart p ∧ (w.mDummyFlag p = true ∨ result = 0) then
            some {
              stream := cur.stream
              packet := p
              launchTime := cur.launchTime
              dummy := w.mDummyFlag p }
          else none

/-- The packets among these that go to the device: dummies do not. -/
def Served.handed (served : List Served) : List Nat :=
  (served.filter fun r => !r.dummy).map Served.packet

/-- The loop over the streams, and what it has served so far. -/
structure Pass where
  world : TxWorld
  streamsToService : Nat
  served : List Served := []

/-- In front of the loop. -/
def beginPass (w : TxWorld) : Pass where
  world := w.beginCycle
  streamsToService := w.mSequence.length

inductive PassEvent
  | visit (result : Int) (preps : List Prepared)
  /-- Something that happens meanwhile. -/
  | outside (e : Event)

/-- What the API, the device and the video clients do. -/
def fromOutside : Event → Bool
  | .add _ => true
  | .remove _ => true
  | .reclaim _ => true
  | .fillRing _ => true
  | _ => false

/-- `streamsToService` behind a visit. -/
def streamsLeft (streamsToService : Nat) : DoneState → Nat
  | .eNotDone => streamsToService
  | .eEndOfWindow => streamsToService - 1
  | .eDry => streamsToService - 1
  | .eWindowAdjust => 0
  | .eTxError => 0

namespace Pass

/-- `!mThreadControl && (streamsToService > 0u)`. -/
def Continues (s : Pass) : Prop :=
  (s.world.cFlagEndThread = false ∧ s.world.cFlagRestartThread = false) ∧ 0 < s.streamsToService

instance (s : Pass) : Decidable s.Continues := inferInstanceAs (Decidable (_ ∧ _))

def step (windowStart : Nat) (s : Pass) : PassEvent → Pass
  | .visit result preps =>
      if s.Continues then
        let r := s.world.serviceStream windowStart result preps
        { world := r.1
          streamsToService := streamsLeft s.streamsToService r.2
          served := s.served ++ (s.world.serves windowStart result).toList }
      else s
  | .outside e => if fromOutside e then { s with world := s.world.step e } else s

/-- The launch times served for one stream. -/
def launches (s : Pass) (stream : Nat) : List Nat :=
  (s.served.filter fun r => r.stream = stream).map Served.launchTime

end Pass

/-! ## Passes by a plan -/

/-- The packet is neither too early nor too late for the window. -/
def InTime (w : TxWorld) (windowStart launchTime : Nat) : Prop :=
  let timeFromWindowStart := toInt64 (sub64 launchTime windowStart)
  ¬ (timeFromWindowStart > toInt64 w.mConfig.txWindowWidth
      ∧ w.mConfig.txWindowPrefetchThreshold ≠ 0
      ∧ timeFromWindowStart > toInt64 w.mConfig.txWindowPrefetchThreshold)
    ∧ ¬ timeFromWindowStart < -toInt64 w.mConfig.txWindowResetThreshold
    ∧ ¬ timeFromWindowStart < -toInt64 w.mConfig.txWindowCueThreshold

instance (w : TxWorld) (windowStart launchTime : Nat) : Decidable (w.InTime windowStart launchTime) :=
  inferInstanceAs (Decidable (_ ∧ _ ∧ _))

/-- Asked for its next packet, the stream has one, for `launchTime` and in time. Times are
nanoseconds, and the sign bit is out of their reach. -/
def Supplies (w : TxWorld) (windowStart stream : Nat) (preps : List Prepared)
    (launchTime : Nat) : Prop :=
  match preps with
  | [] => False
  | prep :: _ =>
      match w.preparePacket stream prep with
      | (_, none) => False
      | (w', some p) =>
          w'.attime p = launchTime ∧ launchTime < 9223372036854775808
            ∧ w.InTime windowStart launchTime

instance (w : TxWorld) (windowStart stream : Nat) (preps : List Prepared) (launchTime : Nat) :
    Decidable (Supplies w windowStart stream preps launchTime) := by
  unfold Supplies
  split
  · exact instDecidableFalse
  · split
    · exact instDecidableFalse
    · exact instDecidableAnd

/-- The visit of an entry that is due: the device takes the packet, unless it is a dummy, and
the stream goes on as planned. -/
def Pass.Smooth (plan : Nat → Nat → Nat) (windowStart : Nat) (s : Pass) : PassEvent → Prop
  | .visit result preps => s.Continues →
      ∀ cur ∈ s.world.mSequence[s.world.nextStreamToService]?, ∀ p ∈ cur.packet,
        s.world.Due windowStart p →
          (s.world.mDummyFlag p = true ∨ result = 0)
            ∧ Supplies (s.world.sendCurrent windowStart cur result).world windowStart cur.stream
              preps (plan cur.stream ((s.launches cur.stream).length + 1))
  | .outside _ => True

instance (plan : Nat → Nat → Nat) (windowStart : Nat) (s : Pass) :
    (e : PassEvent) → Decidable (s.Smooth plan windowStart e)
  | .visit result preps => inferInstanceAs (Decidable (s.Continues →
      ∀ cur ∈ s.world.mSequence[s.world.nextStreamToService]?, ∀ p ∈ cur.packet,
        s.world.Due windowStart p →
          (s.world.mDummyFlag p = true ∨ result = 0)
            ∧ Supplies (s.world.sendCurrent windowStart cur result).world windowStart cur.stream
              preps (plan cur.stream ((s.launches cur.stream).length + 1))))
  | .outside _ => inferInstanceAs (Decidable True)

/-- Where the window ends. -/
def windowEnd (w : TxWorld) (windowStart : Nat) : Nat := windowStart + w.mConfig.txWindowWidth

/-- An entry with a packet. A packet that a failed transmission has delayed already has to be
on the same side of the window's end as the entry's launch time. -/
def Loaded (w : TxWorld) (windowStart : Nat) (e : StreamData) : Prop :=
  ∃ p, e.packet = some p ∧ w.mHome p = e.stream ∧ e.launchTime ≠ 0
    ∧ (w.attime p ≤ w.windowEnd windowStart ↔ e.launchTime ≤ w.windowEnd windowStart)

/-! ## What a visit leaves alone -/

/-- A visit of `stream` leaves the packets of all other streams as they are. -/
structure Touches (stream : Nat) (w w' : TxWorld) : Prop where
  config : w'.mConfig = w.mConfig
  home : w'.mHome = w.mHome
  endThread : w'.cFlagEndThread = w.cFlagEndThread
  restartThread : w'.cFlagRestartThread = w.cFlagRestartThread
  sequence : w'.mSequence = w.mSequence
  cursor : w'.nextStreamToService = w.nextStreamToService
  attime : ∀ q, w.mHome q ≠ stream → w'.attime q = w.attime q
  homed : WellHomed w → WellHomed w'

section Touches

variable {w w' w'' : TxWorld} {stream p : Nat}

theorem Touches.refl (stream : Nat) (w : TxWorld) : Touches stream w w :=
  ⟨rfl, rfl, rfl, rfl, rfl, rfl, fun _ _ => rfl, id⟩

theorem Touches.trans (h : Touches stream w w') (h' : Touches stream w' w'') :
    Touches stream w w'' where
  config := h'.config.trans h.config
  home := h'.home.trans h.home
  endThread := h'.endThread.trans h.endThread
  restartThread := h'.restartThread.trans h.restartThread
  sequence := h'.sequence.trans h.sequence
  cursor := h'.cursor.trans h.cursor
  attime q hq := (h'.attime q (by rw [h.home]; exact hq)).trans (h.attime q hq)
  homed := h'.homed ∘ h.homed

theorem returnPacket_touches (w : TxWorld) (stream p : Nat) :
    Touches stream w (w.returnPacket p) :=
  ⟨rfl, rfl, rfl, rfl, rfl, rfl, fun _ _ => rfl, wellHomed_returnPacket⟩

theorem stampLaunch_touches (w : TxWorld) (cur : StreamData) (hp : w.mHome p = stream) :
    Touches stream w (w.stampLaunch cur p) := by
  refine ⟨rfl, rfl, rfl, rfl, rfl, rfl, ?_, fun hh => ⟨hh.stack, hh.ring⟩⟩
  intro q hq
  have hne : q ≠ p := fun heq => hq (by rw [heq, hp])
  exact Function.update_of_ne hne ..

/-- The packet a stream prepares is one of its own. -/
theorem preparePacket_touches (hh : WellHomed w) {prep : Prepared}
    (h : w.preparePacket stream prep = (w', some p)) :
    Touches stream w w' ∧ w.mHome p = stream := by
  unfold preparePacket at h
  cases prep with
  | fromPool attime dummy =>
      dsimp only at h
      split at h
      · exact nomatch h
      · rename_i q rest hstack
        injection h with hw hp
        injection hp with hp
        subst hw
        subst hp
        have hhome : w.mHome q = stream := hh.stack stream q (by rw [hstack]; exact List.mem_cons_self)
        refine ⟨⟨rfl, rfl, rfl, rfl, rfl, rfl, ?_, ?_⟩, hhome⟩
        · intro r hr
          have hne : r ≠ q := fun heq => hr (by rw [heq, hhome])
          exact Function.update_of_ne hne ..
        · intro hh
          exact (popStack_moves hh hstack _ _).homed
  | fromRing attime =>
      dsimp only at h
      split at h
      · exact nomatch h
      · rename_i q rest hring
        injection h with hw hp
        injection hp with hp
        subst hw
        subst hp
        have hhome : w.mHome q = stream := hh.ring stream q (by rw [hring]; exact List.mem_cons_self)
        refine ⟨⟨rfl, rfl, rfl, rfl, rfl, rfl, ?_, ?_⟩, hhome⟩
        · intro r hr
          have hne : r ≠ q := fun heq => hr (by rw [heq, hhome])
          exact Function.update_of_ne hne ..
        · intro hh
          exact (popRing_moves hh hring _).homed
  | ringFailed =>
      dsimp only at h
      split at h <;> exact nomatch h
  | failed => exact nomatch h

end Touches

/-! ## What a visit does -/

section Visit

variable {w w' : TxWorld} {windowStart p q launchTime : Nat} {cur : StreamData} {result : Int}
  {prep : Prepared} {preps : List Prepared}

/-- The window's end as the code computes it, and as the signed difference has it. -/
theorem beyond_iff (hrange : w.windowEnd windowStart < 9223372036854775808)
    (hlaunch : launchTime < 9223372036854775808) :
    toInt64 (sub64 launchTime windowStart) > toInt64 w.mConfig.txWindowWidth
      ↔ w.windowEnd windowStart < launchTime := by
  unfold windowEnd at hrange ⊢
  unfold toInt64 sub64
  split <;> split <;> omega

theorem due_iff (hrange : w.windowEnd windowStart < 9223372036854775808) :
    w.Due windowStart p ↔ w.attime p ≤ w.windowEnd windowStart := by
  unfold Due
  have hend : add64 windowStart w.mConfig.txWindowWidth = w.windowEnd windowStart :=
    Nat.mod_eq_of_lt (Nat.lt_trans hrange (by decide))
  rw [hend]

theorem serviceStream_late (hcur : w.mSequence[w.nextStreamToService]? = some cur)
    (hp : cur.packet = some p) (hlate : ¬ w.Due windowStart p) :
    w.serviceStream windowStart result preps
        = (w.settle { cur with done := .eEndOfWindow } .next, .eEndOfWindow)
      ∧ w.serves windowStart result = none := by
  have hsend : w.sendCurrent windowStart cur result = {
      world := w, current := { cur with done := .eEndOfWindow }, fetch := false
      advance := .next } := by
    unfold sendCurrent
    rw [hp]
    exact if_pos hlate
  constructor
  · unfold serviceStream
    rw [hcur]
    dsimp only
    rw [hsend]
    rfl
  · unfold serves
    rw [hcur]
    dsimp only
    rw [hp]
    exact if_neg fun h => hlate h.1

/-- A packet that is due and goes out, or is a dummy. -/
theorem sendCurrent_due (hp : cur.packet = some p) (hhome : w.mHome p = cur.stream)
    (hdue : w.Due windowStart p) (hgood : w.mDummyFlag p = true ∨ result = 0) :
    (w.sendCurrent windowStart cur result).fetch = true
      ∧ (∃ packet, (w.sendCurrent windowStart cur result).current = { cur with packet := packet })
      ∧ Touches cur.stream w (w.sendCurrent windowStart cur result).world := by
  unfold sendCurrent
  rw [hp]
  dsimp only
  rw [if_neg (not_not.mpr hdue)]
  by_cases hdummy : w.mDummyFlag p = true
  · rw [if_pos hdummy]
    exact ⟨rfl, ⟨none, rfl⟩, returnPacket_touches w _ p⟩
  · rw [if_neg hdummy]
    have hzero : result = 0 := hgood.resolve_left hdummy
    subst hzero
    unfold transmit
    dsimp only
    rw [if_neg (by decide), if_pos rfl]
    have hstamp := stampLaunch_touches w cur hhome
    exact ⟨rfl, ⟨cur.packet, rfl⟩, hstamp.config, hstamp.home, hstamp.endThread,
      hstamp.restartThread, hstamp.sequence, hstamp.cursor, hstamp.attime,
      fun hh => ⟨(hstamp.homed hh).stack, (hstamp.homed hh).ring⟩⟩

/-- A packet in time is kept, and the entry is done if it lies beyond the window. -/
theorem fetchLoop_inTime {droppedOld : Nat} (hprep : w.preparePacket cur.stream prep = (w', some q))
    (hsame : w'.mConfig = w.mConfig) (htime : w'.attime q = launchTime)
    (hin : w.InTime windowStart launchTime) (hlaunch : launchTime < 9223372036854775808)
    (hrange : w.windowEnd windowStart < 9223372036854775808) :
    fetchLoop windowStart droppedOld (prep :: preps) 0 w cur
      = if w.windowEnd windowStart < launchTime then
          (w', { cur with packet := some q, launchTime := launchTime, done := .eEndOfWindow }, .next)
        else (w', { cur with packet := some q, launchTime := launchTime }, .sortByLaunchTime) := by
  obtain ⟨hearly, hreset, hcue⟩ := hin
  have hbeyond := beyond_iff hrange hlaunch
  rw [fetchLoop, hprep]
  dsimp only
  rw [hsame, htime]
  by_cases hend : w.windowEnd windowStart < launchTime
  · have hgt := hbeyond.mpr hend
    rw [if_pos hend]
    exact if_pos ⟨hgt, fun h => hearly ⟨hgt, h⟩⟩
  · have hle : ¬ _ > toInt64 w.mConfig.txWindowWidth := fun h => hend (hbeyond.mp h)
    rw [if_neg hend]
    refine (if_neg fun h => hle h.1).trans ?_
    refine (if_neg fun h => h.elim hle hreset).trans ?_
    exact if_neg hcue

theorem Supplies.elim {stream : Nat} (h : Supplies w windowStart stream preps launchTime) :
    ∃ prep rest w' p, preps = prep :: rest ∧ w.preparePacket stream prep = (w', some p)
      ∧ w'.attime p = launchTime ∧ launchTime < 9223372036854775808
      ∧ w.InTime windowStart launchTime := by
  unfold Supplies at h
  split at h
  · exact h.elim
  · rename_i prep rest
    split at h
    · exact h.elim
    · rename_i w' p hprep
      exact ⟨prep, rest, w', p, rfl, hprep, h.1, h.2.1, h.2.2⟩

/-- The visit of an entry that is due. -/
theorem serviceStream_due (hcur : w.mSequence[w.nextStreamToService]? = some cur)
    (hh : WellHomed w) (hp : cur.packet = some p) (hhome : w.mHome p = cur.stream)
    (hdone : cur.done = .eNotDone)
    (hdue : w.Due windowStart p) (hgood : w.mDummyFlag p = true ∨ result = 0)
    (hrange : w.windowEnd windowStart < 9223372036854775808)
    (hsupply : Supplies (w.sendCurrent windowStart cur result).world windowStart cur.stream preps
      launchTime) :
    ∃ w' q, Touches cur.stream w w' ∧ w'.attime q = launchTime ∧ w.mHome q = cur.stream
      ∧ w.serviceStream windowStart result preps
        = (if w.windowEnd windowStart < launchTime then
            (w'.settle { cur with
              packet := some q, launchTime := launchTime, done := .eEndOfWindow } .next,
              .eEndOfWindow)
          else (w'.settle { cur with
            packet := some q, launchTime := launchTime } .sortByLaunchTime, .eNotDone))
      ∧ w.serves windowStart result = some {
          stream := cur.stream, packet := p, launchTime := cur.launchTime
          dummy := w.mDummyFlag p } := by
  obtain ⟨hfetch, ⟨packet, hcurrent⟩, htouch⟩ := sendCurrent_due hp hhome hdue hgood
  obtain ⟨prep, rest, w', q, hpreps, hprep, htime, hlaunch, hin⟩ := hsupply.elim
  obtain ⟨htouch', hhome'⟩ := preparePacket_touches (htouch.homed hh) hprep
  have hend : (w.sendCurrent windowStart cur result).world.windowEnd windowStart
      = w.windowEnd windowStart := by
    unfold windowEnd
    rw [htouch.config]
  have hloop := @fetchLoop_inTime _ w' windowStart q launchTime { cur with packet := packet } prep
    rest (w.sendCurrent windowStart cur result).world.mDiag.dropped hprep htouch'.config htime hin
    hlaunch (by rw [hend]; exact hrange)
  refine ⟨w', q, htouch.trans htouch', htime, by rw [← htouch.home]; exact hhome', ?_, ?_⟩
  · unfold serviceStream
    rw [hcur]
    dsimp only
    rw [hfetch, if_pos rfl, hpreps, hcurrent, hloop, hend]
    by_cases hbeyond : w.windowEnd windowStart < launchTime
    · rw [if_pos hbeyond, if_pos hbeyond]
    · rw [if_neg hbeyond, if_neg hbeyond]
      exact congrArg _ hdone
  · unfold serves
    rw [hcur]
    dsimp only
    rw [hp]
    exact if_pos ⟨hdue, hgood⟩

end Visit

/-! ## The device -/

section Device

theorem preparePacket_device (w : TxWorld) (stream : Nat) (prep : Prepared) :
    (w.preparePacket stream prep).1.device = w.device := by
  unfold preparePacket
  cases prep with
  | fromPool attime dummy => dsimp only; split <;> rfl
  | fromRing attime => dsimp only; split <;> rfl
  | ringFailed => dsimp only; split <;> rfl
  | failed => rfl

theorem fetchLoop_device (windowStart droppedOld : Nat) (preps : List Prepared) (resetCnt : Nat)
    (w : TxWorld) (cur : StreamData) :
    (fetchLoop windowStart droppedOld preps resetCnt w cur).1.device = w.device := by
  induction preps generalizing resetCnt w cur with
  | nil => rfl
  | cons prep preps ih =>
      have hprep := preparePacket_device w cur.stream prep
      rw [fetchLoop]
      split
      · rename_i w' heq
        rw [heq] at hprep
        exact hprep
      · rename_i w' p heq
        rw [heq] at hprep
        dsimp only
        split
        · exact hprep
        · split
          · split
            · exact (ih ..).trans hprep
            · exact hprep
          · split
            · split
              · exact hprep
              · exact (ih ..).trans hprep
            · exact hprep

theorem sendCurrent_device (w : TxWorld) (windowStart : Nat) (cur : StreamData) (result : Int)
    (hcur : w.mSequence[w.nextStreamToService]? = some cur) :
    (w.sendCurrent windowStart cur result).world.device
      = Served.handed (w.serves windowStart result).toList ++ w.device := by
  unfold sendCurrent serves
  rw [hcur]
  dsimp only
  cases cur.packet with
  | none => rfl
  | some p =>
      dsimp only
      by_cases hdue : w.Due windowStart p
      · rw [if_neg (not_not.mpr hdue)]
        by_cases hdummy : w.mDummyFlag p = true
        · rw [if_pos hdummy, if_pos ⟨hdue, Or.inl hdummy⟩]
          unfold Served.handed
          rw [Option.toList_some, List.filter_cons_of_neg (by simpa using hdummy)]
          rfl
        · rw [if_neg hdummy]
          by_cases hzero : result = 0
          · subst hzero
            rw [if_pos ⟨hdue, Or.inr rfl⟩]
            unfold Served.handed transmit
            rw [Option.toList_some, List.filter_cons_of_pos (by simpa using hdummy)]
            dsimp only
            rw [if_neg (by decide), if_pos rfl]
            rfl
          · rw [if_neg fun h => h.2.elim hdummy hzero]
            unfold transmit
            dsimp only
            split
            · rfl
            · split
              · dsimp only
                split <;> rfl
              · rfl
      · rw [if_pos hdue, if_neg fun h => hdue h.1]
        rfl

/-- **A visit hands the device what it serves**, unless that is a dummy, and nothing else. -/
theorem serviceStream_device (w : TxWorld) (windowStart : Nat) (result : Int)
    (preps : List Prepared) :
    (w.serviceStream windowStart result preps).1.device
      = Served.handed (w.serves windowStart result).toList ++ w.device := by
  unfold serviceStream
  split
  · rename_i hnone
    unfold serves
    rw [hnone]
    rfl
  · rename_i cur hcur
    have hsend := sendCurrent_device w windowStart cur result hcur
    dsimp only
    split
    · exact ((settle_reorders _ _ _).device.trans (fetchLoop_device ..)).trans hsend
    · exact (settle_reorders _ _ _).device.trans hsend

end Device

/-! ## The invariant -/

/-- The entries of a pass, whatever their order. -/
structure Stocked (windowStart : Nat) (w : TxWorld) : Prop where
  running : w.cFlagEndThread = false ∧ w.cFlagRestartThread = false
  homed : WellHomed w
  distinct : (streams w.mSequence).Nodup
  loaded : ∀ e ∈ w.mSequence, Loaded w windowStart e
  /-- An entry that is done has nothing in this window. -/
  beyond : ∀ e ∈ w.mSequence, e.done ≠ .eNotDone → w.windowEnd windowStart < e.launchTime

/-- The merge: what was served comes before what is to be served, and both are in order. -/
structure Merging (plan : Nat → Nat → Nat) (windowStart : Nat) (s : Pass) : Prop where
  stocked : Stocked windowStart s.world
  cursor : CursorOk s.world.mSequence.length s.world.nextStreamToService
  pointed : s.world.Pointed
  count : s.streamsToService = s.world.todo.length
  sorted : s.world.todo.Pairwise fun a b => a.launchTime ≤ b.launchTime
  ordered : s.served.Pairwise fun a b => a.launchTime ≤ b.launchTime
  behind : ∀ r ∈ s.served, ∀ e ∈ s.world.todo, r.launchTime ≤ e.launchTime
  within : ∀ r ∈ s.served, r.launchTime ≤ s.world.windowEnd windowStart
  /-- What a stream has served is the beginning of its plan. -/
  history : ∀ stream,
    s.launches stream = (List.range (s.launches stream).length).map (plan stream)
  planned : ∀ e ∈ s.world.mSequence, e.launchTime = plan e.stream (s.launches e.stream).length

section Entries

variable {w w' : TxWorld} {windowStart : Nat} {cur cur' : StreamData} {advance : Advance}

/-- What does not depend on the order of the entries. -/
structure SameTimes (w w' : TxWorld) : Prop where
  config : w'.mConfig = w.mConfig
  home : w'.mHome = w.mHome
  endThread : w'.cFlagEndThread = w.cFlagEndThread
  restartThread : w'.cFlagRestartThread = w.cFlagRestartThread
  attime : w'.attime = w.attime

theorem sortByLaunchTime_sameTimes (w : TxWorld) : SameTimes w w.sortByLaunchTime := by
  unfold sortByLaunchTime
  dsimp only
  split
  · exact ⟨rfl, rfl, rfl, rfl, rfl⟩
  · split
    · exact ⟨rfl, rfl, rfl, rfl, rfl⟩
    · split <;> exact ⟨rfl, rfl, rfl, rfl, rfl⟩

theorem settle_sameTimes (w : TxWorld) (cur : StreamData) (advance : Advance) :
    SameTimes w (w.settle cur advance) := by
  cases advance with
  | stay => exact ⟨rfl, rfl, rfl, rfl, rfl⟩
  | next => exact ⟨rfl, rfl, rfl, rfl, rfl⟩
  | sortByLaunchTime =>
      have h := sortByLaunchTime_sameTimes
        { w with mSequence := w.mSequence.set w.nextStreamToService cur }
      exact ⟨h.config, h.home, h.endThread, h.restartThread, h.attime⟩

theorem SameTimes.windowEnd (h : SameTimes w w') :
    w'.windowEnd windowStart = w.windowEnd windowStart := by
  unfold TxWorld.windowEnd
  rw [h.config]

theorem SameTimes.loaded (h : SameTimes w w') {e : StreamData} (he : Loaded w windowStart e) :
    Loaded w' windowStart e := by
  obtain ⟨p, hp, hhome, hlaunch, hside⟩ := he
  refine ⟨p, hp, by rw [h.home]; exact hhome, hlaunch, ?_⟩
  rw [h.attime, h.windowEnd]
  exact hside

/-- The entries behind a visit: the visited one, and those of the other streams. -/
theorem mem_settle (hcur : w.mSequence[w.nextStreamToService]? = some cur)
    (hdistinct : (streams w.mSequence).Nodup) {e : StreamData}
    (he : e ∈ (w.settle cur' advance).mSequence) :
    e = cur' ∨ e ∈ w.mSequence ∧ e.stream ≠ cur.stream := by
  have hmem : e ∈ w.mSequence.set w.nextStreamToService cur' :=
    (settle_reorders w cur' advance).perm.subset he
  obtain ⟨X, Y, hl, hc⟩ := exists_at hcur
  rw [hl, ← hc, List.set_append_right _ _ (Nat.le_refl _), Nat.sub_self, List.set_cons_zero] at hmem
  have hother : ∀ e' ∈ X ++ Y, e'.stream ≠ cur.stream := by
    intro e' he' heq
    unfold streams at hdistinct
    rw [hl, List.map_append, List.map_cons, List.nodup_middle, ← List.map_append] at hdistinct
    exact (List.nodup_cons.mp hdistinct).1 (heq ▸ List.mem_map_of_mem he')
  rcases List.mem_append.mp hmem with hX | hY
  · exact Or.inr ⟨by rw [hl]; exact List.mem_append_left _ hX,
      hother e (List.mem_append_left _ hX)⟩
  · rcases List.mem_cons.mp hY with heq | hY
    · exact Or.inl heq
    · exact Or.inr ⟨by rw [hl]; exact List.mem_append_right _ (List.mem_cons_of_mem _ hY),
        hother e (List.mem_append_right _ hY)⟩

theorem Touches.loaded {stream : Nat} (h : Touches stream w w') {e : StreamData}
    (hne : e.stream ≠ stream) (he : Loaded w windowStart e) : Loaded w' windowStart e := by
  obtain ⟨p, hp, hhome, hlaunch, hside⟩ := he
  refine ⟨p, hp, by rw [h.home]; exact hhome, hlaunch, ?_⟩
  unfold TxWorld.windowEnd at hside ⊢
  rw [h.attime p (by rw [hhome]; exact hne), h.config]
  exact hside

/-- **A visit keeps the entries stocked**, if the visited one is. -/
theorem Stocked.settle (hs : Stocked windowStart w)
    (hcur : w.mSequence[w.nextStreamToService]? = some cur) (ht : Touches cur.stream w w')
    (hstream : cur'.stream = cur.stream) (hloaded : Loaded w' windowStart cur')
    (hbeyond : cur'.done ≠ .eNotDone → w.windowEnd windowStart < cur'.launchTime)
    (advance : Advance) : Stocked windowStart (w'.settle cur' advance) := by
  have hcur' : w'.mSequence[w'.nextStreamToService]? = some cur := by
    rw [ht.sequence, ht.cursor]
    exact hcur
  have hdistinct : (streams w'.mSequence).Nodup := by
    rw [ht.sequence]
    exact hs.distinct
  have hsame := settle_sameTimes w' cur' advance
  have hend : (w'.settle cur' advance).windowEnd windowStart = w.windowEnd windowStart := by
    rw [hsame.windowEnd]
    unfold TxWorld.windowEnd
    rw [ht.config]
  have hvisited := settle_visited hcur' hstream advance
  refine ⟨⟨?_, ?_⟩, ?_, hvisited.streams.nodup_iff.mpr hdistinct, ?_, ?_⟩
  · rw [hsame.endThread, ht.endThread]
    exact hs.running.1
  · rw [hsame.restartThread, ht.restartThread]
    exact hs.running.2
  · have hr := settle_reorders w' cur' advance
    have hh := ht.homed hs.homed
    exact ((hr.conserves ⟨hh.stack, hh.ring⟩)).homed
  · intro e he
    refine hsame.loaded ?_
    rcases mem_settle hcur' hdistinct he with rfl | ⟨he, hne⟩
    · exact hloaded
    · rw [ht.sequence] at he
      exact ht.loaded hne (hs.loaded e he)
  · intro e he hdone
    rw [hend]
    rcases mem_settle hcur' hdistinct he with rfl | ⟨he, hne⟩
    · exact hbeyond hdone
    · rw [ht.sequence] at he
      exact hs.beyond e he hdone

end Entries

/-! ## One step of the merge -/

section Step

variable {plan : Nat → Nat → Nat} {windowStart : Nat} {s : Pass} {cur : StreamData}
  {rest behind : List StreamData}

/-- The stream of the packet served last has one more behind it. -/
theorem launches_serve (s : Pass) (world : TxWorld) (n : Nat) (r : Served) (stream : Nat) :
    Pass.launches { world := world, streamsToService := n, served := s.served ++ [r] } stream
      = s.launches stream ++ if r.stream = stream then [r.launchTime] else [] := by
  unfold Pass.launches
  rw [List.filter_append, List.map_append]
  by_cases h : r.stream = stream
  · rw [if_pos h, List.filter_cons_of_pos (by simpa using h)]
    rfl
  · rw [if_neg h, List.filter_cons_of_neg (by simpa using h)]
    rfl

/-- The launch time of a stream's next packet. -/
def Pass.upcoming (plan : Nat → Nat → Nat) (s : Pass) (stream : Nat) : Nat :=
  plan stream ((s.launches stream).length + 1)

/-- The entry with the stream's next packet. -/
def refilled (cur : StreamData) (q launchTime : Nat) (done : DoneState) : StreamData :=
  { cur with packet := some q, launchTime := launchTime, done := done }

/-- The next packet is due in this window: the entry goes to its place among the others. -/
theorem Merging.todo_kept (h : Merging plan windowStart s)
    (hahead : s.world.ahead = cur :: behind)
    {w' : TxWorld} (ht : Touches cur.stream s.world w')
    (hcur : s.world.mSequence[s.world.nextStreamToService]? = some cur)
    (hrest : s.world.todo = cur :: rest) {q launchTime : Nat}
    (hin : launchTime ≤ s.world.windowEnd windowStart) :
    let w'' := w'.settle (refilled cur q launchTime .eNotDone) .sortByLaunchTime
    w''.todo.Perm (refilled cur q launchTime .eNotDone :: rest)
      ∧ w''.todo.Pairwise (fun a b => a.launchTime ≤ b.launchTime)
      ∧ w''.Pointed ∧ w''.nextStreamToService < w''.mSequence.length := by
  have hcur' : w'.mSequence[w'.nextStreamToService]? = some cur := by
    rw [ht.sequence, ht.cursor]
    exact hcur
  have hahead' : w'.ahead = cur :: behind := by
    unfold ahead
    rw [ht.sequence, ht.cursor]
    exact hahead
  obtain ⟨A, B, hsplit, hB, hA, htodo, hpointed, hlt⟩ :=
    @todo_settle_sort w' cur (refilled cur q launchTime .eNotDone) behind hcur' hahead' rfl
  have hrest' : rest = A.filter (fun e => e.done = .eNotDone)
      ++ B.filter fun e => e.done = .eNotDone := by
    obtain ⟨-, -, behind', hahead'', hrest'⟩ := todo_of_pointed h.pointed hrest
    rw [hahead] at hahead''
    injection hahead'' with _ hbehind
    rw [hrest', ← hbehind, hsplit, List.filter_append]
  have hmem : ∀ e ∈ A ++ B, e ∈ s.world.mSequence := by
    intro e he
    refine List.mem_rotate.mp (?_ : e ∈ s.world.ahead)
    rw [hahead, hsplit]
    exact List.mem_cons_of_mem _ he
  have hsorted := h.sorted
  rw [hrest] at hsorted
  have hrestSorted := (List.pairwise_cons.mp hsorted).2
  rw [hrest'] at hrestSorted
  dsimp only
  rw [htodo, hrest']
  refine ⟨List.perm_middle, pairwise_insert hrestSorted ?_ ?_, hpointed, hlt⟩
  · intro a ha
    rcases hA with rfl | ⟨A', last, rfl, hearlier⟩
    · exact absurd ha List.not_mem_nil
    · -- the entry it goes behind is not done: one that is has nothing in this window
      have hless : last.launchTime < launchTime := hearlier.2
      have hlast : last.done = .eNotDone := by
        by_contra hne
        have hbeyond := h.stocked.beyond last (hmem last (by simp)) hne
        omega
      rw [List.filter_append, List.filter_cons_of_pos (by simpa using hlast), List.filter_nil]
        at ha hrestSorted
      have hle := le_of_last hrestSorted ha
      show a.launchTime ≤ launchTime
      omega
  · intro b hb
    have hb' := (List.mem_filter.mp hb).1
    obtain ⟨-, -, -, hlaunch, -⟩ := h.stocked.loaded b (hmem b (List.mem_append_right _ hb'))
    show launchTime ≤ b.launchTime
    by_contra hless
    exact hB b hb' ⟨hlaunch, Nat.lt_of_not_le hless⟩

/-- The next packet is not: the entry is done. -/
theorem Merging.todo_done (h : Merging plan windowStart s)
    (hahead : s.world.ahead = cur :: behind)
    {w' : TxWorld} (ht : Touches cur.stream s.world w')
    (hcur : s.world.mSequence[s.world.nextStreamToService]? = some cur)
    (hrest : s.world.todo = cur :: rest) {cur' : StreamData} (hdone : cur'.done ≠ .eNotDone) :
    (w'.settle cur' .next).todo = rest
      ∧ (w'.settle cur' .next).todo.Pairwise (fun a b => a.launchTime ≤ b.launchTime)
      ∧ (w'.settle cur' .next).Pointed
      ∧ (w'.settle cur' .next).nextStreamToService < (w'.settle cur' .next).mSequence.length := by
  have hcur' : w'.mSequence[w'.nextStreamToService]? = some cur := by
    rw [ht.sequence, ht.cursor]
    exact hcur
  have hahead' : w'.ahead = cur :: behind := by
    unfold ahead
    rw [ht.sequence, ht.cursor]
    exact hahead
  obtain ⟨htodo, hpointed, hlt⟩ := @todo_settle_next w' cur cur' behind hcur' hahead' hdone
  obtain ⟨-, -, behind', hahead'', hrest'⟩ := todo_of_pointed h.pointed hrest
  rw [hahead] at hahead''
  injection hahead'' with _ hbehind
  rw [hbehind, ← hrest'] at htodo
  have hsorted := h.sorted
  rw [hrest] at hsorted
  rw [htodo]
  exact ⟨rfl, (List.pairwise_cons.mp hsorted).2, hpointed, hlt⟩

/-- What is left to be done before the pass is over. -/
def Pass.work (windowStart : Nat) (s : Pass) : Nat :=
  (s.world.todo.map fun e => s.world.windowEnd windowStart + 1 - e.launchTime + 1).sum

/-- **An entry that is not due** is done, and nothing else changes. -/
theorem Merging.late (h : Merging plan windowStart s)
    (hahead : s.world.ahead = cur :: behind)
    (hcur : s.world.mSequence[s.world.nextStreamToService]? = some cur)
    (hrest : s.world.todo = cur :: rest)
    (hlate : s.world.windowEnd windowStart < cur.launchTime) :
    let s' : Pass := {
      world := s.world.settle { cur with done := .eEndOfWindow } .next
      streamsToService := s.streamsToService - 1
      served := s.served }
    Merging plan windowStart s' ∧ s'.work windowStart < s.work windowStart := by
  have hmem : cur ∈ s.world.mSequence := List.mem_of_getElem? hcur
  have hsame := settle_sameTimes s.world { cur with done := .eEndOfWindow } .next
  obtain ⟨htodo, hsorted, hpointed, hlt⟩ := h.todo_done hahead (Touches.refl ..) hcur hrest
    (by exact fun h => nomatch h : ({ cur with done := .eEndOfWindow } : StreamData).done ≠ _)
  have hcount := h.count
  rw [hrest] at hcount
  constructor
  · refine ⟨?_, Or.inl hlt, hpointed, ?_, hsorted, h.ordered, ?_, ?_, h.history, ?_⟩
    · show Stocked windowStart (s.world.settle { cur with done := .eEndOfWindow } .next)
      refine h.stocked.settle hcur (Touches.refl ..) ?_ ?_ ?_ _
      · rfl
      · exact h.stocked.loaded cur hmem
      · exact fun _ => hlate
    · rw [htodo, hcount]
      rfl
    · intro r hr e he
      rw [htodo] at he
      exact h.behind r hr e (by rw [hrest]; exact List.mem_cons_of_mem _ he)
    · intro r hr
      rw [hsame.windowEnd]
      exact h.within r hr
    · intro e he
      rcases mem_settle hcur h.stocked.distinct he with rfl | ⟨he, -⟩
      · exact h.planned cur hmem
      · exact h.planned e he
  · unfold Pass.work
    rw [htodo, hrest, hsame.windowEnd, List.map_cons, List.sum_cons]
    omega

/-- What is to be serviced behind an entry that was served: nothing that comes before it, in
order, and less than there was. -/
structure Served.Leaves (windowStart : Nat) (s : Pass) (cur : StreamData) (w : TxWorld)
    (count : Nat) : Prop where
  behind : ∀ e ∈ w.todo, cur.launchTime ≤ e.launchTime
  count : count = w.todo.length
  less : (w.todo.map fun e => s.world.windowEnd windowStart + 1 - e.launchTime + 1).sum
    < s.work windowStart
  sorted : w.todo.Pairwise fun a b => a.launchTime ≤ b.launchTime
  pointed : w.Pointed
  cursor : w.nextStreamToService < w.mSequence.length

/-- Whether the stream's next packet is due in this window or beyond it. -/
theorem Merging.todo_served (h : Merging plan windowStart s)
    (hahead : s.world.ahead = cur :: behind)
    (hcur : s.world.mSequence[s.world.nextStreamToService]? = some cur)
    (hrest : s.world.todo = cur :: rest) {w' : TxWorld} (ht : Touches cur.stream s.world w')
    {q : Nat} (hlater : cur.launchTime < s.upcoming plan cur.stream) {done : DoneState}
    {advance : Advance}
    (hnext : s.world.windowEnd windowStart < s.upcoming plan cur.stream
          ∧ done = .eEndOfWindow ∧ advance = .next
        ∨ s.upcoming plan cur.stream ≤ s.world.windowEnd windowStart
          ∧ done = .eNotDone ∧ advance = .sortByLaunchTime) :
    Served.Leaves windowStart s cur
      (w'.settle (refilled cur q (s.upcoming plan cur.stream) done) advance)
      (streamsLeft s.streamsToService done) := by
  have hfirst : ∀ e ∈ rest, cur.launchTime ≤ e.launchTime := by
    have hsorted := h.sorted
    rw [hrest] at hsorted
    exact (List.pairwise_cons.mp hsorted).1
  have hcount := h.count
  rw [hrest, List.length_cons] at hcount
  have hwork : s.work windowStart = s.world.windowEnd windowStart + 1 - cur.launchTime + 1
      + (rest.map fun e => s.world.windowEnd windowStart + 1 - e.launchTime + 1).sum := by
    unfold Pass.work
    rw [hrest, List.map_cons, List.sum_cons]
  rcases hnext with ⟨hbeyond, rfl, rfl⟩ | ⟨hin, rfl, rfl⟩
  · -- the entry is done: one less to be serviced
    obtain ⟨heq, hpairwise, hpointed, hlt⟩ := h.todo_done hahead ht hcur hrest
      (by exact fun h => nomatch h :
        (refilled cur q (s.upcoming plan cur.stream) .eEndOfWindow).done ≠ _)
    refine ⟨?_, ?_, ?_, hpairwise, hpointed, hlt⟩
    · rwa [heq]
    · rw [heq, hcount]
      rfl
    · rw [heq, hwork]
      omega
  · -- the entry is as many, but with a later launch time
    obtain ⟨hperm, hpairwise, hpointed, hlt⟩ := h.todo_kept hahead ht hcur hrest hin (q := q)
    refine ⟨?_, ?_, ?_, hpairwise, hpointed, hlt⟩
    · intro e he
      rcases List.mem_cons.mp (hperm.subset he) with rfl | he
      · exact Nat.le_of_lt hlater
      · exact hfirst e he
    · rw [hperm.length_eq, List.length_cons]
      exact hcount
    · rw [(hperm.map _).sum_nat, List.map_cons, List.sum_cons, hwork]
      show s.world.windowEnd windowStart + 1 - s.upcoming plan cur.stream + 1 + _ < _
      omega

/-- What a stream has served goes on by its plan. -/
theorem Merging.history_served (h : Merging plan windowStart s) {r : Served}
    (hplanned : r.launchTime = plan r.stream (s.launches r.stream).length) (w : TxWorld)
    (n stream : Nat) :
    let s' : Pass := { world := w, streamsToService := n, served := s.served ++ [r] }
    s'.launches stream = (List.range (s'.launches stream).length).map (plan stream) := by
  dsimp only
  rw [launches_serve]
  by_cases hstream : r.stream = stream
  · subst hstream
    rw [if_pos rfl, List.length_append, List.length_singleton, List.range_succ,
      List.map_append, ← h.history, List.map_singleton, ← hplanned]
  · rw [if_neg hstream, List.append_nil]
    exact h.history stream

/-- Every entry has the launch time that is next in its stream's plan. -/
theorem Merging.planned_served (h : Merging plan windowStart s)
    (hcur : s.world.mSequence[s.world.nextStreamToService]? = some cur) {w' : TxWorld}
    (ht : Touches cur.stream s.world w') {q : Nat} {done : DoneState} {advance : Advance}
    {r : Served} (hr : r.stream = cur.stream) (n : Nat) {e : StreamData}
    (he : e ∈ (w'.settle (refilled cur q (s.upcoming plan cur.stream) done) advance).mSequence) :
    let s' : Pass := {
      world := w'.settle (refilled cur q (s.upcoming plan cur.stream) done) advance
      streamsToService := n
      served := s.served ++ [r] }
    e.launchTime = plan e.stream (s'.launches e.stream).length := by
  have hcur' : w'.mSequence[w'.nextStreamToService]? = some cur := by
    rw [ht.sequence, ht.cursor]
    exact hcur
  have hdistinct' : (streams w'.mSequence).Nodup := by
    rw [ht.sequence]
    exact h.stocked.distinct
  dsimp only
  rw [launches_serve, hr]
  rcases mem_settle hcur' hdistinct' he with rfl | ⟨he, hne⟩
  · have hstream : (refilled cur q (s.upcoming plan cur.stream) done).stream = cur.stream := rfl
    rw [hstream, if_pos rfl, List.length_append, List.length_singleton]
    rfl
  · rw [ht.sequence] at he
    rw [if_neg (fun heq => hne heq.symm), List.append_nil]
    exact h.planned e he

/-- **An entry that is due** is served, and goes on with the stream's next packet. -/
theorem Merging.serve (h : Merging plan windowStart s)
    (hplan : ∀ stream, StrictMono (plan stream))
    (hahead : s.world.ahead = cur :: behind)
    (hcur : s.world.mSequence[s.world.nextStreamToService]? = some cur)
    (hrest : s.world.todo = cur :: rest)
    (hdue : cur.launchTime ≤ s.world.windowEnd windowStart) {w' : TxWorld} {q : Nat}
    (ht : Touches cur.stream s.world w') (htime : w'.attime q = s.upcoming plan cur.stream)
    (hhome : s.world.mHome q = cur.stream) {done : DoneState} {advance : Advance}
    (hnext : s.world.windowEnd windowStart < s.upcoming plan cur.stream
          ∧ done = .eEndOfWindow ∧ advance = .next
        ∨ s.upcoming plan cur.stream ≤ s.world.windowEnd windowStart
          ∧ done = .eNotDone ∧ advance = .sortByLaunchTime) (p : Nat) (dummy : Bool) :
    let s' : Pass := {
      world := w'.settle (refilled cur q (s.upcoming plan cur.stream) done) advance
      streamsToService := streamsLeft s.streamsToService done
      served := s.served ++ [{
        stream := cur.stream, packet := p, launchTime := cur.launchTime, dummy := dummy }] }
    Merging plan windowStart s' ∧ s'.work windowStart < s.work windowStart := by
  have hplanned := h.planned cur (List.mem_of_getElem? hcur)
  -- the stream's next packet is later, so the entry only moves back
  have hlater : cur.launchTime < s.upcoming plan cur.stream := by
    rw [hplanned]
    exact hplan cur.stream (Nat.lt_succ_self _)
  have hleaves := h.todo_served hahead hcur hrest ht hlater hnext (q := q)
  have hend : (w'.settle (refilled cur q (s.upcoming plan cur.stream) done) advance).windowEnd
      windowStart = s.world.windowEnd windowStart := by
    rw [(settle_sameTimes w' _ advance).windowEnd]
    unfold TxWorld.windowEnd
    rw [ht.config]
  have hcurTodo : cur ∈ s.world.todo := by
    rw [hrest]
    exact List.mem_cons_self
  have hloaded : Loaded w' windowStart (refilled cur q (s.upcoming plan cur.stream) done) := by
    refine ⟨q, rfl, by rw [ht.home]; exact hhome, ?_, ?_⟩
    · show s.upcoming plan cur.stream ≠ 0
      omega
    · rw [htime]
      exact Iff.rfl
  constructor
  · refine ⟨?_, Or.inl hleaves.cursor, hleaves.pointed, hleaves.count, hleaves.sorted, ?_, ?_, ?_,
      h.history_served hplanned _ _, fun e he => h.planned_served hcur ht rfl _ he⟩
    · refine h.stocked.settle hcur ht ?_ hloaded ?_ advance
      · rfl
      · intro hne
        rcases hnext with ⟨hbeyond, -, -⟩ | ⟨-, hnot, -⟩
        · exact hbeyond
        · exact absurd hnot hne
    · refine List.pairwise_append.mpr ⟨h.ordered, List.pairwise_singleton _ _, ?_⟩
      intro r hr r' hr'
      rw [List.mem_singleton.mp hr']
      exact h.behind r hr cur hcurTodo
    · -- what was served last is not behind anything that is left to be served
      intro r hr e he
      have hr : r.launchTime ≤ cur.launchTime := by
        rcases List.mem_append.mp hr with hr | hr
        · exact h.behind r hr cur hcurTodo
        · rw [List.mem_singleton.mp hr]
      exact Nat.le_trans hr (hleaves.behind e he)
    · -- what is served is within the window, since it was due
      intro r hr
      rw [hend]
      rcases List.mem_append.mp hr with hr | hr
      · exact h.within r hr
      · rw [List.mem_singleton.mp hr]
        exact hdue
  · unfold Pass.work
    rw [hend]
    exact hleaves.less

end Step

end AvbStreamHandler.TxWorld
