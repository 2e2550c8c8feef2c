import AvbStreamHandler.Transmit.ServicePass
import Mathlib.Algebra.GroupWithZero.Nat

/-!
# Passes that end

What a pass has left to do is bounded by the launch times of the entries that are not done:
they may only grow up to the end of a 64-bit register. Every visit takes something off that,
unless the device has put it off. So a pass in which launch times increase and the device comes
to an answer ends.

`ThreadWorld.pass_counted` collects what holds for every pass of every run of the thread.
-/

namespace AvbStreamHandler.TxWorld

open Kit Kit.Word Kit.Run Kit.Cycle

/-! ## Progress -/

/-- How often an entry can get a later packet, and its end. -/
def headroom (e : StreamData) : Nat :=
  if e.done = .eNotDone then 18446744073709551616 - e.launchTime + 1 else 0

theorem headroom_of_done {e : StreamData} (h : e.done ≠ .eNotDone) : headroom e = 0 := if_neg h

theorem headroom_of_not_done {e : StreamData} (h : e.done = .eNotDone) :
    headroom e = 18446744073709551616 - e.launchTime + 1 := if_pos h

namespace Pass

variable {s : Pass} {windowStart : Nat}

/-- What a pass has left to do. -/
def toGo (s : Pass) : Nat := (s.world.mSequence.map headroom).sum

/-- The packet a visit gets for its entry is launched later than the one before. Times are
64-bit registers. -/
def Advancing (windowStart : Nat) (s : Pass) : PassEvent → Prop
  | .visit result preps => s.Continues →
      ∀ cur ∈ s.world.mSequence[s.world.nextStreamToService]?,
        (s.world.visit windowStart result preps cur).2.2 = .sortByLaunchTime →
          cur.launchTime < (s.world.visit windowStart result preps cur).2.1.launchTime
            ∧ (s.world.visit windowStart result preps cur).2.1.launchTime < 18446744073709551616
  | .outside _ => True

/-- Nothing comes of it: the visit is put off by the device, or there is none. -/
def Stalls (windowStart : Nat) (s : Pass) : PassEvent → Prop
  | .visit result _ => ∃ cur ∈ s.world.mSequence[s.world.nextStreamToService]?,
      s.world.PutOff windowStart result cur
  | .outside _ => True

/-- **A visit that is not put off** takes something off what is left to do. -/
theorem Exact.toGo_step (h : Exact s) (hgoes : s.Continues) {e : PassEvent}
    (hadvancing : s.Advancing windowStart e) :
    (s.step windowStart e).toGo ≤ s.toGo
      ∧ (¬ s.Stalls windowStart e → (s.step windowStart e).toGo < s.toGo) := by
  cases e with
  | outside e =>
      refine ⟨?_, fun hmoves => absurd trivial hmoves⟩
      unfold toGo
      rw [(step_outside windowStart e).2.1]
  | visit result preps =>
      obtain ⟨cur, X, Y, hl, hc, hnot, hperm, -⟩ := h.visit hgoes windowStart result preps
      have hcur : cur ∈ s.world.mSequence[s.world.nextStreamToService]? := by
        rw [hl, ← hc, List.getElem?_append_right (Nat.le_refl _), Nat.sub_self]
        rfl
      have hbefore : s.toGo = (X.map headroom).sum + (headroom cur + (Y.map headroom).sum) := by
        unfold toGo
        rw [hl, List.map_append, List.sum_append, List.map_cons, List.sum_cons]
      have hbehind : (s.step windowStart (.visit result preps)).toGo
          = (X.map headroom).sum + (headroom (s.world.visit windowStart result preps cur).2.1
            + (Y.map headroom).sum) := by
        unfold toGo
        rw [(hperm.map headroom).sum_nat, List.map_append, List.sum_append, List.map_cons,
          List.sum_cons]
      have hlater := hadvancing hgoes cur hcur
      have hput : s.world.PutOff windowStart result cur →
          s.Stalls windowStart (.visit result preps) := fun hput => ⟨cur, hcur, hput⟩
      rw [hbefore, hbehind]
      have hfull := headroom_of_not_done hnot
      rcases @visit_ends s.world cur windowStart result preps hnot with
        ⟨hkept, hsort⟩ | ⟨hsame, hoff⟩ | hend | hdry | hfatal
      · -- it has a later packet
        obtain ⟨hless, hfits⟩ := hlater hsort
        have hrest := headroom_of_not_done hkept
        omega
      · rw [hsame]
        exact ⟨Nat.le_refl _, fun hmoves => absurd (hput hoff) hmoves⟩
      · have hrest := headroom_of_done (e := (s.world.visit windowStart result preps cur).2.1)
          (by rw [hend]; decide)
        omega
      · have hrest := headroom_of_done (e := (s.world.visit windowStart result preps cur).2.1)
          (by rw [hdry]; decide)
        omega
      · have hrest := headroom_of_done (e := (s.world.visit windowStart result preps cur).2.1)
          (by rw [hfatal]; decide)
        omega

/-- **A pass ends.** -/
theorem Exact.ends (h : Exact s) {events : Nat → PassEvent}
    (hadvancing : ∀ n, (after (Pass.step windowStart) s events n).Advancing windowStart (events n))
    (hdecided : ∀ n, ∃ m, n ≤ m
      ∧ ¬ (after (Pass.step windowStart) s events m).Stalls windowStart (events m)) :
    ∃ n, ¬ (after (Pass.step windowStart) s events n).Continues := by
  refine ends_of_progress toGo h ?_ hdecided
  intro n hexact hgoes
  rw [after_succ]
  exact ⟨hexact.step windowStart (events n), hexact.toGo_step hgoes (hadvancing n)⟩

end Pass

/-! ## Every pass of every run -/

namespace ThreadWorld

/-- The thread has one stream, which has no packet yet. -/
def soleStream (config : SequencerConfig) : ThreadWorld :=
  exec round (start twoStreams config false false 100) oneStream

/-- The stream is dry and stays so. -/
theorem after_dry (n : Nat) :
    after (Pass.step 0) (beginPass (soleStream {}).world) (fun _ => .visit 0 []) (n + 1)
      = Pass.step 0 (beginPass (soleStream {}).world) (.visit 0 []) := by
  induction n with
  | zero => exact after_succ 0
  | succ n ih =>
      rw [after_succ, ih]
      exact Pass.step_over (by decide +kernel) 0 0 []

theorem after_dry_empty (n : Nat) {e : StreamData}
    (he : e ∈ (after (Pass.step 0) (beginPass (soleStream {}).world) (fun _ => .visit 0 [])
      n).world.mSequence) : e.packet = none := by
  revert e
  cases n with
  | zero => decide +kernel
  | succ n =>
      rw [after_dry]
      decide +kernel

/-- Both streams have a packet, and the device reports a fatal error for the first. -/
def fatalPass : Pass :=
  exec (Pass.step 0)
    (beginPass (exec round (start twoStreams {} false false 100) bothStreams).world)
    [fetches 1000000, fetches 1200000, .visit (-EINVAL) []]

/-- Stream 0, as often as its packets come back. -/
structure Lagging (config : SequencerConfig) (w : TxWorld) (cur : StreamData) : Prop where
  config : w.mConfig = config
  stream : cur.stream = 0
  stack : w.mFreeBufferStack 0 = [0, 1, 2, 3]
  home : w.mHome 0 = 0
  room : w.mPoolSize 0 = 4

section Lagging

variable {config : SequencerConfig} {w w' : TxWorld} {cur cur' : StreamData}
  {windowStart droppedOld resetCnt : Nat}

/-- The packet that is fetched goes back to where it was. -/
theorem Lagging.prepares (h : Lagging config w cur) (attime : Nat) :
    ∃ w₁, w.preparePacket cur.stream (.fromPool attime false) = (w₁, some 0)
      ∧ w₁.attime 0 = attime ∧ w₁.mConfig = config
      ∧ ∀ w' cur', w'.mConfig = w₁.mConfig → w'.mHome = w₁.mHome → w'.mPoolSize = w₁.mPoolSize →
        w'.mFreeBufferStack = (w₁.returnPacket 0).mFreeBufferStack → cur'.stream = 0 →
        Lagging config w' cur' := by
  have hprep : w.preparePacket cur.stream (.fromPool attime false)
      = ({ w with
          mFreeBufferStack := Function.update w.mFreeBufferStack 0 [1, 2, 3]
          attime := Function.update w.attime 0 attime
          mDummyFlag := Function.update w.mDummyFlag 0 false }, some 0) := by
    unfold preparePacket
    rw [h.stream]
    dsimp only
    rw [h.stack]
  refine ⟨_, hprep, rfl, h.config, ?_⟩
  intro w' cur' hconfig hhome hroom hstack hstream
  refine ⟨hconfig.trans h.config, hstream, ?_, by rw [hhome, h.home], by rw [hroom, h.room]⟩
  rw [hstack]
  unfold returnPacket
  dsimp only
  rw [h.home, h.room]
  rfl

/-- A packet that is two milliseconds late is dropped. -/
theorem Lagging.drops (h : Lagging { txWindowMaxDropCount := 4294967296 } w cur) :
    ∃ resetCnt' w' cur',
      fetchOnce 10000000 droppedOld (.fromPool 8000000 false) resetCnt w cur
        = .again resetCnt' w' cur' ∧ Lagging { txWindowMaxDropCount := 4294967296 } w' cur' := by
  obtain ⟨w₁, hprep, hattime, hconfig, hback⟩ := h.prepares 8000000
  let w' : TxWorld := { w₁.returnPacket 0 with
    mDiag := { (w₁.returnPacket 0).mDiag with
      dropped := add32 (w₁.returnPacket 0).mDiag.dropped 1 } }
  have hlimit : ¬ sub32 w'.mDiag.dropped droppedOld ≥ w'.mConfig.txWindowMaxDropCount := by
    show ¬ w₁.mConfig.txWindowMaxDropCount ≤ _
    rw [hconfig]
    exact Nat.not_le_of_lt (sub32_lt _ _)
  refine ⟨resetCnt, w', { cur with packet := none, launchTime := 8000000 }, ?_, ?_⟩
  · unfold fetchOnce
    rw [hprep]
    dsimp only
    rw [hattime, hconfig, if_neg (by decide), if_neg (by decide), if_pos (by decide),
      if_neg hlimit]
  · exact hback _ _ rfl rfl rfl rfl h.stream

/-- One that is nine milliseconds late resets its stream. -/
theorem Lagging.resets (h : Lagging { txWindowMaxResetCount := 18446744073709551615 } w cur) :
    ∃ resetCnt' w' cur',
      fetchOnce 10000000 droppedOld (.fromPool 1000000 false) resetCnt w cur
        = .again resetCnt' w' cur'
      ∧ Lagging { txWindowMaxResetCount := 18446744073709551615 } w' cur' := by
  obtain ⟨w₁, hprep, hattime, hconfig, hback⟩ := h.prepares 1000000
  have hlimit : add64 resetCnt 1
      ≤ ((w₁.returnPacket 0).toggle cur.stream).mConfig.txWindowMaxResetCount := by
    show add64 resetCnt 1 ≤ w₁.mConfig.txWindowMaxResetCount
    rw [hconfig]
    exact Nat.le_of_lt_succ (Nat.mod_lt _ (by decide))
  refine ⟨add64 resetCnt 1, (w₁.returnPacket 0).toggle cur.stream,
    { cur with packet := none, launchTime := 1000000 }, ?_, ?_⟩
  · unfold fetchOnce
    rw [hprep]
    dsimp only
    rw [hattime, hconfig, if_neg (by decide), if_pos (by decide), if_pos hlimit]
  · exact hback _ _ rfl rfl rfl rfl h.stream

end Lagging

end ThreadWorld

end AvbStreamHandler.TxWorld
