import AvbStreamHandler.Transmit.AvbPacketPool

/-!
# The life of a packet pool

Any sequence of `init`, `getPacket`, `returnPacket`, `reset` and `cleanup`. The world next to
the pool remembers what was handed out and not returned; that memory is no part of the
code, it is what "outstanding" means. A packet that is out when its array is deleted is
gone with it.

Nothing is lost and nothing is twice on the stack, unless one of three things happens, and
then it is so at once. `cleanup` deletes the packets and leaves the pointers to them on the
stack, and so does an `init` that fails with some of the packets in place. `reset` takes
back packets that others still hold.
-/

namespace AvbStreamHandler

open Kit.Run IasAvbProcessingResult

namespace AvbPacketPool

structure PoolWorld where
  pool : AvbPacketPool := {}
  /-- How many arrays were asked for so far. -/
  allocations : Nat := 0
  outstanding : List PacketPtr := []

inductive PoolEvent
  | init (packetSize poolSize : Nat) (env : InitEnv)
  | getPacket
  | returnPacket (packet : PacketPtr)
  | reset
  | cleanup

/-- One call. Only what is outstanding is returned. -/
def step (w : PoolWorld) : PoolEvent → PoolWorld
  | .init packetSize poolSize env =>
      { w with
        pool := (w.pool.init packetSize poolSize w.allocations env).2
        allocations := w.allocations + 1 }
  | .getPacket =>
      { w with
        pool := w.pool.getPacket.2
        outstanding := w.pool.getPacket.1.toList ++ w.outstanding }
  | .returnPacket packet =>
      if packet ∈ w.outstanding then
        { w with
          pool := (w.pool.doReturnPacket packet).2
          outstanding := w.outstanding.erase packet }
      else w
  | .reset => { w with pool := w.pool.reset.2 }
  | .cleanup => { w with pool := w.pool.cleanup, outstanding := [] }

/-- The calls that do no harm. -/
def StepOk (w : PoolWorld) : PoolEvent → Prop
  | .init packetSize poolSize env =>
      w.pool.mBase = none → ¬ FailsLate packetSize poolSize env
  | .getPacket => True
  | .returnPacket _ => True
  | .reset => w.pool.mBase ≠ none → w.outstanding = []
  | .cleanup => w.pool.mFreeBufferStack = []

/-- What the pool promises about its packets. -/
structure Conserved (w : PoolWorld) : Prop where
  /-- The free packets are distinct packets of the present array. -/
  free : ∀ alloc, w.pool.mBase = some alloc → w.pool.mFreeBufferStack.Nodup
    ∧ ∀ a ∈ w.pool.mFreeBufferStack, a.alloc = alloc ∧ a.index < w.pool.mPoolSize
  /-- No packet that is out is free. -/
  out : ∀ a ∈ w.outstanding, a ∉ w.pool.mFreeBufferStack
  /-- None is lost. -/
  count : w.pool.mBase ≠ none →
    w.pool.mFreeBufferStack.length + w.outstanding.length = w.pool.mPoolSize
  /-- A pool that is not set up holds no packet. -/
  empty : w.pool.mBase = none → w.pool.mFreeBufferStack = []
  /-- Such a pool can be set up afresh. -/
  restart : w.pool.mBase = none → ∀ packetSize poolSize env,
    (w.pool.init packetSize poolSize w.allocations env).1 = eIasAvbProcOK →
    Yields (w.pool.init packetSize poolSize w.allocations env).2 packetSize poolSize

/-- Free and outstanding packets together are all packets of the array, each once. -/
structure Inv (w : PoolWorld) : Prop where
  empty : w.pool.mBase = none → Empty [] w.pool ∧ w.outstanding = []
  all : ∀ alloc, w.pool.mBase = some alloc →
    (w.pool.mFreeBufferStack ++ w.outstanding).Perm (allPackets alloc w.pool.mPoolSize)

theorem inv_init : Inv {} where
  empty _ := ⟨⟨rfl, rfl, rfl⟩, rfl⟩
  all _ h := by cases h

theorem Inv.conserved {w : PoolWorld} (h : Inv w) : Conserved w where
  free alloc hbase := by
    have hall := h.all alloc hbase
    have hnodup := hall.nodup_iff.mpr (nodup_allPackets ..)
    refine ⟨(List.nodup_append.mp hnodup).1, fun a ha => ?_⟩
    exact mem_allPackets.mp (hall.subset (List.mem_append_left _ ha))
  out a ha hfree := by
    cases hbase : w.pool.mBase with
    | none =>
        rw [(h.empty hbase).2] at ha
        exact absurd ha List.not_mem_nil
    | some alloc =>
        have hnodup := (h.all alloc hbase).nodup_iff.mpr (nodup_allPackets ..)
        exact (List.nodup_append.mp hnodup).2.2 a hfree a ha rfl
  count hbase := by
    obtain ⟨alloc, halloc⟩ := Option.ne_none_iff_exists'.mp hbase
    have hlen := (h.all alloc halloc).length_eq
    rwa [List.length_append, length_allPackets] at hlen
  empty hbase := (h.empty hbase).1.stack
  restart hbase packetSize poolSize env hret := by
    cases init_cases (h.empty hbase).1 packetSize poolSize w.allocations env with
    | filled d pages _ _ henough hfill =>
        refine hfill.yields (Nat.pos_of_ne_zero fun hzero => ?_) henough
        subst hzero
        rw [AvbPacketPool.init, if_neg (by rw [hbase]; exact Bool.false_ne_true),
          if_pos fun hvalid => hvalid.1.1 rfl] at hret
        cases hret
    | early hfail => exact absurd hret hfail
    | late _ hfail => exact absurd hret hfail

theorem inv_reset {w : PoolWorld} (h : Inv w)
    (hok : w.pool.mBase ≠ none → w.outstanding = []) : Inv (step w .reset) := by
  unfold step reset
  cases hbase : w.pool.mBase with
  | none => exact h
  | some alloc =>
      have hout := hok (by rw [hbase]; exact Option.some_ne_none _)
      refine ⟨fun hnone => ?_, fun alloc' halloc => ?_⟩
      · have hnone : w.pool.mBase = none := hnone
        rw [hbase] at hnone
        cases hnone
      · have halloc : w.pool.mBase = some alloc' := halloc
        rw [hbase, Option.some.injEq] at halloc
        show (allPackets alloc w.pool.mPoolSize ++ w.outstanding).Perm _
        rw [hout, List.append_nil, halloc]
        exact List.Perm.refl _

theorem inv_getPacket {w : PoolWorld} (h : Inv w) : Inv (step w .getPacket) := by
  unfold step getPacket
  cases hbase : w.pool.mBase with
  | none => exact h
  | some alloc =>
      dsimp only
      rw [if_pos Option.isSome_some]
      cases hstack : w.pool.mFreeBufferStack with
      | nil => exact h
      | cons a rest =>
          refine ⟨fun hnone => ?_, fun alloc' halloc => ?_⟩
          · have hnone : w.pool.mBase = none := hnone
            rw [hbase] at hnone
            cases hnone
          · have hall := h.all alloc' halloc
            rw [hstack] at hall
            exact List.perm_middle.trans hall

theorem inv_returnPacket {w : PoolWorld} (h : Inv w) (packet : PacketPtr) :
    Inv (step w (.returnPacket packet)) := by
  unfold step
  dsimp only
  split
  · rename_i hout
    cases hbase : w.pool.mBase with
    | none =>
        rw [(h.empty hbase).2] at hout
        exact absurd hout List.not_mem_nil
    | some alloc =>
        have hroom : w.pool.mFreeBufferStack.length ≤ w.pool.mPoolSize := by
          have hlen := (h.all alloc hbase).length_eq
          rw [List.length_append, length_allPackets] at hlen
          omega
        unfold doReturnPacket
        rw [hbase, if_pos Option.isSome_some, if_pos hroom]
        refine ⟨fun hnone => ?_, fun alloc' halloc => ?_⟩
        · have hnone : w.pool.mBase = none := hnone
          rw [hbase] at hnone
          cases hnone
        · refine List.Perm.trans ?_ (h.all alloc' halloc)
          show (packet :: w.pool.mFreeBufferStack ++ w.outstanding.erase packet).Perm _
          rw [List.cons_append]
          exact List.perm_middle.symm.trans
            (List.Perm.append_left _ (List.perm_cons_erase hout).symm)
  · exact h

theorem inv_initEvent {w : PoolWorld} (h : Inv w) {packetSize poolSize : Nat} {env : InitEnv}
    (hok : StepOk w (.init packetSize poolSize env)) :
    Inv (step w (.init packetSize poolSize env)) := by
  unfold step
  cases hbase : w.pool.mBase with
  | some alloc =>
      have hkeep : w.pool.init packetSize poolSize w.allocations env
          = (eIasAvbProcInitializationFailed, w.pool) :=
        if_pos (by rw [hbase]; rfl)
      dsimp only
      rw [hkeep]
      exact ⟨h.empty, h.all⟩
  | none =>
      have hout := (h.empty hbase).2
      cases init_cases (h.empty hbase).1 packetSize poolSize w.allocations env with
      | filled d pages _ _ _ hfill =>
          refine ⟨fun hnone => ?_, fun alloc halloc => ?_⟩
          · have hnone : (w.pool.init packetSize poolSize w.allocations env).2.mBase = none := hnone
            rw [hfill.base] at hnone
            cases hnone
          · have halloc : (w.pool.init packetSize poolSize w.allocations env).2.mBase
                = some alloc := halloc
            rw [hfill.base, Option.some.injEq] at halloc
            dsimp only
            rw [hfill.stack, hfill.sizes.2, hout, List.append_nil, List.append_nil, halloc]
      | early _ _ hempty =>
          refine ⟨fun _ => ⟨hempty, hout⟩, fun alloc halloc => ?_⟩
          have halloc : (w.pool.init packetSize poolSize w.allocations env).2.mBase
              = some alloc := halloc
          rw [hempty.base] at halloc
          cases halloc
      | late _ _ hlate => exact absurd hlate (hok hbase)

theorem inv_step (w : PoolWorld) (e : PoolEvent) (h : Inv w) (hok : StepOk w e) :
    Inv (step w e) := by
  cases e with
  | init packetSize poolSize env => exact inv_initEvent h hok
  | getPacket => exact inv_getPacket h
  | returnPacket packet => exact inv_returnPacket h packet
  | reset => exact inv_reset h hok
  | cleanup =>
      refine ⟨fun _ => ⟨⟨rfl, rfl, hok⟩, rfl⟩, fun alloc halloc => ?_⟩
      cases halloc

/-- Every other call shows at once. -/
theorem not_conserved_of_not_stepOk (w : PoolWorld) (e : PoolEvent) (h : Inv w)
    (hbad : ¬ StepOk w e) : ¬ Conserved (step w e) := by
  intro hcons
  cases e with
  | init packetSize poolSize env =>
      unfold StepOk at hbad
      simp only [Classical.not_imp, Classical.not_not] at hbad
      cases init_cases (h.empty hbad.1).1 packetSize poolSize w.allocations env with
      | filled _ _ _ hlate => exact hlate hbad.2
      | early _ hlate => exact hlate hbad.2
      | late count _ _ hpos hempty =>
          have hstack := hcons.empty hempty.base
          have hleft : (step w (.init packetSize poolSize env)).pool.mFreeBufferStack
              = allPackets w.allocations count ++ [] := hempty.stack
          rw [hstack, List.append_nil] at hleft
          have hlen := congrArg List.length hleft
          rw [length_allPackets, List.length_nil] at hlen
          omega
  | getPacket => exact hbad trivial
  | returnPacket packet => exact hbad trivial
  | reset =>
      unfold StepOk at hbad
      simp only [Classical.not_imp] at hbad
      obtain ⟨alloc, halloc⟩ := Option.ne_none_iff_exists'.mp hbad.1
      have hreset : (step w .reset).pool.mFreeBufferStack
          = allPackets alloc w.pool.mPoolSize := by
        unfold step reset
        rw [halloc]
        rfl
      obtain ⟨a, ha⟩ := List.exists_mem_of_ne_nil _ hbad.2
      have hmem := (h.all alloc halloc).subset (List.mem_append_right _ ha)
      rw [← hreset] at hmem
      exact hcons.out a ha hmem
  | cleanup => exact hbad (hcons.empty rfl)

/--
**When the pool keeps its packets together.**

In every state of a run the free packets are distinct packets of the present array, none of
them is out, none is lost, a pool without an array holds none and can be set up afresh —
exactly if no call of the run does harm.
-/
theorem conserved_iff (es : List PoolEvent) :
    (∀ pre, pre <+: es → Conserved (exec step {} pre)) ↔ Always step StepOk {} es :=
  good_iff_always (fun _ => Inv.conserved) inv_step not_conserved_of_not_stepOk inv_init

/-- A device with pages of 4096 bytes, one behind the other. -/
def smallDevice : DmaDevice where
  mmap_size := 4096
  mmap_size_lt := by decide
  dma_vaddr k := 4096 * k
  disjoint i j hij := by omega
  outcome _ := .allocated

def smallEnv : InitEnv where
  igbDevice := some smallDevice

/-- Two packets are still on the stack when the pool has gone, and below the two of the
next one. And a packet is free that somebody holds. -/
theorem cleanup_keeps_the_stack :
    (let w := exec step {} [.init 1024 2 smallEnv, .cleanup]
    w.pool.mBase = none ∧ w.pool.mFreeBufferStack = [⟨0, 1⟩, ⟨0, 0⟩]
      ∧ (step w (.init 1024 2 smallEnv)).pool.mFreeBufferStack
        = [⟨1, 1⟩, ⟨1, 0⟩, ⟨0, 1⟩, ⟨0, 0⟩])
    ∧ (let w := exec step {} [.init 1024 2 smallEnv, .getPacket, .reset]
    w.outstanding = [⟨0, 1⟩] ∧ w.pool.mFreeBufferStack = [⟨0, 1⟩, ⟨0, 0⟩]) := by
  decide

end AvbPacketPool

end AvbStreamHandler
