import AvbStreamHandler.Kit.Slots
import AvbStreamHandler.Video.LocalVideoBuffer

/-!
# Who has a video packet

A packet of the pool is free, or in a place of the ring that lies between the reader and
the writer, or with the transmitter that read it; and each such place has a packet. Any
sequence of writes, reads, returns and resets keeps it so, unless `writeH264` is given more
than the packet it gets has room for: then it forgets the packet, and advances over a place
that has none.

A step of a writer has three outcomes. What matters of each is which packet was taken, what
happened to the place at the write index, and whether the index moved.
-/

namespace AvbStreamHandler

open Kit Kit.Run Kit.RingIndex Kit.RingQueue Kit.Slots AvbPacketPool

namespace LocalVideoBuffer

/-- The packet in a place of the ring. -/
def slotPacket (b : LocalVideoBuffer) (i : Nat) : Option PacketPtr :=
  (b.mRing i).avbPacket.map AvbPacket.ptr

/-- All packets in the ring. -/
def ringPackets (b : LocalVideoBuffer) : List PacketPtr := collect b.mNumPacketsTotal b.slotPacket

/-- Place `i` lies between the reader and the writer. -/
def Occupied (b : LocalVideoBuffer) (i : Nat) : Prop := Between b.mReadIndex b.mWriteIndex i

/-- The pool, the places of the ring and the packets that were read. -/
structure VideoWorld where
  buffer : LocalVideoBuffer
  handed : List PacketPtr

inductive VideoEvent
  | writeH264 (desc : TxDesc) (stale : Nat → UInt8)
  | writeMpegTS (desc : TxDesc) (stale : Nat → UInt8)
  | read
  | reset
  /-- The transmitter is done with a packet. -/
  | returned (ptr : PacketPtr)

namespace VideoWorld

def step (v : VideoWorld) : VideoEvent → VideoWorld
  | .writeH264 desc stale => { v with buffer := (v.buffer.writeH264 desc stale).2 }
  | .writeMpegTS desc stale => { v with buffer := (v.buffer.writeMpegTS desc stale).2 }
  | .read =>
      { buffer := v.buffer.read.2
        handed := (v.buffer.read.1.bind fun d => d.avbPacket.map AvbPacket.ptr).toList ++ v.handed }
  | .reset => { v with buffer := v.buffer.reset }
  | .returned ptr =>
      if ptr ∈ v.handed then
        { buffer := v.buffer.setPool (giveBack v.buffer.mPool ptr), handed := v.handed.erase ptr }
      else v

/-- `writeH264` gets no more than a packet has room for, unless it writes nothing anyway. -/
def StepOk (v : VideoWorld) : VideoEvent → Prop
  | .writeH264 desc _ =>
      v.buffer.accepts desc = true → v.buffer.remaining ≠ 0 →
        v.buffer.mPool.pool.getPacket.1 ≠ none → v.buffer.HasHeadroom desc.data.length
  | _ => True

/-- Every packet is in one place. -/
structure Placed (v : VideoWorld) : Prop where
  /-- The places between the reader and the writer have a packet, and no others do. -/
  occupied : ∀ i, i < v.buffer.mNumPacketsTotal →
    (v.buffer.slotPacket i ≠ none ↔ v.buffer.Occupied i)
  /-- Free, in the ring or handed out: that is all packets, and each of them once. -/
  places : ∀ alloc, v.buffer.mPool.pool.mBase = some alloc →
    (v.buffer.mPool.pool.mFreeBufferStack ++ (v.buffer.ringPackets ++ v.handed)).Perm
      (allPackets alloc v.buffer.mPool.pool.mPoolSize)

/-- What every step keeps. -/
structure Inv (v : VideoWorld) : Prop where
  read_lt : v.buffer.mReadIndex < v.buffer.mNumPacketsTotal
  write_lt : v.buffer.mWriteIndex < v.buffer.mNumPacketsTotal
  occupied : ∀ i, i < v.buffer.mNumPacketsTotal →
    (v.buffer.slotPacket i ≠ none ↔ v.buffer.Occupied i)
  pool : AvbPacketPool.Inv v.buffer.mPool
  /-- The pool agrees on what is out. -/
  out : (v.buffer.ringPackets ++ v.handed).Perm v.buffer.mPool.outstanding

theorem Inv.placed {v : VideoWorld} (h : Inv v) : Placed v where
  occupied := h.occupied
  places alloc hbase := (h.out.append_left _).trans (h.pool.all alloc hbase)

end VideoWorld

/-! ## The three outcomes of a write -/

/-- Nothing but the two indices and the packets may differ. -/
structure SameShape (b b' : LocalVideoBuffer) : Prop where
  total : b'.mNumPacketsTotal = b.mNumPacketsTotal
  read : b'.mReadIndex = b.mReadIndex

/-- A packet may be forgotten only where `forgets` holds. -/
inductive WriteEffect (b b' : LocalVideoBuffer) (forgets : Prop) : Prop
  /-- No packet was taken, or the one that was taken already. -/
  | kept (shape : SameShape b b') (pool : b'.mPool = b.mPool)
      (index : b'.mWriteIndex = b.mWriteIndex) (slots : b'.slotPacket = b.slotPacket)
  /-- A packet was taken from the pool and put into the ring. -/
  | stored (ptr : PacketPtr) (shape : SameShape b b') (room : b.remaining ≠ 0)
      (took : b.mPool.pool.getPacket.1 = some ptr)
      (pool : b'.mPool = AvbPacketPool.step b.mPool .getPacket)
      (index : b'.mWriteIndex = next b.mNumPacketsTotal b.mWriteIndex)
      (slots : b'.slotPacket = Function.update b.slotPacket b.mWriteIndex (some ptr))
  /-- A packet was taken from the pool and forgotten. -/
  | leaked (h : forgets)

theorem slotPacket_setSlot (b : LocalVideoBuffer) (i : Nat) (d : RingDesc) :
    (b.setSlot i d).slotPacket
      = Function.update b.slotPacket i (d.avbPacket.map AvbPacket.ptr) := by
  funext k
  show ((Function.update b.mRing i d) k).avbPacket.map AvbPacket.ptr = _
  by_cases hk : k = i
  · subst hk
    rw [Function.update_self, Function.update_self]
  · rw [Function.update_of_ne hk, Function.update_of_ne hk]
    rfl

/-- A descriptor whose packet stays the same packet. -/
theorem slotPacket_setSlot_same {b : LocalVideoBuffer} {i : Nat} {d : RingDesc}
    (h : d.avbPacket.map AvbPacket.ptr = (b.mRing i).avbPacket.map AvbPacket.ptr) :
    (b.setSlot i d).slotPacket = b.slotPacket := by
  rw [slotPacket_setSlot, h]
  exact Function.update_eq_self ..

theorem getPacket_eq_none {b : LocalVideoBuffer} {stale : Nat → UInt8}
    (h : b.getPacket stale = none) : b.mPool.pool.getPacket.1 = none :=
  Option.map_eq_none_iff.mp h

theorem getPacket_eq_some {b : LocalVideoBuffer} {stale : Nat → UInt8} {p : AvbPacket}
    (h : b.getPacket stale = some p) : b.mPool.pool.getPacket.1 = some p.ptr := by
  obtain ⟨ptr, hptr, hp⟩ := Option.map_eq_some_iff.mp h
  rw [hptr, ← hp]

/-- An empty pool stays as it is. -/
theorem popPool_of_none {b : LocalVideoBuffer} (h : b.mPool.pool.getPacket.1 = none) :
    b.popPool = b := by
  have hpool : b.mPool.pool.getPacket.2 = b.mPool.pool := by
    unfold AvbPacketPool.getPacket at h ⊢
    split at h
    · rename_i hbase
      rw [if_pos hbase]
      split at h
      · rfl
      · cases h
    · rename_i hbase
      rw [if_neg hbase]
  have hstep : AvbPacketPool.step b.mPool .getPacket = b.mPool := by
    show AvbPacketPool.PoolWorld.mk _ _ _ = b.mPool
    rw [hpool, h]
    rfl
  unfold popPool
  rw [hstep]
  rfl

/-- **`writeH264` forgets a packet only where there is not enough room in it.** -/
theorem writeH264_effect (b : LocalVideoBuffer) (desc : TxDesc) (stale : Nat → UInt8) :
    WriteEffect b (b.writeH264 desc stale).2
      (b.accepts desc = true ∧ b.remaining ≠ 0 ∧ b.mPool.pool.getPacket.1 ≠ none
        ∧ ¬ b.HasHeadroom desc.data.length) := by
  unfold writeH264
  split
  · exact .kept ⟨rfl, rfl⟩ rfl rfl rfl
  · rename_i hwrites
    rw [not_or, Bool.not_eq_false] at hwrites
    dsimp only
    have hnote : (b.setSlot b.mWriteIndex (noteH264 desc (b.mRing b.mWriteIndex))).slotPacket
        = b.slotPacket := slotPacket_setSlot_same rfl
    cases hget : b.getPacket stale with
    | none =>
        have hpop := @popPool_of_none
          (b.setSlot b.mWriteIndex (noteH264 desc (b.mRing b.mWriteIndex))) (getPacket_eq_none hget)
        dsimp only
        rw [hpop]
        exact .kept ⟨rfl, rfl⟩ rfl rfl hnote
    | some p =>
        have htook := getPacket_eq_some hget
        dsimp only
        split
        · exact .stored p.ptr ⟨rfl, rfl⟩ hwrites.2 htook rfl rfl (slotPacket_setSlot ..)
        · rename_i hroom
          exact .leaked ⟨hwrites.1, hwrites.2, by rw [htook]; exact Option.some_ne_none _, hroom⟩

/-- What it leaves behind then: an occupied place without a packet. -/
theorem writeH264_forgets {b : LocalVideoBuffer} {desc : TxDesc} (stale : Nat → UInt8)
    (haccepts : b.accepts desc = true) (hremaining : b.remaining ≠ 0)
    (hget : b.mPool.pool.getPacket.1 ≠ none) (hroom : ¬ b.HasHeadroom desc.data.length) :
    SameShape b (b.writeH264 desc stale).2
      ∧ (b.writeH264 desc stale).2.mWriteIndex = next b.mNumPacketsTotal b.mWriteIndex
      ∧ (b.writeH264 desc stale).2.slotPacket = b.slotPacket := by
  obtain ⟨ptr, hptr⟩ := Option.ne_none_iff_exists'.mp hget
  have hpacket : b.getPacket stale = some { ptr := ptr, payload := ⟨stale, []⟩ } := by
    unfold getPacket
    rw [hptr]
    rfl
  unfold writeH264
  rw [if_neg (by rw [haccepts]; simp [hremaining])]
  dsimp only
  rw [hpacket]
  dsimp only
  rw [if_neg hroom]
  exact ⟨⟨rfl, rfl⟩, rfl, slotPacket_setSlot_same rfl⟩

theorem putTsps_ptr (hasSph : Bool) (n writePtr : Nat) (data : List UInt8) (p : AvbPacket) :
    (putTsps hasSph n writePtr data p).ptr = p.ptr := by
  induction n generalizing writePtr data p with
  | zero => rfl
  | succ n ih => exact ih ..

theorem writeFresh_effect {b : LocalVideoBuffer} (desc : TxDesc) (stale : Nat → UInt8)
    (hremaining : b.remaining ≠ 0) : WriteEffect b (b.writeFresh desc stale).2 False := by
  unfold writeFresh
  dsimp only
  cases hget : b.getPacket stale with
  | none =>
      have hpop := @popPool_of_none
        (b.setSlot b.mWriteIndex (noteMpegTS desc (b.mRing b.mWriteIndex))) (getPacket_eq_none hget)
      dsimp only
      rw [hpop]
      exact .kept ⟨rfl, rfl⟩ rfl rfl (slotPacket_setSlot_same rfl)
  | some p =>
      have htook := getPacket_eq_some hget
      dsimp only
      split
      · refine .stored p.ptr ⟨rfl, rfl⟩ hremaining htook rfl rfl ?_
        have hptr : (b.freshPacket desc p).ptr = p.ptr := putTsps_ptr ..
        exact (slotPacket_setSlot ..).trans
          (congrArg (fun ptr => Function.update b.slotPacket b.mWriteIndex (some ptr)) hptr)
      · exact .stored p.ptr ⟨rfl, rfl⟩ hremaining htook rfl rfl (slotPacket_setSlot ..)

theorem writeRecycled_effect {b : LocalVideoBuffer} (desc : TxDesc) (stale : Nat → UInt8)
    {p : AvbPacket} (hp : (b.mRing (b.mWriteIndex - 1)).avbPacket = some p)
    (hw : 0 < b.mWriteIndex) (hremaining : b.remaining ≠ 0) :
    WriteEffect b (b.writeRecycled desc stale p).2 False := by
  have hnote : (b.setSlot b.mWriteIndex (noteMpegTS desc (b.mRing b.mWriteIndex))).slotPacket
      = b.slotPacket := slotPacket_setSlot_same rfl
  -- the packet that is filled up stays in its place
  have hfill : (b.refilled desc p).slotPacket = b.slotPacket := by
    refine (slotPacket_setSlot_same ?_).trans hnote
    show some (putTsps _ _ _ _ _).ptr = _
    rw [putTsps_ptr]
    show some p.ptr = ((Function.update b.mRing b.mWriteIndex _) (b.mWriteIndex - 1)).avbPacket.map _
    rw [Function.update_of_ne (by omega), hp]
    rfl
  unfold writeRecycled
  dsimp only
  split
  · split
    · exact .kept ⟨rfl, rfl⟩ rfl rfl hfill
    · cases hget : b.getPacket stale with
      | none =>
          have hpop : (b.refilled desc p).popPool = b.refilled desc p :=
            popPool_of_none (getPacket_eq_none hget)
          dsimp only
          rw [hpop]
          exact .kept ⟨rfl, rfl⟩ rfl rfl hfill
      | some q =>
          refine .stored q.ptr ⟨rfl, rfl⟩ hremaining (getPacket_eq_some hget) rfl rfl ?_
          refine (slotPacket_setSlot ..).trans ?_
          have hptr : (b.restPacket desc (b.mRing (b.mWriteIndex - 1)).tspsInAvbPacket q).ptr
              = q.ptr := putTsps_ptr ..
          rw [hfill]
          exact congrArg (fun ptr => Function.update b.slotPacket b.mWriteIndex (some ptr)) hptr
  · exact .kept ⟨rfl, rfl⟩ rfl rfl hnote

/-- **`writeMpegTS` forgets no packet.** -/
theorem writeMpegTS_effect (b : LocalVideoBuffer) (desc : TxDesc) (stale : Nat → UInt8) :
    WriteEffect b (b.writeMpegTS desc stale).2 False := by
  unfold writeMpegTS
  split
  · exact .kept ⟨rfl, rfl⟩ rfl rfl rfl
  · rename_i hwrites
    rw [not_or] at hwrites
    split
    · rename_i hrecycles
      cases hp : (b.mRing (b.mWriteIndex - 1)).avbPacket with
      | none => exact .kept ⟨rfl, rfl⟩ rfl rfl rfl
      | some p => exact writeRecycled_effect desc stale hp hrecycles.1.1 hwrites.2
    · exact writeFresh_effect desc stale hwrites.2

/-! ## What every step keeps -/

namespace VideoWorld

theorem Inv.slot_write {v : VideoWorld} (h : Inv v) :
    v.buffer.slotPacket v.buffer.mWriteIndex = none := by
  have hfree := (h.occupied _ h.write_lt).not.mpr (not_between_write _ _)
  rwa [ne_eq, not_not] at hfree

theorem room_of_remaining {b : LocalVideoBuffer} (h : b.remaining ≠ 0) :
    level b.mNumPacketsTotal b.mReadIndex b.mWriteIndex + 1 < b.mNumPacketsTotal := by
  unfold remaining getFillLevel at h
  omega

theorem Inv.write {v : VideoWorld} {b : LocalVideoBuffer} (h : Inv v)
    (he : WriteEffect v.buffer b False) : Inv { v with buffer := b } := by
  cases he with
  | kept shape pool index slots =>
      -- nothing was written: the ring and the pool are as they were
      refine ⟨?_, ?_, ?_, ?_, ?_⟩
      · show b.mReadIndex < b.mNumPacketsTotal
        rw [shape.read, shape.total]
        exact h.read_lt
      · show b.mWriteIndex < b.mNumPacketsTotal
        rw [index, shape.total]
        exact h.write_lt
      · show ∀ i, i < b.mNumPacketsTotal → (b.slotPacket i ≠ none ↔ Between _ _ i)
        rw [shape.total, shape.read, index, slots]
        exact h.occupied
      · show AvbPacketPool.Inv b.mPool
        rw [pool]
        exact h.pool
      · show (collect b.mNumPacketsTotal b.slotPacket ++ v.handed).Perm b.mPool.outstanding
        rw [shape.total, slots, pool]
        exact h.out
  | stored ptr shape room took pool index slots =>
      -- a packet was taken from the pool and put into the next slot
      have hroom := room_of_remaining room
      refine ⟨?_, ?_, ?_, ?_, ?_⟩
      · show b.mReadIndex < b.mNumPacketsTotal
        rw [shape.read, shape.total]
        exact h.read_lt
      · show b.mWriteIndex < b.mNumPacketsTotal
        rw [index, shape.total]
        exact next_lt h.write_lt
      · show ∀ i, i < b.mNumPacketsTotal → (b.slotPacket i ≠ none ↔ Between _ _ i)
        rw [shape.total, shape.read, index, slots]
        intro i hi
        rw [between_next_write h.read_lt hroom hi]
        by_cases hiw : i = v.buffer.mWriteIndex
        · subst hiw
          rw [Function.update_self]
          exact iff_of_true (Option.some_ne_none _) (Or.inr rfl)
        · rw [Function.update_of_ne hiw, or_iff_left hiw]
          exact h.occupied i hi
      · show AvbPacketPool.Inv b.mPool
        rw [pool]
        exact inv_getPacket h.pool
      · show (collect b.mNumPacketsTotal b.slotPacket ++ v.handed).Perm b.mPool.outstanding
        rw [shape.total, slots, pool]
        show List.Perm _ (v.buffer.mPool.pool.getPacket.1.toList ++ v.buffer.mPool.outstanding)
        rw [took]
        exact ((collect_fill h.write_lt h.slot_write).append_right _).trans (h.out.cons ptr)
  | leaked hfalse => exact hfalse.elim

theorem inv_read {v : VideoWorld} (h : Inv v) : Inv (step v .read) := by
  unfold step read
  dsimp only
  split
  · rename_i hfill
    have hread := h.read_lt
    have hsome := (h.occupied _ hread).mpr (between_read hfill)
    obtain ⟨ptr, hptr⟩ := Option.ne_none_iff_exists'.mp hsome
    have hslots : (v.buffer.setSlot v.buffer.mReadIndex
        (takePacket (v.buffer.mRing v.buffer.mReadIndex))).advanceRead.slotPacket
        = Function.update v.buffer.slotPacket v.buffer.mReadIndex none := slotPacket_setSlot ..
    refine ⟨next_lt hread, h.write_lt, fun i hi => ?_, h.pool, ?_⟩
    · show (_ : Option PacketPtr) ≠ none ↔ Between (next v.buffer.mNumPacketsTotal
        v.buffer.mReadIndex) v.buffer.mWriteIndex i
      rw [hslots, between_next_read h.write_lt hfill hi]
      by_cases hir : i = v.buffer.mReadIndex
      · subst hir
        rw [Function.update_self]
        exact iff_of_false (fun hne => hne rfl) fun hne => hne.2 rfl
      · rw [Function.update_of_ne hir, and_iff_left hir]
        exact h.occupied i hi
    · show (collect _ (LocalVideoBuffer.slotPacket _)
        ++ ((v.buffer.slotPacket v.buffer.mReadIndex).toList ++ v.handed)).Perm _
      rw [hslots, hptr]
      refine List.perm_middle.trans ?_
      exact ((collect_empty hread hptr).symm.append_right v.handed).trans h.out
  · exact ⟨h.read_lt, h.write_lt, h.occupied, h.pool, h.out⟩

/-- A packet that is out comes back. -/
theorem giveBack_eq {pool : PoolWorld} {ptr : PacketPtr} (h : ptr ∈ pool.outstanding) :
    giveBack pool ptr = AvbPacketPool.step pool (.returnPacket ptr) := by
  unfold AvbPacketPool.step
  dsimp only
  rw [if_pos h]
  rfl

theorem inv_returned {v : VideoWorld} (h : Inv v) (ptr : PacketPtr) :
    Inv (step v (.returned ptr)) := by
  unfold step
  dsimp only
  split
  · rename_i hmem
    have hout : ptr ∈ v.buffer.mPool.outstanding := h.out.subset (List.mem_append_right _ hmem)
    refine ⟨h.read_lt, h.write_lt, h.occupied, ?_, ?_⟩
    · show AvbPacketPool.Inv (giveBack v.buffer.mPool ptr)
      rw [giveBack_eq hout]
      exact inv_returnPacket h.pool ptr
    · show (v.buffer.ringPackets ++ v.handed.erase ptr).Perm (v.buffer.mPool.outstanding.erase ptr)
      refine List.Perm.cons_inv (a := ptr) ?_
      refine List.perm_middle.symm.trans ?_
      refine ((List.perm_cons_erase hmem).symm.append_left _).trans ?_
      exact h.out.trans (List.perm_cons_erase hout)
  · exact h

/-- What `reset` keeps while it walks the ring. -/
structure Returning (total : Nat) (handed : List PacketPtr) (b : LocalVideoBuffer) : Prop where
  total_eq : b.mNumPacketsTotal = total
  pool : AvbPacketPool.Inv b.mPool
  out : (b.ringPackets ++ handed).Perm b.mPool.outstanding

theorem Returning.resetSlot {total : Nat} {handed : List PacketPtr} {b : LocalVideoBuffer}
    (h : Returning total handed b) {i : Nat} (hi : i < total) :
    Returning total handed (b.resetSlot i)
      ∧ (b.resetSlot i).slotPacket = Function.update b.slotPacket i none := by
  unfold LocalVideoBuffer.resetSlot
  cases hp : (b.mRing i).avbPacket with
  | none =>
      have hslot : b.slotPacket i = none := by unfold slotPacket; rw [hp]; rfl
      refine ⟨h, ?_⟩
      rw [← hslot, Function.update_eq_self]
  | some p =>
      have hslot : b.slotPacket i = some p.ptr := by unfold slotPacket; rw [hp]; rfl
      have hslots : ((b.setPool (giveBack b.mPool p.ptr)).setSlot i
          (clearDesc (b.mRing i))).slotPacket = Function.update b.slotPacket i none :=
        slotPacket_setSlot ..
      have hmem : p.ptr ∈ b.mPool.outstanding :=
        h.out.subset (List.mem_append_left _
          (mem_collect.mpr ⟨i, by rw [h.total_eq]; exact hi, hslot⟩))
      refine ⟨⟨h.total_eq, ?_, ?_⟩, hslots⟩
      · show AvbPacketPool.Inv (giveBack b.mPool p.ptr)
        rw [giveBack_eq hmem]
        exact inv_returnPacket h.pool _
      · show (collect b.mNumPacketsTotal (LocalVideoBuffer.slotPacket _) ++ handed).Perm
          (b.mPool.outstanding.erase p.ptr)
        dsimp only
        rw [hslots]
        refine List.Perm.cons_inv (a := p.ptr) ?_
        rw [← List.cons_append]
        have hempty := collect_empty (by rw [h.total_eq]; exact hi : i < b.mNumPacketsTotal) hslot
        exact (hempty.symm.append_right _).trans (h.out.trans (List.perm_cons_erase hmem))

theorem inv_reset {v : VideoWorld} (h : Inv v) : Inv (step v .reset) := by
  have hwalk : ∀ k, k ≤ v.buffer.mNumPacketsTotal →
      Returning v.buffer.mNumPacketsTotal v.handed
          ((List.range k).foldl LocalVideoBuffer.resetSlot v.buffer)
        ∧ ∀ i, i < k →
          ((List.range k).foldl LocalVideoBuffer.resetSlot v.buffer).slotPacket i = none := by
    intro k
    induction k with
    | zero => exact fun _ => ⟨⟨rfl, h.pool, h.out⟩, fun i hi => absurd hi (Nat.not_lt_zero i)⟩
    | succ k ih =>
        intro hk
        obtain ⟨hret, hnone⟩ := ih (by omega)
        obtain ⟨hret', hslots⟩ := hret.resetSlot (i := k) (by omega)
        rw [List.range_succ, List.foldl_append]
        refine ⟨hret', fun i hi => ?_⟩
        show (LocalVideoBuffer.resetSlot _ k).slotPacket i = none
        rw [hslots]
        by_cases hik : i = k
        · rw [hik, Function.update_self]
        · rw [Function.update_of_ne hik]
          exact hnone i (by omega)
  obtain ⟨hret, hnone⟩ := hwalk _ (Nat.le_refl _)
  have hpos : 0 < v.buffer.mNumPacketsTotal := Nat.lt_of_le_of_lt (Nat.zero_le _) h.read_lt
  have htotal : v.buffer.reset.mNumPacketsTotal = v.buffer.mNumPacketsTotal := hret.total_eq
  refine ⟨?_, ?_, fun i hi => ?_, hret.pool, hret.out⟩
  · show 0 < v.buffer.reset.mNumPacketsTotal
    rw [htotal]
    exact hpos
  · show 0 < v.buffer.reset.mNumPacketsTotal
    rw [htotal]
    exact hpos
  · have hi : i < v.buffer.reset.mNumPacketsTotal := hi
    rw [htotal] at hi
    exact iff_of_false (fun hne => hne (hnone i hi)) (not_between_self 0 i)

theorem inv_step (v : VideoWorld) (e : VideoEvent) (h : Inv v) (hok : StepOk v e) :
    Inv (step v e) := by
  cases e with
  | writeH264 desc stale =>
      refine h.write ?_
      cases writeH264_effect v.buffer desc stale with
      | kept shape pool index slots => exact .kept shape pool index slots
      | stored ptr shape room took pool index slots =>
          exact .stored ptr shape room took pool index slots
      | leaked hleak => exact .leaked (hleak.2.2.2 (hok hleak.1 hleak.2.1 hleak.2.2.1))
  | writeMpegTS desc stale => exact h.write (writeMpegTS_effect v.buffer desc stale)
  | read => exact inv_read h
  | reset => exact inv_reset h
  | returned ptr => exact inv_returned h ptr

theorem not_placed_of_not_stepOk (v : VideoWorld) (e : VideoEvent) (h : Inv v)
    (hbad : ¬ StepOk v e) : ¬ Placed (step v e) := by
  intro hplaced
  cases e with
  | writeH264 desc stale =>
      unfold StepOk at hbad
      simp only [Classical.not_imp] at hbad
      obtain ⟨haccepts, hremaining, hget, hroom⟩ := hbad
      obtain ⟨shape, index, slots⟩ := writeH264_forgets stale haccepts hremaining hget hroom
      -- the place that was advanced over is occupied now and has no packet
      have hw : v.buffer.mWriteIndex < (v.buffer.writeH264 desc stale).2.mNumPacketsTotal := by
        rw [shape.total]
        exact h.write_lt
      refine (hplaced.occupied v.buffer.mWriteIndex hw).mpr ?_ ?_
      · show Between (v.buffer.writeH264 desc stale).2.mReadIndex
          (v.buffer.writeH264 desc stale).2.mWriteIndex _
        rw [shape.read, index, between_next_write h.read_lt
          (room_of_remaining hremaining) h.write_lt]
        exact Or.inr rfl
      · show (v.buffer.writeH264 desc stale).2.slotPacket _ = none
        rw [slots]
        exact h.slot_write
  | writeMpegTS desc stale => exact hbad trivial
  | read => exact hbad trivial
  | reset => exact hbad trivial
  | returned ptr => exact hbad trivial

theorem inv_init {numPackets maxPacketSize payloadOffset : Nat} {pool : PoolWorld}
    {b : LocalVideoBuffer} {handed : List PacketPtr}
    (hinit : LocalVideoBuffer.init numPackets maxPacketSize payloadOffset pool = some b)
    (hpool : AvbPacketPool.Inv pool) (hhanded : handed.Perm pool.outstanding) :
    Inv { buffer := b, handed := handed } := by
  unfold LocalVideoBuffer.init at hinit
  split at hinit
  · cases hinit
  · rename_i hparam
    rw [not_or] at hparam
    cases hinit
    have hpos : 0 < numPackets := by omega
    refine ⟨hpos, hpos, fun i _ => ?_, hpool, ?_⟩
    · exact iff_of_false (fun hne => hne rfl) (not_between_self 0 i)
    · show (collect numPackets (fun _ => none) ++ handed).Perm pool.outstanding
      rw [collect_none fun _ _ => rfl]
      exact hhanded

/--
**When no packet is lost.**

From an empty ring on, whatever others hold of the pool: in every state of a run each
packet of the pool is free, in a place between the reader and the writer or handed out, and
each of these places has a packet — exactly if `writeH264` never gets a packet from the pool
that has not enough room for what it is to write.
-/
theorem placed_iff {numPackets maxPacketSize payloadOffset : Nat} {pool : PoolWorld}
    {b : LocalVideoBuffer} {handed : List PacketPtr}
    (hinit : LocalVideoBuffer.init numPackets maxPacketSize payloadOffset pool = some b)
    (hpool : AvbPacketPool.Inv pool) (hhanded : handed.Perm pool.outstanding)
    (es : List VideoEvent) :
    (∀ pre, pre <+: es → Placed (exec step { buffer := b, handed := handed } pre)) ↔
      Always step StepOk { buffer := b, handed := handed } es :=
  good_iff_always (fun _ => Inv.placed) inv_step not_placed_of_not_stepOk
    (inv_init hinit hpool hhanded)

/-- A pool of two packets of 60 bytes. -/
def smallPool : PoolWorld := AvbPacketPool.step {} (.init 60 2 smallEnv)

theorem inv_smallPool : AvbPacketPool.Inv smallPool :=
  AvbPacketPool.inv_step _ _ AvbPacketPool.inv_init
    (show _ → ¬ FailsLate 60 2 smallEnv from fun _ => by decide)

/-- A ring of three places for packets of 18 bytes, behind a draft 14 header. -/
def smallBuffer : LocalVideoBuffer where
  mNumPacketsTotal := 3
  mMaxPacketSize := 18
  mPool := smallPool
  payloadOffset := 46

def bytes (n : Nat) : TxDesc := { data := List.replicate n 0 }

theorem placed_iff_small :
    (∀ pre, pre <+: [.writeH264 (bytes 14) fun _ => 0, .read] →
        Placed (exec step { buffer := smallBuffer, handed := [] } pre)) ↔
      Always step StepOk { buffer := smallBuffer, handed := [] }
        [.writeH264 (bytes 14) fun _ => 0, .read] :=
  placed_iff (show LocalVideoBuffer.init 3 18 46 smallPool = some smallBuffer from rfl)
    inv_smallPool (List.Perm.refl []) _

/-- Sixteen bytes are no more than `init` was told, and two more than there is room for. One
of the two packets is neither free nor in the ring nor handed out. -/
theorem writeH264_forgets_a_packet :
    LocalVideoBuffer.init 3 18 46 smallPool = some smallBuffer
      ∧ (let v := step { buffer := smallBuffer, handed := [] } (.writeH264 (bytes 16) fun _ => 0)
        v.buffer.Occupied 0 ∧ v.buffer.slotPacket 0 = none ∧ v.buffer.ringPackets = []
          ∧ v.handed = [] ∧ v.buffer.mPool.pool.mFreeBufferStack = [⟨0, 0⟩]
          ∧ v.buffer.mPool.pool.mPoolSize = 2) :=
  ⟨rfl, show Between 0 1 0 by decide, rfl, by decide, rfl, by decide, by decide⟩

end VideoWorld

end LocalVideoBuffer

end AvbStreamHandler
