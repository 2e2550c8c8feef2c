import AvbStreamHandler.Video.SourcePacketHeaders

/-!
# Where the TSPs stand in the ring

Whatever is in the ring, its descriptor has been set up for MPEG-TS without any SPH, its packet
is as long as its TSPs make it, and what is recorded of them is where the client's bytes lie.
As long as none of them came with an SPH, their units follow each other without a gap.
-/

namespace AvbStreamHandler

open Kit Kit.RingIndex Kit.RingQueue LocalVideoBuffer VideoTxStream PlacedTsp

namespace TsTalker

/-! ## What a client hands over -/

variable {maxPacketSize : Nat} {sph : Bool} {off n : Nat} {b b' : LocalVideoBuffer}
  {desc : TxDesc} {tsps : Nat → List PlacedTsp} {p : AvbPacket} {data : List UInt8}

theorem portions_flags (max : Nat) (sph : Bool) (rounds tsps : Nat) (data : List UInt8) :
    ∀ desc ∈ portions max sph rounds tsps data,
      desc.isIec61883Packet = true ∧ desc.hasSph = sph := by
  induction rounds generalizing tsps data with
  | zero => exact fun desc hmem => absurd hmem List.not_mem_nil
  | succ rounds ih =>
      unfold portions
      intro desc hmem
      split at hmem
      · rcases List.mem_cons.mp hmem with rfl | hrest
        · exact ⟨rfl, rfl⟩
        · exact ih _ _ desc hrest
      · split at hmem
        · obtain rfl := List.mem_singleton.mp hmem
          exact ⟨rfl, rfl⟩
        · exact absurd hmem List.not_mem_nil

/-- A call of `writeMpegTS` as `eventOnNewPacketMpegTS` makes it. -/
structure Pushed (maxPacketSize : Nat) (desc : TxDesc) : Prop where
  iec : desc.isIec61883Packet = true
  fits : desc.data.length ≤ maxPacketSize → tspCount desc ≤ cMaxTsps

theorem pushed_of_mem (hsize : maxPacketSize < 65536) {packet : PacketMpegTS}
    (hmem : desc ∈ eventOnNewPacketMpegTS maxPacketSize packet) :
    Pushed maxPacketSize desc ∧ desc.hasSph = packet.sph := by
  have hflags : desc.isIec61883Packet = true ∧ desc.hasSph = packet.sph := by
    unfold eventOnNewPacketMpegTS at hmem
    split at hmem
    · exact absurd hmem List.not_mem_nil
    · exact portions_flags _ _ _ _ _ desc hmem
  refine ⟨⟨hflags.1, fun haccepted => ?_⟩, hflags.2⟩
  unfold tspCount cMaxTsps
  rcases Nat.lt_or_ge maxPacketSize 192 with hsmall | hlarge
  · -- there is no room for a TSP, and one of 188 bytes is let through all the same
    have hle : desc.data.length / tspSize desc.hasSph ≤ desc.data.length / 188 :=
      Nat.div_le_div_left (by cases desc.hasSph <;> decide) (by decide)
    omega
  · obtain ⟨k, -, hk, hlen⟩ := eventOnNewPacketMpegTS_portion hlarge packet desc hmem
    rw [hlen, Nat.mul_div_cancel _ (tspSize_pos _)]
    omega

/-! ## Where the TSPs go -/

theorem mem_placed {start : Nat} {tsp : PlacedTsp} :
    tsp ∈ placed sph start n ↔ ∃ k, k < n ∧ tsp = ⟨start + 192 * k, sph⟩ := by
  unfold placed
  simp only [List.mem_map, List.mem_range, eq_comm]

theorem length_placed (sph : Bool) (start n : Nat) : (placed sph start n).length = n := by
  unfold placed
  rw [List.length_map, List.length_range]

theorem placed_zero (sph : Bool) (start : Nat) : placed sph start 0 = [] := rfl

theorem placed_add (sph : Bool) (start n k : Nat) :
    placed sph start (n + k) = placed sph start n ++ placed sph (start + 192 * n) k := by
  unfold placed
  rw [List.range_add, List.map_append, List.map_map]
  congr 1
  refine List.map_congr_left fun j _ => ?_
  show PlacedTsp.mk (start + 192 * (n + j)) sph = ⟨start + 192 * n + 192 * j, sph⟩
  rw [Nat.mul_add, Nat.add_assoc]

theorem putTsps_len (sph : Bool) (n writePtr : Nat) (data : List UInt8) (p : AvbPacket) :
    (putTsps sph n writePtr data p).len = p.len + 192 * n := by
  have hunit := unit_eq sph
  induction n generalizing writePtr data p with
  | zero => rfl
  | succ n ih =>
      rw [putTsps, ih]
      dsimp only
      omega

/-- **The loop over TSPs writes where they are placed.** -/
theorem mem_touched_putTsps (sph : Bool) (n writePtr : Nat) (data : List UInt8) (p : AvbPacket)
    (i : Nat) : i ∈ (putTsps sph n writePtr data p).payload.touched ↔
      i ∈ p.payload.touched ∨ ∃ tsp ∈ placed sph writePtr n, tsp.Covers i := by
  have hunit := unit_eq sph
  induction n generalizing writePtr data p with
  | zero => simp [putTsps, placed_zero]
  | succ n ih =>
      have hfirst : placed sph writePtr (n + 1)
          = ⟨writePtr, sph⟩ :: placed sph (writePtr + 192) n := by
        rw [Nat.add_comm n 1, placed_add]
        rfl
      have hptr : writePtr + sphGap sph + tspSize sph = writePtr + 192 := by omega
      rw [putTsps]
      refine (ih ..).trans ?_
      rw [hfirst, hptr]
      show i ∈ _ ++ List.range' (writePtr + sphGap sph) (tspSize sph) ∨ _ ↔ _
      rw [List.mem_append, List.mem_range'_1, or_assoc, hptr]
      simp only [List.mem_cons, exists_eq_or_imp]
      rfl

/-! ## The places of the ring -/

/-- A place of the ring, and what its packet carries. -/
structure Slot (off : Nat) (x : RingDesc × List PlacedTsp) : Prop where
  iec : x.1.isIec61883Packet = true
  fits : x.1.tspsInAvbPacket ≤ cMaxTsps
  count : x.2.length = x.1.tspsInAvbPacket
  /-- Without SPHs there is no gap. -/
  aligned : (∀ tsp ∈ x.2, tsp.sph = false) → x.2 = placed false 0 x.1.tspsInAvbPacket
  packet : ∃ p, x.1.avbPacket = some p ∧ p.len = off + 192 * x.1.tspsInAvbPacket
    ∧ ∀ i, i ∈ p.payload.touched ↔ ∃ tsp ∈ x.2, tsp.Covers i

/-- The ring with what is recorded of it. -/
def pairs (b : LocalVideoBuffer) (tsps : Nat → List PlacedTsp) : Nat → RingDesc × List PlacedTsp :=
  fun i => (b.mRing i, tsps i)

/-- The places between the reader and the writer are in order, and no place knows of an SPH. -/
structure Lined (off : Nat) (b : LocalVideoBuffer) (tsps : Nat → List PlacedTsp) : Prop where
  blind : ∀ i, (b.mRing i).hasSph = false
  queue : ∃ q, RingQueue.Holds b.mNumPacketsTotal b.mReadIndex b.mWriteIndex (pairs b tsps) q
    ∧ ∀ x ∈ q, Slot off x

/-- A packet that was filled from its beginning. -/
theorem slot_fresh {d : RingDesc} (hiec : desc.isIec61883Packet = true) (hn : n ≤ cMaxTsps)
    (hlen : p.len = off) (htouched : p.payload.touched = []) :
    Slot off (storeMpegTS desc (putTsps sph n 0 data p) n (noteMpegTS desc d),
      placed sph 0 n) where
  iec := hiec
  fits := hn
  count := length_placed ..
  aligned hplain := by
    dsimp only at hplain ⊢
    cases n with
    | zero => rfl
    | succ n =>
        have hfirst := hplain ⟨0, sph⟩ (mem_placed.mpr ⟨0, Nat.succ_pos n, rfl⟩)
        rw [show sph = false from hfirst]
        rfl
  packet := by
    refine ⟨_, rfl, ?_, fun i => ?_⟩
    · rw [putTsps_len, hlen]
      rfl
    · rw [mem_touched_putTsps, htouched]
      simp

/-- A packet to which `n` TSPs were added. -/
theorem slot_refill {x : RingDesc × List PlacedTsp} (hx : Slot off x)
    (hp : x.1.avbPacket = some p) (hn : x.1.tspsInAvbPacket + n ≤ cMaxTsps) :
    Slot off
      (LocalVideoBuffer.refill
        (putTsps desc.hasSph n (recyclePtr desc x.1.tspsInAvbPacket) desc.data p)
        (x.1.tspsInAvbPacket + n) x.1,
      x.2 ++ placed desc.hasSph (recyclePtr desc x.1.tspsInAvbPacket) n) where
  iec := hx.iec
  fits := hn
  count := by
    rw [List.length_append, length_placed, hx.count]
    rfl
  aligned hplain := by
    dsimp only at hplain ⊢
    have hold := hx.aligned fun tsp htsp => hplain tsp (List.mem_append_left _ htsp)
    rw [hold]
    show _ = placed false 0 (x.1.tspsInAvbPacket + n)
    rw [placed_add, Nat.zero_add]
    congr 1
    cases n with
    | zero => rfl
    | succ n =>
        have hnew := hplain ⟨recyclePtr desc x.1.tspsInAvbPacket, desc.hasSph⟩
          (List.mem_append_right _ (mem_placed.mpr ⟨0, Nat.succ_pos n, rfl⟩))
        have hsph : desc.hasSph = false := hnew
        rw [recyclePtr_eq (fun hsph' => absurd (hsph.symm.trans hsph') Bool.false_ne_true), hsph]
  packet := by
    obtain ⟨p', hp', hlen, htouched⟩ := hx.packet
    obtain rfl : p' = p := Option.some.inj (hp'.symm.trans hp)
    refine ⟨_, rfl, ?_, fun i => ?_⟩
    · rw [putTsps_len, hlen]
      show _ = off + 192 * (x.1.tspsInAvbPacket + n)
      rw [Nat.mul_add, Nat.add_assoc]
    · rw [mem_touched_putTsps, htouched]
      simp only [List.mem_append, or_and_right, exists_or]

/-! ## What the writer does to them -/

theorem blind_update {ring : Nat → RingDesc} {i : Nat} {d : RingDesc}
    (h : ∀ i, (ring i).hasSph = false) (hd : d.hasSph = false) (k : Nat) :
    (Function.update ring i d k).hasSph = false := by
  by_cases hk : k = i
  · subst hk
    rw [Function.update_self]
    exact hd
  · rw [Function.update_of_ne hk]
    exact h k

theorem touched_getPacket {stale : Nat → UInt8} (h : b.getPacket stale = some p) :
    p.payload.touched = [] := by
  obtain ⟨ptr, -, rfl⟩ := Option.map_eq_some_iff.mp h
  rfl

theorem pairs_write {d : RingDesc} (hring : b'.mRing = Function.update b.mRing b.mWriteIndex d) :
    pairs b' (recorded b b' desc tsps) = Function.update (pairs b tsps) b.mWriteIndex
      (d, placed desc.hasSph 0 d.tspsInAvbPacket) := by
  funext i
  unfold pairs recorded
  rw [hring]
  by_cases hi : i = b.mWriteIndex
  · subst hi
    rw [if_pos rfl, Function.update_self, Function.update_self]
  · rw [if_neg hi, Function.update_of_ne hi, Function.update_of_ne hi, Nat.sub_self, placed_zero,
      List.append_nil]

theorem pairs_refill {d : RingDesc} (hw : 0 < b.mWriteIndex)
    (hring : b'.mRing = Function.update (Function.update b.mRing b.mWriteIndex d)
      (b.mWriteIndex - 1) (LocalVideoBuffer.refill p
        ((b.mRing (b.mWriteIndex - 1)).tspsInAvbPacket + n) (b.mRing (b.mWriteIndex - 1)))) :
    pairs b' (recorded b b' desc tsps)
      = Function.update (Function.update (pairs b tsps) b.mWriteIndex
          (d, placed desc.hasSph 0 d.tspsInAvbPacket)) (b.mWriteIndex - 1)
          (LocalVideoBuffer.refill p ((b.mRing (b.mWriteIndex - 1)).tspsInAvbPacket + n)
              (b.mRing (b.mWriteIndex - 1)),
            tsps (b.mWriteIndex - 1) ++ placed desc.hasSph
              (recyclePtr desc (b.mRing (b.mWriteIndex - 1)).tspsInAvbPacket) n) := by
  have hne : b.mWriteIndex ≠ b.mWriteIndex - 1 := by omega
  funext i
  unfold pairs recorded
  rw [hring]
  by_cases hi : i = b.mWriteIndex - 1
  · subst hi
    rw [if_neg hne.symm, Function.update_self, Function.update_self]
    show (_, _ ++ placed _ _ (_ + n - _)) = _
    rw [Nat.add_sub_cancel_left]
  · rw [Function.update_of_ne hi, Function.update_of_ne hi]
    by_cases hi' : i = b.mWriteIndex
    · subst hi'
      rw [if_pos rfl, Function.update_self, Function.update_self]
    · rw [if_neg hi', Function.update_of_ne hi', Function.update_of_ne hi', Nat.sub_self,
        placed_zero, List.append_nil]

/-- The indices have not moved. -/
structure Still (b b' : LocalVideoBuffer) : Prop where
  total : b'.mNumPacketsTotal = b.mNumPacketsTotal
  read : b'.mReadIndex = b.mReadIndex
  write : b'.mWriteIndex = b.mWriteIndex

/-- The writer has gone on. -/
structure Moved (b b' : LocalVideoBuffer) : Prop where
  total : b'.mNumPacketsTotal = b.mNumPacketsTotal
  read : b'.mReadIndex = b.mReadIndex
  write : b'.mWriteIndex = next b.mNumPacketsTotal b.mWriteIndex

/-- Something is noted in the place at the write index, if anything. -/
theorem Lined.note (h : Lined off b tsps) {d : RingDesc} (hd : d.hasSph = false)
    (hring : b'.mRing = Function.update b.mRing b.mWriteIndex d) (hstill : Still b b') :
    Lined off b' (recorded b b' desc tsps) := by
  obtain ⟨q, hq, hslots⟩ := h.queue
  refine ⟨?_, q, ?_, hslots⟩
  · rw [hring]
    exact blind_update h.blind hd
  · rw [pairs_write hring, hstill.total, hstill.read, hstill.write]
    exact hq.update_write _

/-- The place at the write index gets a packet. -/
theorem Lined.store (h : Lined off b tsps) {d : RingDesc}
    (hslot : Slot off (d, placed desc.hasSph 0 d.tspsInAvbPacket)) (hd : d.hasSph = false)
    (hring : b'.mRing = Function.update b.mRing b.mWriteIndex d) (hmoved : Moved b b')
    (hroom : b.getFillLevel + 1 < b.mNumPacketsTotal) :
    Lined off b' (recorded b b' desc tsps) := by
  obtain ⟨q, hq, hslots⟩ := h.queue
  have hlevel : b.getFillLevel = q.length := hq.level
  rw [hlevel] at hroom
  refine ⟨?_, q ++ [(d, placed desc.hasSph 0 d.tspsInAvbPacket)], ?_, ?_⟩
  · rw [hring]
    exact blind_update h.blind hd
  · rw [pairs_write hring, hmoved.total, hmoved.read, hmoved.write]
    exact hq.push hroom _
  · intro x hx
    rcases List.mem_append.mp hx with hold | hnew
    · exact hslots x hold
    · rwa [List.mem_singleton.mp hnew]

section Recycled

variable {used : Nat}

/-- The packet that was written last, filled up. -/
theorem Lined.refill (h : Lined off b tsps) (hrecycles : b.Recycles)
    (hused : used = (b.mRing (b.mWriteIndex - 1)).tspsInAvbPacket)
    (hp : (b.mRing (b.mWriteIndex - 1)).avbPacket = some p) (hn : used + n ≤ cMaxTsps) :
    ∃ q, RingQueue.Holds b.mNumPacketsTotal b.mReadIndex b.mWriteIndex
        (Function.update (pairs b tsps) (b.mWriteIndex - 1)
          (LocalVideoBuffer.refill (putTsps desc.hasSph n (recyclePtr desc used) desc.data p)
            (used + n) (b.mRing (b.mWriteIndex - 1)),
          tsps (b.mWriteIndex - 1) ++ placed desc.hasSph (recyclePtr desc used) n)) q
      ∧ q.length = b.getFillLevel ∧ ∀ x ∈ q, Slot off x := by
  obtain ⟨q, hq, hslots⟩ := h.queue
  have hw := hrecycles.1.1
  have hfill : b.getFillLevel = q.length := hq.level
  subst hused
  rcases List.eq_nil_or_concat q with rfl | ⟨front, last, hconcat⟩
  · have hsome := hrecycles.2.2.2.2.1
    rw [hfill] at hsome
    exact absurd hsome (by simp)
  rw [List.concat_eq_append] at hconcat
  subst hconcat
  have hlast := hq.last hw
  refine ⟨_, hq.update_last hw _, ?_, fun x hx => ?_⟩
  · rw [hfill, List.length_append, List.length_append]
    rfl
  · rcases List.mem_append.mp hx with hfront | hnew
    · exact hslots x (List.mem_append_left _ hfront)
    · rw [List.mem_singleton.mp hnew]
      have hslot : Slot off (pairs b tsps (b.mWriteIndex - 1)) := by
        rw [hlast]
        exact hslots last (List.mem_append_right _ List.mem_cons_self)
      exact slot_refill hslot hp hn

variable (hrecycles : b.Recycles) (hp : (b.mRing (b.mWriteIndex - 1)).avbPacket = some p)
  (hused : used = (b.mRing (b.mWriteIndex - 1)).tspsInAvbPacket)
  (hn : used + b.tspsForThis desc used ≤ cMaxTsps)
include hrecycles hp hused hn

/-- All that was to be written has found its place there, or nothing else has. -/
theorem Lined.refilled (h : Lined off b tsps) (hring : b'.mRing = (b.refilled desc p).mRing)
    (hstill : Still b b') : Lined off b' (recorded b b' desc tsps) := by
  have hw := hrecycles.1.1
  have hne : b.mWriteIndex ≠ b.mWriteIndex - 1 := by omega
  obtain ⟨q, hq, -, hslots⟩ := h.refill hrecycles hused hp hn
  subst hused
  refine ⟨?_, q, ?_, hslots⟩
  · rw [hring]
    exact blind_update (blind_update h.blind (h.blind b.mWriteIndex)) (h.blind (b.mWriteIndex - 1))
  · rw [pairs_refill hw hring, hstill.total, hstill.read, hstill.write, Function.update_comm hne]
    exact hq.update_write _

/-- The rest gets a packet of its own. -/
theorem Lined.refilled_store (h : Lined off b tsps) {d : RingDesc}
    (hslot : Slot off (d, placed desc.hasSph 0 d.tspsInAvbPacket)) (hd : d.hasSph = false)
    (hring : b'.mRing = Function.update (b.refilled desc p).mRing b.mWriteIndex d)
    (hmoved : Moved b b') (hroom : b.getFillLevel + 1 < b.mNumPacketsTotal) :
    Lined off b' (recorded b b' desc tsps) := by
  have hw := hrecycles.1.1
  have hne : b.mWriteIndex ≠ b.mWriteIndex - 1 := by omega
  obtain ⟨q, hq, hlength, hslots⟩ := h.refill hrecycles hused hp hn
  subst hused
  -- the place at the write index is written twice, the last one once
  have hring' : b'.mRing = Function.update (Function.update b.mRing b.mWriteIndex d)
      (b.mWriteIndex - 1)
      (LocalVideoBuffer.refill
        (putTsps desc.hasSph
          (b.tspsForThis desc (b.mRing (b.mWriteIndex - 1)).tspsInAvbPacket)
          (recyclePtr desc (b.mRing (b.mWriteIndex - 1)).tspsInAvbPacket) desc.data p)
        ((b.mRing (b.mWriteIndex - 1)).tspsInAvbPacket
          + b.tspsForThis desc (b.mRing (b.mWriteIndex - 1)).tspsInAvbPacket)
        (b.mRing (b.mWriteIndex - 1))) := by
    rw [Function.update_comm hne, ← Function.update_idem (f := Function.update b.mRing _ _),
      ← Function.update_comm hne]
    exact hring
  refine ⟨?_, q ++ [(d, placed desc.hasSph 0 d.tspsInAvbPacket)], ?_, ?_⟩
  · rw [hring']
    exact blind_update (blind_update h.blind hd) (h.blind (b.mWriteIndex - 1))
  · rw [pairs_refill hw hring', hmoved.total, hmoved.read, hmoved.write, Function.update_comm hne]
    exact hq.push (by rw [hlength]; exact hroom) _
  · intro x hx
    rcases List.mem_append.mp hx with hold | hnew
    · exact hslots x hold
    · rwa [List.mem_singleton.mp hnew]

end Recycled

/-- **A call of `writeMpegTS` leaves the places in order.** -/
theorem Lined.writeMpegTS (h : Lined b.payloadOffset b tsps)
    (hpushed : Pushed b.mMaxPacketSize desc) (hmax : b.maxTspsInAvbPacket ≤ cMaxTsps)
    (stale : Nat → UInt8) :
    Lined b.payloadOffset (b.writeMpegTS desc stale).2
      (recorded b (b.writeMpegTS desc stale).2 desc tsps) := by
  have hnoted : (noteMpegTS desc (b.mRing b.mWriteIndex)).hasSph = false := h.blind _
  have hstill : Still b b := ⟨rfl, rfl, rfl⟩
  unfold LocalVideoBuffer.writeMpegTS
  split
  · exact h.note (h.blind b.mWriteIndex) (Function.update_eq_self ..).symm hstill
  rename_i hwrites
  rw [not_or, Bool.not_eq_false] at hwrites
  have hcount : tspCount desc ≤ cMaxTsps := by
    have haccepts := hwrites.1
    unfold accepts at haccepts
    rw [Bool.and_eq_true, decide_eq_true_eq, decide_eq_true_eq] at haccepts
    exact hpushed.fits haccepts.2
  have hroom : b.getFillLevel + 1 < b.mNumPacketsTotal := by
    have hremaining := hwrites.2
    unfold remaining at hremaining
    omega
  split
  · rename_i hrecycles
    obtain ⟨p, hp⟩ := Option.isSome_iff_exists.mp hrecycles.2.1
    have hused := Nat.le_of_lt hrecycles.2.2.2.1
    have hthis := Nat.le_trans (@tspsForThis_le _ b desc hused) hmax
    rw [hp]
    dsimp only
    unfold writeRecycled
    dsimp only
    split
    · split
      · exact h.refilled hrecycles hp rfl hthis rfl ⟨rfl, rfl, rfl⟩
      · cases hget : b.getPacket stale with
        | none => exact h.refilled hrecycles hp rfl hthis rfl ⟨rfl, rfl, rfl⟩
        | some fresh =>
            have hnext : b.tspsForNext desc (b.mRing (b.mWriteIndex - 1)).tspsInAvbPacket
                ≤ cMaxTsps := by
              have hsum := @tspsForThis_add_tspsForNext _ b desc hused
              omega
            have hslot : Slot b.payloadOffset
                (storeMpegTS desc
                  (b.restPacket desc (b.mRing (b.mWriteIndex - 1)).tspsInAvbPacket fresh)
                  (b.tspsForNext desc (b.mRing (b.mWriteIndex - 1)).tspsInAvbPacket)
                  (noteMpegTS desc (b.mRing b.mWriteIndex)), placed desc.hasSph 0
                  (b.tspsForNext desc (b.mRing (b.mWriteIndex - 1)).tspsInAvbPacket)) :=
              slot_fresh hpushed.iec hnext rfl
                (touched_getPacket hget : fresh.payload.touched = [])
            exact h.refilled_store hrecycles hp rfl hthis hslot hnoted rfl ⟨rfl, rfl, rfl⟩ hroom
    · exact h.note hnoted rfl ⟨rfl, rfl, rfl⟩
  · unfold writeFresh
    dsimp only
    cases hget : b.getPacket stale with
    | none => exact h.note hnoted rfl ⟨rfl, rfl, rfl⟩
    | some fresh =>
        -- with headroom or without, the place gets a packet of its own
        have hslot : ∀ k, k ≤ cMaxTsps → Slot b.payloadOffset
            (storeMpegTS desc (putTsps desc.hasSph k 0 desc.data (b.headerOnly fresh)) k
              (noteMpegTS desc (b.mRing b.mWriteIndex)), placed desc.hasSph 0 k) :=
          fun k hk => slot_fresh hpushed.iec hk rfl
            (touched_getPacket hget : fresh.payload.touched = [])
        dsimp only
        split
        · exact h.store (hslot _ hcount) hnoted rfl ⟨rfl, rfl, rfl⟩ hroom
        · exact h.store (hslot 0 (Nat.zero_le _)) hnoted rfl ⟨rfl, rfl, rfl⟩ hroom

/-! ## What the reader does, and the end -/

/-- There is nothing to be read, or a packet in order. -/
theorem Lined.read_cases (h : Lined off b tsps) :
    b.read = (none, b)
      ∨ ∃ d p, b.read.1 = some d ∧ d.avbPacket = some p
        ∧ d.hasSph = false ∧ Slot off (d, tsps b.mReadIndex) ∧ Lined off b.read.2 tsps := by
  obtain ⟨q, hq, hslots⟩ := h.queue
  have hlevel : b.getFillLevel = q.length := hq.level
  cases q with
  | nil =>
      left
      unfold LocalVideoBuffer.read
      rw [if_neg (by rw [hlevel]; exact Nat.lt_irrefl 0)]
  | cons x q =>
      have hread : b.read = (some (b.mRing b.mReadIndex),
          (b.setSlot b.mReadIndex (takePacket (b.mRing b.mReadIndex))).advanceRead) := by
        unfold LocalVideoBuffer.read
        rw [if_pos (by rw [hlevel]; exact Nat.succ_pos _)]
      have hhead : pairs b tsps b.mReadIndex = x := hq.head
      have hslot : Slot off (b.mRing b.mReadIndex, tsps b.mReadIndex) := by
        show Slot off (pairs b tsps b.mReadIndex)
        rw [hhead]
        exact hslots x List.mem_cons_self
      obtain ⟨p, hp, -⟩ := hslot.packet
      rw [hread]
      refine Or.inr ⟨_, p, rfl, hp, h.blind _, hslot, ⟨?_, q, ?_, ?_⟩⟩
      · exact blind_update h.blind (h.blind b.mReadIndex)
      · have hpairs : pairs
            (b.setSlot b.mReadIndex (takePacket (b.mRing b.mReadIndex))).advanceRead tsps
            = Function.update (pairs b tsps) b.mReadIndex
              (takePacket (b.mRing b.mReadIndex), tsps b.mReadIndex) := by
          funext i
          show (Function.update b.mRing _ _ i, tsps i) = _
          by_cases hi : i = b.mReadIndex
          · subst hi
            rw [Function.update_self, Function.update_self]
          · rw [Function.update_of_ne hi, Function.update_of_ne hi]
            rfl
        rw [hpairs]
        exact hq.pop _
      · exact fun x hx => hslots x (List.mem_cons_of_mem _ hx)

/-- What `reset` leaves as it is. -/
structure Kept (b b' : LocalVideoBuffer) : Prop where
  total : b'.mNumPacketsTotal = b.mNumPacketsTotal
  size : b'.mMaxPacketSize = b.mMaxPacketSize
  offset : b'.payloadOffset = b.payloadOffset
  blind : (∀ i, (b.mRing i).hasSph = false) → ∀ i, (b'.mRing i).hasSph = false

theorem kept_resetSlots (b : LocalVideoBuffer) (is : List Nat) :
    Kept b (is.foldl LocalVideoBuffer.resetSlot b) := by
  induction is generalizing b with
  | nil => exact ⟨rfl, rfl, rfl, id⟩
  | cons i is ih =>
      have hslot : Kept b (b.resetSlot i) := by
        unfold LocalVideoBuffer.resetSlot
        split
        · exact ⟨rfl, rfl, rfl, id⟩
        · exact ⟨rfl, rfl, rfl, fun hblind => blind_update hblind rfl⟩
      have hrest := ih (b.resetSlot i)
      exact ⟨hrest.total.trans hslot.total, hrest.size.trans hslot.size,
        hrest.offset.trans hslot.offset, fun hblind => hrest.blind (hslot.blind hblind)⟩

theorem kept_reset (b : LocalVideoBuffer) : Kept b b.reset :=
  have h := kept_resetSlots b (List.range b.mNumPacketsTotal)
  ⟨h.total, h.size, h.offset, h.blind⟩

theorem Lined.reset (h : Lined off b tsps) : Lined off b.reset tsps := by
  obtain ⟨q, hq, -⟩ := h.queue
  have hpos : 0 < b.reset.mNumPacketsTotal := by
    rw [(kept_reset b).total]
    exact Nat.lt_of_le_of_lt (Nat.zero_le _) hq.read_lt
  exact ⟨(kept_reset b).blind h.blind, [], holds_nil hpos, fun x hx => absurd hx List.not_mem_nil⟩

end TsTalker

end AvbStreamHandler
