import AvbStreamHandler.Video.PacketOwnership
import AvbStreamHandler.Video.PacketRoom
import Mathlib.Data.List.Forall2

/-!
# What becomes of the transport stream packets

A client delivers MPEG-TS in packets of its own, `eventOnNewPacketMpegTS` cuts them into
portions that fit one AVB packet, and `writeMpegTS` stores each portion, some of it in the
packet that was written last. Nothing may be lost, doubled or exchanged on the way to the
reader.

An AVB packet carries units of 192 bytes. A TSP that came without its source packet header
takes the last 188 of them, so a TSP is a *suffix* of the unit that carries it.
-/

namespace AvbStreamHandler

open Kit Kit.Run Kit.RingIndex Kit.RingQueue

/-- What a client hands over. A null buffer is an empty one. -/
structure PacketMpegTS where
  data : List UInt8
  sph : Bool := false

deriving instance DecidableEq for TxDesc

namespace LocalVideoBuffer

/-- The first `n` pieces of `size` bytes. -/
def pieces (size : Nat) : Nat → List UInt8 → List (List UInt8)
  | 0, _ => []
  | n + 1, data => data.take size :: pieces size n (data.drop size)

/-- The TSPs of a portion. -/
def tspsOf (desc : TxDesc) : List (List UInt8) :=
  pieces (tspSize desc.hasSph) (tspCount desc) desc.data

/-- The loop of `eventOnNewPacketMpegTS`, from where `tsps` TSPs are left. The first argument
bounds the rounds. -/
def portions (max : Nat) (sph : Bool) : Nat → Nat → List UInt8 → List TxDesc
  | 0, _, _ => []
  | rounds + 1, tsps, data =>
      if 0 < max ∧ max < tsps then
        { data := data.take (max * tspSize sph), isIec61883Packet := true, hasSph := sph }
          :: portions max sph rounds (tsps - max) (data.drop (max * tspSize sph))
      else if tsps ≠ 0 then
        [{ data := data.take (tsps * tspSize sph), isIec61883Packet := true, hasSph := sph }]
      else []

/-- `eventOnNewPacketMpegTS`: the calls of `writeMpegTS` it makes. -/
def eventOnNewPacketMpegTS (maxPacketSize : Nat) (packet : PacketMpegTS) : List TxDesc :=
  if packet.data.length % tspSize packet.sph ≠ 0 then []
  else
    portions (maxPacketSize / 192) packet.sph (packet.data.length / tspSize packet.sph)
      (packet.data.length / tspSize packet.sph) packet.data

/-- The TSPs a client hands over. -/
def tspsOfPacket (packet : PacketMpegTS) : List (List UInt8) :=
  pieces (tspSize packet.sph) (packet.data.length / tspSize packet.sph) packet.data

/-- The 192 bytes of unit `j`. -/
def unitAt (p : AvbPacket) (j : Nat) : List UInt8 := (List.range' (192 * j) 192).map p.payload.cell

/-- The units behind the headers, as far as the packet is long. -/
def unitsOf (payloadOffset : Nat) (p : AvbPacket) : List (List UInt8) :=
  (List.range ((p.len - payloadOffset) / 192)).map (unitAt p)

/-- The packet carries `n` whole units. -/
def Carries (payloadOffset n : Nat) (p : AvbPacket) : Prop := p.len = payloadOffset + 192 * n

/-- A client packet of whole TSPs. -/
def WholeTsps (packet : PacketMpegTS) : Prop := packet.data.length % tspSize packet.sph = 0

instance (packet : PacketMpegTS) : Decidable (WholeTsps packet) :=
  inferInstanceAs (Decidable (_ = _))

/-! ## Cutting into pieces -/

theorem pieces_append (size n m : Nat) (data : List UInt8) :
    pieces size (n + m) data = pieces size n data ++ pieces size m (data.drop (n * size)) := by
  induction n generalizing data with
  | zero => simp [pieces]
  | succ n ih =>
      have hlen : size + n * size = (n + 1) * size := by rw [Nat.succ_mul]; omega
      rw [Nat.succ_add, pieces, pieces, ih, List.drop_drop, hlen, List.cons_append]

/-- The pieces lie in the first `n * size` bytes. -/
theorem pieces_take (size n : Nat) (data : List UInt8) :
    pieces size n (data.take (n * size)) = pieces size n data := by
  induction n generalizing data with
  | zero => rfl
  | succ n ih =>
      have hlen : (n + 1) * size = size + n * size := by rw [Nat.succ_mul]; omega
      rw [pieces, pieces, hlen, List.take_take, Nat.min_eq_left (Nat.le_add_right ..),
        List.drop_take, Nat.add_sub_cancel_left, ih]

theorem tspSize_pos (sph : Bool) : 0 < tspSize sph := by
  cases sph <;> decide

/-- A portion of `k` TSPs that was cut from `data`. -/
theorem tspsOf_portion {sph : Bool} {k : Nat} {data : List UInt8}
    (hlen : k * tspSize sph ≤ data.length) (iec : Bool) :
    tspsOf { data := data.take (k * tspSize sph), isIec61883Packet := iec, hasSph := sph }
      = pieces (tspSize sph) k data := by
  unfold tspsOf tspCount
  dsimp only
  rw [List.length_take, Nat.min_eq_left hlen, Nat.mul_div_cancel _ (tspSize_pos sph), pieces_take]

/-- **The portions make up the packet.** -/
theorem portions_tsps (max : Nat) (sph : Bool) (rounds tsps : Nat) (data : List UInt8)
    (hrounds : tsps ≤ rounds) (hlen : tsps * tspSize sph ≤ data.length) :
    (portions max sph rounds tsps data).flatMap tspsOf = pieces (tspSize sph) tsps data := by
  induction rounds generalizing tsps data with
  | zero =>
      obtain rfl : tsps = 0 := by omega
      rfl
  | succ rounds ih =>
      unfold portions
      split
      · rename_i hmore
        obtain ⟨rest, rfl⟩ : ∃ rest, tsps = max + rest := ⟨tsps - max, by omega⟩
        rw [Nat.add_mul] at hlen
        rw [List.flatMap_cons, tspsOf_portion (by omega), Nat.add_sub_cancel_left,
          ih rest _ (by omega) (by rw [List.length_drop]; omega), ← pieces_append]
      · split
        · rw [List.flatMap_singleton, tspsOf_portion hlen]
        · rename_i hzero
          obtain rfl : tsps = 0 := by omega
          rfl

/-- What `writeMpegTS` may count on: a whole number of TSPs, and no more than fit a packet. -/
def Portion (max : Nat) (desc : TxDesc) : Prop :=
  ∃ k, 0 < k ∧ k ≤ max ∧ desc.data.length = k * tspSize desc.hasSph

theorem portions_portion {max : Nat} (hmax : 0 < max) (sph : Bool) (rounds tsps : Nat)
    (data : List UInt8) (hlen : tsps * tspSize sph ≤ data.length) :
    ∀ desc ∈ portions max sph rounds tsps data, Portion max desc := by
  induction rounds generalizing tsps data with
  | zero => exact fun desc hmem => absurd hmem List.not_mem_nil
  | succ rounds ih =>
      unfold portions
      intro desc hmem
      split at hmem
      · rename_i hmore
        obtain ⟨rest, rfl⟩ : ∃ rest, tsps = max + rest := ⟨tsps - max, by omega⟩
        rw [Nat.add_mul] at hlen
        rcases List.mem_cons.mp hmem with rfl | hrest
        · refine ⟨max, hmax, Nat.le_refl _, ?_⟩
          show (data.take (max * tspSize sph)).length = _
          rw [List.length_take, Nat.min_eq_left (by omega)]
        · rw [Nat.add_sub_cancel_left] at hrest
          exact ih rest _ (by rw [List.length_drop]; omega) desc hrest
      · rename_i hmore
        split at hmem
        · rename_i htsps
          obtain rfl := List.mem_singleton.mp hmem
          refine ⟨tsps, by omega, by omega, ?_⟩
          show (data.take (tsps * tspSize sph)).length = _
          rw [List.length_take, Nat.min_eq_left hlen]
        · exact absurd hmem List.not_mem_nil

/-- What the calls of `writeMpegTS` get is what the client handed over. -/
theorem eventOnNewPacketMpegTS_tsps (maxPacketSize : Nat) {packet : PacketMpegTS}
    (hwhole : WholeTsps packet) :
    (eventOnNewPacketMpegTS maxPacketSize packet).flatMap tspsOf = tspsOfPacket packet := by
  unfold eventOnNewPacketMpegTS
  unfold WholeTsps at hwhole
  rw [if_neg (not_not_intro hwhole)]
  exact portions_tsps _ _ _ _ _ (Nat.le_refl _) (Nat.div_mul_le_self ..)

theorem eventOnNewPacketMpegTS_portion {maxPacketSize : Nat} (hmax : 192 ≤ maxPacketSize)
    (packet : PacketMpegTS) :
    ∀ desc ∈ eventOnNewPacketMpegTS maxPacketSize packet, Portion (maxPacketSize / 192) desc := by
  unfold eventOnNewPacketMpegTS
  intro desc hmem
  split at hmem
  · exact absurd hmem List.not_mem_nil
  · exact portions_portion (by omega) _ _ _ _ (Nat.div_mul_le_self ..) desc hmem

/-! ## Writing units behind units -/

variable {off used n : Nat} {sph : Bool} {data : List UInt8} {p : AvbPacket}

theorem unitsOf_of_carries (h : Carries off n p) : unitsOf off p = (List.range n).map (unitAt p) := by
  unfold unitsOf
  rw [h, Nat.add_sub_cancel_left, Nat.mul_div_cancel_left _ (by decide)]

theorem length_unitsOf (h : Carries off n p) : (unitsOf off p).length = n := by
  rw [unitsOf_of_carries h, List.length_map, List.length_range]

theorem unitAt_copyIn_lt {q : AvbPacket} {dst len : Nat} {src : Nat → UInt8} {j : Nat}
    (hq : q.payload = p.payload.copyIn dst src len) (hj : 192 * (j + 1) ≤ dst) :
    unitAt q j = unitAt p j := by
  unfold unitAt
  rw [hq]
  refine List.map_congr_left fun i hi => ?_
  have hrange := List.mem_range'_1.mp hi
  exact if_neg (by omega)

/-- **A TSP that was copied to the end of a unit is a suffix of it.** -/
theorem take_suffix_unitAt {q : AvbPacket} {gap size : Nat} (hunit : gap + size = 192)
    (hlen : size ≤ data.length)
    (hq : q.payload = p.payload.copyIn (192 * used + gap) (fun i => data.getD i 0) size) :
    data.take size <:+ unitAt q used := by
  refine ⟨(List.range' (192 * used) gap).map q.payload.cell, ?_⟩
  have hsplit : List.range' (192 * used) 192
      = List.range' (192 * used) gap ++ List.range' (192 * used + gap) size := by
    rw [List.range'_append_1, hunit]
  unfold unitAt
  rw [hsplit, List.map_append]
  congr 1
  refine List.ext_getElem (by simp [hlen]) fun i hi _ => ?_
  rw [List.length_take] at hi
  rw [List.getElem_take, List.getElem_map, List.getElem_range', hq]
  show _ = if _ then _ else _
  rw [if_pos (by omega), List.getD_eq_getElem?_getD]
  have hsub : 192 * used + gap + 1 * i - (192 * used + gap) = i := by omega
  rw [hsub, List.getElem?_eq_getElem (by omega), Option.getD_some]

/-- **The loop over TSPs appends one unit a round.** -/
theorem putTsps_units (hp : Carries off used p) (hlen : n * tspSize sph ≤ data.length) :
    Carries off (used + n) (putTsps sph n (192 * used) data p)
      ∧ ∃ units, unitsOf off (putTsps sph n (192 * used) data p) = unitsOf off p ++ units
          ∧ List.Forall₂ (· <:+ ·) (pieces (tspSize sph) n data) units := by
  induction n generalizing used data p with
  | zero => exact ⟨hp, [], (List.append_nil _).symm, List.Forall₂.nil⟩
  | succ n ih =>
      have hunit := unit_eq sph
      have hsize : (n + 1) * tspSize sph = tspSize sph + n * tspSize sph := by
        rw [Nat.succ_mul]; omega
      let q : AvbPacket := { p with
        len := p.len + sphGap sph + tspSize sph
        payload := p.payload.copyIn (192 * used + sphGap sph) (fun i => data.getD i 0)
          (tspSize sph) }
      have hq : Carries off (used + 1) q := by
        show p.len + sphGap sph + tspSize sph = _
        rw [hp]
        omega
      have hpayload : q.payload = p.payload.copyIn (192 * used + sphGap sph)
        (fun i => data.getD i 0) (tspSize sph) := rfl
      have hptr : 192 * used + sphGap sph + tspSize sph = 192 * (used + 1) := by omega
      have hstep : putTsps sph (n + 1) (192 * used) data p
          = putTsps sph n (192 * (used + 1)) (data.drop (tspSize sph)) q := by
        rw [putTsps, hptr]
      obtain ⟨hcarries, units, hunits, hmatch⟩ :=
        @ih (used + 1) (data.drop (tspSize sph)) q hq (by rw [List.length_drop]; omega)
      have hold : unitsOf off q = unitsOf off p ++ [unitAt q used] := by
        rw [unitsOf_of_carries hq, unitsOf_of_carries hp, List.range_succ, List.map_append]
        congr 1
        refine List.map_congr_left fun j hj => unitAt_copyIn_lt hpayload ?_
        have hlt := List.mem_range.mp hj
        omega
      rw [hstep]
      refine ⟨?_, unitAt q used :: units, ?_, ?_⟩
      · have hsum : used + 1 + n = used + (n + 1) := by omega
        rwa [hsum] at hcarries
      · rw [hunits, hold, List.append_assoc, List.singleton_append]
      · exact List.Forall₂.cons (take_suffix_unitAt hunit (by omega) hpayload) hmatch

/-! ## The two sides of the ring -/

/-- The ring, what went into it and what came out. -/
structure FlowWorld where
  video : VideoWorld
  /-- The TSPs that were written, in order. -/
  given : List (List UInt8) := []
  /-- The packets that were read, as they were then. -/
  sent : List AvbPacket := []

inductive FlowEvent
  | write (desc : TxDesc) (stale : Nat → UInt8)
  | read
  | returned (ptr : PacketPtr)

/-- The packets in the ring, the oldest first. -/
def queued (b : LocalVideoBuffer) : List AvbPacket :=
  (contents b.mNumPacketsTotal b.mReadIndex b.mWriteIndex b.mRing).filterMap RingDesc.avbPacket

/-- The calls of `writeMpegTS` in a run. -/
def writesOf : List FlowEvent → List TxDesc
  | [] => []
  | .write desc _ :: es => desc :: writesOf es
  | .read :: es => writesOf es
  | .returned _ :: es => writesOf es

namespace FlowWorld

def start (b : LocalVideoBuffer) : FlowWorld where
  video := { buffer := b, handed := [] }

def step (f : FlowWorld) : FlowEvent → FlowWorld
  | .write desc stale =>
      { f with video := f.video.step (.writeMpegTS desc stale), given := f.given ++ tspsOf desc }
  | .read =>
      { f with
        video := f.video.step .read
        sent := f.sent ++ (f.video.buffer.read.1.bind RingDesc.avbPacket).toList }
  | .returned ptr => { f with video := f.video.step (.returned ptr) }

/-- All packets there have been, the oldest first. -/
def packets (f : FlowWorld) : List AvbPacket := f.sent ++ f.video.buffer.queued

/-- The ring is not full and the pool not empty, as the calls of the writer presuppose. The
portion fits behind the headers, and no TSP with a source packet header comes behind others
in a packet that is recycled. -/
def StepOk (f : FlowWorld) : FlowEvent → Prop
  | .write desc _ =>
      f.video.buffer.remaining ≠ 0 ∧ f.video.buffer.mPool.pool.getPacket.1 ≠ none
        ∧ f.video.buffer.HasHeadroom desc.data.length
        ∧ (f.video.buffer.Recycles → desc.hasSph = true →
            (f.video.buffer.mRing (f.video.buffer.mWriteIndex - 1)).tspsInAvbPacket = 0)
  | _ => True

instance (f : FlowWorld) (e : FlowEvent) : Decidable (f.StepOk e) := by
  cases e <;> (unfold StepOk; infer_instance)

/-- The packets carry `input`, TSP by TSP, and none carries more than its size allows. -/
structure Flows (input : List (List UInt8)) (f : FlowWorld) : Prop where
  tsps : List.Forall₂ (· <:+ ·) input
    (f.packets.flatMap (unitsOf f.video.buffer.payloadOffset))
  fits : ∀ p ∈ f.packets,
    (unitsOf f.video.buffer.payloadOffset p).length * 192 ≤ f.video.buffer.mMaxPacketSize

end FlowWorld

/-! ## The packets of the ring as a queue -/

/-- A descriptor whose packet carries what the descriptor says. -/
def Sound (off max : Nat) (d : RingDesc) : Prop :=
  d.tspsInAvbPacket ≤ max ∧ ∃ p, d.avbPacket = some p ∧ Carries off d.tspsInAvbPacket p

/-- The ring holds the descriptors `q`, and each of them is sound. -/
structure Queue (b : LocalVideoBuffer) (q : List RingDesc) : Prop where
  holds : Holds b.mNumPacketsTotal b.mReadIndex b.mWriteIndex b.mRing q
  sound : ∀ d ∈ q, Sound b.payloadOffset b.maxTspsInAvbPacket d

/-! ## What the writer appends -/

variable {b b' : LocalVideoBuffer} {q : List RingDesc} {desc : TxDesc} {tsps : List (List UInt8)}

/-- The units of the packets in a queue. -/
def unitsIn (off : Nat) (q : List RingDesc) : List (List UInt8) :=
  (q.filterMap RingDesc.avbPacket).flatMap (unitsOf off)

/-- The queue behind `q` carries `tsps` at its end. -/
def Gains (q : List RingDesc) (b' : LocalVideoBuffer) (tsps : List (List UInt8)) : Prop :=
  ∃ q' units, Queue b' q' ∧ unitsIn b'.payloadOffset q' = unitsIn b'.payloadOffset q ++ units
    ∧ List.Forall₂ (· <:+ ·) tsps units

theorem unitsIn_append {q : List RingDesc} {d : RingDesc} (hd : d.avbPacket = some p) :
    unitsIn off (q ++ [d]) = unitsIn off q ++ unitsOf off p := by
  unfold unitsIn
  rw [List.filterMap_append, List.flatMap_append, List.filterMap_cons_some hd, List.filterMap_nil,
    List.flatMap_singleton]

theorem unitsIn_cons {q : List RingDesc} {d : RingDesc} (hd : d.avbPacket = some p) :
    unitsIn off (d :: q) = unitsOf off p ++ unitsIn off q := by
  unfold unitsIn
  rw [List.filterMap_cons_some hd, List.flatMap_cons]

theorem Queue.unitsIn_queued (h : Queue b q) :
    b.queued.flatMap (unitsOf b.payloadOffset) = unitsIn b.payloadOffset q := by
  unfold queued unitsIn
  rw [h.holds.contents_eq]

theorem Queue.length_eq (h : Queue b q) : b.getFillLevel = q.length := h.holds.level

theorem Queue.room (h : Queue b q) (hremaining : b.remaining ≠ 0) :
    q.length + 1 < b.mNumPacketsTotal := by
  have hlevel := h.length_eq
  unfold remaining at hremaining
  omega

/-- Appending to what was appended. -/
theorem Gains.trans {b₁ b₂ : LocalVideoBuffer} {tsps₁ tsps₂ : List (List UInt8)}
    (h₁ : Gains q b₁ tsps₁) (hoff : b₂.payloadOffset = b₁.payloadOffset)
    (h₂ : ∀ q₁, Queue b₁ q₁ → Gains q₁ b₂ tsps₂) : Gains q b₂ (tsps₁ ++ tsps₂) := by
  obtain ⟨q₁, units₁, hq₁, hunits₁, hmatch₁⟩ := h₁
  obtain ⟨q₂, units₂, hq₂, hunits₂, hmatch₂⟩ := h₂ q₁ hq₁
  refine ⟨q₂, units₁ ++ units₂, hq₂, ?_, List.rel_append hmatch₁ hmatch₂⟩
  rw [hunits₂, hoff, hunits₁, List.append_assoc]

/-- **A packet of its own.** -/
theorem Queue.store (hq : Queue b q) (hroom : q.length + 1 < b.mNumPacketsTotal)
    (hn : n ≤ b.maxTspsInAvbPacket) (hlen : n * tspSize sph ≤ data.length) (p : AvbPacket)
    (d : RingDesc) :
    Gains q
      (((b.setSlot b.mWriteIndex
        (storeMpegTS desc (putTsps sph n 0 data (b.headerOnly p)) n d)).popPool).advanceWrite)
      (pieces (tspSize sph) n data) := by
  have hempty : Carries b.payloadOffset 0 (b.headerOnly p) := rfl
  obtain ⟨hcarries, units, hunits, hmatch⟩ := putTsps_units hempty hlen
  rw [Nat.zero_add] at hcarries
  refine ⟨_, units, ⟨hq.holds.push hroom _, ?_⟩, ?_, hmatch⟩
  · intro d' hd'
    rcases List.mem_append.mp hd' with hd' | hd'
    · exact hq.sound d' hd'
    · rw [List.mem_singleton.mp hd']
      exact ⟨hn, _, rfl, hcarries⟩
  · refine (unitsIn_append rfl).trans ?_
    rw [unitsOf_of_carries hempty] at hunits
    exact congrArg (_ ++ ·) hunits

/-- The TSPs of a portion are in one place, or in two. -/
theorem tspsForThis_add_tspsForNext (hused : used ≤ b.maxTspsInAvbPacket) :
    b.tspsForThis desc used + b.tspsForNext desc used = tspCount desc := by
  unfold tspsForThis tspsForNext
  split <;> omega

theorem tspsForThis_le (hused : used ≤ b.maxTspsInAvbPacket) :
    used + b.tspsForThis desc used ≤ b.maxTspsInAvbPacket := by
  unfold tspsForThis
  split <;> omega

theorem tspsForThis_len (b : LocalVideoBuffer) (desc : TxDesc) (used : Nat) :
    b.tspsForThis desc used * tspSize desc.hasSph ≤ desc.data.length := by
  have hcount : tspCount desc * tspSize desc.hasSph ≤ desc.data.length := Nat.div_mul_le_self ..
  refine Nat.le_trans (Nat.mul_le_mul_right _ ?_) hcount
  unfold tspsForThis
  split <;> omega

/-- Behind the TSPs a packet carries already, unless these are pushed too far. -/
theorem recyclePtr_eq (h : desc.hasSph = true → used = 0) : recyclePtr desc used = 192 * used := by
  unfold recyclePtr tspSize sphSize
  cases hsph : desc.hasSph with
  | false => exact Nat.mul_comm ..
  | true => rw [h hsph, Nat.zero_mul]

/-- **The packet that was written last.** -/
theorem Queue.refill (hq : Queue b q) (hrecycles : b.Recycles)
    (hp : (b.mRing (b.mWriteIndex - 1)).avbPacket = some p)
    (hsph : desc.hasSph = true → (b.mRing (b.mWriteIndex - 1)).tspsInAvbPacket = 0) :
    Gains q (b.refilled desc p)
      (pieces (tspSize desc.hasSph)
        (b.tspsForThis desc (b.mRing (b.mWriteIndex - 1)).tspsInAvbPacket) desc.data) := by
  have hw := hrecycles.1.1
  have hfill := hrecycles.2.2.2.2.1
  rw [hq.length_eq] at hfill
  rcases List.eq_nil_or_concat q with rfl | ⟨front, last, hconcat⟩
  · exact absurd hfill (by simp)
  rw [List.concat_eq_append] at hconcat
  subst hconcat
  have hlast := hq.holds.last hw
  rw [hlast] at hp hsph ⊢
  obtain ⟨hused, p', hp', hcarries⟩ := hq.sound last (by simp)
  obtain rfl : p' = p := Option.some.inj (hp'.symm.trans hp)
  have hlen := b.tspsForThis_len desc last.tspsInAvbPacket
  obtain ⟨hcarries', units, hunits, hmatch⟩ := putTsps_units hcarries hlen
  have hring : b.refilled desc p'
      = (b.setSlot b.mWriteIndex (noteMpegTS desc (b.mRing b.mWriteIndex))).setSlot
        (b.mWriteIndex - 1)
        (LocalVideoBuffer.refill
          (putTsps desc.hasSph (b.tspsForThis desc last.tspsInAvbPacket)
            (192 * last.tspsInAvbPacket) desc.data p')
          (last.tspsInAvbPacket + b.tspsForThis desc last.tspsInAvbPacket) last) := by
    unfold refilled
    dsimp only
    rw [hlast, recyclePtr_eq hsph]
  rw [hring]
  refine ⟨_, units, ⟨(hq.holds.update_write _).update_last hw _, ?_⟩, ?_, hmatch⟩
  · intro d hd
    rcases List.mem_append.mp hd with hd | hd
    · exact hq.sound d (List.mem_append_left _ hd)
    · rw [List.mem_singleton.mp hd]
      exact ⟨tspsForThis_le hused, _, rfl, hcarries'⟩
  · refine (unitsIn_append rfl).trans ?_
    refine (congrArg (_ ++ ·) hunits).trans ?_
    exact (List.append_assoc ..).symm.trans (congrArg (· ++ units) (unitsIn_append hp').symm)

theorem getPacket_of_ne_none (hget : b.mPool.pool.getPacket.1 ≠ none) (stale : Nat → UInt8) :
    ∃ p, b.getPacket stale = some p := by
  obtain ⟨ptr, hptr⟩ := Option.ne_none_iff_exists'.mp hget
  exact ⟨_, congrArg (Option.map _) hptr⟩

/-- Neither writer changes what the ring was set up with. -/
structure SameSetup (b b' : LocalVideoBuffer) : Prop where
  size : b'.mMaxPacketSize = b.mMaxPacketSize
  offset : b'.payloadOffset = b.payloadOffset

theorem sameSetup_writeMpegTS (b : LocalVideoBuffer) (desc : TxDesc) (stale : Nat → UInt8) :
    SameSetup b (b.writeMpegTS desc stale).2 := by
  unfold writeMpegTS
  split
  · exact ⟨rfl, rfl⟩
  · split
    · split
      · exact ⟨rfl, rfl⟩
      · unfold writeRecycled
        dsimp only
        split
        · split
          · exact ⟨rfl, rfl⟩
          · split <;> exact ⟨rfl, rfl⟩
        · exact ⟨rfl, rfl⟩
    · unfold writeFresh
      dsimp only
      split
      · exact ⟨rfl, rfl⟩
      · split <;> exact ⟨rfl, rfl⟩

/-- **A portion arrives at the end of the queue, whole and in order.** -/
theorem Queue.writeMpegTS (hq : Queue b q) (hportion : Portion b.maxTspsInAvbPacket desc)
    (stale : Nat → UInt8) (hremaining : b.remaining ≠ 0)
    (hget : b.mPool.pool.getPacket.1 ≠ none) (hhead : b.HasHeadroom desc.data.length)
    (hsph : b.Recycles → desc.hasSph = true →
      (b.mRing (b.mWriteIndex - 1)).tspsInAvbPacket = 0) :
    Gains q (b.writeMpegTS desc stale).2 (tspsOf desc) := by
  obtain ⟨k, hpos, hk, hlen⟩ := hportion
  have hcount : tspCount desc = k := by
    unfold tspCount
    rw [hlen, Nat.mul_div_cancel _ (tspSize_pos _)]
  -- the portion fits a packet, so it is not turned away
  have haccepts : b.accepts desc = true := by
    have hmax : k * tspSize desc.hasSph ≤ b.mMaxPacketSize := by
      have hsize : tspSize desc.hasSph ≤ 192 := by cases desc.hasSph <;> decide
      have hall : b.mMaxPacketSize / 192 * 192 ≤ b.mMaxPacketSize := Nat.div_mul_le_self ..
      have hk' : k ≤ b.mMaxPacketSize / 192 := hk
      exact Nat.le_trans (Nat.mul_le_mul hk' hsize) hall
    have hne : k * tspSize desc.hasSph ≠ 0 :=
      Nat.mul_ne_zero (by omega) (Nat.pos_iff_ne_zero.mp (tspSize_pos _))
    unfold accepts
    rw [hlen, decide_eq_true hne, decide_eq_true hmax]
    rfl
  have hroom := hq.room hremaining
  unfold LocalVideoBuffer.writeMpegTS
  rw [if_neg (by simp [haccepts, hremaining])]
  by_cases hrecycles : b.Recycles
  · rw [if_pos hrecycles]
    obtain ⟨p, hp⟩ := Option.isSome_iff_exists.mp hrecycles.2.1
    rw [hp]
    -- the youngest packet is filled up first, and a new one takes the rest
    have hused := Nat.le_of_lt hrecycles.2.2.2.1
    have hsum := @tspsForThis_add_tspsForNext _ b desc hused
    have hthis := hq.refill hrecycles hp (hsph hrecycles)
    show Gains q (b.writeRecycled desc stale p).2 (tspsOf desc)
    unfold writeRecycled tspsOf
    dsimp only
    rw [if_pos hhead, ← hsum]
    split
    · rename_i hnext
      rwa [hnext, Nat.add_zero]
    · obtain ⟨p', hp'⟩ := getPacket_of_ne_none hget stale
      rw [hp', pieces_append]
      refine hthis.trans rfl fun q₁ hq₁ => ?_
      have hroom₁ : q₁.length + 1 < b.mNumPacketsTotal := by
        rw [← hq₁.length_eq]
        exact hq.length_eq ▸ hroom
      refine hq₁.store hroom₁ ?_ ?_ p' _
      · exact Nat.le_trans (by omega) hk
      · rw [List.length_drop, hlen, ← hcount, ← hsum, Nat.add_mul]
        omega
  · rw [if_neg hrecycles]
    -- a new packet takes all of them
    obtain ⟨p, hp⟩ := getPacket_of_ne_none hget stale
    unfold writeFresh
    dsimp only
    rw [hp]
    dsimp only
    rw [if_pos hhead]
    exact hq.store hroom (Nat.le_trans (Nat.le_of_eq hcount) hk) (Nat.div_mul_le_self ..) p _

/-! ## What every step keeps -/

namespace FlowWorld

structure Inv (maxPacketSize : Nat) (f : FlowWorld) : Prop where
  size : f.video.buffer.mMaxPacketSize = maxPacketSize
  queue : ∃ q, Queue f.video.buffer q
  sent : ∀ p ∈ f.sent, ∃ n, n ≤ f.video.buffer.maxTspsInAvbPacket
    ∧ Carries f.video.buffer.payloadOffset n p
  tsps : List.Forall₂ (· <:+ ·) f.given
    (f.packets.flatMap (unitsOf f.video.buffer.payloadOffset))

variable {maxPacketSize : Nat} {f : FlowWorld}

/-- A write by the rules. -/
theorem inv_write (h : Inv maxPacketSize f) {desc : TxDesc} {stale : Nat → UInt8}
    (hok : f.StepOk (.write desc stale)) (hportion : Portion (maxPacketSize / 192) desc) :
    Inv maxPacketSize (f.step (.write desc stale)) := by
  obtain ⟨q, hq⟩ := h.queue
  obtain ⟨hremaining, hget, hhead, hsph⟩ := hok
  have hsetup := sameSetup_writeMpegTS f.video.buffer desc stale
  have hfits : Portion f.video.buffer.maxTspsInAvbPacket desc := by
    unfold maxTspsInAvbPacket
    rw [h.size]
    exact hportion
  obtain ⟨q', units, hq', hunits, hmatch⟩ :=
    hq.writeMpegTS hfits stale hremaining hget hhead hsph
  refine ⟨hsetup.size.trans h.size, ⟨q', hq'⟩, ?_, ?_⟩
  · intro p hp
    obtain ⟨n, hn, hcarries⟩ := h.sent p hp
    refine ⟨n, ?_, hsetup.offset.symm ▸ hcarries⟩
    unfold maxTspsInAvbPacket at hn ⊢
    rwa [← hsetup.size] at hn
  · have htsps := h.tsps
    unfold packets at htsps ⊢
    rw [List.flatMap_append, hq.unitsIn_queued] at htsps
    show List.Forall₂ _ (f.given ++ tspsOf desc) ((f.sent ++
      (f.video.buffer.writeMpegTS desc stale).2.queued).flatMap
        (unitsOf (f.video.buffer.writeMpegTS desc stale).2.payloadOffset))
    rw [List.flatMap_append, hq'.unitsIn_queued, hunits, hsetup.offset, ← List.append_assoc]
    exact List.rel_append htsps hmatch

/-- The oldest packet goes from the ring to the reader. -/
theorem inv_read (h : Inv maxPacketSize f) : Inv maxPacketSize (f.step .read) := by
  obtain ⟨q, hq⟩ := h.queue
  cases q with
  | nil =>
      have hread : f.video.buffer.read = (none, f.video.buffer) := by
        unfold LocalVideoBuffer.read
        rw [if_neg (by rw [hq.length_eq]; exact Nat.lt_irrefl 0)]
      have hstep : f.step .read = { f with video := f.video } := by
        unfold step VideoWorld.step
        dsimp only
        rw [hread]
        simp
      rw [hstep]
      exact h
  | cons d q =>
      -- the oldest packet leaves the queue and is sent
      obtain ⟨hfits, p, hp, hcarries⟩ := hq.sound d List.mem_cons_self
      have hhead := hq.holds.head
      have hread : f.video.buffer.read = (some d,
          (f.video.buffer.setSlot f.video.buffer.mReadIndex (takePacket d)).advanceRead) := by
        unfold LocalVideoBuffer.read
        rw [if_pos (by rw [hq.length_eq]; exact Nat.succ_pos _)]
        dsimp only
        rw [hhead]
      have hq' : Queue
          (f.video.buffer.setSlot f.video.buffer.mReadIndex (takePacket d)).advanceRead q :=
        ⟨hq.holds.pop _, fun d' hd' => hq.sound d' (List.mem_cons_of_mem d hd')⟩
      have hbuffer : (f.step .read).video.buffer
          = (f.video.buffer.setSlot f.video.buffer.mReadIndex (takePacket d)).advanceRead :=
        congrArg Prod.snd hread
      have hsent : (f.step .read).sent = f.sent ++ [p] := by
        show f.sent ++ (f.video.buffer.read.1.bind RingDesc.avbPacket).toList = _
        rw [hread]
        exact congrArg (f.sent ++ ·.toList) hp
      refine ⟨?_, ⟨q, hbuffer ▸ hq'⟩, ?_, ?_⟩
      · rw [hbuffer]
        exact h.size
      · rw [hbuffer, hsent]
        intro p' hp'
        rcases List.mem_append.mp hp' with hold | hnew
        · exact h.sent p' hold
        · exact ⟨_, hfits, List.mem_singleton.mp hnew ▸ hcarries⟩
      · have htsps := h.tsps
        unfold packets at htsps ⊢
        rw [List.flatMap_append, hq.unitsIn_queued, unitsIn_cons hp] at htsps
        rw [hsent, hbuffer, List.flatMap_append, hq'.unitsIn_queued, List.flatMap_append,
          List.flatMap_singleton, List.append_assoc]
        exact htsps

theorem inv_returned (h : Inv maxPacketSize f) (ptr : PacketPtr) :
    Inv maxPacketSize (f.step (.returned ptr)) := by
  unfold step VideoWorld.step
  dsimp only
  split
  · exact ⟨h.size, h.queue.imp fun q hq => ⟨hq.holds, hq.sound⟩, h.sent, h.tsps⟩
  · exact h

/-- The guard of a run: the rules, and portions as the client side makes them. -/
theorem inv_step (f : FlowWorld) (e : FlowEvent) (h : Inv maxPacketSize f)
    (hok : f.StepOk e ∧ ∀ desc ∈ writesOf [e], Portion (maxPacketSize / 192) desc) :
    Inv maxPacketSize (f.step e) := by
  cases e with
  | write desc stale => exact inv_write h hok.1 (hok.2 desc List.mem_cons_self)
  | read => exact inv_read h
  | returned ptr => exact inv_returned h ptr

theorem Inv.flows (h : Inv maxPacketSize f) : Flows f.given f := by
  obtain ⟨q, hq⟩ := h.queue
  refine ⟨h.tsps, fun p hp => ?_⟩
  have hcarries : ∃ n, n ≤ f.video.buffer.maxTspsInAvbPacket
      ∧ Carries f.video.buffer.payloadOffset n p := by
    rcases List.mem_append.mp hp with hsent | hqueued
    · exact h.sent p hsent
    · unfold queued at hqueued
      rw [hq.holds.contents_eq] at hqueued
      obtain ⟨d, hd, hpacket⟩ := List.mem_filterMap.mp hqueued
      obtain ⟨hfits, p', hp', hcarries⟩ := hq.sound d hd
      exact ⟨_, hfits, Option.some.inj (hp'.symm.trans hpacket) ▸ hcarries⟩
  obtain ⟨n, hn, hp⟩ := hcarries
  rw [length_unitsOf hp]
  exact Nat.le_trans (Nat.mul_le_mul_right _ hn) (Nat.div_mul_le_self ..)

theorem inv_start {numPackets payloadOffset : Nat} {pool : AvbPacketPool.PoolWorld}
    {b : LocalVideoBuffer} (hinit : init numPackets maxPacketSize payloadOffset pool = some b) :
    Inv maxPacketSize (start b) := by
  unfold init at hinit
  split at hinit
  · cases hinit
  · rename_i hargs
    rw [not_or] at hargs
    have hb := Option.some.inj hinit
    have hpos : 0 < numPackets := by omega
    have hq : Queue b [] := by
      rw [← hb]
      exact ⟨holds_nil hpos, fun d hd => absurd hd List.not_mem_nil⟩
    refine ⟨hb ▸ rfl, ⟨[], hq⟩, fun p hp => absurd hp List.not_mem_nil, ?_⟩
    show List.Forall₂ _ [] (([] ++ b.queued).flatMap (unitsOf b.payloadOffset))
    rw [List.nil_append, hq.unitsIn_queued]
    exact List.Forall₂.nil

theorem given_exec (f : FlowWorld) (es : List FlowEvent) :
    (exec step f es).given = f.given ++ (writesOf es).flatMap tspsOf := by
  induction es generalizing f with
  | nil => exact (List.append_nil _).symm
  | cons e es ih =>
      rw [exec_cons, ih]
      cases e with
      | write desc stale =>
          show f.given ++ tspsOf desc ++ _ = f.given ++ (desc :: writesOf es).flatMap tspsOf
          rw [List.flatMap_cons, List.append_assoc]
      | read => rfl
      | returned ptr => rfl

theorem writes_portions (hmax : 192 ≤ maxPacketSize) {clients : List PacketMpegTS}
    {es : List FlowEvent}
    (hwrites : writesOf es <+: clients.flatMap (eventOnNewPacketMpegTS maxPacketSize)) :
    ∀ e ∈ es, ∀ desc ∈ writesOf [e], Portion (maxPacketSize / 192) desc := by
  intro e he desc hdesc
  have hmem : desc ∈ writesOf es := by
    clear hwrites
    induction es with
    | nil => exact absurd he List.not_mem_nil
    | cons e' es ih =>
        rcases List.mem_cons.mp he with rfl | hrest
        · cases e with
          | write desc' stale => exact List.mem_cons.mpr (Or.inl (List.mem_singleton.mp hdesc))
          | read => exact absurd hdesc List.not_mem_nil
          | returned ptr => exact absurd hdesc List.not_mem_nil
        · cases e' with
          | write desc' stale => exact List.mem_cons_of_mem _ (ih hrest)
          | read => exact ih hrest
          | returned ptr => exact ih hrest
  obtain ⟨packet, -, hpacket⟩ := List.mem_flatMap.mp (hwrites.subset hmem)
  exact eventOnNewPacketMpegTS_portion hmax packet desc hpacket

/--
**No TSP is lost, doubled or exchanged.**

For every ring with room for at least one TSP in a packet, every sequence of client packets
of whole TSPs, with and without source packet headers, and every interleaving of the writer
with the reader and the transmitter, by the rules: at every point of the run, the packets
that were read and those in the ring carry the TSPs that were written, in order, and none of
them carries more than its size allows. Once all client packets are written, these are the
TSPs of all client packets.
-/
theorem flows_of_stepOk {numPackets payloadOffset : Nat} {pool : AvbPacketPool.PoolWorld}
    {b : LocalVideoBuffer} (hinit : init numPackets maxPacketSize payloadOffset pool = some b)
    (hmax : 192 ≤ maxPacketSize) {clients : List PacketMpegTS}
    (hwhole : ∀ packet ∈ clients, WholeTsps packet) {es : List FlowEvent}
    (hwrites : writesOf es <+: clients.flatMap (eventOnNewPacketMpegTS maxPacketSize))
    (hok : Always step StepOk (start b) es) :
    ∃ input, input <+: clients.flatMap tspsOfPacket
      ∧ (writesOf es = clients.flatMap (eventOnNewPacketMpegTS maxPacketSize) →
          input = clients.flatMap tspsOfPacket)
      ∧ Flows input (exec step (start b) es) := by
  have hinv := @inv_exec _ _ _ _ (Inv maxPacketSize) inv_step _ _ (inv_start hinit)
    (always_and_mem hok (writes_portions hmax hwrites))
  have hall : (clients.flatMap (eventOnNewPacketMpegTS maxPacketSize)).flatMap tspsOf
      = clients.flatMap tspsOfPacket := by
    rw [List.flatMap_assoc]
    refine List.flatMap_congr fun packet hpacket => ?_
    exact eventOnNewPacketMpegTS_tsps maxPacketSize (hwhole packet hpacket)
  have hgiven := given_exec (start b) es
  rw [show (start b).given = [] from rfl, List.nil_append] at hgiven
  refine ⟨_, ?_, fun hdone => ?_, hgiven ▸ hinv.flows⟩
  · rw [← hall]
    obtain ⟨rest, hrest⟩ := hwrites
    rw [← hrest, List.flatMap_append]
    exact List.prefix_append ..
  · rw [hdone, hall]

/-- Three client packets of one TSP each, the last with a source packet header, written into a
ring for packets of three TSPs; the reader takes one in between. -/
def mixedClients : List PacketMpegTS :=
  [⟨(oneTsp false).data, false⟩, ⟨(oneTsp false).data, false⟩, ⟨(oneTsp true).data, true⟩]

def mixedRun : List FlowEvent :=
  [.write (oneTsp false) fun _ => 0, .read, .write (oneTsp false) fun _ => 0,
    .write (oneTsp true) fun _ => 0]

theorem flows_of_stepOk_mixed : ∃ input, input <+: mixedClients.flatMap tspsOfPacket
    ∧ (writesOf mixedRun = mixedClients.flatMap (eventOnNewPacketMpegTS 584) →
        input = mixedClients.flatMap tspsOfPacket)
    ∧ Flows input (exec step (start (mpegTsBuffer 584)) mixedRun) :=
  flows_of_stepOk (show init 8 584 50 _ = some (mpegTsBuffer 584) from rfl) (by decide)
    (by decide +kernel) (by decide +kernel) (by decide +kernel)

/-- Four client packets, each of one TSP with its source packet header. -/
def headedRun : List FlowEvent := List.replicate 4 (.write (oneTsp true) fun _ => 0)

/-- The fourth TSP goes behind the third, into the same packet, and four bytes too far. -/
theorem source_packet_header_shifts_the_tsp :
    writesOf headedRun
        = (List.replicate 4 (PacketMpegTS.mk (oneTsp true).data true)).flatMap
          (eventOnNewPacketMpegTS 584)
      ∧ Always step (fun f _ => f.video.buffer.remaining ≠ 0
          ∧ f.video.buffer.mPool.pool.getPacket.1 ≠ none) (start (mpegTsBuffer 584)) headedRun
      ∧ ¬ Flows (List.replicate 4 (oneTsp true).data)
          (exec step (start (mpegTsBuffer 584)) headedRun) := by
  refine ⟨by decide +kernel, by decide +kernel, fun h => ?_⟩
  have hmatch := h.tsps
  revert hmatch
  decide +kernel

end FlowWorld

end LocalVideoBuffer

end AvbStreamHandler
