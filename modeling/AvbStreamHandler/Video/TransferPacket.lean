import AvbStreamHandler.Kit.Memory
import AvbStreamHandler.Kit.Word
import Mathlib.Tactic.Linarith
import Mathlib.Tactic.Ring

/-!
# A packet in a slot of the shared ring

`TransferPacketH264` and `TransferPacketMpegTS`: what a slot of the shared memory holds. The
last member of each struct is the first byte of the payload, and the payload goes on behind
it. The layout is the one of the 64-bit ABI, with eight bytes for a `size_t`:

* `TransferPacketH264`: `size` at 0, `data` at 8; the struct takes 16 bytes.
* `TransferPacketMpegTS`: `sph` at 0, `size` at 8, `data` at 16; the struct takes 24 bytes.

Slot `k` of slots of `bufferSize` bytes begins at byte `k * bufferSize` of the data area.
Nothing keeps a write from going on into the next slot.
-/

namespace AvbStreamHandler

open Kit

inductive IasAvbVideoFormat
  | eIasAvbVideoFormatIec61883
  | eIasAvbVideoFormatRtp
deriving DecidableEq, Repr

/-- `sizeof` of the transfer packet of a format. -/
def sizeofTransferPacket : IasAvbVideoFormat → Nat
  | .eIasAvbVideoFormatIec61883 => 24
  | .eIasAvbVideoFormatRtp => 16

/-- Where `data` stands in it. -/
def dataOffset : IasAvbVideoFormat → Nat
  | .eIasAvbVideoFormatIec61883 => 16
  | .eIasAvbVideoFormatRtp => 8

namespace TransferPacket

/-- A `size_t` in memory, least significant byte first. -/
def sizeBytes (n i : Nat) : UInt8 := UInt8.ofNat (n / 256 ^ i)

/-- The `size_t` at `base`. -/
def readSize (cell : Nat → UInt8) (base : Nat) : Nat :=
  (List.range 8).foldr (fun i n => (cell (base + i)).toNat + 256 * n) 0

/-- `packet->size = size`, and the copy of the payload. -/
def putH264 (m : Memory UInt8) (dataPtr size : Nat) (data : Nat → UInt8) : Memory UInt8 :=
  (m.copyIn dataPtr (sizeBytes size) 8).copyIn (dataPtr + 8) data size

/-- `packet->size = size`, `packet->sph = sph`, and the copy of the payload. -/
def putMpegTS (m : Memory UInt8) (dataPtr : Nat) (sph : Bool) (size : Nat) (data : Nat → UInt8) :
    Memory UInt8 :=
  ((m.copyIn (dataPtr + 8) (sizeBytes size) 8).copyIn dataPtr
    (fun _ => if sph then 1 else 0) 1).copyIn (dataPtr + 16) data size

/-- What a reader makes of an H.264 slot: `uint32_t(packet->size)` bytes from `data` on. -/
def getH264 (cell : Nat → UInt8) (dataPtr : Nat) : List UInt8 :=
  (List.range' (dataPtr + 8) (readSize cell dataPtr % 4294967296)).map cell

/-- The same for an MPEG-TS slot, with the `sph` flag. -/
def getMpegTS (cell : Nat → UInt8) (dataPtr : Nat) : Bool × List UInt8 :=
  (decide (cell dataPtr ≠ 0),
    (List.range' (dataPtr + 16) (readSize cell (dataPtr + 8) % 4294967296)).map cell)

/-! ## Reading back -/

theorem digits (n : Nat) (h : n < 18446744073709551616) :
    (List.range 8).foldr (fun i m => (sizeBytes n i).toNat + 256 * m) 0 = n := by
  have hbyte : ∀ i, (sizeBytes n i).toNat = n / 256 ^ i % 256 := fun i => UInt8.toNat_ofNat'
  simp only [List.range_succ, List.range_zero, List.nil_append, List.foldr_append,
    List.foldr_cons, List.foldr_nil, hbyte]
  omega

/-- **A stored size reads back.** -/
theorem readSize_of_bytes {cell : Nat → UInt8} {base n : Nat} (h : n < 18446744073709551616)
    (hcell : ∀ i, i < 8 → cell (base + i) = sizeBytes n i) : readSize cell base = n := by
  refine Eq.trans ?_ (digits n h)
  unfold readSize
  simp only [List.range_succ, List.range_zero, List.nil_append, List.foldr_append,
    List.foldr_cons, List.foldr_nil]
  rw [hcell 0 (by omega), hcell 1 (by omega), hcell 2 (by omega), hcell 3 (by omega),
    hcell 4 (by omega), hcell 5 (by omega), hcell 6 (by omega), hcell 7 (by omega)]

variable {m : Memory UInt8} {dataPtr size : Nat} {data : Nat → UInt8}

theorem putH264_data {i : Nat} (h : i < size) :
    (putH264 m dataPtr size data).cell (dataPtr + 8 + i) = data i := by
  show (if dataPtr + 8 ≤ dataPtr + 8 + i ∧ dataPtr + 8 + i < dataPtr + 8 + size then
    data (dataPtr + 8 + i - (dataPtr + 8)) else _) = data i
  rw [if_pos ⟨by omega, by omega⟩]
  congr 1
  omega

theorem putH264_header {i : Nat} (h : i < 8) :
    (putH264 m dataPtr size data).cell (dataPtr + i) = sizeBytes size i := by
  show (if dataPtr + 8 ≤ dataPtr + i ∧ dataPtr + i < dataPtr + 8 + size then _ else
    if dataPtr ≤ dataPtr + i ∧ dataPtr + i < dataPtr + 8 then
      sizeBytes size (dataPtr + i - dataPtr) else _) = sizeBytes size i
  rw [if_neg (by omega), if_pos ⟨by omega, by omega⟩, Nat.add_sub_cancel_left]

/-- **What the writer put into an H.264 slot is what a reader gets.** -/
theorem getH264_putH264 (h : size < 4294967296) :
    getH264 (putH264 m dataPtr size data).cell dataPtr = (List.range size).map data := by
  have hsize : readSize (putH264 m dataPtr size data).cell dataPtr = size :=
    readSize_of_bytes (by omega) fun i hi => putH264_header hi
  unfold getH264
  rw [hsize, Nat.mod_eq_of_lt h, List.range'_eq_map_range, List.map_map]
  refine List.map_congr_left ?_
  intro i hi
  exact putH264_data (List.mem_range.mp hi)

/-! ## How far a packet reaches -/

/-- Every index lies in slot `k` of slots of `bufferSize` bytes. -/
def InSlot (bufferSize k : Nat) (touched : List Nat) : Prop :=
  ∀ i ∈ touched, k * bufferSize ≤ i ∧ i < k * bufferSize + bufferSize

instance (bufferSize k : Nat) (touched : List Nat) : Decidable (InSlot bufferSize k touched) :=
  inferInstanceAs (Decidable (∀ i ∈ touched, _))

theorem inSlot_append {bufferSize k : Nat} {l l' : List Nat} :
    InSlot bufferSize k (l ++ l') ↔ InSlot bufferSize k l ∧ InSlot bufferSize k l' := by
  unfold InSlot
  simp only [List.mem_append]
  exact ⟨fun h => ⟨fun i hi => h i (Or.inl hi), fun i hi => h i (Or.inr hi)⟩,
    fun h i hi => hi.elim (h.1 i) (h.2 i)⟩

/-- A block that begins in the slot stays in it if its last byte does. -/
theorem inSlot_range {bufferSize k start n : Nat} :
    InSlot bufferSize k (List.range' (k * bufferSize + start) n) ↔
      n = 0 ∨ start + n ≤ bufferSize := by
  unfold InSlot
  simp only [List.mem_range'_1]
  constructor
  · intro h
    rcases Nat.eq_zero_or_pos n with hn | hn
    · exact Or.inl hn
    · have hlast := h (k * bufferSize + start + (n - 1)) (by omega)
      omega
  · rintro (rfl | h) i hi
    · omega
    · omega

variable {bufferSize k : Nat} {cell : Nat → UInt8}

/-- **An H.264 packet stays in its slot** if the slot has room for eight bytes more. -/
theorem putH264_inSlot : InSlot bufferSize k
    (putH264 ⟨cell, []⟩ (k * bufferSize) size data).touched ↔ 8 + size ≤ bufferSize := by
  have htouched : (putH264 ⟨cell, []⟩ (k * bufferSize) size data).touched
      = List.range' (k * bufferSize + 0) 8 ++ List.range' (k * bufferSize + 8) size := rfl
  rw [htouched, inSlot_append, inSlot_range, inSlot_range]
  omega

/-- **An MPEG-TS packet stays in its slot** if the slot has room for sixteen bytes more. -/
theorem putMpegTS_inSlot {sph : Bool} : InSlot bufferSize k
    (putMpegTS ⟨cell, []⟩ (k * bufferSize) sph size data).touched ↔ 16 + size ≤ bufferSize := by
  have htouched : (putMpegTS ⟨cell, []⟩ (k * bufferSize) sph size data).touched
      = (List.range' (k * bufferSize + 8) 8 ++ List.range' (k * bufferSize + 0) 1)
        ++ List.range' (k * bufferSize + 16) size := rfl
  rw [htouched, inSlot_append, inSlot_append, inSlot_range, inSlot_range, inSlot_range]
  omega

end TransferPacket

end AvbStreamHandler
