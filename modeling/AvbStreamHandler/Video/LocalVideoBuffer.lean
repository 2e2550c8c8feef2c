import AvbStreamHandler.Kit.Memory
import AvbStreamHandler.Kit.RingIndex
import AvbStreamHandler.Kit.RingQueue
import AvbStreamHandler.Transmit.AvbPacketPoolRuns

/-!
# The local video buffer

`IasLocalVideoBuffer` on the talker's side, in AVB packet mode: what a client delivers is
copied straight into packets from the stream's pool, and a ring of descriptors hands the
packets on to the transmitter.

`writeH264` puts one RTP packet into one AVB packet. `writeMpegTS` gets a number of
transport stream packets (TSPs), with or without a source packet header of four bytes in
front of each, and leaves that much room where there is none. An AVB packet that is not
full yet is *recycled*: the next TSPs are written behind those it carries, as long as the
reader is far enough away.

A descriptor carries its packet by value, next to the packet's identity. The content counts
from the payload pointer on, and remembers where it was written.
-/

namespace AvbStreamHandler

open Kit Kit.Run Kit.RingIndex Kit.RingQueue

/-- `IasAvbPacket`, as far as the writers touch it. -/
structure AvbPacket where
  ptr : PacketPtr
  len : Nat := 0
  payload : Memory UInt8

/-- `IasVideoDesc`, as a place in the ring. -/
structure RingDesc where
  avbPacket : Option AvbPacket := none
  isIec61883Packet : Bool := false
  hasSph : Bool := false
  tspsInAvbPacket : Nat := 0
  rtpSequenceNumber : Nat := 0
  rtpTimestamp : Nat := 0
  mptField : UInt8 := 0

/-- `IasVideoDesc`, as an argument of the writers: `buffer`, and what describes it. A null
buffer is an empty one. -/
structure TxDesc where
  data : List UInt8
  isIec61883Packet : Bool := false
  hasSph : Bool := false
  rtpSequenceNumber : Nat := 0
  rtpTimestamp : Nat := 0
  mptField : UInt8 := 0

structure LocalVideoBuffer where
  mReadIndex : Nat := 0
  mWriteIndex : Nat := 0
  mNumPacketsTotal : Nat
  mMaxPacketSize : Nat
  mRing : Nat → RingDesc := fun _ => {}
  /-- The pool of the AVB stream the buffer is connected to. -/
  mPool : AvbPacketPool.PoolWorld
  /-- What the template packet says about where the payload begins. -/
  payloadOffset : Nat

namespace LocalVideoBuffer

def sphSize : Nat := 4

/-- The size of a TSP, with its source packet header if it comes with one. -/
def tspSize (hasSph : Bool) : Nat := if hasSph then 192 else 188

/-- The room that is left for the header where a TSP comes without one. -/
def sphGap (hasSph : Bool) : Nat := if hasSph then 0 else sphSize

/-- `init` in AVB packet mode. -/
def init (numPackets maxPacketSize payloadOffset : Nat) (pool : AvbPacketPool.PoolWorld) :
    Option LocalVideoBuffer :=
  if numPackets ≤ 1 ∨ maxPacketSize = 0 then none
  else some {
    mNumPacketsTotal := numPackets
    mMaxPacketSize := maxPacketSize
    mPool := pool
    payloadOffset := payloadOffset }

/-! ## Parts of the state -/

def setRing (b : LocalVideoBuffer) (ring : Nat → RingDesc) : LocalVideoBuffer :=
  { b with mRing := ring }

/-- `mRing[i] = desc`. -/
def setSlot (b : LocalVideoBuffer) (i : Nat) (desc : RingDesc) : LocalVideoBuffer :=
  b.setRing (Function.update b.mRing i desc)

@[simp] theorem setSlot_self (b : LocalVideoBuffer) (i : Nat) (desc : RingDesc) :
    (b.setSlot i desc).mRing i = desc := Function.update_self ..

theorem setSlot_ne (b : LocalVideoBuffer) {i k : Nat} (desc : RingDesc) (h : k ≠ i) :
    (b.setSlot i desc).mRing k = b.mRing k := Function.update_of_ne h ..

def setPool (b : LocalVideoBuffer) (pool : AvbPacketPool.PoolWorld) : LocalVideoBuffer :=
  { b with mPool := pool }

/-- `mWriteIndex++`, with the wrap behind it. -/
def advanceWrite (b : LocalVideoBuffer) : LocalVideoBuffer :=
  { b with mWriteIndex := next b.mNumPacketsTotal b.mWriteIndex }

def advanceRead (b : LocalVideoBuffer) : LocalVideoBuffer :=
  { b with mReadIndex := next b.mNumPacketsTotal b.mReadIndex }

def rewind (b : LocalVideoBuffer) : LocalVideoBuffer :=
  { b with mReadIndex := 0, mWriteIndex := 0 }

def getFillLevel (b : LocalVideoBuffer) : Nat :=
  level b.mNumPacketsTotal b.mReadIndex b.mWriteIndex

/-- One place stays free. -/
def remaining (b : LocalVideoBuffer) : Nat := b.mNumPacketsTotal - b.getFillLevel - 1

/-- `getHomePool()->getPacketSize()`. -/
def packetSize (b : LocalVideoBuffer) : Nat := b.mPool.pool.mPacketSize

/-- `headroom >= 0`. -/
def HasHeadroom (b : LocalVideoBuffer) (size : Nat) : Prop := b.payloadOffset + size ≤ b.packetSize

instance (b : LocalVideoBuffer) (size : Nat) : Decidable (b.HasHeadroom size) :=
  inferInstanceAs (Decidable (_ ≤ _))

/-- `mPool->getPacket()`; `stale` is what a packet from the pool contains. -/
def getPacket (b : LocalVideoBuffer) (stale : Nat → UInt8) : Option AvbPacket :=
  b.mPool.pool.getPacket.1.map fun ptr => { ptr := ptr, payload := ⟨stale, []⟩ }

/-- The pool behind `getPacket`. -/
def popPool (b : LocalVideoBuffer) : LocalVideoBuffer :=
  b.setPool (AvbPacketPool.step b.mPool .getPacket)

/-- The buffer the writers accept. -/
def accepts (b : LocalVideoBuffer) (desc : TxDesc) : Bool :=
  decide (desc.data.length ≠ 0) && decide (desc.data.length ≤ b.mMaxPacketSize)

/-! ## H.264 -/

/-- The part of the descriptor that is written in any case. -/
def noteH264 (desc : TxDesc) (d : RingDesc) : RingDesc :=
  { d with isIec61883Packet := desc.isIec61883Packet, mptField := desc.mptField }

/-- The payload is copied into the packet. -/
def fillH264 (payloadOffset : Nat) (desc : TxDesc) (p : AvbPacket) : AvbPacket :=
  { p with
    len := payloadOffset + desc.data.length
    payload := p.payload.copyIn 0 (fun i => desc.data.getD i 0) desc.data.length }

/-- The descriptor takes the packet. -/
def storeH264 (desc : TxDesc) (p : AvbPacket) (d : RingDesc) : RingDesc :=
  { d with
    avbPacket := some p
    rtpSequenceNumber := desc.rtpSequenceNumber
    rtpTimestamp := desc.rtpTimestamp }

/-- `writeH264`, and how many bytes it wrote. A packet without enough headroom is dropped,
and the write index advances all the same. -/
def writeH264 (b : LocalVideoBuffer) (desc : TxDesc) (stale : Nat → UInt8) :
    Nat × LocalVideoBuffer :=
  if b.accepts desc = false ∨ b.remaining = 0 then (0, b)
  else
    let w := b.mWriteIndex
    let d := noteH264 desc (b.mRing w)
    match b.getPacket stale with
    | none => (0, (b.setSlot w d).popPool)
    | some p =>
        if b.HasHeadroom desc.data.length then
          (desc.data.length,
            (b.setSlot w (storeH264 desc (fillH264 b.payloadOffset desc p) d)).popPool.advanceWrite)
        else (0, (b.setSlot w d).popPool.advanceWrite)

/-! ## MPEG-TS -/

/-- The loop that copies `n` TSPs to `writePtr` and behind. -/
def putTsps (hasSph : Bool) : Nat → Nat → List UInt8 → AvbPacket → AvbPacket
  | 0, _, _, p => p
  | n + 1, writePtr, data, p =>
      putTsps hasSph n (writePtr + sphGap hasSph + tspSize hasSph) (data.drop (tspSize hasSph))
        { p with
          len := p.len + sphGap hasSph + tspSize hasSph
          payload := p.payload.copyIn (writePtr + sphGap hasSph) (fun i => data.getD i 0)
            (tspSize hasSph) }

def maxTspsInAvbPacket (b : LocalVideoBuffer) : Nat := b.mMaxPacketSize / (sphSize + 188)

/-- The packet that was written last has room for more, and the reader is not near. -/
def Recycles (b : LocalVideoBuffer) : Prop :=
  (0 < b.mWriteIndex ∧ b.mWriteIndex < b.mNumPacketsTotal)
    ∧ (b.mRing (b.mWriteIndex - 1)).avbPacket.isSome = true
    ∧ (b.mRing (b.mWriteIndex - 1)).isIec61883Packet = true
    ∧ (b.mRing (b.mWriteIndex - 1)).tspsInAvbPacket < b.maxTspsInAvbPacket
    ∧ 2 < b.getFillLevel ∧ b.getFillLevel < b.mNumPacketsTotal - 2

instance (b : LocalVideoBuffer) : Decidable b.Recycles :=
  inferInstanceAs (Decidable ((_ ∧ _) ∧ _ ∧ _ ∧ _ ∧ _ ∧ _))

def noteMpegTS (desc : TxDesc) (d : RingDesc) : RingDesc :=
  { d with isIec61883Packet := desc.isIec61883Packet }

/-- A packet fresh from the pool has nothing but its header. -/
def headerOnly (b : LocalVideoBuffer) (p : AvbPacket) : AvbPacket := { p with len := b.payloadOffset }

/-- The descriptor takes a packet that carries `tsps` TSPs. -/
def storeMpegTS (desc : TxDesc) (p : AvbPacket) (tsps : Nat) (d : RingDesc) : RingDesc :=
  { d with
    avbPacket := some p
    tspsInAvbPacket := tsps
    rtpSequenceNumber := desc.rtpSequenceNumber
    rtpTimestamp := desc.rtpTimestamp }

/-- What a recycled packet carries afterwards. -/
def refill (p : AvbPacket) (tsps : Nat) (d : RingDesc) : RingDesc :=
  { d with avbPacket := some p, tspsInAvbPacket := tsps }

def tspCount (desc : TxDesc) : Nat := desc.data.length / tspSize desc.hasSph

/-- The packet `p` that takes all TSPs. -/
def freshPacket (b : LocalVideoBuffer) (desc : TxDesc) (p : AvbPacket) : AvbPacket :=
  putTsps desc.hasSph (tspCount desc) 0 desc.data (b.headerOnly p)

/-- A packet of its own. Without enough headroom it goes on its way empty. -/
def writeFresh (b : LocalVideoBuffer) (desc : TxDesc) (stale : Nat → UInt8) :
    Nat × LocalVideoBuffer :=
  let w := b.mWriteIndex
  let d := noteMpegTS desc (b.mRing w)
  match b.getPacket stale with
  | none => (0, (b.setSlot w d).popPool)
  | some p =>
      if b.HasHeadroom desc.data.length then
        (tspCount desc * (sphGap desc.hasSph + tspSize desc.hasSph),
          (b.setSlot w (storeMpegTS desc (b.freshPacket desc p) (tspCount desc) d)).popPool.advanceWrite)
      else (0, (b.setSlot w (storeMpegTS desc (b.headerOnly p) 0 d)).popPool.advanceWrite)

/-- How many TSPs go into a packet that carries `used` of them already. -/
def tspsForThis (b : LocalVideoBuffer) (desc : TxDesc) (used : Nat) : Nat :=
  if b.maxTspsInAvbPacket < tspCount desc + used then b.maxTspsInAvbPacket - used
  else tspCount desc

/-- How many are left for the next packet. -/
def tspsForNext (b : LocalVideoBuffer) (desc : TxDesc) (used : Nat) : Nat :=
  if b.maxTspsInAvbPacket < tspCount desc + used then
    tspCount desc + used - b.maxTspsInAvbPacket
  else 0

/-- Where the TSPs go in a packet that carries `used` of them already. -/
def recyclePtr (desc : TxDesc) (used : Nat) : Nat := used * (tspSize desc.hasSph + sphSize)

/-- The packet `p` that was written last, filled up. -/
def refilled (b : LocalVideoBuffer) (desc : TxDesc) (p : AvbPacket) : LocalVideoBuffer :=
  let w := b.mWriteIndex
  let last := b.mRing (w - 1)
  let used := last.tspsInAvbPacket
  let n := b.tspsForThis desc used
  (b.setSlot w (noteMpegTS desc (b.mRing w))).setSlot (w - 1)
    (refill (putTsps desc.hasSph n (recyclePtr desc used) desc.data p) (used + n) last)

/-- The packet `q` that takes what is left after that. -/
def restPacket (b : LocalVideoBuffer) (desc : TxDesc) (used : Nat) (q : AvbPacket) : AvbPacket :=
  putTsps desc.hasSph (b.tspsForNext desc used) 0
    (desc.data.drop (b.tspsForThis desc used * tspSize desc.hasSph)) (b.headerOnly q)

/-- The packet `p` that was written last is filled up first. What does not go into it goes
into a packet of its own, if there is one. -/
def writeRecycled (b : LocalVideoBuffer) (desc : TxDesc) (stale : Nat → UInt8) (p : AvbPacket) :
    Nat × LocalVideoBuffer :=
  let w := b.mWriteIndex
  let d := noteMpegTS desc (b.mRing w)
  let used := (b.mRing (w - 1)).tspsInAvbPacket
  let unit := sphGap desc.hasSph + tspSize desc.hasSph
  if b.HasHeadroom desc.data.length then
    let n := b.tspsForThis desc used
    let m := b.tspsForNext desc used
    if m = 0 then (n * unit, b.refilled desc p)
    else
      match b.getPacket stale with
      | none => (n * unit, (b.refilled desc p).popPool)
      | some q =>
          ((n + m) * unit,
            ((b.refilled desc p).setSlot w
              (storeMpegTS desc (b.restPacket desc used q) m d)).popPool.advanceWrite)
  else (0, b.setSlot w d)

/-- `writeMpegTS`, and how many bytes it wrote. -/
def writeMpegTS (b : LocalVideoBuffer) (desc : TxDesc) (stale : Nat → UInt8) :
    Nat × LocalVideoBuffer :=
  if b.accepts desc = false ∨ b.remaining = 0 then (0, b)
  else if b.Recycles then
    match (b.mRing (b.mWriteIndex - 1)).avbPacket with
    | none => (0, b)
    | some p => b.writeRecycled desc stale p
  else b.writeFresh desc stale

/-! ## The reader, and the end -/

/-- A descriptor without its packet. -/
def takePacket (d : RingDesc) : RingDesc := { d with avbPacket := none }

/-- `read`, and the descriptor it copies out. -/
def read (b : LocalVideoBuffer) : Option RingDesc × LocalVideoBuffer :=
  if 0 < b.getFillLevel then
    let d := b.mRing b.mReadIndex
    (some d, (b.setSlot b.mReadIndex (takePacket d)).advanceRead)
  else (none, b)

/-- `IasAvbPacketPool::returnPacket`. -/
def giveBack (pool : AvbPacketPool.PoolWorld) (ptr : PacketPtr) : AvbPacketPool.PoolWorld :=
  { pool with
    pool := (pool.pool.doReturnPacket ptr).2
    outstanding := pool.outstanding.erase ptr }

/-- A descriptor as `init` leaves it, but for the fields that nobody looks at. -/
def clearDesc (d : RingDesc) : RingDesc :=
  { d with avbPacket := none, isIec61883Packet := false, hasSph := false, tspsInAvbPacket := 0 }

/-- `reset` at one place of the ring. -/
def resetSlot (b : LocalVideoBuffer) (i : Nat) : LocalVideoBuffer :=
  match (b.mRing i).avbPacket with
  | none => b
  | some p =>
      (b.setPool (giveBack b.mPool p.ptr)).setSlot i (clearDesc (b.mRing i))

def reset (b : LocalVideoBuffer) : LocalVideoBuffer :=
  ((List.range b.mNumPacketsTotal).foldl resetSlot b).rewind

end LocalVideoBuffer

end AvbStreamHandler
