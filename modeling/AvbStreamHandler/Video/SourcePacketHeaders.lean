import AvbStreamHandler.Video.VideoTalker
import AvbStreamHandler.Video.PacketOwnership
import AvbStreamHandler.Video.MpegTsFlow

/-!
# Source packet headers

A transport stream packet goes into an AVB packet with a source packet header (SPH) of four
bytes in front of it, which says when it is to be played. The client has put the header there,
or `finalizeAvbPacket` does. Which of the two it is, the client says when it hands the packet
over; `finalizeAvbPacket` looks for it in the descriptor that comes out of the ring.

`writeMpegTS` does not put it there. So what comes without SPH gets one, and what comes with
one gets another.

The header of the AVTP packet has a count of data blocks (DBC), eight for each TSP, which runs
on over all packets.

Beside every place of the ring stands a record of the TSPs its packet carries: where the unit
of each begins, and whether the client gave it an SPH. The record is read off the number of
TSPs before and after each call of `writeMpegTS`.
-/

namespace AvbStreamHandler

open Kit Kit.Run Kit.RingIndex Kit.RingQueue Kit.Word AvbVideoStream LocalVideoBuffer

/-! ## The transmit stream, once more -/

namespace VideoTxStream

/-- `activationChanged`, as far as the stream itself goes. -/
def activationChanged (t : VideoTxStream) (active : Bool) : VideoTxStream :=
  if active then { t with mActive := true, mPacketLaunchTime := 0 } else { t with mActive := false }

/-- The times of a stream that has just been activated. -/
def started (t : VideoTxStream) (localTime : Nat) : VideoTxStream :=
  if t.mPacketLaunchTime = 0 then t.resetTimeHard localTime else t

/-- `prepareDummyAvbPacket`. A dummy packet has nothing behind the AVTP header. -/
def prepareDummyAvbPacket (t : VideoTxStream) (localTime : Nat) : VideoTxStream :=
  if t.mActive = false then t
  else
    let t := t.started localTime
    { t with
      mRefPaneSampleTime := add32 t.mRefPaneSampleTime t.mLaunchTimeDelta
      mPacketLaunchTime := add64 t.mPacketLaunchTime t.mLaunchTimeDelta }

/-! ## An MPEG-TS packet -/

variable {t : VideoTxStream} {locked : Bool} {d : RingDesc} {p : AvbPacket} {m : Bytes} {n : Nat}

/-- The most TSPs for which the length of the stream data fits its sixteen bits. -/
def cMaxTsps : Nat := 341

/-- The stream sends MPEG-TS, and the descriptor one packet of `n` TSPs. What came with the
TSPs is not in the descriptor. -/
structure Sends (t : VideoTxStream) (d : RingDesc) (p : AvbPacket) (n : Nat) : Prop where
  format : t.mVideoFormat = .eIasAvbVideoFormatIec61883
  iec : d.isIec61883Packet = true
  blind : d.hasSph = false
  len : p.len = t.payloadOffset + 192 * n
  fits : n ≤ cMaxTsps

theorem Sends.streamDataLength (h : Sends t d p n) : t.streamDataLength d p = 192 * n + 8 := by
  have hfits := h.fits
  unfold cMaxTsps at hfits
  unfold VideoTxStream.streamDataLength cCIPHeaderSize
  rw [if_pos h.iec, h.len]
  omega

/-- The header of an MPEG-TS packet is that of its 32 bytes, and an SPH in every unit. -/
theorem Sends.fillHeader_eq (h : Sends t d p n) : ∃ m' : Bytes,
    t.fillHeader locked d p m = (t.putCip m').putRows 32 192 n t.presentationTime
      ∧ ∀ i, 32 ≤ i → m' i = m i := by
  have hrows : (192 * n + 8 - 32 + 191) / 192 = n := by omega
  have hblind : ¬ d.hasSph = true := by rw [h.blind]; exact Bool.false_ne_true
  unfold fillHeader
  dsimp only
  rw [h.streamDataLength, if_pos h.iec, if_pos h.iec, if_pos h.iec, if_neg hblind]
  unfold putSph putTimestamps
  rw [hrows, if_pos h.iec]
  refine ⟨_, rfl, fun i hi => ?_⟩
  rw [Bytes.put_of_ne (by omega), Bytes.put16_of_ne (by omega) (by omega),
    Bytes.put_of_ne (by omega), Bytes.put32_of_ne (by omega)]

theorem putCip_of_le {i : Nat} (hi : 32 ≤ i) : t.putCip m i = m i := by
  unfold putCip
  repeat rw [Bytes.put_of_ne (by omega)]

/-- **Every unit is stamped**, whatever came in it. -/
theorem Sends.stamped (h : Sends t d p n) {k : Nat} (hk : k < n) :
    (t.fillHeader locked d p m).be32 (32 + 192 * k) = t.presentationTime := by
  obtain ⟨m', heq, -⟩ := @Sends.fillHeader_eq t locked d p m n h
  rw [heq, Bytes.be32_putRows (by decide) hk]
  exact Nat.mod_eq_of_lt (Nat.mod_lt _ (by decide))

/-- **Nothing else behind the header is touched.** -/
theorem Sends.kept (h : Sends t d p n) {i : Nat}
    (hi : ∀ k, k < n → i < 192 * k ∨ 192 * k + 4 ≤ i) :
    t.fillHeader locked d p m (32 + i) = m (32 + i) := by
  obtain ⟨m', heq, hm'⟩ := @Sends.fillHeader_eq t locked d p m n h
  rw [heq, Bytes.putRows_of_ne, putCip_of_le (by omega), hm' _ (by omega)]
  intro k hk
  have := hi k hk
  omega

/-- The count in the header. -/
theorem Sends.counted (h : Sends t d p n) :
    t.fillHeader locked d p m 27 = t.mDatablockSeqNum := by
  obtain ⟨m', heq, -⟩ := @Sends.fillHeader_eq t locked d p m n h
  rw [heq, Bytes.putRows_of_ne fun k _ => by omega]
  unfold putCip
  rw [Bytes.put_of_ne (by omega), Bytes.put_of_ne (by omega), Bytes.put_of_ne (by omega),
    Bytes.put_of_ne (by omega), Bytes.put_self]

/-- The count behind the packet. -/
theorem Sends.advance (h : Sends t d p n) :
    (t.advance d p).mDatablockSeqNum = t.mDatablockSeqNum + UInt8.ofNat (8 * n) := by
  have hblocks : (192 * n + 8) / 24 = 8 * n := by omega
  unfold VideoTxStream.advance
  dsimp only
  rw [if_pos h.iec, h.streamDataLength, hblocks]

theorem finalizeAvbPacket_active (hactive : t.mActive = true) (localTime : Nat) (header : Bytes) :
    t.finalizeAvbPacket localTime locked d p header
      = (some {
          avtp := (t.started localTime).fillHeader locked d p
            ((t.started localTime).avtpBytes header p)
          length := p.len - cEthHeaderSize
          attime := (t.started localTime).mPacketLaunchTime },
        (t.started localTime).advance d p) := by
  unfold finalizeAvbPacket
  rw [if_neg (by rw [hactive]; decide)]
  rfl

/-- The payload begins behind the header. -/
theorem avtpBytes_payload (hformat : t.mVideoFormat = .eIasAvbVideoFormatIec61883) (i : Nat) :
    t.avtpBytes m p (32 + i) = p.payload.cell i := by
  have hoffset : t.payloadOffset = 50 := by
    unfold VideoTxStream.payloadOffset
    rw [hformat]
    rfl
  unfold avtpBytes cEthHeaderSize
  rw [hoffset, if_neg (by omega)]
  congr 1
  omega

end VideoTxStream

/-! ## The talker, and what is recorded of it -/

/-- A TSP in an AVB packet. -/
structure PlacedTsp where
  /-- Where its 192 bytes begin in the payload. -/
  start : Nat
  /-- The client gave it an SPH. -/
  sph : Bool
deriving DecidableEq

namespace PlacedTsp

/-- Byte `i` of the payload is one the client gave. -/
def Covers (tsp : PlacedTsp) (i : Nat) : Prop :=
  tsp.start + sphGap tsp.sph ≤ i ∧ i < tsp.start + 192

/-- `n` TSPs behind each other. -/
def placed (sph : Bool) (start n : Nat) : List PlacedTsp :=
  (List.range n).map fun k => ⟨start + 192 * k, sph⟩

end PlacedTsp

open PlacedTsp

/-- A packet that was sent. -/
structure SentTs where
  tsps : List PlacedTsp
  /-- As it was read from the ring. -/
  packet : AvbPacket
  presentationTime : Nat
  frame : AvtpFrame

/-- The local stream and the transmit stream, connected. -/
structure TsTalker where
  video : VideoWorld
  stream : VideoTxStream
  /-- `mClientState` is `eIasActive`. -/
  mClientActive : Bool := false
  /-- What the packet in each place of the ring carries. -/
  tsps : Nat → List PlacedTsp := fun _ => []
  /-- The packet that was sent last comes first. -/
  sent : List SentTs := []

inductive TsEvent
  | writeMpegTS (desc : TxDesc) (stale : Nat → UInt8)
  /-- `dummy` says whether there is a dummy packet to be had. -/
  | preparePacket (localTime : Nat) (locked dummy : Bool) (header : Bytes)
  | activationChanged (active : Bool)
  | resetBuffers
  | returned (ptr : PacketPtr)

/-- The calls of `writeMpegTS` in a run. -/
def tsWrites : List TsEvent → List TxDesc
  | [] => []
  | .writeMpegTS desc _ :: es => desc :: tsWrites es
  | .preparePacket .. :: es => tsWrites es
  | .activationChanged _ :: es => tsWrites es
  | .resetBuffers :: es => tsWrites es
  | .returned _ :: es => tsWrites es

/-- What the packets carry after a call that made `b'` of `b`. The packet at the write index is
a new one; any other has what it had, and what was put behind. -/
def recorded (b b' : LocalVideoBuffer) (desc : TxDesc) (tsps : Nat → List PlacedTsp) (i : Nat) :
    List PlacedTsp :=
  if i = b.mWriteIndex then placed desc.hasSph 0 (b'.mRing i).tspsInAvbPacket
  else
    tsps i ++ placed desc.hasSph (recyclePtr desc (b.mRing i).tspsInAvbPacket)
      ((b'.mRing i).tspsInAvbPacket - (b.mRing i).tspsInAvbPacket)

namespace TsTalker

def start (b : LocalVideoBuffer) (t : VideoTxStream) : TsTalker where
  video := { buffer := b, handed := [] }
  stream := t

/-- `preparePacket`: the oldest packet of the ring, or a dummy packet. A packet that cannot be
finalized goes back to the pool. -/
def preparePacket (w : TsTalker) (localTime : Nat) (locked dummy : Bool) (header : Bytes) :
    TsTalker :=
  match w.video.buffer.read.1.bind fun d => d.avbPacket.map (d, ·) with
  | none =>
      { w with
        video := w.video.step .read
        stream := if dummy then w.stream.prepareDummyAvbPacket localTime else w.stream }
  | some (d, p) =>
      match w.stream.finalizeAvbPacket localTime locked d p header with
      | (none, t) => { w with video := (w.video.step .read).step (.returned p.ptr), stream := t }
      | (some frame, t) =>
          { w with
            video := w.video.step .read
            stream := t
            sent :=
              { tsps := w.tsps w.video.buffer.mReadIndex
                packet := p
                presentationTime := (w.stream.started localTime).presentationTime
                frame := frame } :: w.sent }

/-- `activationChanged`, with `setClientActive` of the local stream. -/
def activationChanged (w : TsTalker) (active : Bool) : TsTalker :=
  { w with
    stream := w.stream.activationChanged active
    mClientActive := active
    video := if active = true ∧ w.mClientActive = false then w.video.step .reset else w.video }

def step (w : TsTalker) : TsEvent → TsTalker
  | .writeMpegTS desc stale =>
      { w with
        video := w.video.step (.writeMpegTS desc stale)
        tsps := recorded w.video.buffer (w.video.buffer.writeMpegTS desc stale).2 desc w.tsps }
  | .preparePacket localTime locked dummy header =>
      w.preparePacket localTime locked dummy header
  | .activationChanged active => w.activationChanged active
  | .resetBuffers => { w with video := w.video.step .reset }
  | .returned ptr => { w with video := w.video.step (.returned ptr) }

end TsTalker

/-- **What is asked of a packet**: an SPH where a TSP begins that came without one, and all
other bytes as they were given. -/
structure Headed (s : SentTs) : Prop where
  stamped : ∀ tsp ∈ s.tsps, tsp.sph = false →
    s.frame.avtp.be32 (32 + tsp.start) = s.presentationTime
  kept : ∀ i, (∀ tsp ∈ s.tsps, tsp.sph = false → i < tsp.start ∨ tsp.start + 4 ≤ i) →
    s.frame.avtp (32 + i) = s.packet.payload.cell i

/-- The data block count goes on by eight for each TSP. -/
def Counts (later earlier : SentTs) : Prop :=
  later.frame.avtp 27 = earlier.frame.avtp 27 + UInt8.ofNat (8 * earlier.tsps.length)

/-- **What is asked of a run.** -/
structure SourceHeaders (w : TsTalker) : Prop where
  headed : ∀ s ∈ w.sent, Headed s
  /-- What was recorded is where the client's bytes lie. -/
  covers : ∀ s ∈ w.sent, ∀ i, i ∈ s.packet.payload.touched ↔ ∃ tsp ∈ s.tsps, tsp.Covers i
  counts : w.sent.IsChain Counts

end AvbStreamHandler
