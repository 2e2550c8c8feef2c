import AvbStreamHandler.Video.AvbVideoStream
import AvbStreamHandler.Video.LocalVideoBuffer
import AvbStreamHandler.Video.TransferPacket

/-!
# The video talker

`IasLocalVideoInStream` on the way in, `IasAvbVideoStream` on the way out. The local stream
takes an RTP packet apart and has its payload copied into an AVB packet (`writeH264`); when
its turn comes, `finalizeAvbPacket` fills in the fields of the AVTP header that differ from
packet to packet. The rest of the header comes from the template that all packets of the
pool are made from.

Offsets are those of the AVTP header, which begins 18 bytes into the frame. Where the fields
stand depends on the draft:

* the RTP time stamp: byte 12 in drafts 5 and 9, byte 24 in draft 14, where the AVTP time
  stamp keeps its place and bit `0x20` of byte 22 announces the other one;
* the marker bit, in byte 22: `0x04` in draft 5, `0x10` in the others.
-/

namespace AvbStreamHandler

open Kit Kit.Word AvbVideoStream AvbVideoStream.Compatibility

/-! ## The local stream -/

/-- `IasLocalVideoInStream::eventOnNewPacketH264`: the descriptor it hands to `writeH264`. The
size of a packet shorter than the RTP header wraps, and `writeH264` would refuse it. -/
def eventOnNewPacketH264 (mMaxPacketSize : Nat) (rtp : List UInt8) : Option TxDesc :=
  if mMaxPacketSize < rtp.length then none
  else
    let m := Bytes.ofList rtp
    let desc : TxDesc :=
      { data := rtp
        rtpSequenceNumber := m.be16 2
        rtpTimestamp := m.be32 4
        mptField := m 1 }
    -- an extension header is left where it is, with all that is in front of it
    if m 0 &&& 0x10 ≠ 0 then some desc
    else if rtp.length < cRtppHeaderSize then none
    else some { desc with data := rtp.drop 12 }

/-! ## The transmit stream -/

/-- Bytes of the frame in front of the AVTP header. -/
def cEthHeaderSize : Nat := 18

/-- A transmit stream, as far as its packets depend on it. -/
structure VideoTxStream where
  mCompatibility : Compatibility
  mVideoFormat : IasAvbVideoFormat
  /-- The stream ID, byte by byte. -/
  streamId : Nat → UInt8
  /-- In nanoseconds, as are the times below. -/
  presentationTimeOffset : Nat
  mLaunchTimeDelta : Nat
  mActive : Bool := false
  mPacketLaunchTime : Nat := 0
  mRefPaneSampleTime : Nat := 0
  mSeqNum : UInt8 := 0
  mDatablockSeqNum : UInt8 := 0

/-- A packet as it goes to the device. -/
structure AvtpFrame where
  avtp : Bytes
  /-- Counts from the AVTP header on. -/
  length : Nat
  attime : Nat

namespace VideoTxStream

def getFormatCode : IasAvbVideoFormat → UInt8
  | .eIasAvbVideoFormatRtp => 3
  | .eIasAvbVideoFormatIec61883 => 0

def getVideoFormatCode : IasAvbVideoFormat → UInt8
  | .eIasAvbVideoFormatRtp => 2
  | .eIasAvbVideoFormatIec61883 => 0

/-- Where the payload begins in the frame. -/
def payloadOffset (t : VideoTxStream) : Nat :=
  match t.mVideoFormat with
  | .eIasAvbVideoFormatIec61883 => cEthHeaderSize + cAvtpHeaderSize + cCIPHeaderSize
  | .eIasAvbVideoFormatRtp =>
      if t.mCompatibility = eComp1722aD5 ∨ t.mCompatibility = eComp1722aD9 then
        cEthHeaderSize + cAvtpHeaderSize
      else cEthHeaderSize + cAvtpHeaderSize + 4

/-- The eight bytes of the stream ID. -/
def putStreamId (t : VideoTxStream) (m : Bytes) : Bytes :=
  (List.range 8).foldl (fun m i => m.put (4 + i) (t.streamId i)) m

/-- The AVTP header of the packet that `prepareAllPackets` copies to the whole pool. -/
def prepareHeader (t : VideoTxStream) (m : Bytes) : Bytes :=
  match t.mVideoFormat with
  | .eIasAvbVideoFormatRtp =>
      let m := (((t.putStreamId (((m.put 0 3).put 1 0x81).put 3 0)).put 16
        (getVideoFormatCode t.mVideoFormat)).put 18 0).put 23 0
      if t.mCompatibility = eComp1722aD5 then (m.put 17 0).put 19 1 else (m.put 17 1).put 19 0
  | .eIasAvbVideoFormatIec61883 =>
      ((t.putStreamId (((m.put 0 0).put 1 0x80).put 3 0)).put32 16 0 |>.put 22 0x5F).put 23 0xA0

/-- `resetTime(true)`, at the local time of the clock daemon. -/
def resetTimeHard (t : VideoTxStream) (localTime : Nat) : VideoTxStream :=
  { t with mPacketLaunchTime := localTime, mRefPaneSampleTime := localTime % 4294967296 }

/-- The presentation time that goes into a packet. -/
def presentationTime (t : VideoTxStream) : Nat :=
  add32 t.mRefPaneSampleTime t.presentationTimeOffset

/-- The time stamps. -/
def putTimestamps (t : VideoTxStream) (d : RingDesc) (m : Bytes) : Bytes :=
  if d.isIec61883Packet = true then m.put32 12 0
  else if t.mCompatibility = eComp1722aD5 ∨ t.mCompatibility = eComp1722aD9 then
    m.put32 12 d.rtpTimestamp
  else (m.put32 12 t.presentationTime).put32 24 d.rtpTimestamp

def streamDataLength (t : VideoTxStream) (d : RingDesc) (p : AvbPacket) : Nat :=
  if d.isIec61883Packet = true then (p.len - t.payloadOffset + cCIPHeaderSize) % 65536
  else (p.len - t.payloadOffset) % 65536

/-- Byte 22 of an H.264 packet. -/
def markerField (t : VideoTxStream) (d : RingDesc) : UInt8 :=
  if t.mCompatibility = eComp1722aD5 then if d.mptField &&& 0x80 ≠ 0 then 0x04 else 0x00
  else
    (if d.mptField &&& 0x80 ≠ 0 then 0x10 else 0x00)
      ||| if t.mCompatibility = eCompCurrent then 0x20 else 0x00

/-- The CIP header of IEC 61883-4. -/
def putCip (t : VideoTxStream) (m : Bytes) : Bytes :=
  (((((((m.put 24 63).put 25 0x06).put 26 0xC4).put 27 t.mDatablockSeqNum).put 28 0xA0).put 29
    0x00).put 30 0x00).put 31 0x00

/-- The time stamp in the source packet header of every TSP; the loop ends at
`streamDataLength`, though the bytes it goes through begin at 32. -/
def putSph (t : VideoTxStream) (streamDataLength : Nat) (m : Bytes) : Bytes :=
  (List.range ((streamDataLength - 32 + 191) / 192)).foldl
    (fun m k => m.put32 (32 + 192 * k) t.presentationTime) m

/-- The header fields of one packet. -/
def fillHeader (t : VideoTxStream) (locked : Bool) (d : RingDesc) (p : AvbPacket) (m : Bytes) :
    Bytes :=
  let length := t.streamDataLength d p
  let m := (t.putTimestamps d m).put 2
    (if d.isIec61883Packet = true then t.mSeqNum else UInt8.ofNat d.rtpSequenceNumber)
  let m := m.put16 20 length
  let m := if d.isIec61883Packet = true then m else m.put 22 (t.markerField d)
  let m := m.put 3 (if locked then 0x00 else 0x01)
  if d.isIec61883Packet = true then
    if d.hasSph = true then t.putCip m else t.putSph length (t.putCip m)
  else m

/-- The stream behind a packet. -/
def advance (t : VideoTxStream) (d : RingDesc) (p : AvbPacket) : VideoTxStream :=
  { t with
    mSeqNum := if d.isIec61883Packet = true then t.mSeqNum + 1 else t.mSeqNum
    mDatablockSeqNum :=
      if d.isIec61883Packet = true then
        t.mDatablockSeqNum + UInt8.ofNat (t.streamDataLength d p / 24)
      else t.mDatablockSeqNum
    mRefPaneSampleTime := add32 t.mRefPaneSampleTime t.mLaunchTimeDelta
    mPacketLaunchTime := add64 t.mPacketLaunchTime t.mLaunchTimeDelta }

/-- The AVTP part of a packet: the header, and the payload behind `payloadOffset`. -/
def avtpBytes (t : VideoTxStream) (header : Bytes) (p : AvbPacket) : Bytes := fun i =>
  if i + cEthHeaderSize < t.payloadOffset then header i
  else p.payload.cell (i + cEthHeaderSize - t.payloadOffset)

/-- `finalizeAvbPacket` for a descriptor that carries the packet `p`. `header` is what the AVTP
header of the packet holds so far, `locked` the lock state of the clock domain. -/
def finalizeAvbPacket (t : VideoTxStream) (localTime : Nat) (locked : Bool) (d : RingDesc)
    (p : AvbPacket) (header : Bytes) : Option AvtpFrame × VideoTxStream :=
  if t.mActive = false then (none, t)
  else
    let t := if t.mPacketLaunchTime = 0 then t.resetTimeHard localTime else t
    (some { avtp := t.fillHeader locked d p (t.avtpBytes header p)
            length := p.len - cEthHeaderSize
            attime := t.mPacketLaunchTime },
      t.advance d p)

/-! ## The template -/

/-- What a listener looks at in the header and the talker writes only once. -/
structure Prepared (header : Bytes) : Prop where
  subtype : header 0 = 0x03
  payloadType : header 16 = 0x02

/-- **The template is what a listener expects.** -/
theorem prepared_prepareHeader {t : VideoTxStream}
    (hformat : t.mVideoFormat = .eIasAvbVideoFormatRtp) (m : Bytes) :
    Prepared (t.prepareHeader m) := by
  have hsid : ∀ (m : Bytes) (n i : Nat), i < 4 ∨ 4 + n ≤ i →
      (List.range n).foldl (fun m i => m.put (4 + i) (t.streamId i)) m i = m i := by
    intro m n
    induction n with
    | zero => intros; rfl
    | succ n ih =>
        intro i hi
        rw [List.range_succ, List.foldl_append, List.foldl_cons, List.foldl_nil,
          Bytes.put_of_ne (by omega), ih i (by omega)]
  unfold prepareHeader putStreamId
  rw [hformat]
  dsimp only
  refine ⟨?_, ?_⟩
  · split
    · rw [Bytes.put_of_ne (by omega), Bytes.put_of_ne (by omega), Bytes.put_of_ne (by omega),
        Bytes.put_of_ne (by omega), Bytes.put_of_ne (by omega), hsid _ 8 0 (by omega),
        Bytes.put_of_ne (by omega), Bytes.put_of_ne (by omega), Bytes.put_self]
    · rw [Bytes.put_of_ne (by omega), Bytes.put_of_ne (by omega), Bytes.put_of_ne (by omega),
        Bytes.put_of_ne (by omega), Bytes.put_of_ne (by omega), hsid _ 8 0 (by omega),
        Bytes.put_of_ne (by omega), Bytes.put_of_ne (by omega), Bytes.put_self]
  · split
    · rw [Bytes.put_of_ne (by omega), Bytes.put_of_ne (by omega), Bytes.put_of_ne (by omega),
        Bytes.put_of_ne (by omega), Bytes.put_self]
      rfl
    · rw [Bytes.put_of_ne (by omega), Bytes.put_of_ne (by omega), Bytes.put_of_ne (by omega),
        Bytes.put_of_ne (by omega), Bytes.put_self]
      rfl

end VideoTxStream

end AvbStreamHandler
