import AvbStreamHandler.Kit.Bytes
import AvbStreamHandler.Kit.Word
import AvbStreamHandler.Receive.Validation

/-!
# The video receive stream

`IasAvbVideoStream` on the listener's side. Two kinds of packets come in: H.264 in the
compressed video format, and MPEG-TS in the IEC 61883-4 format. Offsets are those of the
AVTP header.

* MPEG-TS: a CIP header stands at byte 24 and the transport stream packets begin at byte
  32. The declared length counts the CIP header.
* H.264, drafts 5 and 9: the payload begins at byte 24.
* H.264, draft 14: the RTP time stamp stands at byte 24 and the payload begins at byte 28.
  The declared length does not count the time stamp.

One length check in each of the two formats has to do for all of them.
-/

namespace AvbStreamHandler

open Kit Kit.Word IasAvbStreamState

namespace AvbVideoStream

def cAvtpHeaderSize : Nat := 24

def cRtppHeaderSize : Nat := 12

def cCIPHeaderSize : Nat := 8

inductive Compatibility
  /-- Draft 14. -/
  | eCompCurrent
  | eComp1722aD5
  | eComp1722aD9
deriving DecidableEq, Repr

open Compatibility

end AvbVideoStream

open AvbVideoStream AvbVideoStream.Compatibility

/-- What a receive stream hands to its local stream. Pointers into the packet are offsets. -/
structure VideoDesc where
  isIec61883Packet : Bool := false
  hasSph : Bool := false
  /-- Stays in network order. -/
  rtpTimestamp : Nat := 0
  rtpSequenceNumber : Nat := 0
  mptField : UInt8 := 0
  /-- Where the local stream puts the twelve bytes of the RTP header. -/
  rtpPacketPtr : Nat := 0
  /-- `buffer.data` and `buffer.size`. -/
  data : Nat := 0
  size : Nat := 0
deriving DecidableEq, Repr

/-- What the registry settles for a receive stream. -/
structure AvbVideoConfig extends RxConfig where
  mCompatibility : Compatibility := eCompCurrent

/-- A receive stream, with the upper half of the RTP sequence number. -/
structure VideoRxStream (L : Type) extends RxStream L where
  mRtpSeqHighByte : UInt8 := 0
deriving DecidableEq

namespace AvbVideoConfig

variable {L : Type}

/-! ## Reading a packet -/

/-- The length a packet declares. -/
def payloadLength (packet : Bytes) : Nat := packet.be16 20

/-- The tag field says that a CIP header follows. -/
def hasCip (packet : Bytes) : Bool := packet 22 &&& 0x40 == 0x40

/-- The packet is long enough for its IEC 61883-4 payload. Padding behind it is fine. -/
def iecHeaderOk (packet : Bytes) (length : Nat) : Bool :=
  hasCip packet
    && decide (sub64 (payloadLength packet) cCIPHeaderSize ≤ length - cAvtpHeaderSize)

/-- The same for the compressed video format. -/
def cvfHeaderOk (packet : Bytes) (length : Nat) : Bool :=
  packet 16 == 0x02 && decide (payloadLength packet ≤ length - cAvtpHeaderSize)

/-- The header checks, in their order. The subtype of the packet decides which they are,
whatever format the stream is configured for. -/
def headerOk (packet : Bytes) (length : Nat) : Bool :=
  decide (cAvtpHeaderSize ≤ length)
    && if packet 0 = 0x00 then iecHeaderOk packet length
       else packet 0 == 0x03 && cvfHeaderOk packet length

/-- The header checks are made for this packet. -/
def checksHeader (c : AvbVideoConfig) (v : VideoRxStream L) : Bool :=
  decide (c.mValidationMode ≠ cValidateNever)
    && (decide (c.mValidationMode = cValidateAlways)
      || decide (v.mStreamState ≠ eIasAvbStreamValid))

/-- `isIec61883Packet`, as the checks leave it. A packet that continues the flow has it set
once more. -/
def isIec61883Packet (c : AvbVideoConfig) (v : VideoRxStream L) (packet : Bytes) (length : Nat) :
    Bool :=
  (c.checksHeader v && decide (cAvtpHeaderSize ≤ length) && packet 0 == 0x00)
    || (decide (c.mValidationMode ≠ cValidateNever) && decide (v.Follows (packet 2))
      && packet 0 == 0x00)

/-- `hasSph`, as the checks leave it. -/
def hasSph (c : AvbVideoConfig) (v : VideoRxStream L) (packet : Bytes) (length : Nat) : Bool :=
  c.checksHeader v && decide (cAvtpHeaderSize ≤ length) && packet 0 == 0x00 && hasCip packet
    && packet 26 &&& 0x04 == 0x04

/-- The RTP sequence number goes on where the eight bits of the AVTP header wrap. -/
def nextSeqHighByte (c : AvbVideoConfig) (v : VideoRxStream L) (packet : Bytes) : UInt8 :=
  if c.mValidationMode ≠ cValidateNever ∧ v.Follows (packet 2) ∧ packet 0 ≠ 0x00
      ∧ packet 2 < v.mSeqNum then v.mRtpSeqHighByte + 1
  else v.mRtpSeqHighByte

def rtpTimestamp (c : AvbVideoConfig) (packet : Bytes) : Nat :=
  if c.mCompatibility = eComp1722aD5 ∨ c.mCompatibility = eComp1722aD9 then packet.be32 12
  else if packet 22 &&& 0x20 ≠ 0 then packet.be32 24
  else 0

/-- Marker bit and payload type, with the marker where the draft has it. -/
def mptField (c : AvbVideoConfig) (packet : Bytes) : UInt8 :=
  if c.mCompatibility = eComp1722aD5 then if packet 22 &&& 0x04 ≠ 0 then 0xE0 else 0x60
  else if packet 22 &&& 0x10 ≠ 0 then 0xE0 else 0x60

/-- The descriptor of an accepted packet. -/
def describe (c : AvbVideoConfig) (v : VideoRxStream L) (packet : Bytes) (length : Nat) :
    VideoDesc where
  isIec61883Packet := c.isIec61883Packet v packet length
  hasSph := c.hasSph v packet length
  rtpTimestamp := c.rtpTimestamp packet
  rtpSequenceNumber := 256 * (c.nextSeqHighByte v packet).toNat + (packet 2).toNat
  mptField := c.mptField packet
  rtpPacketPtr :=
    if c.isIec61883Packet v packet length then 12
    else if c.mCompatibility = eComp1722aD5 ∨ c.mCompatibility = eComp1722aD9 then 12
    else 16
  data := if c.isIec61883Packet v packet length then 32 else 24
  size :=
    if c.isIec61883Packet v packet length then
      sub64 (payloadLength packet) cCIPHeaderSize % 4294967296
    else payloadLength packet

/-- `readFromAvbPacket`, and the calls of `writeLocalVideoBuffer` it makes. The null packet
is passed on as a null descriptor, without a look at whether there is a local stream. -/
def readFromAvbPacket (c : AvbVideoConfig) (v : VideoRxStream L) (packet : Option Bytes)
    (length : Nat) : VideoRxStream L × List (Option VideoDesc) :=
  match packet with
  | none => ({ v with toRxStream := v.receiveNothing c.toRxConfig }, [none])
  | some packet =>
      let newState := v.verdict c.toRxConfig (headerOk packet length) (packet 2)
      ({ toRxStream := (v.setSeqNum (packet 2)).settle c.toRxConfig newState
         mRtpSeqHighByte := c.nextSeqHighByte v packet },
        if newState = eIasAvbStreamValid ∧ v.isConnected = true ∧ payloadLength packet ≠ 0 then
          [some (c.describe v packet length)]
        else [])

/-! ## The gate -/

/-- What a descriptor says about a packet of `length` bytes that declares `declared` of
them. The local stream rebuilds the RTP header in place and takes the payload from behind
it; of an MPEG-TS packet it takes the buffer. -/
structure InBounds (d : VideoDesc) (declared length : Nat) : Prop where
  /-- The size did not wrap. -/
  size : d.size + (if d.isIec61883Packet then cCIPHeaderSize else 0) = declared
  buffer : d.data + d.size ≤ length
  rtp : d.isIec61883Packet = false → d.rtpPacketPtr + cRtppHeaderSize + d.size ≤ length

/-- What the validation of one packet is there for. -/
structure Gated (c : AvbVideoConfig) (v : VideoRxStream L) (packet : Bytes) (length : Nat) :
    Prop where
  /-- A bad header is not accepted. -/
  refused : headerOk packet length = false →
    (c.readFromAvbPacket v (some packet) length).1.mStreamStateInternal ≠ eIasAvbStreamValid
  /-- What is handed over lies in the packet. -/
  inBounds : ∀ d, some d ∈ (c.readFromAvbPacket v (some packet) length).2 →
    InBounds d (payloadLength packet) length

variable {c : AvbVideoConfig} {v : VideoRxStream L} {packet : Bytes} {length : Nat}

theorem read_internal (c : AvbVideoConfig) (v : VideoRxStream L) (packet : Bytes) (length : Nat) :
    (c.readFromAvbPacket v (some packet) length).1.mStreamStateInternal
      = v.verdict c.toRxConfig (headerOk packet length) (packet 2) :=
  RxStream.settle_internal ..

/-- The one call an accepted packet leads to. -/
theorem mem_read_iff {d : VideoDesc} :
    some d ∈ (c.readFromAvbPacket v (some packet) length).2 ↔
      (v.verdict c.toRxConfig (headerOk packet length) (packet 2) = eIasAvbStreamValid
        ∧ v.isConnected = true ∧ payloadLength packet ≠ 0) ∧ d = c.describe v packet length := by
  unfold readFromAvbPacket
  dsimp only
  split
  · rename_i haccepted
    rw [List.mem_singleton, Option.some.injEq]
    exact ⟨fun h => ⟨haccepted, h⟩, fun h => h.2⟩
  · rename_i hrefused
    exact iff_of_false List.not_mem_nil fun h => hrefused h.1

theorem headerOk_length (h : headerOk packet length = true) : cAvtpHeaderSize ≤ length := by
  unfold headerOk at h
  rw [Bool.and_eq_true, decide_eq_true_eq] at h
  exact h.1

/-- Where the header was checked and found in order, the descriptor goes by the subtype. -/
theorem describe_isIec (hmode : c.mValidationMode = cValidateAlways)
    (h : headerOk packet length = true) :
    (c.describe v packet length).isIec61883Packet = (packet 0 == 0x00) := by
  have hlength := headerOk_length h
  show c.isIec61883Packet v packet length = _
  have hnever : c.mValidationMode ≠ cValidateNever := by rw [hmode]; decide
  have hchecks : c.checksHeader v = true := by
    unfold checksHeader
    rw [decide_eq_true hnever, decide_eq_true hmode]
    rfl
  unfold isIec61883Packet
  rw [hchecks, decide_eq_true hlength]
  cases packet 0 == 0x00 <;> simp

/-- **An MPEG-TS packet in order** never has its size wrap: a declared length shorter than
the CIP header comes out longer than any packet. But the CIP header is taken off the
declared length and not off the room for it, so the payload may end eight bytes behind the
packet. -/
theorem inBounds_iec_iff (hmode : c.mValidationMode = cValidateAlways)
    (hlength : length < 18446744073709551616) (h : headerOk packet length = true)
    (hsubtype : packet 0 = 0x00) :
    InBounds (c.describe v packet length) (payloadLength packet) length ↔
      payloadLength packet + 24 ≤ length := by
  have hisIec := @describe_isIec L c v packet length hmode h
  rw [hsubtype] at hisIec
  have hiec : c.isIec61883Packet v packet length = true := hisIec
  have hdata : (c.describe v packet length).data = 32 := if_pos hiec
  have hsize : (c.describe v packet length).size
      = sub64 (payloadLength packet) cCIPHeaderSize % 4294967296 := if_pos hiec
  have hlow := headerOk_length h
  have hdeclared : payloadLength packet < 65536 := packet.be16_lt 20
  unfold headerOk iecHeaderOk at h
  rw [if_pos hsubtype, Bool.and_eq_true, Bool.and_eq_true, decide_eq_true_eq,
    decide_eq_true_eq] at h
  have hroom := h.2.2
  unfold sub64 cCIPHeaderSize cAvtpHeaderSize at *
  have hcip : 8 ≤ payloadLength packet := by omega
  have hsize : (c.describe v packet length).size = payloadLength packet - 8 := by omega
  constructor
  · intro hin
    have hend := hin.buffer
    rw [hdata, hsize] at hend
    omega
  · intro hlong
    refine ⟨?_, ?_, fun hnot => ?_⟩
    · rw [hisIec, hsize]
      exact Nat.sub_add_cancel hcip
    · rw [hdata, hsize]
      omega
    · rw [hisIec] at hnot
      exact absurd hnot (by decide)

/-- **An H.264 packet in order** is checked as if its payload began at byte 24, so only the
payload of drafts 5 and 9 is sure to be in bounds. -/
theorem inBounds_cvf_iff (hmode : c.mValidationMode = cValidateAlways)
    (h : headerOk packet length = true) (hsubtype : packet 0 ≠ 0x00) :
    InBounds (c.describe v packet length) (payloadLength packet) length ↔
      (c.mCompatibility = eCompCurrent → payloadLength packet + 28 ≤ length) := by
  have hisIec := @describe_isIec L c v packet length hmode h
  rw [beq_eq_false_iff_ne.mpr hsubtype] at hisIec
  have hcvf : ¬ c.isIec61883Packet v packet length = true := by
    intro hiec
    exact Bool.noConfusion (hisIec.symm.trans hiec)
  have hdata : (c.describe v packet length).data = 24 := if_neg hcvf
  have hsize : (c.describe v packet length).size = payloadLength packet := if_neg hcvf
  have hrtp : (c.describe v packet length).rtpPacketPtr
      = if c.mCompatibility = eComp1722aD5 ∨ c.mCompatibility = eComp1722aD9 then 12 else 16 :=
    if_neg hcvf
  have hlow := headerOk_length h
  unfold headerOk cvfHeaderOk at h
  rw [if_neg hsubtype, Bool.and_eq_true, Bool.and_eq_true, Bool.and_eq_true,
    decide_eq_true_eq, decide_eq_true_eq] at h
  have hroom := h.2.2.2
  unfold cAvtpHeaderSize at *
  constructor
  · intro hin hcurrent
    have hend := hin.rtp hisIec
    rw [hrtp, hcurrent, hsize] at hend
    unfold cRtppHeaderSize at hend
    simp at hend
    omega
  · intro hlong
    refine ⟨?_, ?_, fun _ => ?_⟩
    · rw [hisIec, hsize]
      rfl
    · rw [hdata, hsize]
      omega
    · rw [hrtp, hsize]
      unfold cRtppHeaderSize
      cases hcomp : c.mCompatibility with
      | eCompCurrent =>
          have := hlong hcomp
          simp
          omega
      | eComp1722aD5 => simp; omega
      | eComp1722aD9 => simp; omega

/-- How far an H.264 or MPEG-TS packet reaches that declares `declared` bytes. -/
def reach (c : AvbVideoConfig) (packet : Bytes) : Nat :=
  payloadLength packet
    + if packet 0 ≠ 0x00 ∧ c.mCompatibility = eCompCurrent then 28 else 24

theorem inBounds_iff (hmode : c.mValidationMode = cValidateAlways)
    (hlength : length < 18446744073709551616) (h : headerOk packet length = true) :
    InBounds (c.describe v packet length) (payloadLength packet) length ↔
      c.reach packet ≤ length := by
  unfold reach
  by_cases hsubtype : packet 0 = 0x00
  · rw [inBounds_iec_iff hmode hlength h hsubtype, if_neg fun hne => hne.1 hsubtype]
  · rw [inBounds_cvf_iff hmode h hsubtype]
    by_cases hcurrent : c.mCompatibility = eCompCurrent
    · rw [if_pos ⟨hsubtype, hcurrent⟩]
      exact ⟨fun h => h hcurrent, fun h _ => h⟩
    · rw [if_neg fun hc => hcurrent hc.2]
      refine iff_of_true (fun hc => absurd hc hcurrent) ?_
      unfold headerOk cvfHeaderOk cAvtpHeaderSize at h
      rw [if_neg hsubtype] at h
      simp only [Bool.and_eq_true, decide_eq_true_eq] at h
      omega

/--
**When the gate holds.**

With every packet to be validated: a packet with a bad header is refused and what is handed
over of any other lies inside it, exactly if a packet that continues the flow has its
header in order, and an accepted packet with something to hand over has room for what its
payload reaches to.
-/
theorem gated_iff (hmode : c.mValidationMode = cValidateAlways)
    (hlength : length < 18446744073709551616) :
    Gated c v packet length ↔
      (v.Follows (packet 2) → headerOk packet length = true)
        ∧ (headerOk packet length = true → payloadLength packet ≠ 0 → v.isConnected = true →
          v.Follows (packet 2) ∨ v.mStreamStateInternal ≠ eIasAvbStreamValid →
          c.reach packet ≤ length) := by
  have haccept := @RxStream.verdict_always_iff L c.toRxConfig v.toRxStream
    (headerOk packet length) (packet 2) hmode
  constructor
  · intro h
    refine ⟨fun hfollows => ?_, fun hheader hdeclared hconnected hstate => ?_⟩
    · by_contra hbad
      rw [Bool.not_eq_true] at hbad
      have hinternal := h.refused hbad
      rw [read_internal] at hinternal
      exact hinternal (haccept.mpr (Or.inl hfollows))
    · have hvalid := haccept.mpr (hstate.imp_right fun hidle => ⟨hidle, hheader⟩)
      have hin := h.inBounds _ (mem_read_iff.mpr ⟨⟨hvalid, hconnected, hdeclared⟩, rfl⟩)
      exact (inBounds_iff hmode hlength hheader).mp hin
  · rintro ⟨hflow, hroom⟩
    refine ⟨fun hbad => ?_, fun d hd => ?_⟩
    · rw [read_internal]
      intro hvalid
      have hgood : headerOk packet length = true := by
        rcases haccept.mp hvalid with hfollows | hidle
        · exact hflow hfollows
        · exact hidle.2
      rw [hbad] at hgood
      exact Bool.noConfusion hgood
    · obtain ⟨⟨hvalid, hconnected, hdeclared⟩, rfl⟩ := mem_read_iff.mp hd
      have hstate := haccept.mp hvalid
      have hheader : headerOk packet length = true := hstate.elim hflow fun h => h.2
      exact (inBounds_iff hmode hlength hheader).mpr
        (hroom hheader hdeclared hconnected (hstate.imp_right fun h => h.1))

/-- A listener that validates every packet, with a threshold of one. -/
def strictVideo : AvbVideoConfig where
  mValidationMode := cValidateAlways
  mValidationThreshold := 1

def videoStream : VideoRxStream Unit where
  toRxStream := .init strictVideo.toRxConfig (some ())

/-- The header of an H.264 packet, with the fields named left open. -/
def cvfPacket (payloadType seqNum declared : UInt8) : Bytes :=
  Bytes.ofList [0x03, 0x81, seqNum, 0, 0, 0, 0, 0, 0, 0, 0, 0, 0, 0, 0, 0, payloadType, 0, 0, 0,
    0, declared, 0x20, 0]

/-- An MPEG-TS packet that declares `declared` bytes. -/
def iecPacket (seqNum declared : UInt8) : Bytes :=
  Bytes.ofList [0x00, 0x81, seqNum, 0, 0, 0, 0, 0, 0, 0, 0, 0, 0, 0, 0, 0, 0, 0, 0, 0,
    0, declared, 0x40, 0, 63, 6, 0xC4]

theorem gated_iff_mpegTs : Gated strictVideo videoStream (iecPacket 0 200) 224 :=
  (@gated_iff Unit strictVideo _ _ _ rfl (by decide)).mpr ⟨by decide, by decide⟩

/-- Three ways out of bounds or through the gate: a draft 14 packet without room for the
time stamp, an MPEG-TS packet without room for the CIP header, and a packet that has the
next number and nothing else. -/
theorem gate_lets_through :
    (strictVideo.readFromAvbPacket videoStream (some (cvfPacket 0x02 0 100)) 124).2
        = [some { rtpPacketPtr := 16, data := 24, size := 100, mptField := 0x60 }]
      ∧ (strictVideo.readFromAvbPacket videoStream (some (iecPacket 0 200)) 216).2
        = [some { isIec61883Packet := true, hasSph := true, rtpPacketPtr := 12, data := 32,
                   size := 192, mptField := 0x60 }]
      ∧ headerOk (cvfPacket 0x7F 1 100) 24 = false
      ∧ (strictVideo.readFromAvbPacket
          (strictVideo.readFromAvbPacket videoStream (some (cvfPacket 0x02 0 100)) 128).1
          (some (cvfPacket 0x7F 1 100)) 24).1.mStreamStateInternal = eIasAvbStreamValid := by
  decide

end AvbVideoConfig

end AvbStreamHandler
