import AvbStreamHandler.Video.LocalVideoOutStream
import AvbStreamHandler.Video.PacketRoom
import AvbStreamHandler.Video.VideoTalker

/-!
# From one RTP packet to the other

What the talker takes from an RTP packet, and what the listener makes of it. The payload
travels as it is; of the header, the marker bit, the time stamp and the low byte of the
sequence number do.

How an RTP packet is laid out:

* byte 0: two bits of version, then the padding bit `0x20`, the extension bit `0x10` and the
  number of CSRCs, `0x0F`;
* byte 1: the marker bit `0x80` and the payload type;
* the sequence number at byte 2, the time stamp at byte 4, the SSRC at byte 8;
* four bytes for each CSRC, then the extension if there is one: its length in words stands
  in the second half of its first word;
* the payload, and behind it the padding, whose last byte says how long it is.

The talker takes off twelve bytes, and none at all if there is an extension. The listener
puts twelve bytes in front that announce neither padding nor extension nor CSRCs. So the
payload is the same only if the packet announced none either.
-/

namespace AvbStreamHandler

open Kit Kit.Word IasAvbStreamState AvbVideoStream AvbVideoStream.Compatibility
open VideoTxStream AvbVideoConfig IasLocalVideoOutStream TransferPacket

/-! ## RTP packets -/

namespace Rtp

def csrcCount (m : Bytes) : Nat := (m 0 &&& 0x0F).toNat

/-- The extension, with the word that says how long it is. -/
def extensionLength (m : Bytes) : Nat :=
  if m 0 &&& 0x10 = 0 then 0 else 4 + 4 * m.be16 (12 + 4 * csrcCount m + 2)

def headerLength (m : Bytes) : Nat := 12 + 4 * csrcCount m + extensionLength m

def paddingLength (m : Bytes) (length : Nat) : Nat :=
  if m 0 &&& 0x20 = 0 then 0 else (m (length - 1)).toNat

/-- A packet that is one. -/
structure IsRtp (rtp : List UInt8) : Prop where
  version : Bytes.ofList rtp 0 &&& 0xC0 = 0x80
  fits : headerLength (Bytes.ofList rtp) + paddingLength (Bytes.ofList rtp) rtp.length ≤ rtp.length
  /-- The last byte of the padding counts itself. -/
  padded : Bytes.ofList rtp 0 &&& 0x20 ≠ 0 → 0 < paddingLength (Bytes.ofList rtp) rtp.length

def payload (rtp : List UInt8) : List UInt8 :=
  (rtp.drop (headerLength (Bytes.ofList rtp))).take
    (rtp.length - headerLength (Bytes.ofList rtp)
      - paddingLength (Bytes.ofList rtp) rtp.length)

def marker (rtp : List UInt8) : Bool := Bytes.ofList rtp 1 &&& 0x80 != 0

def timestamp (rtp : List UInt8) : Nat := (Bytes.ofList rtp).be32 4

def sequenceNumber (rtp : List UInt8) : Nat := (Bytes.ofList rtp).be16 2

/-- What has to come through. -/
structure Conveys (rtp rtp' : List UInt8) : Prop where
  payload : payload rtp' = payload rtp
  marker : marker rtp' = marker rtp
  timestamp : timestamp rtp' = timestamp rtp
  sequenceNumber : sequenceNumber rtp' % 256 = sequenceNumber rtp % 256

/-- A header of twelve bytes and no padding. -/
def Plain (m : Bytes) : Prop := m 0 = 0x80

theorem plain_iff {b : UInt8} (hversion : b &&& 0xC0 = 0x80) :
    b = 0x80 ↔ b &&& 0x0F = 0 ∧ b &&& 0x10 = 0 ∧ b &&& 0x20 = 0 := by
  have hall : ∀ n : Fin 256, UInt8.ofFin n &&& 0xC0 = 0x80 →
      (UInt8.ofFin n = 0x80 ↔ UInt8.ofFin n &&& 0x0F = 0 ∧ UInt8.ofFin n &&& 0x10 = 0
        ∧ UInt8.ofFin n &&& 0x20 = 0) := by
    decide +kernel
  exact hall b.toFin hversion

theorem payload_of_plain {rtp : List UInt8} (h : Plain (Bytes.ofList rtp)) :
    payload rtp = rtp.drop 12 := by
  have hcsrc : csrcCount (Bytes.ofList rtp) = 0 := by
    unfold csrcCount
    rw [h]
    rfl
  have hext : extensionLength (Bytes.ofList rtp) = 0 := by
    unfold extensionLength
    rw [h]
    rfl
  have hpad : paddingLength (Bytes.ofList rtp) rtp.length = 0 := by
    unfold paddingLength
    rw [h]
    rfl
  unfold payload headerLength
  rw [hcsrc, hext, hpad]
  show (rtp.drop 12).take (rtp.length - 12) = rtp.drop 12
  exact List.take_of_length_le (by rw [List.length_drop])

theorem IsRtp.length_payload {rtp : List UInt8} (h : IsRtp rtp) :
    (payload rtp).length + headerLength (Bytes.ofList rtp)
      + paddingLength (Bytes.ofList rtp) rtp.length = rtp.length := by
  have hfits := h.fits
  unfold payload
  rw [List.length_take, List.length_drop]
  omega

/-- **Anything more than twelve bytes around the payload shows in the first byte.** -/
theorem IsRtp.length_payload_iff {rtp : List UInt8} (h : IsRtp rtp) :
    (payload rtp).length + 12 = rtp.length ↔ Plain (Bytes.ofList rtp) := by
  have hlength := h.length_payload
  constructor
  · intro hpayload
    unfold headerLength at hlength
    refine (plain_iff h.version).mpr ⟨?_, ?_, ?_⟩
    · have hcsrc : (Bytes.ofList rtp 0 &&& 0x0F).toNat = 0 := by
        unfold csrcCount at hlength
        omega
      exact UInt8.toNat_inj.mp hcsrc
    · by_contra hext
      have : 4 ≤ extensionLength (Bytes.ofList rtp) := by
        unfold extensionLength
        rw [if_neg hext]
        omega
      omega
    · by_contra hpad
      have := h.padded hpad
      omega
  · intro hplain
    have hfits := h.fits
    unfold headerLength at hfits
    rw [payload_of_plain hplain, List.length_drop]
    omega

end Rtp

/-! ## The way out -/

/-- The talker can send: a place in the ring is free, and so is a packet of the pool. The sizes
are those that `initTransmit` settles. -/
structure Sending (b : LocalVideoBuffer) (t : VideoTxStream) (header : Bytes) : Prop where
  active : t.mActive = true
  format : t.mVideoFormat = .eIasAvbVideoFormatRtp
  maxPacketSize : b.mMaxPacketSize ≤ 1500 - cAvtpHeaderSize - cRtppHeaderSize
  packetSize : b.packetSize = b.mMaxPacketSize + 24 + cEthHeaderSize
  payloadOffset : b.payloadOffset = t.payloadOffset
  place : b.remaining ≠ 0
  packet : b.mPool.pool.getPacket.1 ≠ none
  prepared : VideoTxStream.Prepared header

/-- An RTP packet on its way through the talker. `header` is the AVTP header of the packet
that the pool has for it, `stale` is what else is in there. -/
def talk (b : LocalVideoBuffer) (t : VideoTxStream) (localTime : Nat) (locked : Bool)
    (stale : Nat → UInt8) (header : Bytes) (rtp : List UInt8) : Option AvtpFrame :=
  match eventOnNewPacketH264 b.mMaxPacketSize rtp with
  | none => none
  | some desc =>
      if (b.writeH264 desc stale).1 = 0 then none
      else
        let d := (b.writeH264 desc stale).2.mRing b.mWriteIndex
        match d.avbPacket with
        | none => none
        | some p => (t.finalizeAvbPacket localTime locked d p header).1

/-- Where the payload of an H.264 packet begins, from the AVTP header on. -/
def payloadStart : Compatibility → Nat
  | eCompCurrent => cAvtpHeaderSize + 4
  | _ => cAvtpHeaderSize

/-- A frame as a listener reads it that takes `desc` for its origin. -/
structure Framed (c : AvbVideoConfig) (desc : TxDesc) (frame : AvtpFrame) : Prop where
  subtype : frame.avtp 0 = 0x03
  payloadType : frame.avtp 16 = 0x02
  seqNum : frame.avtp 2 = UInt8.ofNat desc.rtpSequenceNumber
  declared : payloadLength frame.avtp = desc.data.length
  timestamp : c.rtpTimestamp frame.avtp = desc.rtpTimestamp % 4294967296
  mptField : c.mptField frame.avtp = if desc.mptField &&& 0x80 ≠ 0 then 0xE0 else 0x60
  payload : ∀ i, i < desc.data.length →
    frame.avtp (payloadStart c.mCompatibility + i) = desc.data.getD i 0
  length : frame.length = payloadStart c.mCompatibility + desc.data.length

section Talker

variable {b : LocalVideoBuffer} {t : VideoTxStream} {header : Bytes} {localTime : Nat}
  {locked : Bool} {stale : Nat → UInt8}

theorem payloadOffset_eq (hformat : t.mVideoFormat = .eIasAvbVideoFormatRtp) :
    t.payloadOffset = payloadStart t.mCompatibility + cEthHeaderSize := by
  unfold VideoTxStream.payloadOffset
  rw [hformat]
  cases t.mCompatibility <;> rfl

/-- The header of an H.264 packet, field by field. -/
theorem fillHeader_h264 {d : RingDesc} (hd : d.isIec61883Packet = false) (p : AvbPacket)
    (m : Bytes) :
    t.fillHeader locked d p m
      = (((((t.putTimestamps d m).put 2 (UInt8.ofNat d.rtpSequenceNumber)).put16 20
        (t.streamDataLength d p)).put 22 (t.markerField d)).put 3
        (if locked then 0x00 else 0x01)) := by
  have hnot : ¬ d.isIec61883Packet = true := by
    rw [hd]
    exact Bool.false_ne_true
  unfold fillHeader
  dsimp only
  rw [if_neg hnot, if_neg hnot, if_neg hnot]

/-- The time stamps end where the payload begins. -/
theorem putTimestamps_frame {d : RingDesc} (hd : d.isIec61883Packet = false) {m : Bytes} {i : Nat}
    (hi : i < 12 ∨ 16 ≤ i ∧ i < 24 ∨ payloadStart t.mCompatibility ≤ i) :
    t.putTimestamps d m i = m i := by
  have hnot : ¬ d.isIec61883Packet = true := by
    rw [hd]
    exact Bool.false_ne_true
  unfold putTimestamps
  rw [if_neg hnot]
  cases hcomp : t.mCompatibility with
  | eCompCurrent =>
      rw [hcomp] at hi
      unfold payloadStart cAvtpHeaderSize at hi
      dsimp only at hi
      rw [if_neg (by decide), Bytes.put32_of_ne (by omega), Bytes.put32_of_ne (by omega)]
  | eComp1722aD5 =>
      rw [hcomp] at hi
      unfold payloadStart cAvtpHeaderSize at hi
      dsimp only at hi
      rw [if_pos (Or.inl rfl), Bytes.put32_of_ne (by omega)]
  | eComp1722aD9 =>
      rw [hcomp] at hi
      unfold payloadStart cAvtpHeaderSize at hi
      dsimp only at hi
      rw [if_pos (Or.inr rfl), Bytes.put32_of_ne (by omega)]

theorem fillHeader_frame {d : RingDesc} (hd : d.isIec61883Packet = false) (p : AvbPacket)
    {m : Bytes} {i : Nat} (hi : i ≠ 2 ∧ i ≠ 3 ∧ i ≠ 20 ∧ i ≠ 21 ∧ i ≠ 22) :
    t.fillHeader locked d p m i = t.putTimestamps d m i := by
  obtain ⟨h₂, h₃, h₂₀, h₂₁, h₂₂⟩ := hi
  rw [fillHeader_h264 hd, Bytes.put_of_ne h₃, Bytes.put_of_ne h₂₂, Bytes.put16_of_ne h₂₀ h₂₁,
    Bytes.put_of_ne h₂]

/-- A descriptor that stands for `desc`, and the packet it carries. -/
structure Holds (t : VideoTxStream) (desc : TxDesc) (d : RingDesc) (p : AvbPacket) : Prop where
  h264 : d.isIec61883Packet = false
  seqNum : d.rtpSequenceNumber = desc.rtpSequenceNumber
  timestamp : d.rtpTimestamp = desc.rtpTimestamp
  mptField : d.mptField = desc.mptField
  size : desc.data.length < 65536
  len : p.len = t.payloadOffset + desc.data.length
  payload : ∀ i, i < desc.data.length → p.payload.cell i = desc.data.getD i 0

/-- The RTP time stamp is where a listener of the same draft looks for it. -/
theorem rtpTimestamp_fillHeader {c : AvbVideoConfig} (hcomp : c.mCompatibility = t.mCompatibility)
    {d : RingDesc} (hd : d.isIec61883Packet = false) (p : AvbPacket) (m : Bytes) :
    c.rtpTimestamp (t.fillHeader locked d p m) = d.rtpTimestamp % 4294967296 := by
  have hnot : ¬ d.isIec61883Packet = true := by
    rw [hd]
    exact Bool.false_ne_true
  have hat : ∀ i, i = 12 ∨ i = 24 →
      (t.fillHeader locked d p m).be32 i = (t.putTimestamps d m).be32 i := by
    intro i hi
    refine Bytes.be32_congr fun k hk => fillHeader_frame hd p ?_
    omega
  unfold AvbVideoConfig.rtpTimestamp
  rw [hcomp]
  by_cases hearly : t.mCompatibility = eComp1722aD5 ∨ t.mCompatibility = eComp1722aD9
  · rw [if_pos hearly, hat 12 (Or.inl rfl)]
    unfold putTimestamps
    rw [if_neg hnot, if_pos hearly, Bytes.be32_put32]
  · have hcurrent : t.mCompatibility = eCompCurrent := by
      cases hk : t.mCompatibility with
      | eCompCurrent => rfl
      | eComp1722aD5 => exact absurd (Or.inl hk) hearly
      | eComp1722aD9 => exact absurd (Or.inr hk) hearly
    have hannounced : t.fillHeader locked d p m 22 &&& 0x20 ≠ 0 := by
      rw [fillHeader_h264 hd, Bytes.put_of_ne (by decide), Bytes.put_self]
      unfold markerField
      rw [hcurrent, if_neg (by decide)]
      by_cases hmarker : d.mptField &&& 0x80 ≠ 0
      · rw [if_pos hmarker]
        decide
      · rw [if_neg hmarker]
        decide
    rw [if_neg hearly, if_pos hannounced, hat 24 (Or.inr rfl)]
    unfold putTimestamps
    rw [if_neg hnot, if_neg hearly, Bytes.be32_put32]

/-- So is the marker bit. -/
theorem mptField_fillHeader {c : AvbVideoConfig} (hcomp : c.mCompatibility = t.mCompatibility)
    {d : RingDesc} (hd : d.isIec61883Packet = false) (p : AvbPacket) (m : Bytes) :
    c.mptField (t.fillHeader locked d p m) = if d.mptField &&& 0x80 ≠ 0 then 0xE0 else 0x60 := by
  have hfield : t.fillHeader locked d p m 22 = t.markerField d := by
    rw [fillHeader_h264 hd, Bytes.put_of_ne (by decide), Bytes.put_self]
  unfold AvbVideoConfig.mptField
  rw [hcomp, hfield]
  unfold markerField
  by_cases hmarker : d.mptField &&& 0x80 ≠ 0
  · rw [if_pos hmarker, if_pos hmarker, if_pos hmarker]
    cases t.mCompatibility <;> decide
  · rw [if_neg hmarker, if_neg hmarker, if_neg hmarker]
    cases t.mCompatibility <;> decide

/-- **A finished frame is what a listener of the same draft expects.** -/
theorem framed_fillHeader {c : AvbVideoConfig} (hcomp : c.mCompatibility = t.mCompatibility)
    (hformat : t.mVideoFormat = .eIasAvbVideoFormatRtp) (hprepared : VideoTxStream.Prepared header)
    {desc : TxDesc} {d : RingDesc} {p : AvbPacket} (h : Holds t desc d p) (attime : Nat) :
    Framed c desc
      { avtp := t.fillHeader locked d p (t.avtpBytes header p)
        length := p.len - cEthHeaderSize
        attime := attime } := by
  have hoffset := payloadOffset_eq hformat
  have hstart : 24 ≤ payloadStart t.mCompatibility := by
    cases t.mCompatibility <;> decide
  have hlen : p.len - t.payloadOffset = desc.data.length := by
    rw [h.len]
    exact Nat.add_sub_cancel_left ..
  -- the first 24 bytes are those of the prepared header
  have hprefix : ∀ i, i < 24 → t.avtpBytes header p i = header i := by
    intro i hi
    refine if_pos ?_
    rw [hoffset]
    omega
  have hnot : ¬ d.isIec61883Packet = true := by
    rw [h.h264]
    exact Bool.false_ne_true
  constructor
  · show t.fillHeader locked d p (t.avtpBytes header p) 0 = 0x03
    rw [fillHeader_frame h.h264 p (by decide), putTimestamps_frame h.h264 (by omega),
      hprefix 0 (by decide)]
    exact hprepared.subtype
  · show t.fillHeader locked d p (t.avtpBytes header p) 16 = 0x02
    rw [fillHeader_frame h.h264 p (by decide), putTimestamps_frame h.h264 (by omega),
      hprefix 16 (by decide)]
    exact hprepared.payloadType
  · show t.fillHeader locked d p (t.avtpBytes header p) 2 = _
    rw [fillHeader_h264 h.h264, Bytes.put_of_ne (by decide), Bytes.put_of_ne (by decide),
      Bytes.put16_of_ne (by decide) (by decide), Bytes.put_self, h.seqNum]
  · show (t.fillHeader locked d p (t.avtpBytes header p)).be16 20 = _
    rw [fillHeader_h264 h.h264, Bytes.be16_put_of_ne (by decide) (by decide),
      Bytes.be16_put_of_ne (by decide) (by decide), Bytes.be16_put16]
    unfold streamDataLength
    rw [if_neg hnot, hlen, Nat.mod_mod, Nat.mod_eq_of_lt h.size]
  · rw [← h.timestamp]
    exact rtpTimestamp_fillHeader hcomp h.h264 p _
  · rw [← h.mptField]
    exact mptField_fillHeader hcomp h.h264 p _
  · intro i hi
    show t.fillHeader locked d p (t.avtpBytes header p) _ = _
    rw [hcomp, fillHeader_frame h.h264 p (by omega), putTimestamps_frame h.h264 (by omega)]
    unfold avtpBytes
    rw [if_neg (by omega), ← h.payload i hi]
    congr 1
    omega
  · show p.len - cEthHeaderSize = _
    rw [h.len, hoffset, hcomp]
    omega

theorem isIec_eventOnNewPacketH264 {max : Nat} {rtp : List UInt8} {desc : TxDesc}
    (h : eventOnNewPacketH264 max rtp = some desc) : desc.isIec61883Packet = false := by
  unfold eventOnNewPacketH264 at h
  split at h
  · exact nomatch h
  · dsimp only at h
    split at h
    · exact Option.some.inj h ▸ rfl
    · split at h
      · exact nomatch h
      · exact Option.some.inj h ▸ rfl

/-- What `writeH264` stores, if it stores anything. -/
theorem holds_writeH264 (hs : Sending b t header) {desc : TxDesc}
    (hdesc : desc.isIec61883Packet = false) (hwritten : (b.writeH264 desc stale).1 ≠ 0) :
    ∃ p, ((b.writeH264 desc stale).2.mRing b.mWriteIndex).avbPacket = some p
      ∧ Holds t desc ((b.writeH264 desc stale).2.mRing b.mWriteIndex) p := by
  have hmax := hs.maxPacketSize
  unfold cAvtpHeaderSize cRtppHeaderSize at hmax
  unfold LocalVideoBuffer.writeH264 at hwritten ⊢
  split
  · rename_i hrefused
    rw [if_pos hrefused] at hwritten
    exact absurd rfl hwritten
  · rename_i haccepted
    rw [if_neg haccepted] at hwritten
    dsimp only at hwritten ⊢
    have haccepts : b.accepts desc = true := by
      cases ha : b.accepts desc with
      | true => rfl
      | false => exact absurd (Or.inl ha) haccepted
    unfold LocalVideoBuffer.accepts at haccepts
    rw [Bool.and_eq_true, decide_eq_true_eq, decide_eq_true_eq] at haccepts
    cases hget : b.getPacket stale with
    | none =>
        rw [hget] at hwritten
        exact absurd rfl hwritten
    | some p =>
        rw [hget] at hwritten
        dsimp only at hwritten ⊢
        by_cases hroom : b.HasHeadroom desc.data.length
        · rw [if_pos hroom]
          have hslot : ∀ d', (b.setSlot b.mWriteIndex d').popPool.advanceWrite.mRing b.mWriteIndex
              = d' := fun d' => LocalVideoBuffer.setSlot_self b b.mWriteIndex d'
          rw [hslot]
          refine ⟨LocalVideoBuffer.fillH264 b.payloadOffset desc p, rfl, ?_⟩
          refine ⟨hdesc, rfl, rfl, rfl, by omega, ?_, ?_⟩
          · show b.payloadOffset + desc.data.length = _
            rw [hs.payloadOffset]
          · intro i hi
            show (if 0 ≤ i ∧ i < 0 + desc.data.length then desc.data.getD (i - 0) 0 else _) = _
            rw [if_pos ⟨by omega, by omega⟩, Nat.sub_zero]
        · rw [if_neg hroom] at hwritten
          exact absurd rfl hwritten

/-- What the talker sends is framed for a listener of the same draft. -/
theorem framed_talk (hs : Sending b t header) {c : AvbVideoConfig}
    (hcomp : c.mCompatibility = t.mCompatibility) {rtp : List UInt8} {frame : AvtpFrame}
    (h : talk b t localTime locked stale header rtp = some frame) :
    ∃ desc, eventOnNewPacketH264 b.mMaxPacketSize rtp = some desc ∧ desc.data ≠ []
      ∧ Framed c desc frame := by
  unfold talk at h
  cases hdesc : eventOnNewPacketH264 b.mMaxPacketSize rtp with
  | none =>
      rw [hdesc] at h
      exact nomatch h
  | some desc =>
      rw [hdesc] at h
      dsimp only at h
      by_cases hwritten : (b.writeH264 desc stale).1 = 0
      · rw [if_pos hwritten] at h
        exact nomatch h
      · rw [if_neg hwritten] at h
        obtain ⟨p, hp, hholds⟩ := holds_writeH264 hs (isIec_eventOnNewPacketH264 hdesc) hwritten
        rw [hp] at h
        dsimp only at h
        refine ⟨desc, rfl, ?_, ?_⟩
        · intro hempty
          refine hwritten ?_
          unfold LocalVideoBuffer.writeH264
          rw [if_pos (Or.inl (by unfold LocalVideoBuffer.accepts; rw [hempty]; rfl))]
        · unfold finalizeAvbPacket at h
          rw [if_neg (by rw [hs.active]; exact Bool.noConfusion)] at h
          rw [← Option.some.inj h]
          split
          · have hholds' : Holds (t.resetTimeHard localTime) desc _ p :=
              ⟨hholds.h264, hholds.seqNum, hholds.timestamp, hholds.mptField, hholds.size,
                hholds.len, hholds.payload⟩
            exact framed_fillHeader (t := t.resetTimeHard localTime) hcomp hs.format hs.prepared
              hholds' _
          · exact framed_fillHeader hcomp hs.format hs.prepared hholds _

variable (localTime locked stale) in
/-- The talker does send what it has room for. -/
theorem talk_isSome (hs : Sending b t header) {rtp : List UInt8} {desc : TxDesc}
    (hdesc : eventOnNewPacketH264 b.mMaxPacketSize rtp = some desc) (hdata : desc.data ≠ [])
    (hsize : desc.data.length + 4 ≤ b.mMaxPacketSize) :
    (talk b t localTime locked stale header rtp).isSome = true := by
  have hlen : desc.data.length ≠ 0 := fun h => hdata (List.length_eq_zero_iff.mp h)
  have hroom : b.HasHeadroom desc.data.length := by
    have hoffset := payloadOffset_eq hs.format
    have hstart : payloadStart t.mCompatibility ≤ 28 := by
      cases t.mCompatibility <;> decide
    unfold LocalVideoBuffer.HasHeadroom
    rw [hs.payloadOffset, hs.packetSize]
    omega
  have hpacket : b.getPacket stale ≠ none := LocalVideoBuffer.getPacket_ne_none.mp hs.packet
  have hwritten : (b.writeH264 desc stale).1 ≠ 0 := by
    unfold LocalVideoBuffer.writeH264
    have haccepted : ¬ (b.accepts desc = false ∨ b.remaining = 0) := by
      rintro (hrefused | hfull)
      · unfold LocalVideoBuffer.accepts at hrefused
        rw [decide_eq_true hlen, decide_eq_true (by omega)] at hrefused
        exact Bool.noConfusion hrefused
      · exact hs.place hfull
    rw [if_neg haccepted]
    dsimp only
    cases hget : b.getPacket stale with
    | none => exact absurd hget hpacket
    | some p =>
        dsimp only
        rw [if_pos hroom]
        exact hlen
  obtain ⟨p, hp, -⟩ := holds_writeH264 hs (isIec_eventOnNewPacketH264 hdesc) hwritten
  have hactive : ¬ t.mActive = false := by
    rw [hs.active]
    exact Bool.noConfusion
  unfold talk
  rw [hdesc]
  dsimp only
  rw [if_neg hwritten, hp]
  dsimp only
  unfold finalizeAvbPacket
  rw [if_neg hactive]
  rfl

end Talker

/-! ## The way in -/

/-- What one call of `writeLocalVideoBuffer` leaves in the slots of the shared ring, as a
reader gets it. -/
def received (o : IasLocalVideoOutStream) (packet : Bytes) (now : Nat) (d : Option VideoDesc) :
    List (List UInt8) :=
  let (o', pushes) := o.writeLocalVideoBuffer packet now d
  pushes.map fun push => getH264 o'.cell (push.slot * push.bufferSize % 4294967296)

/-- A frame on its way through the listener. -/
def listen {L : Type} (c : AvbVideoConfig) (v : VideoRxStream L) (o : IasLocalVideoOutStream)
    (now : Nat) (frame : AvtpFrame) : List (List UInt8) :=
  (c.readFromAvbPacket v (some frame.avtp) frame.length).2.flatMap (received o frame.avtp now)

/-- The listener is valid and waits for the packet with this sequence number. Its local stream
has a free slot in the shared ring. -/
structure Listening {L : Type} (v : VideoRxStream L) (o : IasLocalVideoOutStream)
    (seqNum : UInt8) : Prop where
  state : v.mStreamState = eIasAvbStreamValid
  follows : v.Follows seqNum
  connected : v.isConnected = true
  idle : o.ring.mWriteInProgress = false
  slot : o.ring.grantWrite 1 ≠ 0

section Listener

variable {L : Type} {c : AvbVideoConfig} {v : VideoRxStream L} {o : IasLocalVideoOutStream}
  {now : Nat} {desc : TxDesc} {frame : AvtpFrame}

/-- The descriptor of a frame that is in order. -/
theorem describe_framed (hf : Framed c desc frame) :
    (c.describe v frame.avtp frame.length).isIec61883Packet = false
      ∧ (c.describe v frame.avtp frame.length).size = desc.data.length
      ∧ (c.describe v frame.avtp frame.length).rtpPacketPtr + 12
        = payloadStart c.mCompatibility := by
  have hsub : (frame.avtp 0 == 0x00) = false := by
    rw [hf.subtype]
    rfl
  have hiec : ¬ c.isIec61883Packet v frame.avtp frame.length = true := by
    unfold AvbVideoConfig.isIec61883Packet
    rw [hsub, Bool.and_false, Bool.and_false]
    exact Bool.noConfusion
  refine ⟨Bool.eq_false_iff.mpr hiec, ?_, ?_⟩
  · show (if c.isIec61883Packet v frame.avtp frame.length then _ else _) = _
    rw [if_neg hiec]
    exact hf.declared
  · show (if c.isIec61883Packet v frame.avtp frame.length then _ else _) + 12 = _
    rw [if_neg hiec]
    cases c.mCompatibility <;> rfl

/-- A frame that follows is handed over. -/
theorem read_framed (hf : Framed c desc frame) (hdata : desc.data ≠ [])
    (hfollows : v.Follows (frame.avtp 2)) (hconnected : v.isConnected = true) :
    (c.readFromAvbPacket v (some frame.avtp) frame.length).2
      = [some (c.describe v frame.avtp frame.length)] := by
  have hdeclared : payloadLength frame.avtp ≠ 0 := by
    rw [hf.declared]
    exact fun h => hdata (List.length_eq_zero_iff.mp h)
  have haccepted : v.verdict c.toRxConfig (headerOk frame.avtp frame.length) (frame.avtp 2)
      = eIasAvbStreamValid := RxStream.verdict_of_follows hfollows
  unfold readFromAvbPacket
  dsimp only
  rw [if_pos ⟨haccepted, hconnected, hdeclared⟩]

/-- The push goes through, and a reader gets from the slot what was pushed. -/
theorem received_h264 {packet : Bytes} {d : VideoDesc} (hd : d.isIec61883Packet = false)
    (hidle : o.ring.mWriteInProgress = false) (hslot : o.ring.grantWrite 1 ≠ 0) :
    received o packet now (some d)
      = [(List.range (rtpPacketSize d)).map (rtpPacket packet d)] := by
  have hsize : rtpPacketSize d < 4294967296 := Nat.mod_lt _ (by decide)
  have hbegin : (o.ring.beginAccessWrite 1).1
      = .ok { offset := o.ring.mWriteOffset, numBuffers := o.ring.grantWrite 1 } := by
    unfold IasAvbVideoRingBufferShm.beginAccessWrite
    rw [if_neg (by rw [hidle]; exact Bool.noConfusion)]
  unfold received writeLocalVideoBuffer
  dsimp only
  rw [if_pos hd]
  unfold pushPayloadH264 pushPayload
  split
  · rename_i hrefused
    rw [hrefused] at hbegin
    exact nomatch hbegin
  · rename_i access q hgranted
    rw [hgranted] at hbegin
    injection hbegin with haccess
    subst haccess
    rw [if_neg hslot]
    show [getH264 (putH264 ⟨o.cell, []⟩ (o.ring.mWriteOffset * o.bufferSize % 4294967296) _ _).cell
      (o.ring.mWriteOffset * o.bufferSize % 4294967296)] = _
    rw [getH264_putH264 hsize]

theorem ofList_range_map {f : Nat → UInt8} {k i : Nat} (h : i < k) :
    Bytes.ofList ((List.range k).map f) i = f i := by
  unfold Bytes.ofList
  rw [List.getD_eq_getElem?_getD, List.getElem?_map, List.getElem?_range h]
  rfl

/-- The restored header, byte by byte; behind it everything is as it was received. -/
theorem rtpPacket_header (packet : Bytes) (d : VideoDesc) :
    rtpPacket packet d 0 = 0x80 ∧ rtpPacket packet d 1 = d.mptField
      ∧ Bytes.be16 (rtpPacket packet d) 2 = d.rtpSequenceNumber % 65536
      ∧ Bytes.be32 (rtpPacket packet d) 4 = d.rtpTimestamp % 4294967296
      ∧ ∀ i, 12 ≤ i → rtpPacket packet d i = packet (d.rtpPacketPtr + i) := by
  unfold rtpPacket restoreRtpHeader
  generalize d.rtpPacketPtr = ptr
  refine ⟨?_, ?_, ?_, ?_, ?_⟩
  · rw [Bytes.put32_of_ne (by omega), Bytes.put32_of_ne (by omega),
      Bytes.put16_of_ne (by omega) (by omega), Bytes.put_of_ne (by omega)]
    exact Bytes.put_self ..
  · rw [Bytes.put32_of_ne (by omega), Bytes.put32_of_ne (by omega),
      Bytes.put16_of_ne (by omega) (by omega)]
    exact Bytes.put_self ..
  · rw [Bytes.be16_shift, ← Bytes.be16_put16 ((packet.put ptr 0x80).put (ptr + 1) d.mptField)]
    refine Bytes.be16_congr ?_ ?_
    · rw [Bytes.put32_of_ne (by omega), Bytes.put32_of_ne (by omega)]
    · rw [Bytes.put32_of_ne (by omega), Bytes.put32_of_ne (by omega)]
  · rw [Bytes.be32_shift, ← Bytes.be32_put32 (((packet.put ptr 0x80).put (ptr + 1)
      d.mptField).put16 (ptr + 2) d.rtpSequenceNumber)]
    exact Bytes.be32_congr fun k hk => Bytes.put32_of_ne (by omega)
  · intro i hi
    rw [Bytes.put32_of_ne (by omega), Bytes.put32_of_ne (by omega),
      Bytes.put16_of_ne (by omega) (by omega), Bytes.put_of_ne (by omega),
      Bytes.put_of_ne (by omega)]

variable (now) in
/-- **What comes out of a frame**: a plain header, and the data behind it. -/
theorem listen_framed (hl : Listening v o (frame.avtp 2)) (hf : Framed c desc frame)
    (hdata : desc.data ≠ []) (hsize : desc.data.length < 65536) :
    ∃ rtp', listen c v o now frame = [rtp'] ∧ Rtp.Plain (Bytes.ofList rtp')
      ∧ rtp'.drop 12 = desc.data
      ∧ Bytes.ofList rtp' 1 = (if desc.mptField &&& 0x80 ≠ 0 then 0xE0 else 0x60)
      ∧ Rtp.timestamp rtp' = desc.rtpTimestamp % 4294967296
      ∧ Rtp.sequenceNumber rtp' % 256 = desc.rtpSequenceNumber % 256 := by
  obtain ⟨hiec, hlen, hptr⟩ := describe_framed (v := v) hf
  set d := c.describe v frame.avtp frame.length with hd
  have hk : rtpPacketSize d = desc.data.length + 12 := by
    unfold rtpPacketSize add32
    rw [hlen]
    exact Nat.mod_eq_of_lt (by omega)
  have hread : listen c v o now frame
      = [(List.range (rtpPacketSize d)).map (rtpPacket frame.avtp d)] := by
    unfold listen
    rw [read_framed hf hdata hl.follows hl.connected, List.flatMap_singleton,
      received_h264 hiec hl.idle hl.slot]
  obtain ⟨hb₀, hb₁, hseq, hts, hrest⟩ := rtpPacket_header frame.avtp d
  -- the first twelve bytes are the header, and the rest is the data
  have hat : ∀ i, i < 12 → Bytes.ofList ((List.range (rtpPacketSize d)).map
      (rtpPacket frame.avtp d)) i = rtpPacket frame.avtp d i :=
    fun i hi => ofList_range_map (by omega)
  refine ⟨_, hread, ?_, ?_, ?_, ?_, ?_⟩
  · exact (hat 0 (by decide)).trans hb₀
  · refine List.ext_getElem ?_ fun i hi hi' => ?_
    · rw [List.length_drop, List.length_map, List.length_range, hk]
      exact Nat.add_sub_cancel ..
    · rw [List.getElem_drop, List.getElem_map, List.getElem_range, hrest _ (by omega),
        ← Nat.add_assoc, hptr, hf.payload i hi', List.getD_eq_getElem?_getD,
        List.getElem?_eq_getElem hi', Option.getD_some]
  · exact (hat 1 (by decide)).trans (hb₁.trans hf.mptField)
  · refine (Bytes.be32_congr fun k hk => hat (4 + k) (by omega)).trans (hts.trans ?_)
    show c.rtpTimestamp frame.avtp % 4294967296 = _
    rw [hf.timestamp, Nat.mod_mod]
  · have hat' : Rtp.sequenceNumber ((List.range (rtpPacketSize d)).map (rtpPacket frame.avtp d))
        = d.rtpSequenceNumber % 65536 :=
      (Bytes.be16_congr (hat 2 (by decide)) (hat 3 (by decide))).trans hseq
    have hbyte : (frame.avtp 2).toNat = desc.rtpSequenceNumber % 256 := by
      rw [hf.seqNum]
      exact UInt8.toNat_ofNat'
    have hnumber : d.rtpSequenceNumber
        = 256 * (c.nextSeqHighByte v frame.avtp).toNat + (frame.avtp 2).toNat := rfl
    rw [hat', hnumber, hbyte]
    omega

end Listener

/-! ## Both ways -/

/-- The packet comes out at the other end. -/
def RoundTrip {L : Type} (b : LocalVideoBuffer) (t : VideoTxStream) (localTime : Nat)
    (locked : Bool) (stale : Nat → UInt8) (header : Bytes) (c : AvbVideoConfig)
    (v : VideoRxStream L) (o : IasLocalVideoOutStream) (now : Nat) (rtp : List UInt8) : Prop :=
  ∃ frame, talk b t localTime locked stale header rtp = some frame
    ∧ ∃ rtp', listen c v o now frame = [rtp'] ∧ Rtp.Conveys rtp rtp'

/-- What the talker makes of a packet: it leaves off twelve bytes, or none. -/
theorem eventOnNewPacketH264_rtp {max : Nat} {rtp : List UInt8} (hr : Rtp.IsRtp rtp)
    (hlen : rtp.length ≤ max) :
    eventOnNewPacketH264 max rtp = some
      { data := if Bytes.ofList rtp 0 &&& 0x10 ≠ 0 then rtp else rtp.drop 12
        rtpSequenceNumber := Rtp.sequenceNumber rtp
        rtpTimestamp := Rtp.timestamp rtp
        mptField := Bytes.ofList rtp 1 } := by
  have hfits := hr.fits
  unfold Rtp.headerLength at hfits
  unfold eventOnNewPacketH264
  rw [if_neg (by omega)]
  dsimp only
  by_cases hext : Bytes.ofList rtp 0 &&& 0x10 ≠ 0
  · rw [if_pos hext, if_pos hext]
    rfl
  · rw [if_neg hext, if_neg hext, if_neg (by unfold cRtppHeaderSize; omega)]
    rfl

/--
**When a packet makes the round trip.**

In every draft and for every RTP packet that is not too long, whatever is in the packets and
in the shared memory: the listener delivers one packet with the same payload, marker bit,
time stamp and low byte of the sequence number, exactly if the packet came with a plain
header and a payload that is not empty.
-/
theorem h264_roundTrip_iff {L : Type} {b : LocalVideoBuffer} {t : VideoTxStream} {localTime : Nat}
    {locked : Bool} {stale : Nat → UInt8} {header : Bytes} {c : AvbVideoConfig}
    {v : VideoRxStream L} {o : IasLocalVideoOutStream} {now : Nat} {rtp : List UInt8}
    (hr : Rtp.IsRtp rtp) (hlen : rtp.length ≤ b.mMaxPacketSize) (hs : Sending b t header)
    (hcomp : c.mCompatibility = t.mCompatibility)
    (hl : Listening v o (UInt8.ofNat (Rtp.sequenceNumber rtp))) :
    RoundTrip b t localTime locked stale header c v o now rtp ↔
      Rtp.Plain (Bytes.ofList rtp) ∧ 12 < rtp.length := by
  have hmax := hs.maxPacketSize
  unfold cAvtpHeaderSize cRtppHeaderSize at hmax
  have hdesc := eventOnNewPacketH264_rtp hr hlen
  set desc : TxDesc := { data := if Bytes.ofList rtp 0 &&& 0x10 ≠ 0 then rtp else rtp.drop 12
                         rtpSequenceNumber := Rtp.sequenceNumber rtp
                         rtpTimestamp := Rtp.timestamp rtp
                         mptField := Bytes.ofList rtp 1 } with hdescEq
  -- twelve bytes are the most that is dropped
  have hlower : rtp.length ≤ desc.data.length + 12 := by
    show _ ≤ (if _ then _ else _ : List UInt8).length + 12
    split
    · omega
    · rw [List.length_drop]
      omega
  have hupper : desc.data.length ≤ rtp.length := by
    show (if _ then _ else _ : List UInt8).length ≤ _
    split
    · omega
    · rw [List.length_drop]
      omega
  constructor
  · rintro ⟨frame, hframe, rtp', hlisten, hconveys⟩
    obtain ⟨desc', hdesc', hdata, hframed⟩ := framed_talk hs hcomp hframe
    obtain rfl : desc = desc' := Option.some.inj (hdesc.symm.trans hdesc')
    have hl' : Listening v o (frame.avtp 2) := hframed.seqNum ▸ hl
    obtain ⟨out, hout, hplain, hdrop, -⟩ :=
      listen_framed now hl' hframed hdata (by omega)
    obtain rfl : out = rtp' := List.singleton_inj.mp (hout.symm.trans hlisten)
    -- what comes out is the payload, so nothing but the fixed header was dropped
    have hpayload : Rtp.payload rtp = desc.data :=
      hconveys.payload.symm.trans ((Rtp.payload_of_plain hplain).trans hdrop)
    have hpos : desc.data.length ≠ 0 := fun h => hdata (List.length_eq_zero_iff.mp h)
    have hcounted := hr.length_payload
    unfold Rtp.headerLength at hcounted
    rw [hpayload] at hcounted
    have hplain' : Rtp.Plain (Bytes.ofList rtp) := by
      refine hr.length_payload_iff.mp ?_
      rw [hpayload]
      omega
    exact ⟨hplain', by omega⟩
  · rintro ⟨hplain, hlong⟩
    -- a plain header is dropped whole, and something is left to be sent
    have hdata : desc.data = rtp.drop 12 := by
      refine if_neg ?_
      rw [hplain]
      decide
    have hne : desc.data ≠ [] := by
      intro h
      rw [hdata, List.drop_eq_nil_iff] at h
      omega
    have hsent := talk_isSome localTime locked stale hs hdesc hne
      (by rw [hdata, List.length_drop]; omega)
    obtain ⟨frame, hframe⟩ := Option.isSome_iff_exists.mp hsent
    obtain ⟨desc', hdesc', -, hframed⟩ := framed_talk hs hcomp hframe
    obtain rfl : desc = desc' := Option.some.inj (hdesc.symm.trans hdesc')
    have hl' : Listening v o (frame.avtp 2) := hframed.seqNum ▸ hl
    obtain ⟨out, hout, hplain', hdrop, hmarker, hstamp, hseq⟩ :=
      listen_framed now hl' hframed hne (by omega)
    refine ⟨frame, hframe, out, hout, ?_, ?_, ?_, hseq⟩
    · rw [Rtp.payload_of_plain hplain', Rtp.payload_of_plain hplain, hdrop, hdata]
    · unfold Rtp.marker
      rw [hmarker]
      by_cases hbit : desc.mptField &&& 0x80 ≠ 0
      · rw [if_pos hbit]
        exact (bne_iff_ne.mpr hbit).symm
      · rw [if_neg hbit]
        exact (bne_eq_false_iff_eq.mpr (not_not.mp hbit)).symm
    · rw [hstamp]
      exact Nat.mod_eq_of_lt (Bytes.be32_lt ..)

/-- A talker of draft 14 that is idle, with packets for 200 bytes. -/
def idleBuffer : LocalVideoBuffer where
  mNumPacketsTotal := 8
  mMaxPacketSize := 200
  mPool := AvbPacketPool.step {} (.init 242 8 AvbPacketPool.smallEnv)
  payloadOffset := 46

def activeStream : VideoTxStream where
  mCompatibility := eCompCurrent
  mVideoFormat := .eIasAvbVideoFormatRtp
  streamId := fun _ => 0
  presentationTimeOffset := 2000000
  mLaunchTimeDelta := 250000
  mActive := true

theorem sending_idle : Sending idleBuffer activeStream (activeStream.prepareHeader fun _ => 0) where
  active := rfl
  format := rfl
  maxPacketSize := by decide
  packetSize := by decide +kernel
  payloadOffset := by decide
  place := by decide
  packet := by decide +kernel
  prepared := prepared_prepareHeader rfl _

/-- A listener that has got packet number 6. -/
def validVideo : VideoRxStream Unit where
  mStreamStateInternal := eIasAvbStreamValid
  mStreamState := eIasAvbStreamValid
  mValidationCount := 0
  mSeqNum := 6
  mLocalStream := some ()

def videoClient : IasLocalVideoOutStream where
  mMaxPacketRate := 4000
  mMaxPacketSize := 200
  mFormat := .eIasAvbVideoFormatRtp
  ring := { mNumBuffers := 4 }
  bufferSize := 216
  cell := fun _ => 0

/-- Packet number 7, with `first` for its first byte and `behind` behind the header. -/
def rtpPacketOf (first : UInt8) (behind : List UInt8) : List UInt8 :=
  [first, 0xE0, 0, 7, 0, 0, 0, 9, 0, 0, 0, 1] ++ behind

theorem h264_roundTrip_iff_plain :
    RoundTrip idleBuffer activeStream 1 true (fun _ => 0) (activeStream.prepareHeader fun _ => 0)
        strictVideo validVideo videoClient 5 (rtpPacketOf 0x80 [0x65, 0x11]) ↔
      Rtp.Plain (Bytes.ofList (rtpPacketOf 0x80 [0x65, 0x11]))
        ∧ 12 < (rtpPacketOf 0x80 [0x65, 0x11]).length :=
  h264_roundTrip_iff ⟨by decide, by decide, by decide⟩ (by decide) sending_idle rfl
    ⟨rfl, by decide, rfl, rfl, by decide⟩

/-- An extension of no words, `BE DE 00 00`, is enough: the listener delivers the whole packet,
header and all, behind another header. -/
theorem extension_comes_out_as_payload :
    Rtp.IsRtp (rtpPacketOf 0x90 [0xBE, 0xDE, 0, 0, 0x65, 0x11])
      ∧ Listening validVideo videoClient
        (UInt8.ofNat (Rtp.sequenceNumber (rtpPacketOf 0x90 [0xBE, 0xDE, 0, 0, 0x65, 0x11])))
      ∧ Sending idleBuffer activeStream (activeStream.prepareHeader fun _ => 0)
      ∧ Rtp.payload (rtpPacketOf 0x90 [0xBE, 0xDE, 0, 0, 0x65, 0x11]) = [0x65, 0x11]
      ∧ (talk idleBuffer activeStream 1 true (fun _ => 0) (activeStream.prepareHeader fun _ => 0)
          (rtpPacketOf 0x90 [0xBE, 0xDE, 0, 0, 0x65, 0x11])).map
            (listen strictVideo validVideo videoClient 5)
        = some [[0x80, 0xE0, 0, 7, 0, 0, 0, 9, 0x41, 0x20, 0xdb, 0x95,
            0x90, 0xE0, 0, 7, 0, 0, 0, 9, 0, 0, 0, 1, 0xBE, 0xDE, 0, 0, 0x65, 0x11]]
      ∧ ¬ RoundTrip idleBuffer activeStream 1 true (fun _ => 0)
        (activeStream.prepareHeader fun _ => 0) strictVideo validVideo videoClient 5
        (rtpPacketOf 0x90 [0xBE, 0xDE, 0, 0, 0x65, 0x11]) := by
  have hout : (talk idleBuffer activeStream 1 true (fun _ => 0)
      (activeStream.prepareHeader fun _ => 0)
      (rtpPacketOf 0x90 [0xBE, 0xDE, 0, 0, 0x65, 0x11])).map
        (listen strictVideo validVideo videoClient 5)
      = some [[0x80, 0xE0, 0, 7, 0, 0, 0, 9, 0x41, 0x20, 0xdb, 0x95,
          0x90, 0xE0, 0, 7, 0, 0, 0, 9, 0, 0, 0, 1, 0xBE, 0xDE, 0, 0, 0x65, 0x11]] := by
    decide +kernel
  refine ⟨⟨by decide, by decide, by decide⟩, ⟨rfl, by decide, rfl, rfl, by decide⟩, sending_idle,
    by decide, hout, ?_⟩
  rintro ⟨frame, hframe, rtp', hlisten, hconveys⟩
  rw [hframe, Option.map_some, hlisten, Option.some.injEq, List.singleton_inj] at hout
  have hpayload := hconveys.payload
  rw [hout] at hpayload
  exact absurd hpayload (by decide)

end AvbStreamHandler
