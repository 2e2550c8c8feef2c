import Mathlib.Data.List.Chain
import AvbStreamHandler.Kit.Run
import AvbStreamHandler.Video.AvbVideoStream

/-!
# The RTP sequence number

The AVTP header has room for the lower half of an RTP sequence number. The listener keeps the
upper half, and counts it up when the lower one wraps. It looks for the wrap where it compares
the number of a packet with the last one, so a wrap is missed where the two are not compared:
when no packet is validated at all, and when the stream had to start over.
-/

namespace AvbStreamHandler

open IasAvbStreamState Kit

/-- What the receive engine hands to a video stream: a packet with its length, or the null packet
once nothing was received for a while. -/
inductive RtpEvent where
  | packet (packet : Bytes) (length : Nat)
  | nothing

namespace AvbVideoConfig

variable {L : Type} {c : AvbVideoConfig} {v : VideoRxStream L}

/-- The stream behind one call of `readFromAvbPacket`. -/
def receive (c : AvbVideoConfig) (v : VideoRxStream L) : RtpEvent → VideoRxStream L
  | .packet packet length => (c.readFromAvbPacket v (some packet) length).1
  | .nothing => (c.readFromAvbPacket v none 0).1

/-- The packets have the compressed video format, and are accepted. -/
def AcceptsH264 (c : AvbVideoConfig) (v : VideoRxStream L) : RtpEvent → Prop
  | .packet packet length => packet 0 = 0x03
      ∧ v.verdict c.toRxConfig (headerOk packet length) (packet 2) = eIasAvbStreamValid
  | .nothing => True

instance (c : AvbVideoConfig) (v : VideoRxStream L) : ∀ e, Decidable (c.AcceptsH264 v e)
  | .packet _ _ => inferInstanceAs (Decidable (_ ∧ _))
  | .nothing => inferInstanceAs (Decidable True)

/-- The AVTP sequence numbers of the packets. -/
def avtpNumbers : List RtpEvent → List UInt8
  | [] => []
  | .packet packet _ :: es => packet 2 :: avtpNumbers es
  | .nothing :: es => avtpNumbers es

/-- The RTP sequence numbers they are given. -/
def rtpNumbers (c : AvbVideoConfig) : VideoRxStream L → List RtpEvent → List Nat
  | _, [] => []
  | v, .packet packet length :: es =>
      (c.describe v packet length).rtpSequenceNumber
        :: rtpNumbers c (c.receive v (.packet packet length)) es
  | v, .nothing :: es => rtpNumbers c (c.receive v .nothing) es

/-- A packet with which the AVTP number wraps is compared with the one before it. -/
def SeesWrap (c : AvbVideoConfig) (v : VideoRxStream L) : RtpEvent → Prop
  | .packet packet _ => packet 2 = 0
      → c.mValidationMode ≠ cValidateNever ∧ v.mStreamStateInternal = eIasAvbStreamValid
  | .nothing => True

/-- Both halves of the sequence number, as a stream keeps them. -/
def rtpNumber (v : VideoRxStream L) : Nat := 256 * v.mRtpSeqHighByte.toNat + v.mSeqNum.toNat

/-! ## One packet -/

theorem receive_seqNum (c : AvbVideoConfig) (v : VideoRxStream L) (packet : Bytes) (length : Nat) :
    (c.receive v (.packet packet length)).mSeqNum = packet 2 :=
  (RxStream.settle_frame ..).1

theorem receive_nothing (c : AvbVideoConfig) (v : VideoRxStream L) :
    (c.receive v .nothing).mSeqNum = v.mSeqNum
      ∧ (c.receive v .nothing).mRtpSeqHighByte = v.mRtpSeqHighByte :=
  ⟨(RxStream.settle_frame ..).1, rfl⟩

/-- The number given to a packet is the one the stream keeps behind it. -/
theorem describe_rtpNumber (c : AvbVideoConfig) (v : VideoRxStream L) (packet : Bytes)
    (length : Nat) : (c.describe v packet length).rtpSequenceNumber
      = rtpNumber (c.receive v (.packet packet length)) := by
  unfold rtpNumber
  rw [receive_seqNum]
  rfl

/-- Adding one to the lower half wraps at zero. -/
theorem toNat_succ (s : UInt8) :
    (s + 1 = 0 ∧ s.toNat = 255) ∨ (s + 1 ≠ 0 ∧ (s + 1).toNat = s.toNat + 1) := by
  have hlt := s.toNat_lt
  have hadd : (s + 1).toNat = (s.toNat + 1) % 256 := UInt8.toNat_add s 1
  have hzero : s + 1 = 0 ↔ (s + 1).toNat = 0 := UInt8.toNat_inj.symm
  rw [ne_eq, hzero, hadd]
  omega

/-- **One packet of a run** counts on by one, unless it wraps unseen. -/
theorem rtpNumber_succ_iff {packet : Bytes} {length : Nat}
    (haccepts : c.AcceptsH264 v (.packet packet length)) (hseq : packet 2 = v.mSeqNum + 1) :
    (c.describe v packet length).rtpSequenceNumber = (rtpNumber v + 1) % 65536
      ↔ c.SeesWrap v (.packet packet length) := by
  have hh264 : packet 0 ≠ 0x00 := ne_of_eq_of_ne haccepts.1 (by decide)
  have hhigh := v.mRtpSeqHighByte.toNat_lt
  have hadd : (v.mRtpSeqHighByte + 1).toNat = (v.mRtpSeqHighByte.toNat + 1) % 256 :=
    UInt8.toNat_add _ 1
  have hless : packet 2 < v.mSeqNum ↔ (packet 2).toNat < v.mSeqNum.toNat := UInt8.lt_iff_toNat_lt
  show 256 * (c.nextSeqHighByte v packet).toNat + (packet 2).toNat
    = (256 * v.mRtpSeqHighByte.toNat + v.mSeqNum.toNat + 1) % 65536 ↔ _
  unfold SeesWrap nextSeqHighByte RxStream.Follows
  obtain ⟨hwrap, hlast⟩ | ⟨hwrap, hnext⟩ := toNat_succ v.mSeqNum <;> rw [← hseq] at hwrap
  · -- the lower half wraps, and the upper half counts if the wrap is seen
    have hlow : (packet 2).toNat = 0 := congrArg UInt8.toNat hwrap
    by_cases hsees : c.mValidationMode ≠ cValidateNever
        ∧ v.mStreamStateInternal = eIasAvbStreamValid
    · rw [if_pos ⟨hsees.1, ⟨hsees.2, hseq⟩, hh264, hless.mpr (by omega)⟩, hadd]
      exact iff_of_true (by omega) fun _ => hsees
    · rw [if_neg fun h => hsees ⟨h.1, h.2.1.1⟩]
      exact iff_of_false (by omega) fun h => hsees (h hwrap)
  · -- the lower half counts alone
    rw [← hseq] at hnext
    have hlow := (packet 2).toNat_lt
    rw [if_neg fun h => absurd (hless.mp h.2.2.2) (by omega)]
    exact iff_of_true (by omega) fun h => absurd h hwrap

/-! ## Runs -/

/-- The invariant: the stream keeps both halves of the number last given. -/
theorem rtpNumbers_iff {es : List RtpEvent} (haccepts : Run.Always c.receive c.AcceptsH264 v es)
    (hnumbers : (v.mSeqNum :: avtpNumbers es).IsChain fun s s' => s' = s + 1) :
    (rtpNumber v :: c.rtpNumbers v es).IsChain (fun n n' => n' = (n + 1) % 65536)
      ↔ Run.Always c.receive c.SeesWrap v es := by
  induction es generalizing v with
  | nil => exact iff_of_true (.singleton _) trivial
  | cons e es ih =>
      cases e with
      | nothing =>
          obtain ⟨hseq, hhigh⟩ := receive_nothing c v
          have hsame : rtpNumber (c.receive v .nothing) = rtpNumber v := by
            unfold rtpNumber
            rw [hseq, hhigh]
          have hrest := ih haccepts.2 (by rw [hseq]; exact hnumbers)
          rw [hsame] at hrest
          exact hrest.trans ⟨fun h => ⟨trivial, h⟩, fun h => h.2⟩
      | packet packet length =>
          obtain ⟨hseq, hbehind⟩ := List.isChain_cons_cons.mp hnumbers
          have hrest := ih haccepts.2 (by rw [receive_seqNum]; exact hbehind)
          have hfirst := rtpNumber_succ_iff haccepts.1 hseq
          rw [← describe_rtpNumber] at hrest
          show List.IsChain _ (_ :: (c.describe v packet length).rtpSequenceNumber :: _) ↔ _ ∧ _
          rw [List.isChain_cons_cons, hfirst, hrest]

/-- Without a pause every wrap is seen, unless packets are never validated. -/
theorem seesWrap_of_validated (hmode : c.mValidationMode ≠ cValidateNever)
    (hvalid : v.mStreamStateInternal = eIasAvbStreamValid) {es : List RtpEvent}
    (hpause : RtpEvent.nothing ∉ es) (haccepts : Run.Always c.receive c.AcceptsH264 v es) :
    Run.Always c.receive c.SeesWrap v es := by
  induction es generalizing v with
  | nil => trivial
  | cons e es ih =>
      cases e with
      | nothing => exact absurd List.mem_cons_self hpause
      | packet packet length =>
          have hnext : (c.receive v (.packet packet length)).mStreamStateInternal
              = eIasAvbStreamValid := (read_internal ..).trans haccepts.1.2
          exact ⟨fun _ => ⟨hmode, hvalid⟩,
            ih hnext (fun h => hpause (List.mem_cons_of_mem _ h)) haccepts.2⟩

/--
**The RTP sequence number counts.**

For every run of accepted H.264 packets with consecutive AVTP sequence numbers, from any state
and with any pauses: each packet is given the number of the one before it plus one, if and only
if every packet with which the AVTP number wraps meets a stream that validates and that is valid.
-/
theorem rtpNumbers_count_iff (c : AvbVideoConfig) (v : VideoRxStream L) (packet : Bytes)
    (length : Nat) (es : List RtpEvent)
    (haccepts : Run.Always c.receive c.AcceptsH264 v (.packet packet length :: es))
    (hnumbers : (avtpNumbers (.packet packet length :: es)).IsChain fun s s' => s' = s + 1) :
    (c.rtpNumbers v (.packet packet length :: es)).IsChain (fun n n' => n' = (n + 1) % 65536)
      ↔ Run.Always c.receive c.SeesWrap (c.receive v (.packet packet length)) es := by
  have hrest := rtpNumbers_iff haccepts.2 (by rw [receive_seqNum]; exact hnumbers)
  rw [← describe_rtpNumber] at hrest
  exact hrest

/-- Packets in order with the numbers 254, 255, 0, and a pause before the last one. -/
def acrossWrap (pause : List RtpEvent) : List RtpEvent :=
  [.packet (cvfPacket 0x02 254 100) 124, .packet (cvfPacket 0x02 255 100) 124] ++ pause
    ++ [.packet (cvfPacket 0x02 0 100) 124]

theorem rtpNumbers_count_wrap :
    (strictVideo.rtpNumbers videoStream (acrossWrap [])).IsChain
      (fun n n' => n' = (n + 1) % 65536) := by
  have haccepts : Run.Always strictVideo.receive strictVideo.AcceptsH264 videoStream
      (acrossWrap []) := ⟨by decide, by decide, by decide, trivial⟩
  refine (rtpNumbers_count_iff strictVideo videoStream _ _ _ haccepts (by decide)).mpr ?_
  refine seesWrap_of_validated (by decide) (by decide) ?_ haccepts.2
  simp

/-- **A wrap that is not seen.** Packets that are never validated, and ones that are with a pause
before the wrap: 254 and 255 are followed by 0. -/
theorem rtp_number_stays_behind :
    let never : AvbVideoConfig := { strictVideo with mValidationMode := cValidateNever }
    Run.Always never.receive never.AcceptsH264 videoStream (acrossWrap [])
      ∧ Run.Always strictVideo.receive strictVideo.AcceptsH264 videoStream (acrossWrap [.nothing])
      ∧ never.rtpNumbers videoStream (acrossWrap []) = [254, 255, 0]
      ∧ strictVideo.rtpNumbers videoStream (acrossWrap [.nothing]) = [254, 255, 0]
      ∧ ¬ ∀ (c : AvbVideoConfig) (v : VideoRxStream Unit) (es : List RtpEvent),
        Run.Always c.receive c.AcceptsH264 v es →
          (avtpNumbers es).IsChain (fun s s' => s' = s + 1) →
            (c.rtpNumbers v es).IsChain fun n n' => n' = (n + 1) % 65536 := by
  intro never
  have haccepts : Run.Always never.receive never.AcceptsH264 videoStream (acrossWrap []) :=
    ⟨by decide, by decide, by decide, trivial⟩
  have hnumbers : never.rtpNumbers videoStream (acrossWrap []) = [254, 255, 0] := by decide
  refine ⟨haccepts, ⟨by decide, by decide, trivial, by decide, trivial⟩, hnumbers, by decide,
    fun hclaim => ?_⟩
  have hchain := hclaim never videoStream (acrossWrap []) haccepts (by decide)
  rw [hnumbers] at hchain
  exact absurd hchain (by decide)

end AvbVideoConfig

end AvbStreamHandler
