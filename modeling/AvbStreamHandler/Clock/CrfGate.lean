import AvbStreamHandler.Clock.ClockReferenceStream
import AvbStreamHandler.Kit.Run

/-!
# The gate in front of the clock

What a CRF listener in `cValidateAlways` makes of an arbitrary packet: whether the packet is
accepted, which of its stamps are read, and how a stream comes back.

The header checks decide only while the stream is not valid. A stream that is valid accepts
every packet with the next sequence number and a base frequency, and then reads as many
stamps as the packet says it has, wherever the packet ends.

Three results:

* **gate**: a packet that fails a check is rejected exactly if it does not continue the flow;
* **bounds**: all stamps read lie inside the packet, except for those of a packet that came
  in this way and announces more than it has;
* **recovery**: as long as no such packet came in, `mValidationThreshold` good packets in a
  row after a bad one make the stream valid. A draft 6 listener loses its stream type to
  byte 3 of the packets it accepts, which is reserved in that layout.
-/

namespace AvbStreamHandler

open Kit Kit.Word Kit.Run IasAvbStreamState IasAvbCompatibility

open IasAvbClockReferenceStreamType

namespace IasAvbClockReferenceStream

/-- Every check of the header validation. -/
def HeaderOk (s : IasAvbClockReferenceStream) (p : Bytes) (length : Nat) : Prop :=
  s.format.headerSize ≤ length ∧ s.HeaderFields p ∧ LengthFits s.format p length

instance (s : IasAvbClockReferenceStream) (p : Bytes) (length : Nat) :
    Decidable (s.HeaderOk p length) := inferInstanceAs (Decidable (_ ∧ _ ∧ _))

/-- The packet continues the flow the stream is following. -/
def Continues (s : IasAvbClockReferenceStream) (p : Bytes) : Prop :=
  s.mStreamStateInternal = eIasAvbStreamValid
    ∧ readBaseFreq s.mCompatibilityMode p ≠ 0 ∧ p 2 = s.mSeqNum + 1

instance (s : IasAvbClockReferenceStream) (p : Bytes) : Decidable (s.Continues p) :=
  inferInstanceAs (Decidable (_ ∧ _ ∧ _))

/-- The packet fails a check, and continues the flow all the same. -/
def Slips (s : IasAvbClockReferenceStream) (p : Bytes) (length : Nat) : Prop :=
  ¬ s.HeaderOk p length ∧ s.Continues p

instance (s : IasAvbClockReferenceStream) (p : Bytes) (length : Nat) :
    Decidable (s.Slips p length) := inferInstanceAs (Decidable (_ ∧ _))

def Accepted (s : IasAvbClockReferenceStream) (p : Bytes) (length : Nat) : Prop :=
  (s.validate p length).newState = eIasAvbStreamValid

instance (s : IasAvbClockReferenceStream) (p : Bytes) (length : Nat) :
    Decidable (s.Accepted p length) := inferInstanceAs (Decidable (_ = _))

/-- The number of stamps the packet announces. -/
def numStamps (s : IasAvbClockReferenceStream) (p : Bytes) : Nat :=
  numStampsOf (s.format.payloadLength p)

/-- All stamps that were read lie inside the packet. -/
def StampsInside (s : IasAvbClockReferenceStream) (p : Bytes) (length : Nat)
    (rx : RxAnswers) : Prop :=
  ∀ i ∈ (s.readFromAvbPacket (some p) length rx).stampsRead, s.format.stampEnd i ≤ length

instance (s : IasAvbClockReferenceStream) (p : Bytes) (length : Nat) (rx : RxAnswers) :
    Decidable (s.StampsInside p length rx) := inferInstanceAs (Decidable (∀ i ∈ _, _))

variable {s : IasAvbClockReferenceStream} {p : Bytes} {length : Nat} {rx : RxAnswers}

/-! ## The verdict -/

theorem checkHeader_of_headerOk (h : s.HeaderOk p length) :
    s.checkHeader p length = ⟨eIasAvbStreamValid, s.format.payloadLength p,
      readBaseFreq s.mCompatibilityMode p, readEventsPerStamp s.mCompatibilityMode p⟩ := by
  obtain ⟨hlength, hfields, hfits⟩ := h
  unfold checkHeader
  dsimp only
  rw [if_pos hlength, if_pos hfields, if_pos hfits]

theorem checkHeader_valid_iff :
    (s.checkHeader p length).newState = eIasAvbStreamValid ↔ s.HeaderOk p length := by
  constructor
  · intro h
    unfold checkHeader at h
    dsimp only at h
    split at h
    · rename_i hlength
      split at h
      · rename_i hfields
        split at h
        · rename_i hfits
          exact ⟨hlength, hfields, hfits⟩
        · exact IasAvbStreamState.noConfusion h
      · exact IasAvbStreamState.noConfusion h
    · exact IasAvbStreamState.noConfusion h
  · intro h
    rw [checkHeader_of_headerOk h]

theorem validate_of_valid (hmode : s.mValidationMode ≠ cValidateNever)
    (h : s.mStreamStateInternal = eIasAvbStreamValid) : s.validate p length = s.checkFlow p := by
  unfold validate
  dsimp only
  rw [if_neg hmode, if_pos h]

theorem validate_of_not_valid (hmode : s.mValidationMode = cValidateAlways)
    (h : s.mStreamStateInternal ≠ eIasAvbStreamValid) :
    s.validate p length = s.checkHeader p length := by
  have hnever : s.mValidationMode ≠ cValidateNever := by rw [hmode]; decide
  unfold validate
  dsimp only
  rw [if_neg hnever, if_neg h, if_pos (Or.inl hmode)]

theorem checkFlow_valid_iff (h : s.mStreamStateInternal = eIasAvbStreamValid) :
    (s.checkFlow p).newState = eIasAvbStreamValid ↔ s.Continues p := by
  unfold checkFlow Continues
  dsimp only
  split
  · rename_i hflow
    exact iff_of_true rfl ⟨h, hflow⟩
  · rename_i hflow
    exact iff_of_false (fun hne => IasAvbStreamState.noConfusion hne) fun hc => hflow hc.2

/-- A stream that follows a flow goes by the flow, any other by the header. -/
theorem accepted_iff (hmode : s.mValidationMode = cValidateAlways) :
    s.Accepted p length ↔ s.Continues p
      ∨ (s.mStreamStateInternal ≠ eIasAvbStreamValid ∧ s.HeaderOk p length) := by
  have hnever : s.mValidationMode ≠ cValidateNever := by rw [hmode]; decide
  unfold Accepted
  by_cases hvalid : s.mStreamStateInternal = eIasAvbStreamValid
  · rw [validate_of_valid hnever hvalid, checkFlow_valid_iff hvalid]
    exact ⟨Or.inl, fun h => h.resolve_right fun hr => hr.1 hvalid⟩
  · rw [validate_of_not_valid hmode hvalid, checkHeader_valid_iff]
    refine ⟨fun h => Or.inr ⟨hvalid, h⟩, ?_⟩
    rintro (h | h)
    · exact absurd h.1 hvalid
    · exact h.2

/-- Whichever way a packet was accepted, its own length field stands. -/
theorem payloadLength_of_accepted (hmode : s.mValidationMode = cValidateAlways)
    (h : s.Accepted p length) :
    (s.validate p length).payloadLength = s.format.payloadLength p := by
  have hnever : s.mValidationMode ≠ cValidateNever := by rw [hmode]; decide
  by_cases hvalid : s.mStreamStateInternal = eIasAvbStreamValid
  · rw [validate_of_valid hnever hvalid]
    rfl
  · unfold Accepted at h
    rw [validate_of_not_valid hmode hvalid] at h ⊢
    rw [checkHeader_of_headerOk (checkHeader_valid_iff.mp h)]

/-! ## The stamps -/

/-- The stream with the verdict in effect. -/
def settled (s : IasAvbClockReferenceStream) (p : Bytes) (length : Nat) :
    IasAvbClockReferenceStream :=
  (s.setSeqNum (p 2)).settle (s.validate p length).newState

/-- The stamps of the packet reach the clock. -/
def Processed (s : IasAvbClockReferenceStream) (p : Bytes) (length : Nat) : Prop :=
  s.Accepted p length ∧ 0 < numStampsOf (s.validate p length).payloadLength
    ∧ s.hasRxClockDomain = true

instance (s : IasAvbClockReferenceStream) (p : Bytes) (length : Nat) :
    Decidable (s.Processed p length) := inferInstanceAs (Decidable (_ ∧ _ ∧ _))

theorem settled_sameFormat (s : IasAvbClockReferenceStream) (p : Bytes) (length : Nat) :
    SameFormat (s.setSeqNum (p 2)) (s.settled p length) := settle_sameFormat _ _

theorem read_of_processed (h : s.Processed p length) :
    s.readFromAvbPacket (some p) length rx
      = (s.settled p length).processStamps p (s.validate p length) rx := by
  have hdomain := (s.settled_sameFormat p length).domain
  unfold readFromAvbPacket
  dsimp only
  exact if_pos ⟨h.1, h.2.1, hdomain.trans h.2.2⟩

theorem read_of_not_processed (h : ¬ s.Processed p length) :
    s.readFromAvbPacket (some p) length rx = { stream := s.settled p length } := by
  have hdomain := (s.settled_sameFormat p length).domain
  unfold readFromAvbPacket
  dsimp only
  exact if_neg fun hp => h ⟨hp.1, hp.2.1, hdomain.symm.trans hp.2.2⟩

/-- The last stamp is always among those read, and none lies behind it. -/
theorem stampsInside_iff_last (hmode : s.mValidationMode = cValidateAlways)
    (h : s.Processed p length) :
    s.StampsInside p length rx ↔ s.format.stampEnd (s.numStamps p - 1) ≤ length := by
  have hcount : numStampsOf (s.validate p length).payloadLength = s.numStamps p := by
    rw [payloadLength_of_accepted hmode h.1]
    rfl
  have hpos := h.2.1
  obtain ⟨-, ⟨i, hi, hread⟩, -⟩ :=
    (s.settled p length).processStamps_spec p (s.validate p length) rx
  unfold StampsInside
  rw [read_of_processed h, hread]
  rw [hcount] at hpos hi ⊢
  constructor
  · intro hall
    refine hall _ ?_
    by_cases hone : s.numStamps p = 1
    · rw [hone]
      exact List.mem_cons_self
    · refine List.mem_cons_of_mem _ (List.mem_range'_1.mpr ?_)
      omega
  · intro hlast j hj
    have hj' : j ≤ s.numStamps p - 1 := by
      rcases List.mem_cons.mp hj with rfl | hj
      · exact Nat.zero_le _
      · have := List.mem_range'_1.mp hj
        omega
    have hmono : cCrfTimeStampSize * (j + 1) ≤ cCrfTimeStampSize * (s.numStamps p - 1 + 1) :=
      Nat.mul_le_mul_left _ (by omega)
    unfold CrfFormat.stampEnd at hlast ⊢
    omega

/-- A packet whose header is in order has all the stamps it announces. -/
theorem stampEnd_le_of_headerOk (h : s.HeaderOk p length) (hpos : 0 < s.numStamps p) :
    s.format.stampEnd (s.numStamps p - 1) ≤ length := by
  obtain ⟨hlength, -, hfits, -, -⟩ := h
  have hwhole : cCrfTimeStampSize * s.numStamps p ≤ s.format.payloadLength p := by
    unfold numStamps numStampsOf cCrfTimeStampSize
    omega
  have hlast : s.numStamps p - 1 + 1 = s.numStamps p := by omega
  unfold CrfFormat.stampEnd
  rw [hlast]
  omega

/-- A packet that got past the checks, and announces more stamps than it has. -/
def Overruns (s : IasAvbClockReferenceStream) (p : Bytes) (length : Nat) : Prop :=
  s.Slips p length ∧ s.hasRxClockDomain = true ∧ 0 < s.numStamps p
    ∧ length < s.format.stampEnd (s.numStamps p - 1)

instance (s : IasAvbClockReferenceStream) (p : Bytes) (length : Nat) :
    Decidable (s.Overruns p length) := inferInstanceAs (Decidable (_ ∧ _ ∧ _ ∧ _))

theorem stampsInside_iff (hmode : s.mValidationMode = cValidateAlways) :
    s.StampsInside p length rx ↔ ¬ s.Overruns p length := by
  by_cases hprocessed : s.Processed p length
  · obtain ⟨haccepted, hpos, hdomain⟩ := id hprocessed
    rw [payloadLength_of_accepted hmode haccepted] at hpos
    rw [stampsInside_iff_last hmode hprocessed]
    constructor
    · intro hinside hover
      exact absurd hover.2.2.2 (Nat.not_lt.mpr hinside)
    · intro hover
      by_cases hheader : s.HeaderOk p length
      · exact stampEnd_le_of_headerOk hheader hpos
      · have hcontinues : s.Continues p := by
          rcases (accepted_iff hmode).mp haccepted with hc | hc
          · exact hc
          · exact absurd hc.2 hheader
        exact Nat.not_lt.mp fun hlt => hover ⟨⟨hheader, hcontinues⟩, hdomain, hpos, hlt⟩
  · have hempty : (s.readFromAvbPacket (some p) length rx).stampsRead = [] := by
      rw [read_of_not_processed hprocessed]
    refine iff_of_true ?_ ?_
    · intro i hi
      rw [hempty] at hi
      cases hi
    · rintro ⟨⟨-, hcontinues⟩, hdomain, hpos, -⟩
      have haccepted : s.Accepted p length := (accepted_iff hmode).mpr (Or.inl hcontinues)
      refine hprocessed ⟨haccepted, ?_, hdomain⟩
      rw [payloadLength_of_accepted hmode haccepted]
      exact hpos

/-! ## Runs -/

/-- One call: a packet or none, and what the clock domain answers. -/
structure CrfEvent where
  packet : Option Bytes
  length : Nat := 0
  rx : RxAnswers := {}

def readStep (s : IasAvbClockReferenceStream) (e : CrfEvent) : IasAvbClockReferenceStream :=
  (s.readFromAvbPacket e.packet e.length e.rx).stream

/-- What the counting of valid packets depends on. -/
structure SameCount (s s' : IasAvbClockReferenceStream) : Prop where
  comp : s'.mCompatibilityMode = s.mCompatibilityMode
  mode : s'.mValidationMode = s.mValidationMode
  threshold : s'.mValidationThreshold = s.mValidationThreshold
  domain : s'.hasRxClockDomain = s.hasRxClockDomain
  seqNum : s'.mSeqNum = s.mSeqNum
  count : s'.mValidationCount = s.mValidationCount
  internal : s'.mStreamStateInternal = s.mStreamStateInternal
  state : s'.mStreamState = s.mStreamState

/-- Whether its stamps are used or not, a packet counts the same. -/
theorem read_sameCount (s : IasAvbClockReferenceStream) (p : Bytes) (length : Nat)
    (rx : RxAnswers) :
    SameCount (s.settled p length) (s.readFromAvbPacket (some p) length rx).stream := by
  by_cases hprocessed : s.Processed p length
  · obtain ⟨⟨count, time, hstream⟩, -⟩ :=
      (s.settled p length).processStamps_spec p (s.validate p length) rx
    rw [read_of_processed hprocessed, hstream]
    exact ⟨rfl, rfl, rfl, rfl, rfl, rfl, rfl, rfl⟩
  · rw [read_of_not_processed hprocessed]
    exact ⟨rfl, rfl, rfl, rfl, rfl, rfl, rfl, rfl⟩

/-- The packet does not slip in, and it says in byte 3 what type it has. The later layout's
header check has seen to that already. -/
def Gated (s : IasAvbClockReferenceStream) (e : CrfEvent) : Prop :=
  match e.packet with
  | none => True
  | some p => ¬ s.Slips p e.length
      ∧ (s.mCompatibilityMode = eIasAvbCompD6 → s.hasRxClockDomain = true →
        s.HeaderOk p e.length → IasAvbClockReferenceStreamType.ofByte (p 3) = s.mType)

/-- What holds of a listener between two packets: it has its configuration, and while it is
not valid, all valid packets are still missing. -/
structure Waiting (c s : IasAvbClockReferenceStream) : Prop where
  comp : s.mCompatibilityMode = c.mCompatibilityMode
  mode : s.mValidationMode = cValidateAlways
  threshold : s.mValidationThreshold = c.mValidationThreshold
  domain : s.hasRxClockDomain = c.hasRxClockDomain
  type : s.mType = c.mType
  count : s.mStreamStateInternal ≠ eIasAvbStreamValid →
    s.mValidationCount = c.mValidationThreshold

/-- Any verdict keeps the count full as long as the stream is not valid. -/
theorem settle_count {s : IasAvbClockReferenceStream} {newState : IasAvbStreamState}
    (h : s.mStreamStateInternal ≠ eIasAvbStreamValid →
      s.mValidationCount = s.mValidationThreshold) (hnew : newState ≠ eIasAvbStreamValid) :
    (s.settle newState).mValidationCount = s.mValidationThreshold := by
  by_cases hold : newState = s.mStreamStateInternal
  · rw [settle_stay hnew hold]
    exact h (hold ▸ hnew)
  · rw [settle_leave hnew hold]
    rfl

/-- An accepted packet leaves the type as it is, if it did not slip in. -/
theorem read_type {s : IasAvbClockReferenceStream} {p : Bytes} {length : Nat}
    {rx : RxAnswers} (hmode : s.mValidationMode = cValidateAlways)
    (hgated : s.Gated ⟨some p, length, rx⟩) :
    (s.readFromAvbPacket (some p) length rx).stream.mType = s.mType := by
  have htype := (s.settled_sameFormat p length).type
  by_cases hprocessed : s.Processed p length
  · have hheader : s.HeaderOk p length := by
      by_contra hbad
      rcases (accepted_iff hmode).mp hprocessed.1 with hc | hc
      · exact hgated.1 ⟨hbad, hc⟩
      · exact hbad hc.2
    obtain ⟨⟨count, time, hstream⟩, -⟩ :=
      (s.settled p length).processStamps_spec p (s.validate p length) rx
    rw [read_of_processed hprocessed, hstream]
    show IasAvbClockReferenceStreamType.ofByte (p 3) = s.mType
    by_cases hcomp : s.mCompatibilityMode = eIasAvbCompD6
    · exact hgated.2 hcomp hprocessed.2.2 hheader
    · refine IasAvbClockReferenceStreamType.ofByte_of_code ?_
      have hfield := hheader.2.1.2.1
      unfold readType initFormat at hfield
      rw [if_neg hcomp, if_neg hcomp] at hfield
      exact hfield.symm
  · rw [read_of_not_processed hprocessed]
    exact htype

theorem waiting_step {c s : IasAvbClockReferenceStream} (e : CrfEvent) (h : Waiting c s)
    (hgated : s.Gated e) : Waiting c (s.readStep e) := by
  obtain ⟨packet, length, rx⟩ := e
  cases packet with
  | none =>
      have hformat := settle_sameFormat (s.setRefPlane s.mRefPlaneEventCount 0)
        eIasAvbStreamNoData
      refine ⟨hformat.comp.trans h.comp, hformat.mode.trans h.mode,
        hformat.threshold.trans h.threshold, hformat.domain.trans h.domain,
        hformat.type.trans h.type, ?_⟩
      intro _
      refine Eq.trans (settle_count (fun hold => ?_) (by decide)) h.threshold
      exact (h.count hold).trans h.threshold.symm
  | some p =>
      have hsame := s.read_sameCount p length rx
      have hformat := s.settled_sameFormat p length
      refine ⟨(hsame.comp.trans hformat.comp).trans h.comp,
        (hsame.mode.trans hformat.mode).trans h.mode,
        (hsame.threshold.trans hformat.threshold).trans h.threshold,
        (hsame.domain.trans hformat.domain).trans h.domain,
        (read_type h.mode hgated).trans h.type, ?_⟩
      intro hinternal
      have hnew : (s.validate p length).newState ≠ eIasAvbStreamValid := by
        intro hvalid
        refine hinternal (hsame.internal.trans ?_)
        exact (settle_internal _ _).trans hvalid
      refine hsame.count.trans (Eq.trans (settle_count (fun hold => ?_) hnew) h.threshold)
      exact (h.count hold).trans h.threshold.symm

/-! ## The way back -/

/-- A packet that is there. -/
structure CrfPacket where
  bytes : Bytes
  length : Nat
  rx : RxAnswers := {}

def CrfPacket.event (q : CrfPacket) : CrfEvent := ⟨some q.bytes, q.length, q.rx⟩

/-- Packets with sequence numbers `n`, `n + 1`, … -/
def NumberedFrom : UInt8 → List CrfPacket → Prop
  | _, [] => True
  | n, q :: qs => q.bytes 2 = n ∧ NumberedFrom (n + 1) qs

/-- Nothing came, or a packet that fails a check. -/
def BadFor (c : IasAvbClockReferenceStream) (e : CrfEvent) : Prop :=
  match e.packet with
  | none => True
  | some p => ¬ c.HeaderOk p e.length

/-- The checks depend on the configuration only. -/
theorem headerOk_congr {c s : IasAvbClockReferenceStream}
    (hcomp : s.mCompatibilityMode = c.mCompatibilityMode) (htype : s.mType = c.mType) :
    s.HeaderOk p length ↔ c.HeaderOk p length := by
  unfold HeaderOk HeaderFields format
  rw [hcomp, htype]

/-- The stream follows a flow, and the outside knows it as soon as nothing is missing. -/
structure InFlow (s : IasAvbClockReferenceStream) : Prop where
  mode : s.mValidationMode = cValidateAlways
  internal : s.mStreamStateInternal = eIasAvbStreamValid
  known : s.mValidationCount = 0 → s.mStreamState = eIasAvbStreamValid

theorem countDown_known {s : IasAvbClockReferenceStream}
    (h : s.mValidationCount = 0 → s.mStreamState = eIasAvbStreamValid) :
    s.countDown.mValidationCount = s.mValidationCount - 1
      ∧ (s.countDown.mValidationCount = 0 → s.countDown.mStreamState = eIasAvbStreamValid) := by
  rcases Nat.lt_trichotomy s.mValidationCount 1 with hlt | hone | hmore
  · rw [countDown_of_zero (by omega)]
    exact ⟨by omega, h⟩
  · rw [countDown_of_one hone, hone]
    exact ⟨rfl, fun _ => rfl⟩
  · rw [countDown_of_more hmore]
    refine ⟨rfl, ?_⟩
    show s.mValidationCount - 1 = 0 → _
    omega

/-- An accepted packet: one less to wait for. -/
theorem inFlow_of_accepted {s : IasAvbClockReferenceStream} {q : CrfPacket}
    (hmode : s.mValidationMode = cValidateAlways) (haccepted : s.Accepted q.bytes q.length)
    (hknown : s.mValidationCount = 0 → s.mStreamState = eIasAvbStreamValid) :
    InFlow (s.readStep q.event)
      ∧ (s.readStep q.event).mValidationCount = s.mValidationCount - 1
      ∧ (s.readStep q.event).mSeqNum = q.bytes 2
      ∧ (s.readStep q.event).mCompatibilityMode = s.mCompatibilityMode := by
  have hsame := s.read_sameCount q.bytes q.length q.rx
  have hformat := s.settled_sameFormat q.bytes q.length
  have hsettle : s.settled q.bytes q.length
      = (s.setSeqNum (q.bytes 2)).settle eIasAvbStreamValid := by
    unfold settled
    rw [show (s.validate q.bytes q.length).newState = _ from haccepted]
  have hcount : (s.settled q.bytes q.length).mValidationCount = s.mValidationCount - 1
      ∧ ((s.settled q.bytes q.length).mValidationCount = 0 →
        (s.settled q.bytes q.length).mStreamState = eIasAvbStreamValid) := by
    rw [hsettle]
    by_cases hold : (s.setSeqNum (q.bytes 2)).mStreamStateInternal = eIasAvbStreamValid
    · rw [settle_keep hold]
      exact countDown_known (s := s.setSeqNum (q.bytes 2)) hknown
    · rw [settle_enter hold]
      exact countDown_known (s := s.setSeqNum (q.bytes 2)) hknown
  refine ⟨⟨(hsame.mode.trans hformat.mode).trans hmode, ?_, ?_⟩, ?_, ?_, ?_⟩
  · refine hsame.internal.trans ?_
    rw [hsettle]
    exact settle_internal ..
  · intro hzero
    exact hsame.state.trans (hcount.2 (hsame.count.symm.trans hzero))
  · exact hsame.count.trans hcount.1
  · exact hsame.seqNum.trans hformat.seqNum
  · exact hsame.comp.trans hformat.comp

/-- Once in the flow, as many packets as are missing make the stream valid. -/
theorem valid_of_inFlow {s : IasAvbClockReferenceStream} {qs : List CrfPacket}
    (h : InFlow s) (hnum : NumberedFrom (s.mSeqNum + 1) qs)
    (hfreq : ∀ q ∈ qs, readBaseFreq s.mCompatibilityMode q.bytes ≠ 0)
    (hlen : qs.length = s.mValidationCount) :
    (exec readStep s (qs.map CrfPacket.event)).mStreamState = eIasAvbStreamValid := by
  induction qs generalizing s with
  | nil => exact h.known hlen.symm
  | cons q qs ih =>
      have haccepted : s.Accepted q.bytes q.length :=
        (accepted_iff h.mode).mpr
          (Or.inl ⟨h.internal, hfreq q List.mem_cons_self, hnum.1⟩)
      obtain ⟨hflow, hcount, hseq, hcomp⟩ := inFlow_of_accepted h.mode haccepted h.known
      rw [List.length_cons] at hlen
      refine ih hflow ?_ ?_ (by omega)
      · rw [hseq, hnum.1]
        exact hnum.2
      · intro q' hq'
        rw [hcomp]
        exact hfreq q' (List.mem_cons_of_mem _ hq')

/-- A bad packet that does not slip in leaves the stream outside any flow. -/
theorem not_valid_of_bad {c s : IasAvbClockReferenceStream} {e : CrfEvent}
    (h : Waiting c s) (hgated : s.Gated e) (hbad : c.BadFor e) :
    (s.readStep e).mStreamStateInternal ≠ eIasAvbStreamValid := by
  obtain ⟨packet, length, rx⟩ := e
  cases packet with
  | none =>
      have hinternal := settle_internal (s.setRefPlane s.mRefPlaneEventCount 0)
        eIasAvbStreamNoData
      intro hvalid
      exact IasAvbStreamState.noConfusion (hinternal.symm.trans hvalid)
  | some p =>
      have hheader : ¬ s.HeaderOk p length := fun hok =>
        hbad ((headerOk_congr h.comp h.type).mp hok)
      intro hvalid
      have haccepted : s.Accepted p length :=
        ((settle_internal _ _).symm.trans (s.read_sameCount p length rx).internal.symm).trans
          hvalid
      rcases (accepted_iff h.mode).mp haccepted with hc | hc
      · exact hgated.1 ⟨hheader, hc⟩
      · exact hheader hc.2

/-- As many good packets as the threshold asks for make a waiting stream valid. -/
theorem valid_of_good {c s : IasAvbClockReferenceStream} {n : UInt8} {goods : List CrfPacket}
    (h : Waiting c s) (hinternal : s.mStreamStateInternal ≠ eIasAvbStreamValid)
    (hpos : 0 < c.mValidationThreshold) (hlen : goods.length = c.mValidationThreshold)
    (hgood : ∀ q ∈ goods, c.HeaderOk q.bytes q.length) (hnum : NumberedFrom n goods) :
    (exec readStep s (goods.map CrfPacket.event)).mStreamState = eIasAvbStreamValid := by
  have hcount := h.count hinternal
  cases goods with
  | nil =>
      rw [List.length_nil] at hlen
      omega
  | cons q qs =>
      have hheader : s.HeaderOk q.bytes q.length :=
        (headerOk_congr h.comp h.type).mpr (hgood q List.mem_cons_self)
      have haccepted : s.Accepted q.bytes q.length :=
        (accepted_iff h.mode).mpr (Or.inr ⟨hinternal, hheader⟩)
      obtain ⟨hflow, hcount', hseq, hcomp⟩ := inFlow_of_accepted h.mode haccepted (by omega)
      rw [List.length_cons] at hlen
      rw [List.map_cons, exec_cons]
      refine valid_of_inFlow hflow ?_ ?_ (by omega)
      · rw [hseq, hnum.1]
        exact hnum.2
      · intro q' hq'
        have hfields := (hgood q' (List.mem_cons_of_mem _ hq')).2.1
        rw [hcomp, h.comp]
        exact hfields.2.2.2.1

/-- How `initReceive` leaves a stream that validates every packet. -/
theorem waiting_init {comp : IasAvbCompatibility} {validation : RxConfig}
    {mHoldoffTime maxStamps : Nat} {domain : Bool} {type : IasAvbClockReferenceStreamType}
    {c : IasAvbClockReferenceStream}
    (hinit : initReceive comp validation mHoldoffTime domain type maxStamps = .ok c)
    (hmode : validation.mValidationMode = cValidateAlways) :
    Waiting c c ∧ c.mValidationThreshold = validation.mValidationThreshold := by
  unfold initReceive at hinit
  split at hinit
  · cases hinit
  · split at hinit
    · cases hinit
    · cases hinit
      exact ⟨⟨rfl, hmode, rfl, rfl, rfl, fun _ => rfl⟩, rfl⟩

/--
**The gate of a clock reference stream.**

A packet that fails a header or length check is rejected exactly if it does not continue a
valid flow; every stamp read lies inside the packet, except for a packet that came in that
way and announces more than it has; and in every run in which no packet came in that way,
nor took the stream's type away, `mValidationThreshold` good packets in a row after bad ones
make the stream valid.
-/
theorem crf_gate_iff (s : IasAvbClockReferenceStream) (p : Bytes) (length : Nat) :
    (s.mValidationMode = cValidateAlways → ¬ s.HeaderOk p length →
      (¬ s.Accepted p length ↔ ¬ s.Continues p))
    ∧ (∀ rx : RxAnswers, s.mValidationMode = cValidateAlways →
      (s.StampsInside p length rx ↔ ¬ s.Overruns p length))
    ∧ ∀ (comp : IasAvbCompatibility) (validation : RxConfig) (mHoldoffTime maxStamps : Nat)
        (domain : Bool) (type : IasAvbClockReferenceStreamType)
        (c : IasAvbClockReferenceStream) (es bads : List CrfEvent) (goods : List CrfPacket)
        (n : UInt8),
      initReceive comp validation mHoldoffTime domain type maxStamps = .ok c →
      validation.mValidationMode = cValidateAlways → 0 < validation.mValidationThreshold →
      Always readStep Gated c (es ++ bads) → bads ≠ [] → (∀ e ∈ bads, c.BadFor e) →
      goods.length = validation.mValidationThreshold →
      (∀ q ∈ goods, c.HeaderOk q.bytes q.length) → NumberedFrom n goods →
        (exec readStep c (es ++ bads ++ goods.map CrfPacket.event)).mStreamState
          = eIasAvbStreamValid := by
  refine ⟨?_, fun rx hmode => stampsInside_iff hmode, ?_⟩
  · intro hmode hheader
    rw [accepted_iff hmode, not_iff_not]
    exact ⟨fun h => h.resolve_right fun hr => hheader hr.2, Or.inl⟩
  · intro comp validation mHoldoffTime maxStamps domain type c es bads goods n hinit hmode
      hpos halways hne hbad hlen hgood hnum
    obtain ⟨hwaiting, hthreshold⟩ := waiting_init hinit hmode
    obtain ⟨bads', b, rfl⟩ : ∃ bads' b, bads = bads' ++ [b] :=
      ⟨bads.dropLast, bads.getLast hne, (List.dropLast_concat_getLast hne).symm⟩
    rw [← List.append_assoc, always_append] at halways
    -- the state the last bad packet finds
    have hbefore : Waiting c (exec readStep c (es ++ bads')) :=
      inv_exec (fun s e h hok => waiting_step e h hok) hwaiting halways.1
    have hlast := not_valid_of_bad hbefore halways.2.1
      (hbad b (List.mem_append_right _ List.mem_cons_self))
    have hafter := waiting_step b hbefore halways.2.1
    rw [← List.append_assoc, exec_append, exec_append]
    exact valid_of_good hafter hlast (hthreshold ▸ hpos) (hlen.trans hthreshold.symm) hgood hnum

/-! ## What comes in by the sequence number -/

/-- A listener for audio clocks that validates every packet and waits for one. -/
def sampleListener (comp : IasAvbCompatibility) : IasAvbClockReferenceStream where
  mCompatibilityMode := comp
  mTimeStampsPerPdu := 1
  mHoldoffTime := 15000000
  mClockValid := false
  mValidationMode := cValidateAlways
  mValidationThreshold := 1
  mValidationCount := 1
  hasRxClockDomain := true

/-- A packet of the later layout with one stamp, one microsecond after the epoch. -/
def samplePacket (seqNum : UInt8) : CrfPacket where
  bytes := Bytes.ofList [4, 0x80, seqNum, 1, 0, 0, 0, 0, 0, 0, 0, 1,
    0, 0, 0xBB, 0x80, 0, 8, 0, 160, 0, 0, 0, 0, 0, 0, 3, 0xE8]
  length := 28

/-- A header with a wrong subtype and type `0`, that announces two stamps and has none. -/
def strayPacket (seqNum : UInt8) : CrfPacket where
  bytes := Bytes.ofList [9, 0x80, seqNum, 0, 0, 0, 0, 0, 0, 0, 0, 1,
    0, 0, 0xBB, 0x80, 0, 16, 0, 160]
  length := 20

/-- The stray packet is no CRF packet. A listener that has seen one good packet accepts it for
its sequence number, reads stamps behind its end, and takes its type over; from then on a good
packet does not make the stream valid any more. -/
theorem stray_packet_gets_in :
    initReceive eIasAvbCompLatest ⟨cValidateAlways, 1⟩ 15000000 true eIasAvbCrsTypeAudio 1
        = .ok (sampleListener eIasAvbCompLatest)
      ∧ (sampleListener eIasAvbCompLatest).HeaderOk (samplePacket 0).bytes 28
      ∧ (let s := exec readStep (sampleListener eIasAvbCompLatest) [(samplePacket 0).event]
        s.mStreamState = eIasAvbStreamValid
          ∧ ¬ s.HeaderOk (strayPacket 1).bytes 20
          ∧ s.Accepted (strayPacket 1).bytes 20
          ∧ ¬ s.StampsInside (strayPacket 1).bytes 20 {})
      ∧ (let s := exec readStep (sampleListener eIasAvbCompLatest)
          ([samplePacket 0, strayPacket 1, strayPacket 5, samplePacket 6].map CrfPacket.event)
        s.mStreamState = eIasAvbStreamInvalidData) := by
  refine ⟨rfl, by decide +kernel, ⟨by decide +kernel, by decide +kernel, by decide +kernel,
    by decide +kernel⟩, by decide +kernel⟩

/-- Without stray packets in the flow, the same listener comes back. -/
theorem crf_gate_iff_sample :
    (exec readStep (sampleListener eIasAvbCompLatest)
      ([(samplePacket 0).event] ++ [(strayPacket 5).event]
        ++ [samplePacket 6].map CrfPacket.event)).mStreamState = eIasAvbStreamValid :=
  (crf_gate_iff (sampleListener eIasAvbCompLatest) (strayPacket 5).bytes 20).2.2
    eIasAvbCompLatest ⟨cValidateAlways, 1⟩ 15000000 1 true eIasAvbCrsTypeAudio
    (sampleListener eIasAvbCompLatest) [(samplePacket 0).event] [(strayPacket 5).event]
    [samplePacket 6] 6 rfl rfl (by decide)
    ⟨⟨by decide +kernel, fun h => IasAvbCompatibility.noConfusion h⟩,
      ⟨by decide +kernel, fun h => IasAvbCompatibility.noConfusion h⟩, trivial⟩
    (by simp)
    (fun e he => by
      rw [List.mem_singleton.mp he]
      exact of_decide_eq_true (p := ¬ (sampleListener eIasAvbCompLatest).HeaderOk
        (strayPacket 5).bytes 20) (by decide +kernel))
    rfl
    (fun q hq => by
      rw [List.mem_singleton.mp hq]
      decide +kernel)
    ⟨rfl, trivial⟩

end IasAvbClockReferenceStream

end AvbStreamHandler
