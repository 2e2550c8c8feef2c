import AvbStreamHandler.Clock.CrfGate
import AvbStreamHandler.Clock.ClockReferenceTalker

/-!
# From the talker's packet to the listener's clock

What a listener that has just been set up makes of a packet of a talker with the same
layout: whether it accepts the packet, which configuration and which time stamps it takes
from it, and whether it would take the next one.

In the later layout all of this works out, as long as the length field can hold the length
of the stamps and the talker's master clock did not jump in the very call that wrote the
packet. In the draft 6 layout it never does. The talker names any rate by the code of
48 kHz, and the listener, which checks the type in byte 22, takes it over from byte 3, where
the layout has a reserved zero: it accepts the packet and is not an audio listener any more.
-/

namespace AvbStreamHandler

open Kit Kit.Word Kit.Run IasAvbStreamState IasAvbCompatibility IasAvbClockReferenceStreamType

namespace IasAvbClockReferenceStream

/-- The listener `c` takes a packet of the talker `t` for what it is. -/
structure RoundTrip (t c : IasAvbClockReferenceStream) (bytes : Bytes) (times : List Nat)
    (length : Nat) (rx : RxAnswers) : Prop where
  accepted : c.Accepted bytes length
  type : (c.readFromAvbPacket (some bytes) length rx).stream.mType = t.mType
  baseFreq : (c.readFromAvbPacket (some bytes) length rx).stream.mBaseFrequency
    = t.mBaseFrequency
  interval : (c.readFromAvbPacket (some bytes) length rx).stream.mTimeStampInterval
    = t.mTimeStampInterval
  stampsPerPdu : (c.readFromAvbPacket (some bytes) length rx).stream.mTimeStampsPerPdu
    = t.mTimeStampsPerPdu
  /-- The clock domain is told all the time stamps. -/
  times : (c.readFromAvbPacket (some bytes) length rx).calls.map RxClockCall.timestamp = times
  /-- A packet like this one would pass again. -/
  again : (c.readFromAvbPacket (some bytes) length rx).stream.HeaderOk bytes length

/-! ## All stamps reach the clock -/

/-- While the clock is not valid, every stamp makes an update. -/
theorem updateStep_foldl_calls {p : Bytes} {found : Findings} {r : Received} {is : List Nat}
    (h : r.stream.mClockValid = false) :
    (is.foldl (updateStep p found) r).calls.map RxClockCall.timestamp
      = r.calls.map RxClockCall.timestamp ++ is.map (r.stream.format.stamp p) := by
  induction is generalizing r with
  | nil => rw [List.foldl_nil, List.map_nil, List.append_nil]
  | cons i is ih =>
      obtain ⟨⟨count, time, hstream⟩, -⟩ := updateStep_spec p found r i
      have hcall : (updateStep p found r i).calls.map RxClockCall.timestamp
          = r.calls.map RxClockCall.timestamp ++ [r.stream.format.stamp p i] := by
        unfold updateStep
        dsimp only
        rw [if_pos (Or.inl h)]
        exact List.map_append
      rw [List.foldl_cons, ih (by rw [hstream]; exact h), hcall, hstream, List.append_assoc]
      rfl

/-- After a reset all stamps are used. -/
theorem processStamps_calls {s : IasAvbClockReferenceStream} {p : Bytes} {found : Findings}
    {rx : RxAnswers} (hdue : (s.setConfig p found).ResetDue p rx)
    (hpos : 0 < numStampsOf found.payloadLength) :
    (s.processStamps p found rx).calls.map RxClockCall.timestamp
      = (List.range (numStampsOf found.payloadLength)).map (s.format.stamp p) := by
  unfold processStamps
  dsimp only
  rw [resetClockDomain_of_due hdue]
  have hskip : ∀ r : Received, r.stream.mClockValid = false →
      skipStamps found r 1 = (r, 1) := fun r hr =>
    if_neg (by rw [hr]; exact fun h => Bool.noConfusion h.1)
  rw [hskip _ rfl]
  show (Received.calls (updateStamps p found _ 1)).map RxClockCall.timestamp = _
  unfold updateStamps
  rw [updateStep_foldl_calls rfl]
  have hrange : List.range (numStampsOf found.payloadLength)
      = 0 :: List.range' 1 (numStampsOf found.payloadLength - 1) := by
    rw [List.range_eq_range', ← Nat.succ_pred_eq_of_pos hpos]
    rfl
  rw [hrange]
  rfl

/-! ## A listener that has just been set up -/

/-- As `initReceive` leaves it, with an Rx clock domain. -/
structure Fresh (comp : IasAvbCompatibility) (c : IasAvbClockReferenceStream) : Prop where
  comp : c.mCompatibilityMode = comp
  type : c.mType = eIasAvbCrsTypeAudio
  internal : c.mStreamStateInternal = eIasAvbStreamInactive
  state : c.mStreamState = eIasAvbStreamInactive
  baseFreq : c.mBaseFrequency = 0
  domain : c.hasRxClockDomain = true

theorem fresh_init {comp : IasAvbCompatibility} {validation : RxConfig}
    {mHoldoffTime maxStamps : Nat} {c : IasAvbClockReferenceStream}
    (h : initReceive comp validation mHoldoffTime true eIasAvbCrsTypeAudio maxStamps = .ok c) :
    Fresh comp c ∧ c.mValidationMode = validation.mValidationMode := by
  unfold initReceive at h
  split at h
  · cases h
  · split at h
    · cases h
    · cases h
      exact ⟨⟨rfl, rfl, rfl, rfl, rfl, rfl⟩, rfl⟩

variable {comp : IasAvbCompatibility} {t c : IasAvbClockReferenceStream} {p : Bytes}
  {length : Nat} {rx : RxAnswers}

/-- It goes by the header, unless it validates nothing. -/
theorem Fresh.validate (h : Fresh comp c) (hmode : c.mValidationMode ≠ cValidateNever) :
    c.validate p length = c.checkHeader p length := by
  have hinternal : c.mStreamStateInternal ≠ eIasAvbStreamValid := by
    rw [h.internal]
    decide
  have hstate : c.mStreamState ≠ eIasAvbStreamValid := by
    rw [h.state]
    decide
  unfold IasAvbClockReferenceStream.validate
  dsimp only
  rw [if_neg hmode, if_neg hinternal, if_pos (Or.inr hstate)]

/-- What is in the stream after the stamps of an accepted packet. -/
theorem Fresh.read_processed (rx : RxAnswers) (hprocessed : c.Processed p length) :
    (c.readFromAvbPacket (some p) length rx).stream.mType
        = IasAvbClockReferenceStreamType.ofByte (p 3)
      ∧ (c.readFromAvbPacket (some p) length rx).stream.mBaseFrequency
        = (c.validate p length).baseFreq
      ∧ (c.readFromAvbPacket (some p) length rx).stream.mTimeStampInterval
        = (c.validate p length).eventsPerStamp
      ∧ (c.readFromAvbPacket (some p) length rx).stream.mTimeStampsPerPdu
        = numStampsOf (c.validate p length).payloadLength
      ∧ (c.readFromAvbPacket (some p) length rx).stream.mCompatibilityMode
        = c.mCompatibilityMode := by
  obtain ⟨⟨count, time, hstream⟩, -⟩ :=
    (c.settled p length).processStamps_spec p (c.validate p length) rx
  rw [read_of_processed hprocessed, hstream]
  exact ⟨rfl, rfl, rfl, rfl, (c.settled_sameFormat p length).comp⟩

/-- It asks for a reset first, and so uses every stamp. -/
theorem Fresh.read_calls (h : Fresh comp c) (rx : RxAnswers)
    (hprocessed : c.Processed p length) :
    (c.readFromAvbPacket (some p) length rx).calls.map RxClockCall.timestamp
      = (List.range (numStampsOf (c.validate p length).payloadLength)).map
          (c.format.stamp p) := by
  have hinternal : (c.setSeqNum (p 2)).mStreamStateInternal ≠ eIasAvbStreamValid := by
    show c.mStreamStateInternal ≠ _
    rw [h.internal]
    decide
  have htime : (c.settled p length).mRefPlaneEventTime = 0 := by
    unfold settled
    rw [show (c.validate p length).newState = _ from hprocessed.1, settle_enter hinternal]
    rfl
  have hformat : (c.settled p length).format = c.format := by
    unfold format
    rw [(c.settled_sameFormat p length).comp]
    rfl
  rw [read_of_processed hprocessed, ← hformat]
  exact processStamps_calls (Or.inr (Or.inr htime)) hprocessed.2.1

/-- A base frequency that is not zero was taken from a packet. -/
theorem Fresh.processed_of_baseFreq (h : Fresh comp c) (rx : RxAnswers)
    (hne : (c.readFromAvbPacket (some p) length rx).stream.mBaseFrequency ≠ 0) :
    c.Processed p length := by
  by_contra hno
  rw [read_of_not_processed hno] at hne
  exact hne ((c.settled_sameFormat p length).baseFreq.trans h.baseFreq)

/-! ## The header of a prepared packet -/

/-- A rate of 29 bits leaves the pull field empty. -/
theorem pull_flat {b : UInt8} (h : b.toNat < 32) : ((b &&& 0xE0) >>> 5).toNat = 0 := by
  have hall : ∀ n : Fin 32, ((UInt8.ofNat n.val &&& 0xE0) >>> 5).toNat = 0 := by decide
  have hb := hall ⟨b.toNat, h⟩
  rwa [UInt8.ofNat_toNat] at hb

/-- A talker for audio clocks, as `initTransmit` accepts it. -/
structure Configured (comp : IasAvbCompatibility) (t : IasAvbClockReferenceStream) : Prop where
  comp : t.mCompatibilityMode = comp
  type : t.mType = eIasAvbCrsTypeAudio
  rate_pos : 0 < t.mBaseFrequency
  rate_le : t.mBaseFrequency ≤ 0x1FFFFFFF
  pull : t.mPull = IasAvbClockMultiplier.eIasAvbCrsMultFlat
  interval_lt : t.mTimeStampInterval < 65536
  stamps_pos : 0 < t.mTimeStampsPerPdu

theorem configured_init {env : CrfTxEnvironment} {type : IasAvbClockReferenceStreamType}
    {stamps interval : UInt16} {baseFreq : UInt32} {pull : IasAvbClockMultiplier}
    {poolSize : Nat}
    (h : initTransmit comp env type stamps interval baseFreq pull poolSize = .ok t) :
    Configured comp t := by
  obtain ⟨hcomp, htype, -, hpos, hle, hpull, hinterval, -, hstamps, -⟩ :=
    CrfTalker.initTransmit_ok h
  exact ⟨hcomp, htype, hpos, hle, hpull, hinterval ▸ interval.toNat_lt, hstamps⟩

/-- The rate of a prepared packet, in the later layout. -/
theorem Prepared.readBaseFreq (h : Prepared t p) (ht : Configured comp t)
    (hcomp : comp ≠ eIasAvbCompD6) :
    p.be32 12 = t.mBaseFrequency ∧ readBaseFreq comp p = t.mBaseFrequency := by
  have hrate := h.rate (ht.comp ▸ hcomp)
  have hle := ht.rate_le
  rw [ht.pull] at hrate
  change p.be32 12 = (0 * 536870912 + t.mBaseFrequency) % 4294967296 at hrate
  have heq : p.be32 12 = t.mBaseFrequency := by omega
  refine ⟨heq, ?_⟩
  unfold AvbStreamHandler.readBaseFreq
  rw [if_neg hcomp, heq]
  omega

theorem Prepared.payloadLength (h : Prepared t p) (ht : Configured comp t)
    (hcomp : comp ≠ eIasAvbCompD6) :
    (initFormat comp).payloadLength p = t.mTimeStampsPerPdu * cCrfTimeStampSize % 65536 := by
  have hlength := h.dataLength (ht.comp ▸ hcomp)
  unfold CrfFormat.payloadLength initFormat
  rw [if_neg hcomp]
  show sub64 (p.be16 16) 0 = _
  rw [hlength]
  unfold sub64
  omega

/-- A prepared packet of the later layout passes a listener of the same layout and type, as
long as its length field did not wrap around. -/
theorem Prepared.headerOk (h : Prepared t p) (ht : Configured comp t)
    (hcomp : comp ≠ eIasAvbCompD6) (hfits : 8 * t.mTimeStampsPerPdu < 65536)
    (hlength : t.avtpLength ≤ length) {l : IasAvbClockReferenceStream}
    (hl : l.mCompatibilityMode = comp) (htype : l.mType = eIasAvbCrsTypeAudio) :
    l.HeaderOk p length := by
  have hc : t.mCompatibilityMode ≠ eIasAvbCompD6 := ht.comp ▸ hcomp
  have hformat : l.format = initFormat comp := by
    unfold format
    rw [hl]
  have hsize : l.format.headerSize + 8 * t.mTimeStampsPerPdu ≤ length := by
    unfold avtpLength format at hlength
    rw [ht.comp] at hlength
    rw [hformat]
    exact hlength
  have hpayload := h.payloadLength ht hcomp
  obtain ⟨hrate, hfreq⟩ := h.readBaseFreq ht hcomp
  have hpos := ht.stamps_pos
  refine ⟨by omega, ⟨?_, ?_, ?_, ?_, Or.inr ?_⟩, ?_⟩
  · rw [hformat, h.subtype hc]
    unfold initFormat
    rw [if_neg hcomp]
    rfl
  · rw [hl, htype]
    unfold readType initFormat
    rw [if_neg hcomp, if_neg hcomp]
    show _ = (p 3).toNat
    rw [h.type hc, ht.type]
    rfl
  · rcases h.restart with hr | hr <;> rw [hr] <;> decide
  · rw [hl, hfreq]
    exact Nat.pos_iff_ne_zero.mp ht.rate_pos
  · refine pull_flat ?_
    have hle := ht.rate_le
    rw [← hrate] at hle
    unfold Bytes.be32 Bytes.be16 at hle
    omega
  · unfold LengthFits
    rw [hformat, hpayload, ← hformat]
    unfold cCrfTimeStampSize
    omega

/-- What the listener finds in it. -/
theorem Prepared.checkHeader (h : Prepared t p) (ht : Configured comp t)
    (hcomp : comp ≠ eIasAvbCompD6) (hfits : 8 * t.mTimeStampsPerPdu < 65536)
    {l : IasAvbClockReferenceStream} (hl : l.mCompatibilityMode = comp)
    (hheader : l.HeaderOk p length) :
    l.checkHeader p length = ⟨eIasAvbStreamValid, 8 * t.mTimeStampsPerPdu, t.mBaseFrequency,
      t.mTimeStampInterval⟩ := by
  have hpayload := h.payloadLength ht hcomp
  have hinterval : readEventsPerStamp comp p = t.mTimeStampInterval := by
    unfold readEventsPerStamp
    rw [if_neg hcomp, h.interval (ht.comp ▸ hcomp)]
    exact Nat.mod_eq_of_lt ht.interval_lt
  have hlen : t.mTimeStampsPerPdu * cCrfTimeStampSize % 65536 = 8 * t.mTimeStampsPerPdu := by
    unfold cCrfTimeStampSize
    omega
  rw [checkHeader_of_headerOk hheader]
  unfold format
  rw [hl, hpayload, hlen, hinterval, (h.readBaseFreq ht hcomp).2]

/-! ## The round trip -/

/-- The stamps of a written packet, as the listener reads them. -/
theorem times_of_written {s s' : IasAvbClockReferenceStream} {m bytes : Bytes}
    {times : List Nat} {hasMaster : Prop} {locked : Bool}
    (h : WrittenPacket s s' m bytes times hasMaster locked) (hmaster : hasMaster) :
    (List.range s.mTimeStampsPerPdu).map (s.format.stamp bytes) = times := by
  refine List.ext_getElem? fun i => ?_
  rcases Nat.lt_or_ge i s.mTimeStampsPerPdu with hlt | hge
  · rw [h.stamp hmaster i hlt, List.getElem?_map, List.getElem?_range hlt]
    rfl
  · rw [List.getElem?_eq_none (by rw [List.length_map, List.length_range]; exact hge),
      List.getElem?_eq_none (by rw [h.length hmaster]; exact hge)]

/-- What a round trip takes. -/
theorem conditions_of_roundTrip {s s' : IasAvbClockReferenceStream} {m : Bytes}
    {times : List Nat} {hasMaster : Prop} {locked : Bool} (hp : Prepared t p)
    (ht : Configured comp t) (hw : WrittenPacket s s' m p times hasMaster locked)
    (hc : Fresh comp c) (h : RoundTrip t c p times length rx) :
    comp ≠ eIasAvbCompD6 ∧ 8 * t.mTimeStampsPerPdu < 65536
      ∧ c.mValidationMode ≠ cValidateNever ∧ hasMaster := by
  have hrate := ht.rate_pos
  have hprocessed : c.Processed p length :=
    hc.processed_of_baseFreq rx (by rw [h.baseFreq]; omega)
  obtain ⟨htype, hfreq, -, hcount, -⟩ := Fresh.read_processed rx hprocessed
  have hcomp : comp ≠ eIasAvbCompD6 := by
    intro hd6
    rw [h.type, hp.reserved (ht.comp.trans hd6), ht.type] at htype
    exact IasAvbClockReferenceStreamType.noConfusion htype
  have hmode : c.mValidationMode ≠ cValidateNever := by
    intro hnever
    unfold validate at hfreq
    rw [if_pos hnever, h.baseFreq] at hfreq
    change t.mBaseFrequency = 0 at hfreq
    omega
  refine ⟨hcomp, ?_, hmode, ?_⟩
  · have hvalid : (c.checkHeader p length).newState = eIasAvbStreamValid := by
      rw [← hc.validate hmode]
      exact h.accepted
    have hformat : c.format = initFormat comp := by
      unfold format
      rw [hc.comp]
    rw [h.stampsPerPdu, hc.validate hmode, checkHeader_of_headerOk (checkHeader_valid_iff.mp hvalid),
      hformat, hp.payloadLength ht hcomp] at hcount
    unfold numStampsOf cCrfTimeStampSize at hcount
    dsimp only at hcount
    omega
  · by_contra hno
    have hcalls := hc.read_calls rx hprocessed
    rw [h.times, hw.empty hno] at hcalls
    have hzero := congrArg List.length hcalls
    rw [List.length_map, List.length_range, List.length_nil] at hzero
    have hpos := hprocessed.2.1
    omega

/-- They are enough. -/
theorem roundTrip_of_conditions {s s' : IasAvbClockReferenceStream} {m : Bytes}
    {times : List Nat} {hasMaster : Prop} {locked : Bool} (hp : Prepared t p)
    (ht : Configured comp t) (hw : WrittenPacket s s' m p times hasMaster locked)
    (hscomp : s.mCompatibilityMode = t.mCompatibilityMode)
    (hstamps : s.mTimeStampsPerPdu = t.mTimeStampsPerPdu) (hc : Fresh comp c)
    (hcomp : comp ≠ eIasAvbCompD6) (hfits : 8 * t.mTimeStampsPerPdu < 65536)
    (hmode : c.mValidationMode ≠ cValidateNever) (hmaster : hasMaster)
    (hlength : t.avtpLength ≤ length) : RoundTrip t c p times length rx := by
  have hheader : c.HeaderOk p length := hp.headerOk ht hcomp hfits hlength hc.comp hc.type
  have hfound : c.validate p length = ⟨eIasAvbStreamValid, 8 * t.mTimeStampsPerPdu,
      t.mBaseFrequency, t.mTimeStampInterval⟩ := by
    rw [hc.validate hmode]
    exact hp.checkHeader ht hcomp hfits hc.comp hheader
  have hcount : numStampsOf (8 * t.mTimeStampsPerPdu) = t.mTimeStampsPerPdu := by
    unfold numStampsOf cCrfTimeStampSize
    omega
  have haccepted : c.Accepted p length := by
    unfold Accepted
    rw [hfound]
  have hprocessed : c.Processed p length := by
    refine ⟨haccepted, ?_, hc.domain⟩
    rw [hfound]
    exact hcount.symm ▸ ht.stamps_pos
  obtain ⟨htype, hfreq, hinterval, hper, hl⟩ := Fresh.read_processed rx hprocessed
  have hcalls := hc.read_calls rx hprocessed
  rw [hfound] at hfreq hinterval hper hcalls
  have haudio : IasAvbClockReferenceStreamType.ofByte (p 3) = eIasAvbCrsTypeAudio := by
    rw [hp.type (ht.comp ▸ hcomp), ht.type]
    rfl
  have hformat : c.format = s.format := by
    unfold format
    rw [hc.comp, hscomp, ht.comp]
  refine ⟨haccepted, htype.trans (haudio.trans ht.type.symm), hfreq, hinterval,
    hper.trans hcount, ?_, ?_⟩
  · rw [hcalls, hformat]
    dsimp only
    rw [hcount, ← hstamps]
    exact times_of_written hw hmaster
  · exact hp.headerOk ht hcomp hfits hlength (hl.trans hc.comp) (htype.trans haudio)

/--
**The round trip of a clock reference packet.**

Take any accepted configuration of a talker, any run of it with the packets of the pool
written in any order, and one more packet: a listener of the same layout, just set up,
accepts it, recovers the configuration and all time stamps and would accept the like again
exactly if the layout is not the draft's, the length of the stamps fits into its field, the
listener validates at all, and the master clock did not jump in the call.
-/
theorem crf_round_trip_iff {env : CrfTxEnvironment} {type : IasAvbClockReferenceStreamType}
    {stamps interval : UInt16} {baseFreq : UInt32} {pull : IasAvbClockMultiplier}
    {poolSize streamId reference k nextWindowStart attime mHoldoffTime maxStamps : Nat}
    {memory : Nat → Bytes} {es : List CrfTalkerEvent} {clock : MasterAnswers}
    {s' : IasAvbClockReferenceStream} {bytes : Bytes} {times : List Nat}
    {validation : RxConfig}
    (hinit : initTransmit comp env type stamps interval baseFreq pull poolSize = .ok t)
    (hwrite : (exec CrfTalker.step (CrfTalker.start t streamId reference memory) es).writeCall k
      nextWindowStart clock = (s', .packet bytes times attime))
    (hlistener : initReceive comp validation mHoldoffTime true eIasAvbCrsTypeAudio maxStamps
      = .ok c) (padding : Nat) (rx : RxAnswers) :
    RoundTrip t c bytes times (t.avtpLength + padding) rx ↔
      comp ≠ eIasAvbCompD6 ∧ 8 * t.mTimeStampsPerPdu < 65536
        ∧ validation.mValidationMode ≠ cValidateNever
        ∧ ((exec CrfTalker.step (CrfTalker.start t streamId reference memory)
            es).stream.startPlane clock.atReset nextWindowStart).1.HasMaster clock.now := by
  have ht := configured_init hinit
  obtain ⟨-, -, -, -, -, -, -, -, -, htoggle, -⟩ := CrfTalker.initTransmit_ok hinit
  have hinv := @CrfTalker.inv_exec_start t streamId reference memory htoggle es
  have hw := writeToAvbPacket_packet hwrite
  have hp := (CrfTalker.inv_of_written hinv hw).2
  obtain ⟨hc, hmode⟩ := fresh_init hlistener
  rw [← hmode]
  constructor
  · exact conditions_of_roundTrip hp ht hw hc
  · rintro ⟨hcomp, hfits, hvalidates, hmaster⟩
    exact roundTrip_of_conditions hp ht hw hinv.comp hinv.stampsPerPdu hc hcomp hfits hvalidates
      hmaster (Nat.le_add_right ..)

/-! ## The two layouts -/

/-- A clock that ticks at 48 kHz and does not move during the call. -/
def sampleClock : MasterAnswers where
  atReset := ⟨1000, 5000, 48000⟩
  now := ⟨1000, 5000, 48000⟩
  duration := fun events => events * 20833
  locked := true

def sampleEnvironment : CrfTxEnvironment where
  packetsPerSecondClass := 8000
  clockDomain := some true

/-- A talker with two stamps per packet and an interval of 160. -/
def sampleTalker (comp : IasAvbCompatibility) (baseFreq : Nat) : IasAvbClockReferenceStream where
  mCompatibilityMode := comp
  mBaseFrequency := baseFreq
  mTimeStampInterval := 160
  mTimeStampsPerPdu := 2
  mMasterTimeout := 2000000000

/-- The first call after the activation. -/
def sampleCall (comp : IasAvbCompatibility) (baseFreq : Nat) :
    IasAvbClockReferenceStream × CrfTxOutcome :=
  (exec CrfTalker.step (CrfTalker.start (sampleTalker comp baseFreq) 1 0 fun _ _ => 0)
    [.activate]).writeCall 0 0 sampleClock

/-- In the draft 6 layout the listener accepts the talker's first packet; it is a listener for
user clocks then, has half the talker's rate, and would not accept the packet again. -/
theorem draft_packet_changes_type :
    ∃ s' bytes times attime c,
      initTransmit eIasAvbCompD6 sampleEnvironment eIasAvbCrsTypeAudio 2 160 96000
          IasAvbClockMultiplier.eIasAvbCrsMultFlat 8 = .ok (sampleTalker eIasAvbCompD6 96000)
        ∧ sampleCall eIasAvbCompD6 96000 = (s', .packet bytes times attime)
        ∧ initReceive eIasAvbCompD6 ⟨cValidateAlways, 1⟩ 15000000 true eIasAvbCrsTypeAudio 2
          = .ok c
        ∧ c.Accepted bytes 44
        ∧ (c.readFromAvbPacket (some bytes) 44 {}).stream.mType = eIasAvbCrsTypeUser
        ∧ (c.readFromAvbPacket (some bytes) 44 {}).stream.mBaseFrequency = 48000
        ∧ ¬ (c.readFromAvbPacket (some bytes) 44 {}).stream.HeaderOk bytes 44 :=
  ⟨_, _, _, _, _, rfl, rfl, rfl, by decide +kernel, by decide +kernel, by decide +kernel,
    by decide +kernel⟩

/-- In the later layout the same packet makes the round trip. -/
theorem crf_round_trip_iff_sample :
    ∃ s' bytes times attime c,
      sampleCall eIasAvbCompLatest 48000 = (s', .packet bytes times attime)
        ∧ RoundTrip (sampleTalker eIasAvbCompLatest 48000) c bytes times (36 + 0) {} :=
  ⟨_, _, _, _, _, rfl, (@crf_round_trip_iff eIasAvbCompLatest
    (sampleTalker eIasAvbCompLatest 48000) (sampleListener eIasAvbCompLatest) sampleEnvironment
    eIasAvbCrsTypeAudio 2 160 48000 IasAvbClockMultiplier.eIasAvbCrsMultFlat 8 1 0 0 0 _ 15000000 1
    _ [.activate] sampleClock _ _ _ ⟨cValidateAlways, 1⟩ rfl rfl rfl 0 {}).mpr
    ⟨by decide, by decide, by decide, by decide +kernel⟩⟩

end IasAvbClockReferenceStream

end AvbStreamHandler
