import AvbStreamHandler.Clock.ClockReferenceStream
import AvbStreamHandler.Kit.Run
import AvbStreamHandler.Transmit.AvbPacketPool
import Mathlib.Tactic.Common

/-!
# The talker of a clock reference stream

`initTransmit`, the template all packets of the pool are filled from, and
`writeToAvbPacket`, which turns one of them into the next packet of the stream. A packet
comes back to the pool as it was sent and is used again as it is: only the sequence number,
the stamps and the restart bit are written anew.

The time of a stamp is computed in floating point from the last two readings of the clock
domain; the product of the duration of an event and a number of events is part of the call,
like the readings themselves. Offsets are those of the AVTP header.
-/

namespace AvbStreamHandler

open Kit Kit.Word Kit.Run IasAvbCompatibility IasAvbClockReferenceStreamType
  IasAvbClockMultiplier IasAvbProcessingResult

/-- `ETH_DATA_LEN`. -/
def ETH_DATA_LEN : Nat := 1500

/-- What the environment says about a talker that is set up. -/
structure CrfTxEnvironment where
  /-- `IasAvbTSpec::getPacketsPerSecondByClass` of the stream's class. -/
  packetsPerSecondClass : Nat
  /-- The lock state of the clock domain, if there is one. -/
  clockDomain : Option Bool
  mMasterTimeout : Nat := 2000000000
  mMasterTimeUpdateMinInterval : Nat := 0
  mPresentationTimeOffset : Nat := 0
deriving DecidableEq, Repr

/-- A reading of the master clock: `getEventCount` with its time, and `getEventRate`. -/
structure MasterReading where
  eventCount : Nat
  eventTime : Nat
  eventRate : Nat
deriving DecidableEq, Repr

/-- What the clock domain answers during one call of `writeToAvbPacket`. -/
structure MasterAnswers where
  /-- To `resetTime`, if it asks. -/
  atReset : MasterReading
  now : MasterReading
  /-- `eventDuration` times a number of events, as a 64-bit register has it. -/
  duration : Nat → Nat
  locked : Bool

/-- What a call of `writeToAvbPacket` comes to. -/
inductive CrfTxOutcome
  /-- The stream is not active. -/
  | refused
  /-- `mLock` is never unlocked again. -/
  | blocked
  /-- There is no reference clock. -/
  | dummyPacket (attime : Nat)
  /-- The division by an event rate of zero. -/
  | trap
  /-- The packet, and the stamps that were written into it. -/
  | packet (bytes : Bytes) (stamps : List Nat) (attime : Nat)

namespace IasAvbClockReferenceStream

/-! ## Setting up -/

/-- The packets the stream sends per second, as `initTransmit` rounds them. -/
def maxIntervalFrames (packetsPerSecondClass crfStampsPerPdu crfStampInterval baseFreq : Nat) :
    Nat :=
  let packetsPerSecond := baseFreq / crfStampsPerPdu / crfStampInterval
  sub32 (add32 packetsPerSecond packetsPerSecondClass) 1 / packetsPerSecondClass % 65536

/-- The talker. The size of a packet is cut to 16 bits before it is compared. -/
def initTransmit (comp : IasAvbCompatibility) (env : CrfTxEnvironment)
    (type : IasAvbClockReferenceStreamType) (crfStampsPerPdu crfStampInterval : UInt16)
    (baseFreq : UInt32) (pull : IasAvbClockMultiplier) (poolSize : Nat) :
    Except IasAvbProcessingResult IasAvbClockReferenceStream :=
  match env.clockDomain with
  | none => .error eIasAvbProcInvalidParam
  | some locked =>
    if crfStampsPerPdu = 0 ∨ crfStampInterval = 0 ∨ baseFreq = 0 ∨ 0x1FFFFFFF < baseFreq then
      .error eIasAvbProcInvalidParam
    else if type ≠ eIasAvbCrsTypeAudio ∨ pull ≠ eIasAvbCrsMultFlat then
      .error eIasAvbProcUnsupportedFormat
    else
      let packetSize :=
        ((initFormat comp).headerSize + cCrfTimeStampSize * crfStampsPerPdu.toNat) % 65536
      if ETH_DATA_LEN ≤ packetSize ∨ env.packetsPerSecondClass = 0 then
        .error eIasAvbProcInvalidParam
      else if packetSize = 0
          ∨ maxIntervalFrames env.packetsPerSecondClass crfStampsPerPdu.toNat
              crfStampInterval.toNat baseFreq.toNat = 0
          ∨ poolSize = 0 ∨ AvbPacketPool.cMaxPoolSize < poolSize then
        .error eIasAvbProcInvalidParam
      else .ok {
        mCompatibilityMode := comp
        mBaseFrequency := baseFreq.toNat
        mPull := pull
        mTimeStampInterval := crfStampInterval.toNat
        mTimeStampsPerPdu := crfStampsPerPdu.toNat
        mMasterTimeout := env.mMasterTimeout
        mMasterTimeUpdateMinInterval := env.mMasterTimeUpdateMinInterval
        mPresentationTimeOffset := env.mPresentationTimeOffset
        mClockValid := locked }

/-- The length of a packet. -/
def avtpLength (s : IasAvbClockReferenceStream) : Nat :=
  s.format.headerSize + cCrfTimeStampSize * s.mTimeStampsPerPdu

/-- The reference packet of `prepareAllPackets`, in memory `m`. -/
def referencePacket (s : IasAvbClockReferenceStream) (streamId : Nat) (m : Bytes) : Bytes :=
  if s.mCompatibilityMode = eIasAvbCompD6 then
    let m := ((m.put 0 5).put 1 0x80).put 3 0
    let m := (m.put32 4 (streamId / 4294967296)).put32 8 streamId
    let m := (m.put32 12 0).put32 16 0
    let m := (m.put16 20 (s.format.mPayloadHeaderSize
      + s.mTimeStampsPerPdu * cCrfTimeStampSize)).put16 22 s.mType.code
    ((m.put 24 7).put 25 0).put16 26 s.mTimeStampInterval
  else
    let m := ((m.put 0 4).put 1 0x80).put 3 (UInt8.ofNat s.mType.code)
    let m := (m.put32 4 (streamId / 4294967296)).put32 8 streamId
    let m := m.put32 12 (s.mPull.code * 536870912 + s.mBaseFrequency)
    (m.put16 16 (s.mTimeStampsPerPdu * cCrfTimeStampSize)).put16 18 s.mTimeStampInterval

/-- All packets of the pool, filled from the one in slot `reference`. -/
def prepareAllPackets (s : IasAvbClockReferenceStream) (streamId reference : Nat)
    (memory : Nat → Bytes) : Nat → Bytes := fun k i =>
  if i < s.avtpLength then s.referencePacket streamId (memory reference) i else memory k i

/-! ## The master clock -/

/-- The master's event count in units of the stream's own rate. -/
def masterCountOf (s : IasAvbClockReferenceStream) (r : MasterReading) : Nat :=
  mul64 r.eventCount s.mBaseFrequency / r.eventRate

/-- `resetTime`. It fails without a reference clock. -/
def resetTime (s : IasAvbClockReferenceStream) (r : MasterReading) (nextWindowStart : Nat) :
    IasAvbClockReferenceStream × Bool :=
  let mMasterTime := if r.eventRate = 0 then 0 else r.eventTime
  let mMasterCount := if r.eventRate = 0 then r.eventCount else s.masterCountOf r
  let s := { s with
    mMasterTime := mMasterTime
    mMasterCount := mMasterCount
    mLastMasterCount := 0
    mLastMasterTime := 0 }
  if mMasterTime = 0 then
    ({ s with
      mRefPlaneEventCount := 0
      mRefPlaneEventTime := 0
      mPacketLaunchTime := nextWindowStart
      mRefPlaneEventOffset :=
        if s.mRefPlaneEventOffset = 0 then 1 else s.mRefPlaneEventOffset }, false)
  else
    ({ s with
      mRefPlaneEventOffset := sub64 s.mRefPlaneEventCount mMasterCount
      mRefPlaneEventTime := mMasterTime
      mPacketLaunchTime := mMasterTime }, true)

/-- The first packet needs a time to start from. -/
def startPlane (s : IasAvbClockReferenceStream) (r : MasterReading) (nextWindowStart : Nat) :
    IasAvbClockReferenceStream × Bool :=
  if s.mRefPlaneEventCount = 0 ∧ s.mRefPlaneEventTime = 0 then s.resetTime r nextWindowStart
  else (s, true)

/-- The reading is where the talker expects it. -/
def InTime (s : IasAvbClockReferenceStream) (r : MasterReading) : Prop :=
  sub64 r.eventTime s.mMasterTime ≤ s.mMasterTimeout ∧ s.mMasterCount < s.masterCountOf r

instance (s : IasAvbClockReferenceStream) (r : MasterReading) : Decidable (s.InTime r) :=
  inferInstanceAs (Decidable (_ ∧ _))

/-- The reading is too close to the last one to be of use. -/
def TooSoon (s : IasAvbClockReferenceStream) (r : MasterReading) : Prop :=
  s.mMasterTimeUpdateMinInterval ≠ 0
    ∧ sub64 r.eventTime s.mMasterTime < s.mMasterTimeUpdateMinInterval

instance (s : IasAvbClockReferenceStream) (r : MasterReading) : Decidable (s.TooSoon r) :=
  inferInstanceAs (Decidable (_ ∧ _))

/-- The next reading of the master clock. A time of zero asks for `resetTime`. -/
def advanceMaster (s : IasAvbClockReferenceStream) (r : MasterReading) :
    IasAvbClockReferenceStream :=
  if r.eventTime = s.mMasterTime then s
  else if ¬ s.InTime r then
    { s with mRefPlaneEventTime := 0, mRefPlaneEventCount := 0, mMasterTime := 0 }
  else if s.TooSoon r then s
  else
    { s with
      mLastMasterTime := s.mMasterTime
      mMasterTime := r.eventTime
      mLastMasterCount := s.mMasterCount
      mMasterCount := s.masterCountOf r }

/-- There is a master time left to compute stamps from. -/
def HasMaster (s : IasAvbClockReferenceStream) (r : MasterReading) : Prop :=
  if r.eventTime = s.mMasterTime ∨ (s.InTime r ∧ s.TooSoon r) then s.mMasterTime ≠ 0
  else s.InTime r ∧ r.eventTime ≠ 0

instance (s : IasAvbClockReferenceStream) (r : MasterReading) : Decidable (s.HasMaster r) :=
  inferInstanceAs (Decidable (ite _ _ _))

/-! ## The packet -/

/-- A packet while its stamps are written. -/
structure Writing where
  stream : IasAvbClockReferenceStream
  bytes : Bytes
  stamps : List Nat := []

/-- The time of the event the reference plane is at. -/
def eventTimeOf (s : IasAvbClockReferenceStream) (duration : Nat → Nat) : Nat :=
  add64 s.mMasterTime
    (duration (sub64 s.mRefPlaneEventCount (add64 s.mMasterCount s.mRefPlaneEventOffset)))

/-- The body of the loop that writes the stamps. The first one is the launch time, too. -/
def stampStep (duration : Nat → Nat) (w : Writing) (i : Nat) : Writing :=
  let s := w.stream
  let time := s.eventTimeOf duration
  let stamp := add64 time s.mPresentationTimeOffset
  { stream := { s with
      mRefPlaneEventTime := time
      mRefPlaneEventCount := add64 s.mRefPlaneEventCount s.mTimeStampInterval
      mPacketLaunchTime := if i = 0 then time else s.mPacketLaunchTime }
    bytes := w.bytes.put64 (4 * s.format.mPayloadOffset32 + cCrfTimeStampSize * i) stamp
    stamps := w.stamps ++ [stamp] }

/-- The stamps, if there is a master time. -/
def writeStamps (s : IasAvbClockReferenceStream) (duration : Nat → Nat) (m : Bytes) : Writing :=
  if s.mMasterTime ≠ 0 then
    (List.range s.mTimeStampsPerPdu).foldl (stampStep duration) { stream := s, bytes := m }
  else { stream := s, bytes := m }

/-- The clock domain has just been locked: the restart bit is toggled. -/
def markRestart (s : IasAvbClockReferenceStream) (locked : Bool) : IasAvbClockReferenceStream :=
  { s with
    mMediaClockRestartToggle :=
      if s.mClockValid = false ∧ locked = true then (s.mMediaClockRestartToggle ^^^ 4) &&& 0xF7
      else s.mMediaClockRestartToggle
    mClockValid := locked }

def holdLock (s : IasAvbClockReferenceStream) : IasAvbClockReferenceStream :=
  { s with mLockHeld := true }

def writeToAvbPacket (s : IasAvbClockReferenceStream) (m : Bytes) (nextWindowStart : Nat)
    (clock : MasterAnswers) : IasAvbClockReferenceStream × CrfTxOutcome :=
  if s.mLockHeld = true then (s, .blocked)
  else if s.mActive = false then (s, .refused)
  else
    let start := s.startPlane clock.atReset nextWindowStart
    if start.2 = false then
      -- the early return: the lock stays
      (start.1.holdLock, .dummyPacket (add64 start.1.mPacketLaunchTime 10000000))
    else if clock.now.eventRate = 0 then (start.1.holdLock, .trap)
    else
      let s := (start.1.setSeqNum (start.1.mSeqNum + 1)).advanceMaster clock.now
      let w := s.writeStamps clock.duration (m.put 2 start.1.mSeqNum)
      let s := w.stream.markRestart clock.locked
      (s, .packet (w.bytes.put 1 ((w.bytes 1 &&& 0xF7) ||| s.mMediaClockRestartToggle))
        w.stamps s.mPacketLaunchTime)

/-- `activate`, and `activationChanged` after it, which waits for the lock. -/
def activate (s : IasAvbClockReferenceStream) : IasAvbClockReferenceStream :=
  if s.mActive = true then s
  else if s.mLockHeld = true then { s with mActive := true }
  else { s with mActive := true, mRefPlaneEventTime := 0, mRefPlaneEventCount := 0 }

def deactivate (s : IasAvbClockReferenceStream) : IasAvbClockReferenceStream :=
  { s with mActive := false }

/-! ## What a call leaves alone -/

/-- What the master clock does not change. -/
structure SameTalker (s s' : IasAvbClockReferenceStream) : Prop where
  comp : s'.mCompatibilityMode = s.mCompatibilityMode
  type : s'.mType = s.mType
  baseFreq : s'.mBaseFrequency = s.mBaseFrequency
  interval : s'.mTimeStampInterval = s.mTimeStampInterval
  stampsPerPdu : s'.mTimeStampsPerPdu = s.mTimeStampsPerPdu
  toggle : s'.mMediaClockRestartToggle = s.mMediaClockRestartToggle
  clockValid : s'.mClockValid = s.mClockValid

namespace SameTalker

theorem refl (s : IasAvbClockReferenceStream) : SameTalker s s :=
  ⟨rfl, rfl, rfl, rfl, rfl, rfl, rfl⟩

theorem trans {s s' s'' : IasAvbClockReferenceStream} (h : SameTalker s s')
    (h' : SameTalker s' s'') : SameTalker s s'' :=
  ⟨h'.comp.trans h.comp, h'.type.trans h.type, h'.baseFreq.trans h.baseFreq,
    h'.interval.trans h.interval, h'.stampsPerPdu.trans h.stampsPerPdu,
    h'.toggle.trans h.toggle, h'.clockValid.trans h.clockValid⟩

end SameTalker

theorem resetTime_same (s : IasAvbClockReferenceStream) (r : MasterReading)
    (nextWindowStart : Nat) : SameTalker s (s.resetTime r nextWindowStart).1 := by
  unfold resetTime
  dsimp only
  generalize (if r.eventRate = 0 then 0 else r.eventTime) = mMasterTime
  split
  · exact ⟨rfl, rfl, rfl, rfl, rfl, rfl, rfl⟩
  · exact ⟨rfl, rfl, rfl, rfl, rfl, rfl, rfl⟩

theorem startPlane_same (s : IasAvbClockReferenceStream) (r : MasterReading)
    (nextWindowStart : Nat) : SameTalker s (s.startPlane r nextWindowStart).1 := by
  unfold startPlane
  split
  · exact s.resetTime_same r nextWindowStart
  · exact .refl s

theorem advanceMaster_same (s : IasAvbClockReferenceStream) (r : MasterReading) :
    SameTalker s (s.advanceMaster r) := by
  unfold advanceMaster
  split
  · exact .refl s
  · split
    · exact ⟨rfl, rfl, rfl, rfl, rfl, rfl, rfl⟩
    · split
      · exact .refl s
      · exact ⟨rfl, rfl, rfl, rfl, rfl, rfl, rfl⟩

/-- Whether there are stamps is decided by the reading alone. -/
theorem advanceMaster_iff (s : IasAvbClockReferenceStream) (r : MasterReading) :
    (s.advanceMaster r).mMasterTime ≠ 0 ↔ s.HasMaster r := by
  unfold advanceMaster HasMaster
  by_cases hsame : r.eventTime = s.mMasterTime
  · rw [if_pos hsame, if_pos (Or.inl hsame)]
  · by_cases htime : s.InTime r
    · by_cases hsoon : s.TooSoon r
      · rw [if_neg hsame, if_neg (not_not.mpr htime), if_pos hsoon, if_pos (Or.inr ⟨htime, hsoon⟩)]
      · rw [if_neg hsame, if_neg (not_not.mpr htime), if_neg hsoon,
          if_neg (by rintro (h | h); exacts [hsame h, hsoon h.2])]
        exact ⟨fun h => ⟨htime, h⟩, And.right⟩
    · rw [if_neg hsame, if_pos htime,
        if_neg (by rintro (h | h); exacts [hsame h, htime h.1])]
      exact iff_of_false (fun h => h rfl) fun h => htime h.1

/-- The stamps start where the headers end. -/
theorem payloadOffset (comp : IasAvbCompatibility) :
    4 * (initFormat comp).mPayloadOffset32 = (initFormat comp).headerSize := by
  unfold initFormat
  split <;> rfl

/-- What holds once `n` stamps are written. -/
structure Written (s : IasAvbClockReferenceStream) (m : Bytes) (n : Nat) (w : Writing) :
    Prop where
  same : SameTalker s w.stream
  length : w.stamps.length = n
  stamp : ∀ i, i < n → w.stamps[i]? = some (s.format.stamp w.bytes i)
  frame : ∀ j, j < s.format.headerSize ∨ s.format.headerSize + cCrfTimeStampSize * n ≤ j →
    w.bytes j = m j

/-- One more stamp. -/
theorem written_step {s : IasAvbClockReferenceStream} {m : Bytes} {duration : Nat → Nat}
    {n : Nat} {w : Writing} (h : Written s m n w) :
    Written s m (n + 1) (stampStep duration w n) := by
  have hoffset : 4 * w.stream.format.mPayloadOffset32 = s.format.headerSize := by
    unfold format
    rw [h.same.comp]
    exact payloadOffset _
  have hbytes : (stampStep duration w n).bytes
      = w.bytes.put64 (s.format.headerSize + cCrfTimeStampSize * n)
          (add64 (w.stream.eventTimeOf duration) w.stream.mPresentationTimeOffset) := by
    rw [← hoffset]
    rfl
  have hstamps : (stampStep duration w n).stamps
      = w.stamps ++ [add64 (w.stream.eventTimeOf duration)
          w.stream.mPresentationTimeOffset] := rfl
  refine ⟨h.same.trans ⟨rfl, rfl, rfl, rfl, rfl, rfl, rfl⟩, ?_, ?_, ?_⟩
  · rw [hstamps, List.length_append, h.length]
    rfl
  · intro i hi
    unfold CrfFormat.stamp
    rw [hstamps, hbytes]
    rcases Nat.lt_or_ge i n with hlt | hge
    · rw [List.getElem?_append_left (by rw [h.length]; exact hlt), h.stamp i hlt]
      refine congrArg some (Bytes.be64_congr fun k hk => ?_)
      unfold cCrfTimeStampSize
      exact (Bytes.put64_of_ne (by omega)).symm
    · obtain rfl : i = n := by omega
      rw [List.getElem?_append_right (Nat.le_of_eq h.length), h.length, Nat.sub_self,
        Bytes.be64_put64]
      exact congrArg some (Nat.mod_mod ..).symm
  · intro j hj
    rw [hbytes, Bytes.put64_of_ne ?_]
    · refine h.frame j ?_
      unfold cCrfTimeStampSize at hj ⊢
      omega
    · unfold cCrfTimeStampSize at hj ⊢
      omega

theorem written_zero (s : IasAvbClockReferenceStream) (m : Bytes) :
    Written s m 0 { stream := s, bytes := m } where
  same := .refl s
  length := rfl
  stamp := fun i hi => absurd hi (Nat.not_lt_zero i)
  frame := fun _ _ => rfl

/-- All stamps are written, or none if there is no master time. -/
theorem writeStamps_written (s : IasAvbClockReferenceStream) (duration : Nat → Nat)
    (m : Bytes) : Written s m (if s.mMasterTime ≠ 0 then s.mTimeStampsPerPdu else 0)
      (s.writeStamps duration m) := by
  unfold writeStamps
  split
  · exact foldl_range_inv (written_zero s m) fun i _ w hw => written_step hw
  · exact written_zero s m

/-! ## What a call writes -/

/-- What a call makes of a packet that had the bytes `m`. -/
structure WrittenPacket (s s' : IasAvbClockReferenceStream) (m bytes : Bytes)
    (stamps : List Nat) (hasMaster : Prop) (locked : Bool) : Prop where
  comp : s'.mCompatibilityMode = s.mCompatibilityMode
  type : s'.mType = s.mType
  baseFreq : s'.mBaseFrequency = s.mBaseFrequency
  interval : s'.mTimeStampInterval = s.mTimeStampInterval
  stampsPerPdu : s'.mTimeStampsPerPdu = s.mTimeStampsPerPdu
  toggle : s'.mMediaClockRestartToggle
    = if s.mClockValid = false ∧ locked = true then (s.mMediaClockRestartToggle ^^^ 4) &&& 0xF7
      else s.mMediaClockRestartToggle
  clockValid : s'.mClockValid = locked
  restart : bytes 1 = (m 1 &&& 0xF7) ||| s'.mMediaClockRestartToggle
  header : ∀ i, i < s.format.headerSize → i ≠ 1 → i ≠ 2 → bytes i = m i
  length : hasMaster → stamps.length = s.mTimeStampsPerPdu
  stamp : hasMaster → ∀ i, i < s.mTimeStampsPerPdu →
    stamps[i]? = some (s.format.stamp bytes i)
  empty : ¬ hasMaster → stamps = []

theorem twenty_le_headerSize (comp : IasAvbCompatibility) :
    20 ≤ (initFormat comp).headerSize := by
  unfold initFormat
  split <;> decide

/-- **What a packet of the stream is made of.** -/
theorem writeToAvbPacket_packet {s s' : IasAvbClockReferenceStream} {m bytes : Bytes}
    {nextWindowStart attime : Nat} {clock : MasterAnswers} {stamps : List Nat}
    (h : s.writeToAvbPacket m nextWindowStart clock = (s', .packet bytes stamps attime)) :
    WrittenPacket s s' m bytes stamps
      ((s.startPlane clock.atReset nextWindowStart).1.HasMaster clock.now) clock.locked := by
  have hstart := s.startPlane_same clock.atReset nextWindowStart
  unfold writeToAvbPacket at h
  dsimp only at h
  generalize s.startPlane clock.atReset nextWindowStart = start at h hstart ⊢
  -- the ways in which no packet is sent
  split at h
  · cases h
  · split at h
    · cases h
    · split at h
      · cases h
      · split at h
        · cases h
        · have hadvance := (start.1.setSeqNum (start.1.mSeqNum + 1)).advanceMaster_same clock.now
          have hmaster := (start.1.setSeqNum (start.1.mSeqNum + 1)).advanceMaster_iff clock.now
          generalize (start.1.setSeqNum (start.1.mSeqNum + 1)).advanceMaster clock.now = a
            at h hadvance hmaster
          -- the stamps are written behind the header, so the header is as in the template
          have hwritten := a.writeStamps_written clock.duration (m.put 2 start.1.mSeqNum)
          generalize a.writeStamps clock.duration (m.put 2 start.1.mSeqNum) = w at h hwritten
          have hseq : SameTalker start.1 (start.1.setSeqNum (start.1.mSeqNum + 1)) :=
            ⟨rfl, rfl, rfl, rfl, rfl, rfl, rfl⟩
          -- what the header tells is still as the call found it
          have hsame := ((hstart.trans hseq).trans hadvance).trans hwritten.same
          have hformat : a.format = s.format := by
            unfold format
            rw [((hstart.trans hseq).trans hadvance).comp]
          have hsize : 20 ≤ s.format.headerSize := twenty_le_headerSize s.mCompatibilityMode
          have hcount := ((hstart.trans hseq).trans hadvance).stampsPerPdu
          cases h
          refine ⟨hsame.comp, hsame.type, hsame.baseFreq, hsame.interval, hsame.stampsPerPdu,
            ?_, rfl, ?_, ?_, ?_, ?_, ?_⟩
          · show (ite _ _ _) = _
            rw [hsame.clockValid, hsame.toggle]
          · have hone : w.bytes 1 = m 1 :=
              (hwritten.frame 1 (Or.inl (by rw [hformat]; omega))).trans
                (Bytes.put_of_ne (by decide))
            rw [Bytes.put_self, hone]
          · intro i hi hi₁ hi₂
            rw [Bytes.put_of_ne hi₁, hwritten.frame i (Or.inl (by rw [hformat]; exact hi)),
              Bytes.put_of_ne hi₂]
          · intro hyes
            rw [hwritten.length, if_pos (hmaster.mpr hyes), hcount]
          · intro hyes i hi
            rw [hwritten.stamp i (by rw [if_pos (hmaster.mpr hyes), hcount]; exact hi), hformat]
            refine congrArg some (Bytes.be64_congr fun k _ => (Bytes.put_of_ne ?_).symm)
            omega
          · intro hno
            refine List.eq_nil_of_length_eq_zero ?_
            rw [hwritten.length, if_neg fun hne => hno (hmaster.mp hne)]

/-! ## Runs -/

/-- A packet of the pool, used before or not. In the draft 6 layout byte 3 is reserved. -/
structure Prepared (t : IasAvbClockReferenceStream) (p : Bytes) : Prop where
  restart : p 1 = 0x80 ∨ p 1 = 0x84
  reserved : t.mCompatibilityMode = eIasAvbCompD6 → p 3 = 0
  subtype : t.mCompatibilityMode ≠ eIasAvbCompD6 → p 0 = 4
  type : t.mCompatibilityMode ≠ eIasAvbCompD6 → p 3 = UInt8.ofNat t.mType.code
  rate : t.mCompatibilityMode ≠ eIasAvbCompD6 →
    p.be32 12 = (t.mPull.code * 536870912 + t.mBaseFrequency) % 4294967296
  dataLength : t.mCompatibilityMode ≠ eIasAvbCompD6 →
    p.be16 16 = t.mTimeStampsPerPdu * cCrfTimeStampSize % 65536
  interval : t.mCompatibilityMode ≠ eIasAvbCompD6 → p.be16 18 = t.mTimeStampInterval % 65536

theorem prepared_referencePacket (t : IasAvbClockReferenceStream) (streamId : Nat) (m : Bytes) :
    Prepared t (t.referencePacket streamId m) := by
  unfold referencePacket
  by_cases hcomp : t.mCompatibilityMode = eIasAvbCompD6
  · rw [if_pos hcomp]
    refine ⟨Or.inl ?_, fun _ => ?_, ?_, ?_, ?_, ?_, ?_⟩
    · simp [Bytes.put_apply, Bytes.put32_of_ne, Bytes.put16_of_ne]
    · simp [Bytes.put_apply, Bytes.put32_of_ne, Bytes.put16_of_ne]
    all_goals exact fun hne => absurd hcomp hne
  · rw [if_neg hcomp]
    refine ⟨Or.inl ?_, fun hd6 => absurd hd6 hcomp, fun _ => ?_, fun _ => ?_, fun _ => ?_,
      fun _ => ?_, fun _ => ?_⟩
    · simp [Bytes.put_apply, Bytes.put32_of_ne, Bytes.put16_of_ne]
    · simp [Bytes.put_apply, Bytes.put32_of_ne, Bytes.put16_of_ne]
    · simp [Bytes.put32_of_ne, Bytes.put16_of_ne]
    · rw [← Bytes.be32_put32 _ 12]
      refine Bytes.be32_congr fun k hk => ?_
      rw [Bytes.put16_of_ne (by omega) (by omega), Bytes.put16_of_ne (by omega) (by omega)]
    · dsimp only
      rw [Bytes.be16_put16_of_ne (by omega), Bytes.be16_put16]
    · exact Bytes.be16_put16 ..

/-- Bytes that agree where a prepared packet says something. -/
theorem prepared_congr {t : IasAvbClockReferenceStream} {p p' : Bytes} (h : Prepared t p)
    (hrestart : p' 1 = 0x80 ∨ p' 1 = 0x84)
    (hheader : ∀ i, i < 20 → i ≠ 1 → i ≠ 2 → p' i = p i) : Prepared t p' where
  restart := hrestart
  reserved := fun hc => (hheader 3 (by decide) (by decide) (by decide)).trans (h.reserved hc)
  subtype := fun hc => (hheader 0 (by decide) (by decide) (by decide)).trans (h.subtype hc)
  type := fun hc => (hheader 3 (by decide) (by decide) (by decide)).trans (h.type hc)
  rate := fun hc => (Bytes.be32_congr fun k hk =>
    hheader (12 + k) (by omega) (by omega) (by omega)).trans (h.rate hc)
  dataLength := fun hc => (Bytes.be16_congr (hheader 16 (by decide) (by decide) (by decide))
    (hheader 17 (by decide) (by decide) (by decide))).trans (h.dataLength hc)
  interval := fun hc => (Bytes.be16_congr (hheader 18 (by decide) (by decide) (by decide))
    (hheader 19 (by decide) (by decide) (by decide))).trans (h.interval hc)

end IasAvbClockReferenceStream

/-- A talker and the packets of its pool. -/
structure CrfTalker where
  stream : IasAvbClockReferenceStream
  packets : Nat → Bytes

/-- A packet may be written as soon as it is back in the pool, so in any order. -/
inductive CrfTalkerEvent
  | activate
  | deactivate
  | write (k nextWindowStart : Nat) (clock : MasterAnswers)

namespace CrfTalker

open IasAvbClockReferenceStream

def setStream (w : CrfTalker) (s : IasAvbClockReferenceStream) : CrfTalker :=
  { w with stream := s }

def setPacket (w : CrfTalker) (k : Nat) (bytes : Bytes) : CrfTalker :=
  { w with packets := Function.update w.packets k bytes }

/-- The outcome of a call for packet `k`. -/
def writeCall (w : CrfTalker) (k nextWindowStart : Nat) (clock : MasterAnswers) :
    IasAvbClockReferenceStream × CrfTxOutcome :=
  w.stream.writeToAvbPacket (w.packets k) nextWindowStart clock

def write (w : CrfTalker) (k nextWindowStart : Nat) (clock : MasterAnswers) : CrfTalker :=
  match w.writeCall k nextWindowStart clock with
  | (s, .packet bytes _ _) => (w.setStream s).setPacket k bytes
  | (s, _) => w.setStream s

def step (w : CrfTalker) : CrfTalkerEvent → CrfTalker
  | .activate => w.setStream w.stream.activate
  | .deactivate => w.setStream w.stream.deactivate
  | .write k nextWindowStart clock => w.write k nextWindowStart clock

/-- The talker as `initTransmit` leaves it. -/
def start (t : IasAvbClockReferenceStream) (streamId reference : Nat)
    (memory : Nat → Bytes) : CrfTalker where
  stream := t
  packets := t.prepareAllPackets streamId reference memory

/-- What a run never changes, and what it does to the restart bit. -/
structure Inv (t : IasAvbClockReferenceStream) (w : CrfTalker) : Prop where
  comp : w.stream.mCompatibilityMode = t.mCompatibilityMode
  type : w.stream.mType = t.mType
  baseFreq : w.stream.mBaseFrequency = t.mBaseFrequency
  interval : w.stream.mTimeStampInterval = t.mTimeStampInterval
  stampsPerPdu : w.stream.mTimeStampsPerPdu = t.mTimeStampsPerPdu
  /-- The toggle moves between two values, neither of which has the bit the mask clears. -/
  toggle : w.stream.mMediaClockRestartToggle = 0 ∨ w.stream.mMediaClockRestartToggle = 4
  packets : ∀ k, Prepared t (w.packets k)

/-- The stream of a call that does not end in a packet. -/
theorem writeCall_same {s : IasAvbClockReferenceStream} {m : Bytes} {nextWindowStart : Nat}
    {clock : MasterAnswers}
    (h : ∀ s' bytes stamps attime,
      s.writeToAvbPacket m nextWindowStart clock ≠ (s', .packet bytes stamps attime)) :
    SameTalker s (s.writeToAvbPacket m nextWindowStart clock).1 := by
  have hstart := s.startPlane_same clock.atReset nextWindowStart
  unfold writeToAvbPacket at h ⊢
  dsimp only at h ⊢
  generalize s.startPlane clock.atReset nextWindowStart = start at h hstart ⊢
  split
  · exact .refl s
  · rename_i hlock
    rw [if_neg hlock] at h
    split
    · exact .refl s
    · rename_i hactive
      rw [if_neg hactive] at h
      split
      · exact hstart.trans ⟨rfl, rfl, rfl, rfl, rfl, rfl, rfl⟩
      · rename_i hready
        rw [if_neg hready] at h
        split
        · exact hstart.trans ⟨rfl, rfl, rfl, rfl, rfl, rfl, rfl⟩
        · rename_i hrate
          rw [if_neg hrate] at h
          exact absurd rfl (h _ _ _ _)

/-- The restart byte of a written packet. -/
theorem restart_of_written {p₁ toggle : UInt8} (hp : p₁ = 0x80 ∨ p₁ = 0x84)
    (ht : toggle = 0 ∨ toggle = 4) :
    (p₁ &&& 0xF7) ||| toggle = 0x80 ∨ (p₁ &&& 0xF7) ||| toggle = 0x84 := by
  rcases hp with rfl | rfl <;> rcases ht with rfl | rfl <;> decide

theorem inv_of_same {t : IasAvbClockReferenceStream} {w : CrfTalker}
    {s : IasAvbClockReferenceStream} (h : Inv t w) (hs : SameTalker w.stream s) :
    Inv t (w.setStream s) :=
  ⟨hs.comp.trans h.comp, hs.type.trans h.type, hs.baseFreq.trans h.baseFreq,
    hs.interval.trans h.interval, hs.stampsPerPdu.trans h.stampsPerPdu,
    by show s.mMediaClockRestartToggle = 0 ∨ s.mMediaClockRestartToggle = 4
       rw [hs.toggle]
       exact h.toggle,
    h.packets⟩

/-- Written packets can be written again. -/
theorem inv_of_written {t : IasAvbClockReferenceStream} {w : CrfTalker}
    {s : IasAvbClockReferenceStream} {k : Nat} {bytes : Bytes} {stamps : List Nat}
    {hasMaster : Prop} {locked : Bool} (h : Inv t w)
    (hw : WrittenPacket w.stream s (w.packets k) bytes stamps hasMaster locked) :
    Inv t ((w.setStream s).setPacket k bytes) ∧ Prepared t bytes := by
  have htoggle : s.mMediaClockRestartToggle = 0 ∨ s.mMediaClockRestartToggle = 4 := by
    rw [hw.toggle]
    rcases h.toggle with hzero | hfour
    · rw [hzero]
      split
      · exact Or.inr rfl
      · exact Or.inl rfl
    · rw [hfour]
      split
      · exact Or.inl rfl
      · exact Or.inr rfl
  have hsize := twenty_le_headerSize w.stream.mCompatibilityMode
  have hprepared : Prepared t bytes := by
    refine prepared_congr (h.packets k) ?_ fun i hi hi₁ hi₂ =>
      hw.header i (Nat.lt_of_lt_of_le hi hsize) hi₁ hi₂
    rw [hw.restart]
    exact restart_of_written (h.packets k).restart htoggle
  refine ⟨⟨hw.comp.trans h.comp, hw.type.trans h.type, hw.baseFreq.trans h.baseFreq,
    hw.interval.trans h.interval, hw.stampsPerPdu.trans h.stampsPerPdu, htoggle, ?_⟩, hprepared⟩
  intro k'
  show Prepared t (Function.update w.packets k bytes k')
  by_cases hk : k' = k
  · rw [hk, Function.update_self]
    exact hprepared
  · rw [Function.update_of_ne hk]
    exact h.packets k'

theorem activate_same (s : IasAvbClockReferenceStream) : SameTalker s s.activate := by
  unfold activate
  split
  · exact .refl s
  · split
    · exact ⟨rfl, rfl, rfl, rfl, rfl, rfl, rfl⟩
    · exact ⟨rfl, rfl, rfl, rfl, rfl, rfl, rfl⟩

theorem deactivate_same (s : IasAvbClockReferenceStream) : SameTalker s s.deactivate :=
  ⟨rfl, rfl, rfl, rfl, rfl, rfl, rfl⟩

theorem inv_step {t : IasAvbClockReferenceStream} {w : CrfTalker} (e : CrfTalkerEvent)
    (h : Inv t w) : Inv t (w.step e) := by
  cases e with
  | activate => exact inv_of_same h (activate_same _)
  | deactivate => exact inv_of_same h (deactivate_same _)
  | write k nextWindowStart clock =>
      show Inv t (w.write k nextWindowStart clock)
      unfold write
      split
      · rename_i s bytes stamps attime hcall
        exact (inv_of_written h (writeToAvbPacket_packet hcall)).1
      · rename_i s outcome hother hcall
        have hsame : SameTalker w.stream (w.writeCall k nextWindowStart clock).1 :=
          writeCall_same fun s' bytes stamps attime heq => hother bytes stamps attime
            (congrArg Prod.snd (hcall.symm.trans heq))
        rw [hcall] at hsame
        exact inv_of_same h hsame

/-- What an accepted configuration is. -/
theorem initTransmit_ok {comp : IasAvbCompatibility} {env : CrfTxEnvironment}
    {type : IasAvbClockReferenceStreamType} {stamps interval : UInt16} {baseFreq : UInt32}
    {pull : IasAvbClockMultiplier} {poolSize : Nat} {t : IasAvbClockReferenceStream}
    (h : initTransmit comp env type stamps interval baseFreq pull poolSize = .ok t) :
    t.mCompatibilityMode = comp ∧ t.mType = eIasAvbCrsTypeAudio
      ∧ t.mBaseFrequency = baseFreq.toNat ∧ 0 < t.mBaseFrequency
      ∧ t.mBaseFrequency ≤ 0x1FFFFFFF ∧ t.mPull = eIasAvbCrsMultFlat
      ∧ t.mTimeStampInterval = interval.toNat ∧ t.mTimeStampsPerPdu = stamps.toNat
      ∧ 0 < t.mTimeStampsPerPdu ∧ t.mMediaClockRestartToggle = 0 ∧ t.mLockHeld = false
      ∧ env.clockDomain = some t.mClockValid := by
  unfold initTransmit at h
  split at h
  · cases h
  · rename_i locked hclock
    split at h
    · cases h
    · rename_i hparams
      simp only [not_or] at hparams
      split at h
      · cases h
      · rename_i hformat
        simp only [not_or, not_not] at hformat
        dsimp only at h
        split at h
        · cases h
        · split at h
          · cases h
          · cases h
            have hfreq : baseFreq.toNat ≠ 0 := fun hzero =>
              hparams.2.2.1 (UInt32.toNat_inj.mp hzero)
            have hstamps : stamps.toNat ≠ 0 := fun hzero =>
              hparams.1 (UInt16.toNat_inj.mp hzero)
            have hmax : ¬ 0x1FFFFFFF < baseFreq.toNat := hparams.2.2.2
            exact ⟨rfl, rfl, rfl, Nat.pos_of_ne_zero hfreq, by dsimp only; omega, hformat.2, rfl,
              rfl, Nat.pos_of_ne_zero hstamps, rfl, rfl, hclock⟩

theorem inv_start (t : IasAvbClockReferenceStream) (streamId reference : Nat)
    (memory : Nat → Bytes) (htoggle : t.mMediaClockRestartToggle = 0) :
    Inv t (start t streamId reference memory) := by
  refine ⟨rfl, rfl, rfl, rfl, rfl, Or.inl htoggle, ?_⟩
  intro k
  have href := prepared_referencePacket t streamId (memory reference)
  have hlen : 20 ≤ t.avtpLength :=
    Nat.le_trans (twenty_le_headerSize t.mCompatibilityMode) (Nat.le_add_right ..)
  have hbytes : ∀ i, i < 20 → (start t streamId reference memory).packets k i
      = t.referencePacket streamId (memory reference) i := fun i hi =>
    if_pos (Nat.lt_of_lt_of_le hi hlen)
  refine prepared_congr href ?_ fun i hi _ _ => hbytes i hi
  rw [hbytes 1 (by decide)]
  exact href.restart

/-- No packet of the pool has the restart bit set. -/
theorem start_restart (t : IasAvbClockReferenceStream) (streamId reference : Nat)
    (memory : Nat → Bytes) (k : Nat) :
    (start t streamId reference memory).packets k 1 = 0x80 := by
  have hlen : 20 ≤ t.avtpLength :=
    Nat.le_trans (twenty_le_headerSize t.mCompatibilityMode) (Nat.le_add_right ..)
  refine Eq.trans (if_pos (Nat.lt_of_lt_of_le (by decide) hlen)) ?_
  unfold referencePacket
  split
  · simp [Bytes.put_apply, Bytes.put32_of_ne, Bytes.put16_of_ne]
  · simp [Bytes.put_apply, Bytes.put32_of_ne, Bytes.put16_of_ne]

/-- A run keeps the configuration and every packet of the pool usable. -/
theorem inv_exec_start {t : IasAvbClockReferenceStream} {streamId reference : Nat}
    {memory : Nat → Bytes} (htoggle : t.mMediaClockRestartToggle = 0)
    (es : List CrfTalkerEvent) : Inv t (exec step (start t streamId reference memory) es) :=
  inv_exec_of_step (fun _ e h => inv_step e h) (inv_start t streamId reference memory htoggle) es

end CrfTalker

end AvbStreamHandler
