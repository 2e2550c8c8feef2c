import AvbStreamHandler.Audio.AvbAudioStream

/-!
# The clock reference stream

`IasAvbClockReferenceStream`: what both sides of a CRF stream keep, the two layouts of its
packets, and the listener's side. The talker is in `ClockReferenceTalker.lean`.

A packet carries time stamps, one for every `mTimeStampInterval` events of a media clock.
The draft 6 layout names the event rate by a code and the stream type in a 16-bit field;
the later layout has the rate itself, under a three-bit pull field, and the type in byte 3.

`readFromAvbPacket` is a chain of three: the verdict on the packet, what the verdict does
to the stream state, and the stamps, which drive an `IasAvbRxStreamClockDomain`. Only the
verdict looks at the length of the packet. What the clock domain answers is part of the
call; what it is told is recorded.
-/

namespace AvbStreamHandler

open Kit Kit.Word IasAvbStreamState IasAvbCompatibility

inductive IasAvbClockReferenceStreamType
  | eIasAvbCrsTypeUser
  | eIasAvbCrsTypeAudio
  | eIasAvbCrsTypeVideoFrame
  | eIasAvbCrsTypeVideoLine
  | eIasAvbCrsTypeMachineCycle
deriving DecidableEq, Repr

open IasAvbClockReferenceStreamType

namespace IasAvbClockReferenceStreamType

/-- The enumerator's value. -/
def code : IasAvbClockReferenceStreamType → Nat
  | eIasAvbCrsTypeUser => 0
  | eIasAvbCrsTypeAudio => 1
  | eIasAvbCrsTypeVideoFrame => 2
  | eIasAvbCrsTypeVideoLine => 3
  | eIasAvbCrsTypeMachineCycle => 4

/-- The `switch` over byte 3 of a packet. -/
def ofByte (b : UInt8) : IasAvbClockReferenceStreamType :=
  if b = 0 then eIasAvbCrsTypeUser
  else if b = 1 then eIasAvbCrsTypeAudio
  else if b = 2 then eIasAvbCrsTypeVideoFrame
  else if b = 3 then eIasAvbCrsTypeVideoLine
  else if b = 4 then eIasAvbCrsTypeMachineCycle
  else eIasAvbCrsTypeUser

theorem ofByte_of_code {b : UInt8} {t : IasAvbClockReferenceStreamType}
    (h : b.toNat = t.code) : ofByte b = t := by
  have hb : b = UInt8.ofNat t.code := by rw [← h, UInt8.ofNat_toNat]
  subst hb
  cases t <;> rfl

end IasAvbClockReferenceStreamType

inductive IasAvbClockMultiplier
  | eIasAvbCrsMultFlat
  | eIasAvbCrsMultMinus1000ppm
  | eIasAvbCrsMultPlus1000ppm
  | eIasAvbCrsMultTvToMovie
  | eIasAvbCrsMultMovieToTv
  | eIasAvbCrsMultOneEighth
deriving DecidableEq, Repr

open IasAvbClockMultiplier

namespace IasAvbClockMultiplier

/-- The enumerator's value. -/
def code : IasAvbClockMultiplier → Nat
  | eIasAvbCrsMultFlat => 0
  | eIasAvbCrsMultMinus1000ppm => 1
  | eIasAvbCrsMultPlus1000ppm => 2
  | eIasAvbCrsMultTvToMovie => 3
  | eIasAvbCrsMultMovieToTv => 4
  | eIasAvbCrsMultOneEighth => 5

/-- The `switch` over the pull field, which is not shifted down before it is compared. -/
def ofField (b : UInt8) : IasAvbClockMultiplier :=
  if b = 0 then eIasAvbCrsMultFlat
  else if b = 1 then eIasAvbCrsMultMinus1000ppm
  else if b = 2 then eIasAvbCrsMultPlus1000ppm
  else if b = 3 then eIasAvbCrsMultTvToMovie
  else if b = 4 then eIasAvbCrsMultMovieToTv
  else if b = 5 then eIasAvbCrsMultOneEighth
  else eIasAvbCrsMultFlat

end IasAvbClockMultiplier

def cCrfTimeStampSize : Nat := 8

/-! ## The layouts -/

/-- Where a layout has its fields. -/
structure CrfFormat where
  mCrfHeaderSize : Nat
  mPayloadHeaderSize : Nat
  mSubtype : Nat
  mPayloadOffset32 : Nat
  mPayloadLenOffset16 : Nat
  mTypeoffset8 : Nat
deriving DecidableEq, Repr

def initFormat (mCompatibilityMode : IasAvbCompatibility) : CrfFormat :=
  if mCompatibilityMode = eIasAvbCompD6 then
    { mCrfHeaderSize := 24
      mPayloadHeaderSize := 4
      mSubtype := 5
      mPayloadOffset32 := 7
      mPayloadLenOffset16 := 10
      mTypeoffset8 := 22 }
  else
    { mCrfHeaderSize := 20
      mPayloadHeaderSize := 0
      mSubtype := 4
      mPayloadOffset32 := 5
      mPayloadLenOffset16 := 8
      mTypeoffset8 := 3 }

def decodeNominalFreq (nominalField : UInt8) : Nat :=
  if nominalField = 1 then 8000
  else if nominalField = 2 then 16000
  else if nominalField = 3 then 32000
  else if nominalField = 4 then 44100
  else if nominalField = 5 then 88200
  else if nominalField = 6 then 176400
  else if nominalField = 7 then 48000
  else if nominalField = 8 then 96000
  else if nominalField = 9 then 192000
  else 0

namespace CrfFormat

/-- Both headers together: where the stamps begin. -/
def headerSize (f : CrfFormat) : Nat := f.mCrfHeaderSize + f.mPayloadHeaderSize

/-- Stamp `i` ends here. -/
def stampEnd (f : CrfFormat) (i : Nat) : Nat := f.headerSize + cCrfTimeStampSize * (i + 1)

/-- `cond_swap64(stampBase[i])`. -/
def stamp (f : CrfFormat) (p : Bytes) (i : Nat) : Nat :=
  p.be64 (f.headerSize + cCrfTimeStampSize * i)

/-- The length of the stamps, as the packet has it. A length field smaller than the payload
header wraps around. -/
def payloadLength (f : CrfFormat) (p : Bytes) : Nat :=
  sub64 (p.be16 (2 * f.mPayloadLenOffset16)) f.mPayloadHeaderSize

end CrfFormat

def numStampsOf (payloadLength : Nat) : Nat := payloadLength / cCrfTimeStampSize % 65536

/-- The type field, of either layout. -/
def readType (comp : IasAvbCompatibility) (p : Bytes) : Nat :=
  if comp = eIasAvbCompD6 then p.be16 (initFormat comp).mTypeoffset8
  else (p (initFormat comp).mTypeoffset8).toNat

def readBaseFreq (comp : IasAvbCompatibility) (p : Bytes) : Nat :=
  if comp = eIasAvbCompD6 then decodeNominalFreq (p 24) else p.be32 12 % 536870912

def readEventsPerStamp (comp : IasAvbCompatibility) (p : Bytes) : Nat :=
  if comp = eIasAvbCompD6 then p.be16 26 else p.be16 18

/-! ## The stream -/

/-- `IasAvbClockReferenceStream`. The members of the base class that it uses stand at the
end. -/
structure IasAvbClockReferenceStream where
  mCompatibilityMode : IasAvbCompatibility
  mType : IasAvbClockReferenceStreamType := eIasAvbCrsTypeAudio
  mBaseFrequency : Nat := 0
  mPull : IasAvbClockMultiplier := eIasAvbCrsMultFlat
  mTimeStampInterval : Nat := 0
  mTimeStampsPerPdu : Nat := 0
  mMediaClockRestartToggle : UInt8 := 0
  mRefPlaneEventCount : Nat := 0
  mRefPlaneEventTime : Nat := 0
  mMasterCount : Nat := 0
  mLastMasterCount : Nat := 0
  mMasterTime : Nat := 0
  mLastMasterTime : Nat := 0
  mMasterTimeout : Nat := 0
  mRefPlaneEventOffset : Nat := 0
  mPacketLaunchTime : Nat := 0
  mSeqNum : UInt8 := 0
  mClockValid : Bool := true
  mHoldoffTime : Nat := 0
  mValidationMode : Nat := cValidateOnce
  mValidationThreshold : Nat := 0
  mValidationCount : Nat := 0
  mMasterTimeUpdateMinInterval : Nat := 0
  mStreamStateInternal : IasAvbStreamState := eIasAvbStreamInactive
  mStreamState : IasAvbStreamState := eIasAvbStreamInactive
  /-- The clock domain is an `IasAvbRxStreamClockDomain`. -/
  hasRxClockDomain : Bool := false
  mPresentationTimeOffset : Nat := 0
  mActive : Bool := false
  /-- A call has returned without unlocking `mLock`. -/
  mLockHeld : Bool := false
deriving DecidableEq, Repr

namespace IasAvbClockReferenceStream

def format (s : IasAvbClockReferenceStream) : CrfFormat := initFormat s.mCompatibilityMode

/-- The listener. The clock domain is set by the stream handler afterwards. -/
def initReceive (comp : IasAvbCompatibility) (validation : RxConfig) (mHoldoffTime : Nat)
    (hasRxClockDomain : Bool) (type : IasAvbClockReferenceStreamType)
    (maxCrfStampsPerPdu : Nat) : Except IasAvbProcessingResult IasAvbClockReferenceStream :=
  if maxCrfStampsPerPdu = 0 then .error .eIasAvbProcInvalidParam
  else if type = eIasAvbCrsTypeUser then .error .eIasAvbProcUnsupportedFormat
  else .ok {
    mCompatibilityMode := comp
    mType := type
    mTimeStampsPerPdu := maxCrfStampsPerPdu
    mHoldoffTime := mHoldoffTime
    mClockValid := false
    mValidationMode := validation.mValidationMode
    mValidationThreshold := validation.mValidationThreshold
    mValidationCount := validation.mValidationThreshold
    hasRxClockDomain := hasRxClockDomain }

/-! ### The verdict -/

/-- What the validation of a packet comes to. -/
structure Findings where
  newState : IasAvbStreamState := eIasAvbStreamInvalidData
  payloadLength : Nat := 0
  baseFreq : Nat := 0
  eventsPerStamp : Nat := 0
deriving DecidableEq, Repr

/-- The header checks up to the pull field, which the draft 6 layout does not have. -/
def HeaderFields (s : IasAvbClockReferenceStream) (p : Bytes) : Prop :=
  s.format.mSubtype = (p 0).toNat
    ∧ s.mType.code = readType s.mCompatibilityMode p
    ∧ p 1 &&& 0xF1 = 0x80
    ∧ readBaseFreq s.mCompatibilityMode p ≠ 0
    ∧ (s.mCompatibilityMode = eIasAvbCompD6
      ∨ ((p 12 &&& 0xE0) >>> 5).toNat = eIasAvbCrsMultFlat.code)

instance (s : IasAvbClockReferenceStream) (p : Bytes) : Decidable (s.HeaderFields p) :=
  inferInstanceAs (Decidable (_ ∧ _ ∧ _ ∧ _ ∧ _))

/-- The packet has room for the stamps it announces, and they are whole. -/
def LengthFits (f : CrfFormat) (p : Bytes) (length : Nat) : Prop :=
  f.payloadLength p ≤ length - f.headerSize
    ∧ 0 < f.payloadLength p
    ∧ f.payloadLength p % cCrfTimeStampSize = 0

instance (f : CrfFormat) (p : Bytes) (length : Nat) : Decidable (LengthFits f p length) :=
  inferInstanceAs (Decidable (_ ∧ _ ∧ _))

/-- The header validation. -/
def checkHeader (s : IasAvbClockReferenceStream) (p : Bytes) (length : Nat) : Findings :=
  if s.format.headerSize ≤ length then
    let found : Findings :=
      { baseFreq := readBaseFreq s.mCompatibilityMode p
        eventsPerStamp := readEventsPerStamp s.mCompatibilityMode p }
    if s.HeaderFields p then
      let found := { found with payloadLength := s.format.payloadLength p }
      if LengthFits s.format p length then { found with newState := eIasAvbStreamValid }
      else found
    else found
  else {}

/-- A stream that was valid goes by the sequence number. -/
def checkFlow (s : IasAvbClockReferenceStream) (p : Bytes) : Findings where
  newState :=
    if readBaseFreq s.mCompatibilityMode p ≠ 0 ∧ p 2 = s.mSeqNum + 1 then eIasAvbStreamValid
    else eIasAvbStreamInvalidData
  payloadLength := s.format.payloadLength p
  baseFreq := readBaseFreq s.mCompatibilityMode p
  eventsPerStamp := readEventsPerStamp s.mCompatibilityMode p

/-- The verdict on a packet. -/
def validate (s : IasAvbClockReferenceStream) (p : Bytes) (length : Nat) : Findings :=
  if s.mValidationMode = cValidateNever then
    { newState := eIasAvbStreamValid, payloadLength := s.format.payloadLength p }
  else
    let found :=
      if s.mValidationMode = cValidateAlways ∨ s.mStreamState ≠ eIasAvbStreamValid then
        s.checkHeader p length
      else {}
    if s.mStreamStateInternal = eIasAvbStreamValid then s.checkFlow p else found

/-! ### What the verdict does to the stream state -/

def setSeqNum (s : IasAvbClockReferenceStream) (seqNum : UInt8) : IasAvbClockReferenceStream :=
  { s with mSeqNum := seqNum }

def setRefPlane (s : IasAvbClockReferenceStream) (count time : Nat) :
    IasAvbClockReferenceStream :=
  { s with mRefPlaneEventCount := count, mRefPlaneEventTime := time }

def setStreamState (s : IasAvbClockReferenceStream) (newState : IasAvbStreamState) :
    IasAvbClockReferenceStream :=
  { s with mStreamState := newState }

def setInternal (s : IasAvbClockReferenceStream) (newState : IasAvbStreamState) :
    IasAvbClockReferenceStream :=
  { s with mStreamStateInternal := newState }

def setValidationCount (s : IasAvbClockReferenceStream) (count : Nat) :
    IasAvbClockReferenceStream :=
  { s with mValidationCount := count }

/-- One valid packet less to wait for; the last of them makes the stream valid. -/
def countDown (s : IasAvbClockReferenceStream) : IasAvbClockReferenceStream :=
  if 0 < s.mValidationCount then
    let s := s.setValidationCount (s.mValidationCount - 1)
    if s.mValidationCount = 0 then s.setStreamState eIasAvbStreamValid else s
  else s

/-- The verdict takes effect. A time of zero asks for a reset of the clock domain. -/
def settle (s : IasAvbClockReferenceStream) (newState : IasAvbStreamState) :
    IasAvbClockReferenceStream :=
  let oldState := s.mStreamStateInternal
  let s := if newState = eIasAvbStreamValid then s.countDown else s
  if newState ≠ oldState then
    let s := s.setInternal newState
    if newState = eIasAvbStreamValid then s.setRefPlane s.mRefPlaneEventCount 0
    else (s.setValidationCount s.mValidationThreshold).setStreamState newState
  else s

/-! ### The stamps -/

/-- What an `IasAvbRxStreamClockDomain` is told. -/
inductive RxClockCall
  | reset (timestamp eventRate : Nat)
  /-- `deltaMediaClock` is missing where its division by the base frequency traps. -/
  | update (events timestamp : Nat) (deltaMediaClock : Option Nat) (deltaWallClock : Nat)
deriving DecidableEq, Repr

/-- The stamp a call is about. -/
def RxClockCall.timestamp : RxClockCall → Nat
  | reset timestamp _ => timestamp
  | update _ timestamp _ _ => timestamp

/-- What the clock domain answers during one call. -/
structure RxAnswers where
  getResetRequest : Bool := false
  /-- It is locked, after the updates. -/
  locked : Bool := false
deriving DecidableEq, Repr

/-- A call of `readFromAvbPacket`. -/
structure Received where
  stream : IasAvbClockReferenceStream
  calls : List RxClockCall := []
  /-- The indices of the stamps that were read. -/
  stampsRead : List Nat := []

def Received.addCall (r : Received) (call : RxClockCall) : Received :=
  { r with calls := r.calls ++ [call] }

def Received.readStamp (r : Received) (i : Nat) : Received :=
  { r with stampsRead := r.stampsRead ++ [i] }

def Received.withStream (r : Received) (s : IasAvbClockReferenceStream) : Received :=
  { r with stream := s }

def setConfig (s : IasAvbClockReferenceStream) (p : Bytes) (found : Findings) :
    IasAvbClockReferenceStream :=
  { s with
    mTimeStampsPerPdu := numStampsOf found.payloadLength
    mBaseFrequency := found.baseFreq
    mTimeStampInterval := found.eventsPerStamp
    mPull := IasAvbClockMultiplier.ofField (p 12 &&& 0xE0)
    mType := IasAvbClockReferenceStreamType.ofByte (p 3) }

def setRestartToggle (s : IasAvbClockReferenceStream) (mrField : UInt8) :
    IasAvbClockReferenceStream :=
  { s with mMediaClockRestartToggle := mrField }

def setClockValid (s : IasAvbClockReferenceStream) (valid : Bool) : IasAvbClockReferenceStream :=
  { s with mClockValid := valid }

/-- The media clock restart field, as the listener takes it from byte 1. -/
def mrField (p : Bytes) : UInt8 := p 1 &&& 0x40

/-- The clock domain is reset by this packet. -/
def ResetDue (s : IasAvbClockReferenceStream) (p : Bytes) (rx : RxAnswers) : Prop :=
  mrField p ≠ s.mMediaClockRestartToggle ∨ rx.getResetRequest = true ∨ s.mRefPlaneEventTime = 0

instance (s : IasAvbClockReferenceStream) (p : Bytes) (rx : RxAnswers) :
    Decidable (s.ResetDue p rx) := inferInstanceAs (Decidable (_ ∨ _ ∨ _))

/-- `deltaMediaClock` of an update: the nominal duration of the events, rounded. -/
def deltaMediaClock (events baseFreq : Nat) : Option Nat :=
  if baseFreq = 0 then none
  else some (add64 (mul64 1000000000 events) (baseFreq / 2) / baseFreq % 4294967296)

/-- The body of the update loop, for stamp `i`. -/
def updateStep (p : Bytes) (found : Findings) (r : Received) (i : Nat) : Received :=
  let s := r.stream
  let timestamp := s.format.stamp p i
  let events := add64 s.mRefPlaneEventCount found.eventsPerStamp
  let r := r.readStamp i
  if s.mClockValid = false ∨ s.mHoldoffTime < sub64 timestamp s.mRefPlaneEventTime then
    (r.addCall (.update events timestamp (deltaMediaClock events found.baseFreq)
      (sub64 timestamp s.mRefPlaneEventTime))).withStream (s.setRefPlane 0 timestamp)
  else r.withStream (s.setRefPlane events s.mRefPlaneEventTime)

/-- The clock domain is reset if it has to be; the update loop then starts with the second
stamp. -/
def resetClockDomain (s : IasAvbClockReferenceStream) (p : Bytes) (found : Findings)
    (rx : RxAnswers) : Received × Nat :=
  let r : Received := { stream := s, stampsRead := [0] }
  if s.ResetDue p rx then
    let timestamp := s.format.stamp p 0
    ((r.addCall (.reset timestamp found.baseFreq)).withStream
      (((s.setRestartToggle (mrField p)).setClockValid false).setRefPlane 0 timestamp), 1)
  else (r, 0)

/-- While the clock is locked, only the most recent stamp is used. -/
def skipStamps (found : Findings) (r : Received) (i : Nat) : Received × Nat :=
  let numStamps := numStampsOf found.payloadLength
  if r.stream.mClockValid = true ∧ i < numStamps then
    (r.withStream (r.stream.setRefPlane
      (add64 r.stream.mRefPlaneEventCount ((numStamps - i - 1) * found.eventsPerStamp))
      r.stream.mRefPlaneEventTime), numStamps - 1)
  else (r, i)

/-- The update loop, from stamp `i` on. -/
def updateStamps (p : Bytes) (found : Findings) (r : Received) (i : Nat) : Received :=
  (List.range' i (numStampsOf found.payloadLength - i)).foldl (updateStep p found) r

/-- The stamps of an accepted packet. The first one is read in any case. -/
def processStamps (s : IasAvbClockReferenceStream) (p : Bytes) (found : Findings)
    (rx : RxAnswers) : Received :=
  let start := (s.setConfig p found).resetClockDomain p found rx
  let skipped := skipStamps found start.1 start.2
  let r := updateStamps p found skipped.1 skipped.2
  r.withStream (r.stream.setClockValid rx.locked)

/-- `readFromAvbPacket`. No packet at all means that nothing was received for a while. -/
def readFromAvbPacket (s : IasAvbClockReferenceStream) (packet : Option Bytes) (length : Nat)
    (rx : RxAnswers) : Received :=
  match packet with
  | none => { stream := (s.setRefPlane s.mRefPlaneEventCount 0).settle eIasAvbStreamNoData }
  | some p =>
      let found := s.validate p length
      let s := (s.setSeqNum (p 2)).settle found.newState
      if found.newState = eIasAvbStreamValid ∧ 0 < numStampsOf found.payloadLength
          ∧ s.hasRxClockDomain = true then s.processStamps p found rx
      else { stream := s }

/-- A listener starts with the toggle at zero. -/
theorem initReceive_toggle {comp : IasAvbCompatibility} {validation : RxConfig}
    {mHoldoffTime maxStamps : Nat} {domain : Bool} {type : IasAvbClockReferenceStreamType}
    {c : IasAvbClockReferenceStream}
    (h : initReceive comp validation mHoldoffTime domain type maxStamps = .ok c) :
    c.mMediaClockRestartToggle = 0 := by
  unfold initReceive at h
  split at h
  · cases h
  · split at h
    · cases h
    · cases h
      rfl

/-! ### What settles -/

theorem countDown_of_more {s : IasAvbClockReferenceStream} (h : 1 < s.mValidationCount) :
    s.countDown = s.setValidationCount (s.mValidationCount - 1) := by
  unfold countDown
  rw [if_pos (by omega)]
  exact if_neg (show s.mValidationCount - 1 ≠ 0 by omega)

theorem countDown_of_one {s : IasAvbClockReferenceStream} (h : s.mValidationCount = 1) :
    s.countDown = (s.setValidationCount 0).setStreamState eIasAvbStreamValid := by
  unfold countDown
  rw [if_pos (by omega), h]
  exact if_pos rfl

theorem countDown_of_zero {s : IasAvbClockReferenceStream} (h : s.mValidationCount = 0) :
    s.countDown = s := by
  unfold countDown
  rw [if_neg (by omega)]

/-- A verdict moves the state, the count and the time, and nothing else. -/
structure SameFormat (s s' : IasAvbClockReferenceStream) : Prop where
  comp : s'.mCompatibilityMode = s.mCompatibilityMode
  mode : s'.mValidationMode = s.mValidationMode
  threshold : s'.mValidationThreshold = s.mValidationThreshold
  domain : s'.hasRxClockDomain = s.hasRxClockDomain
  seqNum : s'.mSeqNum = s.mSeqNum
  type : s'.mType = s.mType
  toggle : s'.mMediaClockRestartToggle = s.mMediaClockRestartToggle
  holdoff : s'.mHoldoffTime = s.mHoldoffTime
  clockValid : s'.mClockValid = s.mClockValid
  baseFreq : s'.mBaseFrequency = s.mBaseFrequency

theorem SameFormat.refl (s : IasAvbClockReferenceStream) : SameFormat s s :=
  ⟨rfl, rfl, rfl, rfl, rfl, rfl, rfl, rfl, rfl, rfl⟩

theorem countDown_sameFormat (s : IasAvbClockReferenceStream) : SameFormat s s.countDown := by
  rcases Nat.lt_trichotomy s.mValidationCount 1 with h | h | h
  · rw [countDown_of_zero (by omega)]
    exact .refl s
  · rw [countDown_of_one h]
    exact ⟨rfl, rfl, rfl, rfl, rfl, rfl, rfl, rfl, rfl, rfl⟩
  · rw [countDown_of_more h]
    exact ⟨rfl, rfl, rfl, rfl, rfl, rfl, rfl, rfl, rfl, rfl⟩

@[simp] theorem countDown_internal (s : IasAvbClockReferenceStream) :
    s.countDown.mStreamStateInternal = s.mStreamStateInternal := by
  rcases Nat.lt_trichotomy s.mValidationCount 1 with h | h | h
  · rw [countDown_of_zero (by omega)]
  · rw [countDown_of_one h]; rfl
  · rw [countDown_of_more h]; rfl

/-- A stream that becomes valid. -/
theorem settle_enter {s : IasAvbClockReferenceStream}
    (h : s.mStreamStateInternal ≠ eIasAvbStreamValid) :
    s.settle eIasAvbStreamValid
      = (s.countDown.setInternal eIasAvbStreamValid).setRefPlane
          s.countDown.mRefPlaneEventCount 0 := by
  unfold settle
  dsimp only
  rw [if_pos rfl, if_pos (Ne.symm h), if_pos rfl]
  rfl

/-- A stream that stays valid. -/
theorem settle_keep {s : IasAvbClockReferenceStream}
    (h : s.mStreamStateInternal = eIasAvbStreamValid) :
    s.settle eIasAvbStreamValid = s.countDown := by
  unfold settle
  dsimp only
  rw [if_neg (by rw [h]; exact fun hne => hne rfl), if_pos rfl]

/-- Another state that is not valid: counting starts over. -/
theorem settle_leave {s : IasAvbClockReferenceStream} {newState : IasAvbStreamState}
    (hnew : newState ≠ eIasAvbStreamValid) (h : newState ≠ s.mStreamStateInternal) :
    s.settle newState = ((s.setInternal newState).setValidationCount
      s.mValidationThreshold).setStreamState newState := by
  unfold settle
  dsimp only
  rw [if_pos h, if_neg hnew, if_neg hnew]
  rfl

/-- The same state again: nothing happens. -/
theorem settle_stay {s : IasAvbClockReferenceStream} {newState : IasAvbStreamState}
    (hnew : newState ≠ eIasAvbStreamValid) (h : newState = s.mStreamStateInternal) :
    s.settle newState = s := by
  unfold settle
  dsimp only
  rw [if_neg (Classical.not_not.mpr h), if_neg hnew]

theorem settle_sameFormat (s : IasAvbClockReferenceStream) (newState : IasAvbStreamState) :
    SameFormat s (s.settle newState) := by
  by_cases hnew : newState = eIasAvbStreamValid
  · subst hnew
    have hcount := s.countDown_sameFormat
    by_cases hold : s.mStreamStateInternal = eIasAvbStreamValid
    · rw [settle_keep hold]
      exact hcount
    · rw [settle_enter hold]
      exact ⟨hcount.comp, hcount.mode, hcount.threshold, hcount.domain, hcount.seqNum,
        hcount.type, hcount.toggle, hcount.holdoff, hcount.clockValid, hcount.baseFreq⟩
  · by_cases hold : newState = s.mStreamStateInternal
    · rw [settle_stay hnew hold]
      exact .refl s
    · rw [settle_leave hnew hold]
      exact ⟨rfl, rfl, rfl, rfl, rfl, rfl, rfl, rfl, rfl, rfl⟩

@[simp] theorem settle_internal (s : IasAvbClockReferenceStream) (newState : IasAvbStreamState) :
    (s.settle newState).mStreamStateInternal = newState := by
  by_cases hnew : newState = eIasAvbStreamValid
  · subst hnew
    by_cases hold : s.mStreamStateInternal = eIasAvbStreamValid
    · rw [settle_keep hold, countDown_internal, hold]
    · rw [settle_enter hold]
      rfl
  · by_cases hold : newState = s.mStreamStateInternal
    · rw [settle_stay hnew hold, hold]
    · rw [settle_leave hnew hold]
      rfl

/-! ### What the stamps leave behind -/

def RxClockCall.isReset : RxClockCall → Bool
  | reset _ _ => true
  | update _ _ _ _ => false

/-- How often the clock domain was reset. -/
def Received.resets (r : Received) : Nat := r.calls.countP RxClockCall.isReset

theorem updateStep_spec (p : Bytes) (found : Findings) (r : Received) (i : Nat) :
    (∃ count time, (updateStep p found r i).stream = r.stream.setRefPlane count time)
      ∧ (updateStep p found r i).stampsRead = r.stampsRead ++ [i]
      ∧ (updateStep p found r i).resets = r.resets := by
  unfold updateStep Received.resets
  dsimp only
  split
  · refine ⟨⟨_, _, rfl⟩, rfl, ?_⟩
    show (r.calls ++ [_]).countP RxClockCall.isReset = _
    rw [List.countP_append]
    rfl
  · exact ⟨⟨_, _, rfl⟩, rfl, rfl⟩

/-- The update loop moves the reference plane only, reads each of its stamps, and resets
nothing. -/
theorem updateStep_foldl (p : Bytes) (found : Findings) (r : Received) (is : List Nat) :
    (∃ count time, (is.foldl (updateStep p found) r).stream = r.stream.setRefPlane count time)
      ∧ (is.foldl (updateStep p found) r).stampsRead = r.stampsRead ++ is
      ∧ (is.foldl (updateStep p found) r).resets = r.resets := by
  induction is generalizing r with
  | nil => exact ⟨⟨r.stream.mRefPlaneEventCount, r.stream.mRefPlaneEventTime, rfl⟩, by simp, rfl⟩
  | cons i is ih =>
      obtain ⟨⟨count, time, hstream⟩, hread, hresets⟩ := ih (updateStep p found r i)
      obtain ⟨⟨c, t, hone⟩, hreadOne, hresetsOne⟩ := updateStep_spec p found r i
      rw [List.foldl_cons]
      refine ⟨⟨count, time, ?_⟩, ?_, ?_⟩
      · rw [hstream, hone]
        rfl
      · rw [hread, hreadOne, List.append_assoc]
        rfl
      · rw [hresets, hresetsOne]

theorem resetClockDomain_of_due {s : IasAvbClockReferenceStream} {p : Bytes}
    {found : Findings} {rx : RxAnswers} (h : s.ResetDue p rx) :
    s.resetClockDomain p found rx
      = ((({ stream := s, stampsRead := [0] } : Received).addCall
          (.reset (s.format.stamp p 0) found.baseFreq)).withStream
        (((s.setRestartToggle (mrField p)).setClockValid false).setRefPlane 0
          (s.format.stamp p 0)), 1) := if_pos h

theorem resetClockDomain_of_not_due {s : IasAvbClockReferenceStream} {p : Bytes}
    {found : Findings} {rx : RxAnswers} (h : ¬ s.ResetDue p rx) :
    s.resetClockDomain p found rx = ({ stream := s, stampsRead := [0] }, 0) := if_neg h

/-- Afterwards the toggle is the packet's restart field; the clock domain was reset once, or
not at all. -/
theorem resetClockDomain_spec (s : IasAvbClockReferenceStream) (p : Bytes) (found : Findings)
    (rx : RxAnswers) :
    (∃ valid count time, (s.resetClockDomain p found rx).1.stream
        = ((s.setRestartToggle (mrField p)).setClockValid valid).setRefPlane count time)
      ∧ (s.resetClockDomain p found rx).1.stampsRead = [0]
      ∧ (s.resetClockDomain p found rx).1.resets = (if s.ResetDue p rx then 1 else 0)
      ∧ (s.resetClockDomain p found rx).2 ≤ 1 := by
  by_cases hdue : s.ResetDue p rx
  · rw [resetClockDomain_of_due hdue, if_pos hdue]
    exact ⟨⟨false, 0, _, rfl⟩, rfl, rfl, Nat.le_refl 1⟩
  · have htoggle : mrField p = s.mMediaClockRestartToggle :=
      Classical.not_not.mp fun hne => hdue (Or.inl hne)
    rw [resetClockDomain_of_not_due hdue, if_neg hdue, htoggle]
    exact ⟨⟨s.mClockValid, s.mRefPlaneEventCount, s.mRefPlaneEventTime, rfl⟩, rfl, rfl,
      Nat.zero_le 1⟩

/-- Skipping moves the reference plane only; the last stamp is never skipped. -/
theorem skipStamps_spec (found : Findings) (r : Received) {i : Nat} (hi : i ≤ 1) :
    (∃ count time, (skipStamps found r i).1.stream = r.stream.setRefPlane count time)
      ∧ (skipStamps found r i).1.stampsRead = r.stampsRead
      ∧ (skipStamps found r i).1.resets = r.resets
      ∧ (skipStamps found r i).2 ≤ max 1 (numStampsOf found.payloadLength - 1) := by
  unfold skipStamps
  dsimp only
  split
  · exact ⟨⟨_, _, rfl⟩, rfl, rfl, by dsimp only; omega⟩
  · exact ⟨⟨r.stream.mRefPlaneEventCount, r.stream.mRefPlaneEventTime, rfl⟩, rfl, rfl,
      by dsimp only; omega⟩

/-- The stream after the stamps, but for the reference plane: the packet's configuration, its
restart field, and the state of the clock domain. -/
def afterStamps (s : IasAvbClockReferenceStream) (p : Bytes) (found : Findings)
    (rx : RxAnswers) : IasAvbClockReferenceStream :=
  ((s.setConfig p found).setRestartToggle (mrField p)).setClockValid rx.locked

/--
**What processing a packet comes to.**

The stream has the packet's configuration and its restart field. The stamps read are the
first one and those from some place on, which leaves none out at the end. The clock domain
was reset exactly if that was due.
-/
theorem processStamps_spec (s : IasAvbClockReferenceStream) (p : Bytes) (found : Findings)
    (rx : RxAnswers) :
    (∃ count time, (s.processStamps p found rx).stream
        = (s.afterStamps p found rx).setRefPlane count time)
      ∧ (∃ i, i ≤ max 1 (numStampsOf found.payloadLength - 1)
        ∧ (s.processStamps p found rx).stampsRead
          = 0 :: List.range' i (numStampsOf found.payloadLength - i))
      ∧ (s.processStamps p found rx).resets
          = if (s.setConfig p found).ResetDue p rx then 1 else 0 := by
  unfold processStamps
  dsimp only
  obtain ⟨⟨valid, c₁, t₁, hreset⟩, hread₁, hresets₁, hstart⟩ :=
    (s.setConfig p found).resetClockDomain_spec p found rx
  generalize (s.setConfig p found).resetClockDomain p found rx = start at *
  obtain ⟨⟨c₂, t₂, hskip⟩, hread₂, hresets₂, hfrom⟩ := skipStamps_spec found start.1 hstart
  generalize skipStamps found start.1 start.2 = skipped at *
  obtain ⟨⟨c₃, t₃, hupdate⟩, hread₃, hresets₃⟩ := updateStep_foldl p found skipped.1
    (List.range' skipped.2 (numStampsOf found.payloadLength - skipped.2))
  refine ⟨⟨c₃, t₃, ?_⟩, ⟨skipped.2, hfrom, ?_⟩, ?_⟩
  · show (Received.stream _).setClockValid rx.locked = _
    unfold updateStamps
    rw [hupdate, hskip, hreset]
    rfl
  · rw [hread₂, hread₁] at hread₃
    exact hread₃
  · rw [hresets₂, hresets₁] at hresets₃
    exact hresets₃

end IasAvbClockReferenceStream

end AvbStreamHandler
