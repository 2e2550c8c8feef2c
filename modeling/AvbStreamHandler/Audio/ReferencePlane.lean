import AvbStreamHandler.Kit.Word
import Mathlib.Data.PNat.Basic
import Mathlib.Data.Rat.Floor
import Mathlib.Tactic.FieldSimp
import Mathlib.Tactic.Linarith
import Mathlib.Tactic.Ring

/-!
# The reference plane of the audio talker

The reference plane is the line in time the samples of a talker cross; where it is for the next
packet is the packet's presentation time. `resetTime` puts it down on a reading of the clock
domain, and every packet moves it on by what was written, along the line through the last two
readings. A reading that is not in the expected interval takes it away again, and so do an
activation and another local stream.

The arithmetic is that of the rationals: what the source rounds to whole nanoseconds and whole
counts, and keeps in 64 bits, stands as it is. A number of samples is rounded up as it is there.
What the local stream does is part of the call.
-/

namespace AvbStreamHandler

open Kit Kit.Word

/-- What the clock domain says when it is asked: `getEventCount` with its time, and
`getRateRatio`. -/
structure DomainReading where
  eventCount : ℚ
  /-- Zero without a reference clock. -/
  eventTime : ℚ
  rateRatio : ℚ
  /-- What `setEventRate` was called with since it was asked before. No clock domain calls it with
  zero. -/
  setEventRate : Option ℕ+ := none

/-- `getEventRate`; it is zero to begin with. -/
def DomainReading.eventRate (r : DomainReading) (before : Nat) : Nat :=
  match r.setEventRate with
  | some rate => rate
  | none => before

/-- What a connected local stream does during a call. -/
structure LocalAnswers where
  /-- What `dumpFromLocalAudioBuffer` makes of the number of samples. -/
  dumped : Nat
  isReadReady : Bool
  /-- What is read from channel 0, if it is read. -/
  firstRead : Nat
  /-- `written` behind the loop over the channels. -/
  written : Nat

/-- A call of `writeToAvbPacket`. -/
structure WriteCall where
  nextWindowStart : ℚ
  /-- To `resetTime`, if it asks. -/
  atReset : DomainReading
  now : DomainReading
  /-- Nothing if no local stream is connected. -/
  localStream : Option LocalAnswers := none

structure ReferencePlaneConfig where
  mSampleFrequency : ℕ+
  mSamplesPerChannelPerPacket : Nat
  mMasterTimeout : ℚ := 2000000000
  mMasterTimeUpdateMinInterval : ℚ := 0

namespace ReferencePlaneConfig

def mSampleIntervalNs (c : ReferencePlaneConfig) : ℚ := 1000000000 / c.mSampleFrequency

/-- The master's event count in samples. -/
def masterCount (c : ReferencePlaneConfig) (eventRate : Nat) (r : DomainReading) : ℚ :=
  r.eventCount * c.mSampleFrequency / eventRate

end ReferencePlaneConfig

/-- The time of a reading, if it is one. -/
def masterTime (eventRate : Nat) (r : DomainReading) : ℚ :=
  if eventRate = 0 then 0 else r.eventTime

/-- The first sample at or behind `time`, counted from `start`. -/
def samplesUntil (interval start time : ℚ) : Nat :=
  if start < time then ⌈(time - start) / interval⌉₊ else 0

/-- `IasAvbAudioStream`, as far as it has to do with the reference plane of a talker. -/
structure ReferencePlane where
  mActive : Bool := false
  mRefPlaneSampleCount : ℚ := 0
  mRefPlaneSampleOffset : ℚ := 0
  mRefPlaneSampleTime : ℚ := 0
  mPacketLaunchTime : ℚ := 0
  mMasterCount : ℚ := 0
  mMasterTime : ℚ := 0
  mLastMasterCount : ℚ := 0
  mLastMasterTime : ℚ := 0
  mLastRefPlaneSampleTime : ℚ := 0
  mDummySamplesSent : Nat := 0
  mDumpCount : Nat := 0

/-- What a call of `writeToAvbPacket` comes to. -/
inductive PlaneOutcome
  /-- The stream is not active. -/
  | refused
  /-- There is no reference clock. -/
  | dummyPacket (attime : ℚ)
  /-- A division by zero. -/
  | trap
  /-- A packet, with its presentation time before the offset is added. -/
  | packet (attime time : ℚ) (written : Nat)

namespace ReferencePlane

/-! ## The start -/

/-- The samples from the master's time to the next window, or to the last packet before the
reset, if that was kept. -/
def samplesToSkip (c : ReferencePlaneConfig) (s : ReferencePlane) (start nextWindowStart : ℚ) :
    Nat :=
  max (samplesUntil c.mSampleIntervalNs start nextWindowStart)
    (samplesUntil c.mSampleIntervalNs start s.mLastRefPlaneSampleTime)

/-- `resetTime`, without a reference clock. The offset says that there was a warning. -/
def resetFailed (s : ReferencePlane) (nextWindowStart : ℚ) : ReferencePlane :=
  { s with
    mRefPlaneSampleCount := 0
    mRefPlaneSampleTime := 0
    mPacketLaunchTime := nextWindowStart
    mRefPlaneSampleOffset := if s.mRefPlaneSampleOffset = 0 then 1 else s.mRefPlaneSampleOffset }

/-- `resetTime`, with one. -/
def placePlane (c : ReferencePlaneConfig) (s : ReferencePlane) (rateRatio nextWindowStart : ℚ) :
    ReferencePlane :=
  let skip := s.samplesToSkip c s.mMasterTime nextWindowStart
  let time := s.mMasterTime + skip * c.mSampleIntervalNs * rateRatio
  { s with
    mRefPlaneSampleOffset := s.mRefPlaneSampleCount - s.mMasterCount
    mRefPlaneSampleCount := s.mRefPlaneSampleCount + skip
    mRefPlaneSampleTime := time
    mPacketLaunchTime := time }

/-- The end of `resetTime`. -/
def forgetLast (s : ReferencePlane) : ReferencePlane :=
  { s with mLastMasterCount := 0, mLastMasterTime := 0, mLastRefPlaneSampleTime := 0 }

/-- The reading is taken. -/
def setMaster (c : ReferencePlaneConfig) (s : ReferencePlane) (eventRate : Nat)
    (r : DomainReading) : ReferencePlane :=
  { s with
    mMasterCount := if eventRate = 0 then r.eventCount else c.masterCount eventRate r
    mMasterTime := masterTime eventRate r }

def resetTime (c : ReferencePlaneConfig) (s : ReferencePlane) (eventRate : Nat)
    (r : DomainReading) (nextWindowStart : ℚ) : ReferencePlane × Bool :=
  let s := s.setMaster c eventRate r
  if s.mMasterTime = 0 then ((s.resetFailed nextWindowStart).forgetLast, false)
  else ((s.placePlane c r.rateRatio nextWindowStart).forgetLast, true)

/-- The reference plane is nowhere. -/
def IsUnset (s : ReferencePlane) : Prop :=
  s.mRefPlaneSampleCount = 0 ∧ s.mRefPlaneSampleTime = 0

instance (s : ReferencePlane) : Decidable s.IsUnset := inferInstanceAs (Decidable (_ ∧ _))

/-! ## The payload -/

/-- Samples are dumped for the silence that was sent. If that is too much, the launch time is to
be made invalid, and the time of the packet is kept for the reset that follows. -/
def compensate (s : ReferencePlane) (l : LocalAnswers) : ReferencePlane × Bool :=
  if 0 < s.mDummySamplesSent ∧ 0 < l.dumped then
    let s := { s with
      mDummySamplesSent := sub32 s.mDummySamplesSent l.dumped
      mDumpCount := add32 s.mDumpCount 1 }
    if 10 < s.mDumpCount ∨ 1000 < s.mDummySamplesSent then
      ({ s with mLastRefPlaneSampleTime := s.mRefPlaneSampleTime }, true)
    else (s, false)
  else (s, false)

/-- An underrun, or one that goes on. -/
def noteSilence (c : ReferencePlaneConfig) (s : ReferencePlane) (l : LocalAnswers) :
    ReferencePlane :=
  if l.isReadReady ∧ (0 < s.mDummySamplesSent ∨ l.firstRead = 0) then
    { s with mDummySamplesSent := add32 s.mDummySamplesSent c.mSamplesPerChannelPerPacket }
  else s

/-- The stream, whether the launch time is invalid, and the number of samples. -/
def payload (c : ReferencePlaneConfig) (s : ReferencePlane) :
    Option LocalAnswers → ReferencePlane × Bool × Nat
  | none => (s, false, c.mSamplesPerChannelPerPacket)
  | some l =>
      let (s, invalid) := s.compensate l
      (s.noteSilence c l, invalid, l.written)

/-! ## The next packet -/

/-- The reading is not in the expected interval; the difference of the times is unsigned. -/
def OutOfRange (c : ReferencePlaneConfig) (s : ReferencePlane) (count time : ℚ) : Prop :=
  time < s.mMasterTime ∨ c.mMasterTimeout < time - s.mMasterTime ∨ ¬ s.mMasterCount < count

instance (c : ReferencePlaneConfig) (s : ReferencePlane) (count time : ℚ) :
    Decidable (s.OutOfRange c count time) := inferInstanceAs (Decidable (_ ∨ _ ∨ _))

/-- The reading is too close to the last one to be of use. -/
def TooSoon (c : ReferencePlaneConfig) (s : ReferencePlane) (time : ℚ) : Prop :=
  c.mMasterTimeUpdateMinInterval ≠ 0 ∧ time - s.mMasterTime < c.mMasterTimeUpdateMinInterval

instance (c : ReferencePlaneConfig) (s : ReferencePlane) (time : ℚ) :
    Decidable (s.TooSoon c time) := inferInstanceAs (Decidable (_ ∧ _))

/-- The next reading. -/
def updateMaster (c : ReferencePlaneConfig) (s : ReferencePlane) (count time : ℚ) :
    ReferencePlane :=
  if time = s.mMasterTime then s
  else if s.OutOfRange c count time then
    { s with mRefPlaneSampleTime := 0, mRefPlaneSampleCount := 0, mMasterTime := 0 }
  else if s.TooSoon c time then s
  else
    { s with
      mLastMasterTime := s.mMasterTime
      mMasterTime := time
      mLastMasterCount := s.mMasterCount
      mMasterCount := count }

/-- `sampleDuration`; nothing if it is a division by zero. -/
def sampleDuration (c : ReferencePlaneConfig) (s : ReferencePlane) (rateRatio : ℚ) : Option ℚ :=
  if s.mLastMasterTime = 0 then some (1000000000 * rateRatio / c.mSampleFrequency)
  else if s.mMasterCount - s.mLastMasterCount = 0 then none
  else some ((s.mMasterTime - s.mLastMasterTime) / (s.mMasterCount - s.mLastMasterCount))

/-- The reference plane moves on. -/
def movePlane (s : ReferencePlane) (written : Nat) (duration : ℚ) : ReferencePlane :=
  let count := s.mRefPlaneSampleCount + written
  let time := s.mMasterTime + duration * (count - (s.mMasterCount + s.mRefPlaneSampleOffset))
  { s with
    mRefPlaneSampleCount := count
    mRefPlaneSampleTime := time
    mPacketLaunchTime := time }

/-- The end of a call; nothing if there is a division by zero. -/
def advance (c : ReferencePlaneConfig) (s : ReferencePlane) (eventRate : Nat)
    (r : DomainReading) (written : Nat) : Option ReferencePlane :=
  if eventRate = 0 then none
  else
    let s := s.updateMaster c (c.masterCount eventRate r) r.eventTime
    if s.mMasterTime = 0 then some s
    else (s.sampleDuration c r.rateRatio).map (s.movePlane written)

/-- The part of `writeToAvbPacket` for which there is a reference plane. -/
def writePacket (c : ReferencePlaneConfig) (s : ReferencePlane) (eventRate : Nat)
    (call : WriteCall) : ReferencePlane × PlaneOutcome :=
  let (s', invalid, written) := s.payload c call.localStream
  match s'.advance c eventRate call.now written with
  | some s'' =>
      (s'', .packet (if invalid then 0 else s.mPacketLaunchTime) s.mRefPlaneSampleTime written)
  | none => (s', .trap)

/-- `writeToAvbPacket`; the event rates are those at the two readings. -/
def writeToAvbPacket (c : ReferencePlaneConfig) (s : ReferencePlane) (rateAtReset rateNow : Nat)
    (call : WriteCall) : ReferencePlane × PlaneOutcome :=
  if s.mActive then
    if s.IsUnset then
      match s.resetTime c rateAtReset call.atReset call.nextWindowStart with
      | (s, true) => s.writePacket c rateNow call
      | (s, false) => (s, .dummyPacket (s.mPacketLaunchTime + 10000000))
    else s.writePacket c rateNow call
  else (s, .refused)

/-! ## The other calls -/

/-- `activationChanged`. -/
def activationChanged (s : ReferencePlane) (active : Bool) : ReferencePlane :=
  if active then
    { s with
      mActive := true
      mRefPlaneSampleTime := 0
      mRefPlaneSampleCount := 0
      mRefPlaneSampleOffset := 0
      mDummySamplesSent := 0
      mDumpCount := 0 }
  else { s with mActive := false }

/-- `connectTo`, with another local stream than before. -/
def connectTo (s : ReferencePlane) : ReferencePlane :=
  { s with
    mRefPlaneSampleCount := 0
    mDummySamplesSent := 0
    mDumpCount := 0
    mRefPlaneSampleTime := 0 }

end ReferencePlane

/-! ## Runs -/

/-- A data packet: its presentation time, the samples of a channel, and whether the reference
plane was reset for it. -/
structure PlanePacket where
  time : ℚ
  written : Nat
  afterReset : Bool
deriving DecidableEq

/-- The talker, the event rate of its clock domain, and the data packets up to now. -/
structure PlaneRun where
  plane : ReferencePlane := {}
  eventRate : Nat := 0
  packets : List PlanePacket := []
  /-- There was a division by zero, and the program is over. -/
  trapped : Bool := false

inductive PlaneEvent
  /-- The transmit engine resets a stream by taking its activation away and giving it back. -/
  | activationChanged (active : Bool)
  | connectTo
  | writeToAvbPacket (call : WriteCall)

namespace PlaneRun

def rateAtReset (w : PlaneRun) (call : WriteCall) : Nat := call.atReset.eventRate w.eventRate

def rateNow (w : PlaneRun) (call : WriteCall) : Nat := call.now.eventRate (w.rateAtReset call)

def setPlane (w : PlaneRun) (s : ReferencePlane) : PlaneRun := { w with plane := s }

/-- What is left of a call. -/
def record (w : PlaneRun) (afterReset : Bool) : PlaneOutcome → PlaneRun
  | .packet _ time written =>
      { w with packets := w.packets ++ [⟨time, written, afterReset⟩] }
  | .trap => { w with trapped := true }
  | .refused | .dummyPacket _ => w

def write (c : ReferencePlaneConfig) (w : PlaneRun) (call : WriteCall) : PlaneRun :=
  let (s, outcome) := w.plane.writeToAvbPacket c (w.rateAtReset call) (w.rateNow call) call
  { w.setPlane s with eventRate := w.rateNow call }.record (decide w.plane.IsUnset) outcome

def step (c : ReferencePlaneConfig) (w : PlaneRun) (ev : PlaneEvent) : PlaneRun :=
  if w.trapped then w
  else
    match ev with
    | .activationChanged active => w.setPlane (w.plane.activationChanged active)
    | .connectTo => w.setPlane w.plane.connectTo
    | .writeToAvbPacket call => w.write c call

end PlaneRun

/-! ## The line of the master -/

/-- The line the readings of the master lie on. -/
structure MasterLine where
  /-- The time of the event with count zero. -/
  base : ℚ
  rateRatio : ℚ
  rateRatio_pos : 0 < rateRatio

/-- The duration of a sample. -/
def MasterLine.slope (line : MasterLine) (c : ReferencePlaneConfig) : ℚ :=
  c.mSampleIntervalNs * line.rateRatio

/-- **A reading is on the line**, or there is none. -/
structure MasterLine.Has (line : MasterLine) (c : ReferencePlaneConfig) (eventRate : Nat)
    (r : DomainReading) : Prop where
  rateRatio : r.rateRatio = line.rateRatio
  time_nonneg : 0 ≤ r.eventTime
  time : eventRate ≠ 0 → r.eventTime ≠ 0 →
    r.eventTime = line.base + line.slope c * c.masterCount eventRate r

/-- The readings of a call. -/
def MasterLine.Reads (line : MasterLine) (c : ReferencePlaneConfig) (w : PlaneRun) :
    PlaneEvent → Prop
  | .writeToAvbPacket call =>
      line.Has c (w.rateAtReset call) call.atReset ∧ line.Has c (w.rateNow call) call.now
  | _ => True

/-- **What two packets in a row have to do with each other**: the second is not earlier, and
without a reset it is later by the duration of the samples of the first. -/
def PlanePacket.Follows (duration : ℚ) (p q : PlanePacket) : Prop :=
  p.time ≤ q.time ∧ (q.afterReset = false → q.time - p.time = duration * p.written)

instance (duration : ℚ) (p q : PlanePacket) : Decidable (PlanePacket.Follows duration p q) :=
  inferInstanceAs (Decidable (_ ∧ _))

/-- **The reference plane goes on**, and nothing is divided by zero. -/
structure PlaneRun.GoesOn (duration : ℚ) (w : PlaneRun) : Prop where
  packets : w.packets.IsChain (PlanePacket.Follows duration)
  defined : w.trapped = false

end AvbStreamHandler
