import AvbStreamHandler.Audio.LocalAudioStream

/-!
# The shared memory of a capture device

`IasAvbAudioShmProvider`, for a device that applications record from. Every period
`copyJob` asks the shared ring for room, goes through the channels, and commits what it was
granted, for all channels at once. What a channel does not write stays in the ring as it was.

Samples that are read only to be thrown away go into `mNullData`, one period long; a channel
that is not interleaved also takes its silence from there. A capture device never clears it.

The shared ring is a library of its own. It says how many frames it grants, and what they hold
is up to it: an area is a sequence of frames, beginning with the first one granted. What is
calculated in floating point is a parameter.
-/

namespace AvbStreamHandler

open Kit Kit.Word IasAvbProcessingResult

inductive AudioBufferDescMode
  | eIasAudioBufferDescModeOff
  | eIasAudioBufferDescModeFailSafe
  | eIasAudioBufferDescModeHard
  | eIasAudioBufferDescModeLast
deriving DecidableEq, Repr

/-- Does the device wait for a client, is the ring being filled up, or is data transferred? -/
inductive ShmBufferState
  | eIdle
  | ePrefilling
  | eRunning
deriving DecidableEq, Repr

/-- The time of a sample, as a fraction: so much time for so many samples. -/
structure TimePerSample where
  time : Nat
  samples : Nat

/-- What is calculated in floating point, and cut to 32 bits. -/
structure PresentationTimes where
  /-- The time that samples take at a sample rate. -/
  span : Nat → Nat → Nat
  /-- The time that samples take. -/
  duration : Nat → TimePerSample → Nat
  /-- The samples of a time. -/
  count : Nat → TimePerSample → Nat

/-- The same in whole nanoseconds and samples. -/
def PresentationTimes.whole : PresentationTimes where
  span samples samplerate := samples * 1000000000 / samplerate
  duration samples t := samples * t.time / t.samples
  count time t := time * t.samples / t.time

/-- What the shared ring answers during a job. -/
structure RingAnswers where
  /-- The frames `beginAccess` grants; without a ring, or if it fails, there are none. -/
  granted : Option Nat
  /-- What `updateAvailable` says a client can read, if it succeeds. -/
  readAvailable : Option Nat := some 0
  getReadOffset : Nat := 0
  endAccessFails : Bool := false
  /-- The write offset behind a reset of the ring, if access is granted then. -/
  getWriteOffset : Option Nat := some 0

/-- A channel: its local buffer, its area in the ring, and what the buffer has handed to the
area in this job. -/
structure ShmChannel where
  buffer : IasLocalAudioBuffer
  /-- The samples from one frame to the next; an area of 0 is an error. -/
  step : Nat
  /-- The samples of the area, from the first frame that is granted. -/
  area : Nat → AudioData
  handed : List AudioData := []

/-- `dst`, with `samples` at its beginning. -/
def overlay (samples : List AudioData) (dst : Nat → AudioData) (i : Nat) : AudioData :=
  samples.getD i (dst i)

namespace ShmChannel

/-- The area takes what the buffer has, up to `n` samples. -/
def take (c : ShmChannel) (b : IasLocalAudioBuffer) (n : Nat) : ShmChannel :=
  { c with
    buffer := (b.readStrided n (2 * c.step)).1
    area := overlay (b.readStrided n (2 * c.step)).2 c.area
    handed := (b.readStrided n (2 * c.step)).2 }

/-- An underrun: silence, from `mNullData` if the area is not interleaved. -/
def fillWithSilence (c : ShmChannel) (null : Nat → AudioData) (frames : Nat) : ShmChannel :=
  { c with
    area := fun i => if i < frames then (if c.step = 1 then null i else 0) else c.area i }

end ShmChannel

structure IasAvbAudioShmProvider where
  mIsRunning : Bool := true
  periodSize : Nat
  numPeriods : Nat
  samplerate : Nat
  mNullData : Nat → AudioData
  mDescMode : AudioBufferDescMode
  /-- The number of periods to be filled up; 0 switches this off. -/
  mAlsaPrefill : Nat
  mBufferState : ShmBufferState := .eIdle
  mBufRstContCnt : Nat := 0
  mBufRstContCntThr : Nat := 0
  mAlsaPrefilledSz : Nat := 0
  mIsClientSmartX : Bool := true
  mLastPtpEpoch : Nat := 0

namespace IasAvbAudioShmProvider

def hasBufferDesc (p : IasAvbAudioShmProvider) : Bool :=
  match p.mDescMode with
  | .eIasAudioBufferDescModeOff => false
  | .eIasAudioBufferDescModeFailSafe => true
  | .eIasAudioBufferDescModeHard => true
  | .eIasAudioBufferDescModeLast => false

def isPrefillEnable (p : IasAvbAudioShmProvider) : Bool := decide (p.mAlsaPrefill ≠ 0)

/-! ## The ring -/

/-- What a job has of the ring. -/
structure Access where
  provider : IasAvbAudioShmProvider
  shmFrames : Nat
  /-- Nothing is to be written to the ring. -/
  shmNoData : Bool
  resetRingBuf : Bool := false
  restartPrefilling : Bool := false

def setBufferState (p : IasAvbAudioShmProvider) (state : ShmBufferState) (prefilled : Nat) :
    IasAvbAudioShmProvider :=
  { p with mBufferState := state, mAlsaPrefilledSz := prefilled }

/-- The state changes of a ring that is filled up before it is used, and the frames that are
committed then. -/
def prefill (p : IasAvbAudioShmProvider) (r : RingAnswers) (shmFrames : Nat) :
    IasAvbAudioShmProvider × Nat :=
  match p.mBufferState with
  | .eIdle =>
      match r.readAvailable with
      | none => (p.setBufferState .eRunning 0, shmFrames)
      | some readAvailable =>
          if r.getReadOffset ≠ 0 ∨ readAvailable = 0 then
            -- a client has begun to read, or has flushed the ring
            (p.setBufferState .ePrefilling (add32 p.mAlsaPrefilledSz shmFrames), shmFrames)
          else (p, 0)
  | .ePrefilling =>
      if p.periodSize * p.mAlsaPrefill % 4294967296 ≤ p.mAlsaPrefilledSz then
        (p.setBufferState .eRunning 0, shmFrames)
      else (p.setBufferState .ePrefilling (add32 p.mAlsaPrefilledSz shmFrames), shmFrames)
  | .eRunning => (p, shmFrames)

/-- A ring without room for the frames: the client has stopped reading, or is slow. -/
def noteFull (p : IasAvbAudioShmProvider) (shmFrames : Nat) : Access :=
  let p' : IasAvbAudioShmProvider :=
    if p.isPrefillEnable ∧ p.mBufferState = .eRunning then
      { p with mBufRstContCnt := add32 p.mBufRstContCnt 1 }
    else p
  { provider := p'
    shmFrames := shmFrames
    shmNoData := true
    resetRingBuf := !(p.isPrefillEnable && !p.mIsClientSmartX)
    restartPrefilling := decide (p.isPrefillEnable ∧ p.mBufferState = .eRunning
      ∧ p'.mBufRstContCntThr < p'.mBufRstContCnt ∧ p.mIsClientSmartX) }

/-- From `beginAccess` to the processing of the channels. -/
def access (p : IasAvbAudioShmProvider) (r : RingAnswers) (granted numFrames : Nat) : Access :=
  let (p, shmFrames) := if p.isPrefillEnable then p.prefill r granted else (p, granted)
  if p.isPrefillEnable ∧ p.mBufferState ≠ .eRunning then
    { provider := p, shmFrames := shmFrames, shmNoData := true }
  else if shmFrames < numFrames then p.noteFull shmFrames
  else { provider := p, shmFrames := shmFrames, shmNoData := false }

/-- `resetShmBuffer`, at the end of a job: the ring is zeroed and emptied, and begins with
a number of silent frames. -/
def resetShmBuffer (p : IasAvbAudioShmProvider) (r : RingAnswers) (nextState : ShmBufferState)
    (frames : Nat) : IasAvbAudioShmProvider × Nat :=
  match r.getWriteOffset with
  | none => ({ p.setBufferState .eRunning 0 with mBufRstContCnt := 0 }, 0)
  | some 0 => ({ p.setBufferState nextState 0 with mBufRstContCnt := 0 },
      min frames (p.periodSize * p.numPeriods % 4294967296))
  | some _ => (p, 0)

/-! ## The presentation time -/

/-- What the look at the oldest descriptor comes to. -/
structure Schedule where
  isReadReady : Bool
  toBePresented : Bool := false
  resetRequested : Bool
  mAlsaRxSyncStart : Bool
  /-- The samples to be skipped on every channel. -/
  samplesToSkip : Option Nat := none

/-- The time of a sample, from the two oldest descriptors or the sample rate. -/
def timePerSample (p : IasAvbAudioShmProvider) (q : IasLocalAudioBufferDesc)
    (desc : AudioBufferDesc) : TimePerSample :=
  match q.peekX 1 with
  | some descY =>
      if desc.timeStamp < descY.timeStamp ∧ desc.bufIndex < descY.bufIndex then
        { time := descY.timeStamp - desc.timeStamp, samples := descY.bufIndex - desc.bufIndex }
      else { time := 1000000000, samples := p.samplerate }
  | none => { time := 1000000000, samples := p.samplerate }

/-- When the ALSA worker reads for the first time, samples that are overdue are skipped. -/
def skipOverdue (p : IasAvbAudioShmProvider) (e : PresentationTimes) (now numFrames : Nat)
    (b : IasLocalAudioBuffer) (q : IasLocalAudioBufferDesc) (desc : AudioBufferDesc)
    (s : Schedule) : Schedule :=
  if q.mAlsaRxSyncStart ∧ b.mMonotonicReadIndex = 0 ∧ desc.bufIndex = 0
      ∧ b.mReadThreshold < b.getFillLevel then
    let samplesToSkip := min (e.count (now - desc.timeStamp) (p.timePerSample q desc))
      (b.getFillLevel - b.mReadThreshold)
    if samplesToSkip < numFrames then { s with samplesToSkip := some samplesToSkip }
    else { s with mAlsaRxSyncStart := false }
  else s

/-- The time-aware part: is it time for the samples of the oldest descriptor, and are they
still any use? -/
def schedule (p : IasAvbAudioShmProvider) (e : PresentationTimes) (t : TimeBase) (numFrames : Nat)
    (b : IasLocalAudioBuffer) (q : IasLocalAudioBufferDesc) : Schedule :=
  let warped := decide (t.epochCounter ≠ p.mLastPtpEpoch)
  let s : Schedule := {
    isReadReady := b.mReadReady, resetRequested := warped, mAlsaRxSyncStart := q.mAlsaRxSyncStart }
  if b.mReadReady = false then s
  else
    match q.peek with
    | none => s
    | some desc =>
        let now := t.localTime
        let readIndex := b.mMonotonicReadIndex
        let skippedSamples := toInt64 (sub64 readIndex desc.bufIndex)
        let adjust := decide (q.mAlsaRxSyncStart ∧ readIndex ≠ 0 ∧ desc.bufIndex ≠ 0
          ∧ 0 < skippedSamples)
        let outOfBounds := adjust && decide (¬ skippedSamples < numFrames)
        let timeStamp :=
          if adjust && !outOfBounds then
            add64 desc.timeStamp (e.duration (sub64 readIndex desc.bufIndex)
              (p.timePerSample q desc))
          else desc.timeStamp
        let s := { s with
          resetRequested := warped || outOfBounds
          mAlsaRxSyncStart := q.mAlsaRxSyncStart && !outOfBounds }
        let timeGap := if timeStamp < now then now - timeStamp else timeStamp - now
        if e.span (sub32 b.mTotalSize 1) p.samplerate < timeGap
            ∧ p.mDescMode = .eIasAudioBufferDescModeHard then
          { s with resetRequested := true }
        else if timeStamp ≤ now then
          p.skipOverdue e now numFrames b q desc { s with toBePresented := true }
        else if b.mMonotonicWriteIndex < p.samplerate then
          -- at the start the time is kept, whatever the mode
          { s with toBePresented := q.mAlsaRxSyncStart && decide (readIndex ≠ 0) }
        else
          { s with toBePresented := decide (b.mReadThreshold ≤ b.getFillLevel
              ∧ p.mDescMode = .eIasAudioBufferDescModeFailSafe) }

/-! ## The channels -/

/-- What the channels share. -/
structure JobState where
  mNullData : Nat → AudioData
  descQ : IasLocalAudioBufferDesc
  mBufRstContCnt : Nat
  result : IasAvbProcessingResult := eIasAvbProcOK

/-- Samples are read and thrown away. -/
def discard (null : Nat → AudioData) (b : IasLocalAudioBuffer) (n : Nat) :
    (Nat → AudioData) × IasLocalAudioBuffer :=
  (overlay (b.read n).2 null, (b.read n).1)

/-- The loop that throws away the samples in front of a descriptor, period by period. -/
def discardGap (bufIndex periodSize : Nat) :
    Nat → (Nat → AudioData) → IasLocalAudioBuffer → (Nat → AudioData) × IasLocalAudioBuffer
  | 0, null, b => (null, b)
  | fuel + 1, null, b =>
      let gap := sub64 bufIndex b.mMonotonicReadIndex % 4294967296
      if gap = 0 then (null, b)
      else
        let (null', b') := discard null b (min gap periodSize)
        if (b.read (min gap periodSize)).2.length = 0 then (null', b')
        else discardGap bufIndex periodSize fuel null' b'

/-- A channel comes to the samples of its descriptor. A buffer is empty after as many rounds as
it has samples. -/
def reachDescriptor (p : IasAvbAudioShmProvider) (desc : AudioBufferDesc) (null : Nat → AudioData)
    (b : IasLocalAudioBuffer) : (Nat → AudioData) × IasLocalAudioBuffer :=
  if b.mMonotonicReadIndex < desc.bufIndex then
    discardGap desc.bufIndex p.periodSize (b.getFillLevel + 1) null b
  else (null, b)

/-- The samples of the descriptor that are not read yet; all samples there are, if the
presentation has been synchronised at the start. -/
def presentable (alsaRxSyncStart : Bool) (desc : AudioBufferDesc) (b : IasLocalAudioBuffer) : Nat :=
  if alsaRxSyncStart then b.getFillLevel
  else sub32 desc.sampleCnt (sub64 b.mMonotonicReadIndex desc.bufIndex % 4294967296)

/-- The last channel takes the descriptors along whose samples are all read. -/
def dropUsedIf (last : Bool) (q : IasLocalAudioBufferDesc) (b : IasLocalAudioBuffer) :
    IasLocalAudioBufferDesc :=
  if last then q.dropUsed b.mMonotonicReadIndex else q

/-- What is the same for all channels of a job. -/
structure Job where
  provider : IasAvbAudioShmProvider
  access : Access
  numFrames : Nat
  schedule : Schedule
  alsaRxSyncStart : Bool

/-- A channel while nothing is to be written to the ring: what is due is thrown away. -/
def discardChannel (j : Job) (last : Bool) (st : JobState) (c : ShmChannel) :
    JobState × ShmChannel :=
  if ¬ j.schedule.isReadReady then (st, c)
  else if ¬ j.provider.hasBufferDesc then
    let (null, b) := discard st.mNullData c.buffer j.numFrames
    ({ st with mNullData := null }, { c with buffer := b })
  else
    match st.descQ.peek with
    | none => (st, c)
    | some desc =>
        let (null, b) := j.provider.reachDescriptor desc st.mNullData c.buffer
        if j.schedule.toBePresented then
          let (null, b) :=
            discard null b (min j.numFrames (presentable j.alsaRxSyncStart desc b))
          ({ st with mNullData := null, descQ := dropUsedIf last st.descQ b },
            { c with buffer := b })
        else ({ st with mNullData := null }, { c with buffer := b })

/-- A client that reads has not stopped reading. -/
def JobState.noteClient (st : JobState) (p : IasAvbAudioShmProvider) (r : RingAnswers) : JobState :=
  if p.isPrefillEnable ∧ r.getReadOffset ≠ 0 then { st with mBufRstContCnt := 0 } else st

/-- A channel of a ring with room. -/
def copyChannel (j : Job) (r : RingAnswers) (last : Bool) (st : JobState) (c : ShmChannel) :
    JobState × ShmChannel :=
  if c.step = 0 then ({ st with result := eIasAvbProcErr }, c)
  else
    let st := st.noteClient j.provider r
    if ¬ j.schedule.isReadReady then (st, c)
    else if ¬ j.provider.hasBufferDesc then (st, c.take c.buffer j.access.shmFrames)
    else
      match st.descQ.peek with
      | none => (st, c.fillWithSilence st.mNullData j.access.shmFrames)
      | some desc =>
          let (null, b) := j.provider.reachDescriptor desc st.mNullData c.buffer
          let st := { st with mNullData := null }
          if j.schedule.toBePresented then
            let c := c.take b (min j.access.shmFrames (presentable j.alsaRxSyncStart desc b))
            ({ st with descQ := dropUsedIf last st.descQ c.buffer }, c)
          else (st, { c with buffer := b })

def processChannel (j : Job) (r : RingAnswers) (last : Bool) (st : JobState) (c : ShmChannel) :
    JobState × ShmChannel :=
  if j.schedule.resetRequested then (st, c)
  else if j.access.shmNoData then discardChannel j last st c
  else copyChannel j r last st c

/-- The loop over the channels. -/
def processChannels (j : Job) (r : RingAnswers) :
    JobState → List ShmChannel → JobState × List ShmChannel
  | st, [] => (st, [])
  | st, c :: cs =>
      let (st, c) := processChannel j r cs.isEmpty st c
      let (st, cs) := processChannels j r st cs
      (st, c :: cs)

/-- Overdue samples are skipped on one channel after the other. -/
def skipChannels (n : Nat) :
    (Nat → AudioData) → List ShmChannel → (Nat → AudioData) × List ShmChannel
  | null, [] => (null, [])
  | null, c :: cs =>
      let (null, b) := discard null c.buffer n
      let (null, cs) := skipChannels n null cs
      (null, { c with buffer := b } :: cs)

/-! ## The job -/

/-- What a job leaves behind. -/
structure Outcome where
  result : IasAvbProcessingResult
  provider : IasAvbAudioShmProvider
  descQ : IasLocalAudioBufferDesc
  channels : List ShmChannel
  /-- The frames the client gets to see: those granted, from the first one. -/
  committed : Nat := 0
  /-- The ring is emptied afterwards. -/
  resetFromWriter : Bool := false
  /-- The frames of the zeroed ring the client gets to see after a restart. -/
  silentFrames : Nat := 0

/-- The schedule of a job; without descriptors there is nothing to wait for. -/
def scheduleFor (p : IasAvbAudioShmProvider) (e : PresentationTimes) (t : TimeBase)
    (numFrames : Nat) (buffers : List IasLocalAudioBuffer) (q : IasLocalAudioBufferDesc) :
    Schedule :=
  match p.hasBufferDesc, buffers with
  | true, b :: _ => p.schedule e t numFrames b q
  | _, _ => { isReadReady := true, resetRequested := false, mAlsaRxSyncStart := q.mAlsaRxSyncStart }

/-- What the channels of a job have in common. -/
def Access.job (a : Access) (e : PresentationTimes) (t : TimeBase) (q : IasLocalAudioBufferDesc)
    (numFrames : Nat) (buffers : List IasLocalAudioBuffer) : Job where
  provider := a.provider
  access := a
  numFrames := numFrames
  schedule := a.provider.scheduleFor e t numFrames buffers q
  alsaRxSyncStart := a.provider.hasBufferDesc && q.mAlsaRxSyncStart

/-- Overdue samples are skipped before the loop. -/
def Schedule.skip (s : Schedule) (null : Nat → AudioData) (channels : List ShmChannel) :
    (Nat → AudioData) × List ShmChannel :=
  match s.samplesToSkip with
  | none => (null, channels)
  | some n => skipChannels n null channels

/-- The channels of a job that is no dummy, once the ring has granted its frames. -/
def process (a : Access) (e : PresentationTimes) (t : TimeBase) (r : RingAnswers)
    (q : IasLocalAudioBufferDesc) (numFrames : Nat) (channels : List ShmChannel) : Outcome :=
  let p := a.provider
  let j := a.job e t q numFrames (channels.map ShmChannel.buffer)
  let (null, channels) := j.schedule.skip p.mNullData channels
  let (st, channels) := processChannels j r
    { mNullData := null
      descQ := { q with mAlsaRxSyncStart := j.schedule.mAlsaRxSyncStart }
      mBufRstContCnt := p.mBufRstContCnt } channels
  { result := st.result
    provider := { p with
      mNullData := st.mNullData
      mBufRstContCnt := st.mBufRstContCnt
      mLastPtpEpoch := if p.hasBufferDesc then t.epochCounter else p.mLastPtpEpoch }
    descQ := if j.schedule.resetRequested then st.descQ.reset else st.descQ
    channels :=
      if j.schedule.resetRequested then
        channels.map fun c => { c with buffer := c.buffer.reset 0 }
      else channels }

/-- `endAccess`, and what the job does to the ring afterwards. -/
def finish (a : Access) (r : RingAnswers) (o : Outcome) : Outcome :=
  let (p, silentFrames) :=
    if a.restartPrefilling then o.provider.resetShmBuffer r .eIdle o.provider.periodSize
    else (o.provider, 0)
  { o with
    result := if r.endAccessFails then eIasAvbProcErr else o.result
    provider := p
    committed := a.shmFrames
    resetFromWriter := a.resetRingBuf
    silentFrames := silentFrames }

/-- `copyJob` of a capture device. -/
def copyJob (p : IasAvbAudioShmProvider) (e : PresentationTimes) (t : TimeBase) (r : RingAnswers)
    (q : IasLocalAudioBufferDesc) (numFrames : Nat) (dummy : Bool) (channels : List ShmChannel) :
    Outcome :=
  let refused : Outcome := {
    result := eIasAvbProcErr, provider := p, descQ := q, channels := channels }
  if p.mIsRunning = false then refused
  else if numFrames = 0 ∨ p.periodSize % numFrames ≠ 0 then refused
  else
    match r.granted with
    | none => refused
    | some granted =>
        let a := p.access r granted numFrames
        if dummy then
          finish a r {
            result := eIasAvbProcOK, provider := a.provider, descQ := q, channels := channels }
        else finish a r (process a e t r q numFrames channels)

end IasAvbAudioShmProvider

end AvbStreamHandler
