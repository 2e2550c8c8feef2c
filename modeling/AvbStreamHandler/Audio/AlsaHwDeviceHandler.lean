import AvbStreamHandler.Alsa.AlsaEngine
import AvbStreamHandler.Audio.AvbAudioShmProvider

/-!
# The copy jobs of a hardware device

`IasAlsaHwDeviceHandler::copyJob`, which was derived from that of the virtual devices, for both
directions of the stream; and the job of a virtual device for a transmit stream, which goes the
other way than that of `AvbAudioShmProvider`.

A hardware device looks at the presentation time as a virtual one does, but goes through its
channels whatever comes of that: a descriptor that is due is served for each channel, and once
more if it is to be presented. Within the job `mNullData` is a null pointer of its own. Copies
that begin there are not made, but one that goes over the end of the local ring goes on behind
it.

The ring is the one of `AvbAudioShmProvider`. Without access to it a hardware device works on
areas that are not there.
-/

namespace AvbStreamHandler

open Kit Kit.Word IasAvbProcessingResult

/-- The samples of an area as they lie in memory. -/
def ShmChannel.raw (c : ShmChannel) (i : Nat) : AudioData := c.area (i / c.step)

/-- Samples from the area into the local buffer. Channel 0 notes the time stamp. -/
def ShmChannel.store (c : ShmChannel) (hasBufferDesc first : Bool) (shmFrames timestamp : Nat)
    (q : IasLocalAudioBufferDesc) : IasLocalAudioBufferDesc × ShmChannel :=
  let (b, samplesWritten) := c.buffer.writeStrided c.raw shmFrames (2 * c.step)
  (if hasBufferDesc = true ∧ samplesWritten ≠ 0 ∧ first = true then
      q.enqueue {
        timeStamp := timestamp
        bufIndex := sub64 b.mMonotonicWriteIndex samplesWritten
        sampleCnt := samplesWritten }
    else q,
    { c with buffer := b })

/-! ## Virtual devices -/

namespace IasAvbAudioShmProvider

/-- Silence for a period without samples. -/
def storeNullData (p : IasAvbAudioShmProvider) (first : Bool) (numFrames timestamp : Nat)
    (q : IasLocalAudioBufferDesc) (c : ShmChannel) : IasLocalAudioBufferDesc × ShmChannel :=
  let (b, samplesWritten) := c.buffer.write p.mNullData numFrames
  (if p.hasBufferDesc = true ∧ samplesWritten ≠ 0 ∧ first = true then
      q.enqueue {
        timeStamp := timestamp
        bufIndex := sub64 b.mMonotonicWriteIndex samplesWritten
        sampleCnt := samplesWritten }
    else q,
    { c with buffer := b })

/-- Without a time stamp the clock is not known yet. -/
def storeChannel (p : IasAvbAudioShmProvider) (first : Bool) (shmFrames numFrames timestamp : Nat)
    (q : IasLocalAudioBufferDesc) (c : ShmChannel) : IasLocalAudioBufferDesc × ShmChannel :=
  if shmFrames < numFrames then
    if timestamp = 0 then (q, c) else p.storeNullData first numFrames timestamp q c
  else if c.step = 0 then (q, c)
  else if timestamp = 0 then (q, c)
  else c.store p.hasBufferDesc first shmFrames timestamp q

def storeChannels (p : IasAvbAudioShmProvider) (shmFrames numFrames timestamp : Nat) :
    Bool → IasLocalAudioBufferDesc → List ShmChannel →
      IasLocalAudioBufferDesc × List ShmChannel
  | _, q, [] => (q, [])
  | first, q, c :: cs =>
      let (q, c) := p.storeChannel first shmFrames numFrames timestamp q c
      let (q, cs) := storeChannels p shmFrames numFrames timestamp false q cs
      (q, c :: cs)

/-- A reset of the stream. -/
def resetChannels (q : IasLocalAudioBufferDesc) (channels : List ShmChannel) :
    IasLocalAudioBufferDesc × List ShmChannel :=
  (q.reset, channels.map fun c => { c with buffer := c.buffer.reset 0 })

/-- `copyJob` for a transmit stream: samples from the ring. An area with a step of 0 is only
passed over. -/
def copyJobFromRing (p : IasAvbAudioShmProvider) (t : TimeBase) (r : RingAnswers)
    (q : IasLocalAudioBufferDesc) (numFrames : Nat) (dummy : Bool) (timestamp : Nat)
    (channels : List ShmChannel) : Outcome :=
  let refused : Outcome := {
    result := eIasAvbProcErr, provider := p, descQ := q, channels := channels }
  if p.mIsRunning = false then refused
  else if numFrames = 0 ∨ p.periodSize % numFrames ≠ 0 then refused
  else
    match r.granted with
    | none => refused
    | some shmFrames =>
        let warped := p.hasBufferDesc && decide (t.epochCounter ≠ p.mLastPtpEpoch)
        let stored :=
          if dummy then (q, channels)
          else if warped then resetChannels q channels
          else p.storeChannels shmFrames numFrames timestamp true q channels
        { result := if r.endAccessFails then eIasAvbProcErr else eIasAvbProcOK
          provider := { p with
            mLastPtpEpoch :=
              if p.hasBufferDesc && !dummy then t.epochCounter else p.mLastPtpEpoch }
          descQ := stored.1
          channels := stored.2
          committed := shmFrames }

/-- The job, for a stream of either direction. -/
def copyJobOf (p : IasAvbAudioShmProvider) (direction : IasAvbStreamDirection)
    (e : PresentationTimes) (t : TimeBase) (r : RingAnswers) (q : IasLocalAudioBufferDesc)
    (numFrames : Nat) (dummy : Bool) (timestamp : Nat) (channels : List ShmChannel) : Outcome :=
  match direction with
  | .eIasAvbReceiveFromNetwork => p.copyJob e t r q numFrames dummy channels
  | .eIasAvbTransmitToNetwork => p.copyJobFromRing t r q numFrames dummy timestamp channels

end IasAvbAudioShmProvider

/-! ## Hardware devices -/

structure IasAlsaHwDeviceHandler where
  /-- The period ALSA has agreed to. -/
  mPeriodSize : Nat
  /-- The period that was asked for. -/
  periodSize : Nat
  numPeriods : Nat
  samplerate : Nat
  mDescMode : AudioBufferDescMode
  mLastPtpEpoch : Nat := 0

/-- A channel, with everything its buffer has handed to the area in this job. -/
structure HwChannel extends ShmChannel where
  batches : List (List AudioData) := []

namespace HwChannel

/-- The area takes what the buffer has, up to `n` samples, beginning with its first frame. -/
def take (c : HwChannel) (n : Nat) : HwChannel where
  toShmChannel := c.toShmChannel.take c.buffer n
  batches := c.batches ++ [(c.buffer.readStrided n (2 * c.step)).2]

/-- An underrun: silence, but not from a null pointer. -/
def fillWithSilence (c : HwChannel) (frames : Nat) : HwChannel :=
  { c with area := fun i => if i < frames ∧ c.step ≠ 1 then 0 else c.area i }

end HwChannel

namespace IasAlsaHwDeviceHandler

def hasBufferDesc (d : IasAlsaHwDeviceHandler) : Bool :=
  match d.mDescMode with
  | .eIasAudioBufferDescModeOff => false
  | .eIasAudioBufferDescModeFailSafe => true
  | .eIasAudioBufferDescModeHard => true
  | .eIasAudioBufferDescModeLast => false

/-! ### The presentation time -/

structure Schedule where
  toBePresented : Bool := false
  resetRequested : Bool

def schedule (d : IasAlsaHwDeviceHandler) (e : PresentationTimes) (t : TimeBase)
    (b : IasLocalAudioBuffer) (q : IasLocalAudioBufferDesc) : Schedule :=
  let warped := decide (t.epochCounter ≠ d.mLastPtpEpoch)
  if b.mReadReady = false then { resetRequested := warped }
  else
    match q.peek with
    | none => { resetRequested := warped }
    | some desc =>
        let now := t.localTime
        let timeGap := if desc.timeStamp < now then now - desc.timeStamp else desc.timeStamp - now
        if e.span (sub32 b.mTotalSize 1) d.samplerate < timeGap
            ∧ d.mDescMode = .eIasAudioBufferDescModeHard then
          { resetRequested := true }
        else if desc.timeStamp ≤ now then { toBePresented := true, resetRequested := warped }
        else if b.mMonotonicWriteIndex < d.samplerate then { resetRequested := warped }
        else
          { toBePresented := decide (b.mReadThreshold ≤ b.getFillLevel
              ∧ d.mDescMode = .eIasAudioBufferDescModeFailSafe)
            resetRequested := warped }

/-- For a receive stream; without descriptors there is nothing to wait for. -/
def scheduleFor (d : IasAlsaHwDeviceHandler) (e : PresentationTimes) (t : TimeBase)
    (buffers : List IasLocalAudioBuffer) (q : IasLocalAudioBufferDesc) : Schedule :=
  match d.hasBufferDesc, buffers with
  | true, b :: _ => d.schedule e t b q
  | _, _ => { resetRequested := false }

/-! ### The channels -/

/-- What is the same for all channels of a job. -/
structure Job where
  device : IasAlsaHwDeviceHandler
  shmFrames : Nat
  now : Nat
  schedule : Schedule
  alsaRxSyncStart : Bool

/-- What the channels share. -/
structure JobState where
  descQ : IasLocalAudioBufferDesc
  /-- A copy has gone on behind a null pointer. -/
  wildWrite : Bool := false

/-- A read to a null pointer that goes over the end of the ring, and had something to copy in
front of it. -/
def readsBehindNull (b : IasLocalAudioBuffer) (n : Nat) : Bool :=
  let beforeWrap := sub32 b.mTotalSize b.mReadIndex
  decide (beforeWrap ≠ 0 ∧ beforeWrap < min n b.getFillLevel)

/-- The loop that throws away the samples in front of a descriptor, period by period. -/
def discardGap (bufIndex periodSize : Nat) :
    Nat → Bool → IasLocalAudioBuffer → Bool × IasLocalAudioBuffer
  | 0, wild, b => (wild, b)
  | fuel + 1, wild, b =>
      let gap := sub64 bufIndex b.mMonotonicReadIndex % 4294967296
      if gap = 0 then (wild, b)
      else
        let wild' := wild || readsBehindNull b (min gap periodSize)
        let b' := (b.read (min gap periodSize)).1
        if (b.read (min gap periodSize)).2.length = 0 then (wild', b')
        else discardGap bufIndex periodSize fuel wild' b'

def reachDescriptor (d : IasAlsaHwDeviceHandler) (desc : AudioBufferDesc) (wild : Bool)
    (b : IasLocalAudioBuffer) : Bool × IasLocalAudioBuffer :=
  if b.mMonotonicReadIndex < desc.bufIndex then
    discardGap desc.bufIndex d.periodSize (b.getFillLevel + 1) wild b
  else (wild, b)

/-- What every channel does by itself: a descriptor that is due is served, and goes if it is
used up. -/
def serveDue (j : Job) (desc : AudioBufferDesc) (st : JobState) (c : HwChannel) :
    JobState × HwChannel :=
  if desc.timeStamp ≤ j.now then
    let c := c.take j.shmFrames
    (if desc.endIndex ≤ c.buffer.mMonotonicReadIndex then { st with descQ := st.descQ.dequeue }
      else st, c)
  else if c.buffer.mMonotonicReadIndex < desc.bufIndex then (st, c.take j.shmFrames)
  else (st, c)

/-- The samples of the descriptor that were not read at `readIndex`; all samples there are, if
the presentation has been synchronised at the start. -/
def presentable (j : Job) (desc : AudioBufferDesc) (readIndex : Nat) (b : IasLocalAudioBuffer) :
    Nat :=
  if j.alsaRxSyncStart then b.getFillLevel
  else sub32 desc.sampleCnt (sub64 readIndex desc.bufIndex % 4294967296)

/-- What is done as on a virtual device. The last channel takes the oldest descriptor along, even
if it is no longer the one that was looked at. -/
def present (j : Job) (last : Bool) (desc : AudioBufferDesc) (readIndex : Nat) (st : JobState)
    (c : HwChannel) : JobState × HwChannel :=
  if j.schedule.toBePresented then
    let c := c.take (min j.shmFrames (presentable j desc readIndex c.buffer))
    (if last = true ∧ desc.endIndex ≤ c.buffer.mMonotonicReadIndex then
        { st with descQ := st.descQ.dequeue.dropUsed c.buffer.mMonotonicReadIndex }
      else st, c)
  else (st, c)

/-- A channel of a receive stream. Neither a reset nor a stream that is not ready keeps it from
being served. -/
def copyChannel (j : Job) (last : Bool) (st : JobState) (c : HwChannel) : JobState × HwChannel :=
  if ¬ j.device.hasBufferDesc then (st, c.take j.shmFrames)
  else
    match st.descQ.peek with
    | none => (st, c.fillWithSilence j.shmFrames)
    | some desc =>
        let (wild, b) := j.device.reachDescriptor desc st.wildWrite c.buffer
        let served := serveDue j desc { st with wildWrite := wild } { c with buffer := b }
        present j last desc b.mMonotonicReadIndex served.1 served.2

/-- The loop over the channels. -/
def copyChannels (j : Job) : JobState → List HwChannel → JobState × List HwChannel
  | st, [] => (st, [])
  | st, c :: cs =>
      let (st, c) := copyChannel j cs.isEmpty st c
      let (st, cs) := copyChannels j st cs
      (st, c :: cs)

/-- The loop for a transmit stream. -/
def storeChannels (d : IasAlsaHwDeviceHandler) (shmFrames timestamp : Nat) :
    Bool → IasLocalAudioBufferDesc → List ShmChannel →
      IasLocalAudioBufferDesc × List ShmChannel
  | _, q, [] => (q, [])
  | first, q, c :: cs =>
      let (q, c) :=
        if timestamp = 0 then (q, c) else c.store d.hasBufferDesc first shmFrames timestamp q
      let (q, cs) := storeChannels d shmFrames timestamp false q cs
      (q, c :: cs)

/-! ### The job -/

/-- What a job leaves behind. -/
structure Outcome where
  device : IasAlsaHwDeviceHandler
  descQ : IasLocalAudioBufferDesc
  channels : List HwChannel
  committed : Nat := 0
  wildWrite : Bool := false

def resetChannels (q : IasLocalAudioBufferDesc) (channels : List HwChannel) :
    IasLocalAudioBufferDesc × List HwChannel :=
  (q.reset, channels.map fun c => { c with buffer := c.buffer.reset 0 })

/-- What the job does to the channels once access is granted. -/
def process (d : IasAlsaHwDeviceHandler) (direction : IasAvbStreamDirection)
    (e : PresentationTimes) (t : TimeBase) (q : IasLocalAudioBufferDesc)
    (shmFrames timestamp : Nat) (channels : List ShmChannel) : JobState × List HwChannel :=
  match direction with
  | .eIasAvbReceiveFromNetwork =>
      copyChannels {
        device := d
        shmFrames := shmFrames
        now := t.localTime
        schedule := d.scheduleFor e t (channels.map ShmChannel.buffer) q
        alsaRxSyncStart := d.hasBufferDesc && q.mAlsaRxSyncStart } { descQ := q }
        (channels.map fun c => { toShmChannel := c })
  | .eIasAvbTransmitToNetwork =>
      let stored := d.storeChannels shmFrames timestamp true q channels
      ({ descQ := stored.1 }, stored.2.map fun c => { toShmChannel := c })

/-- The buffers and the descriptors are to be reset at the end of the job. -/
def resetRequested (d : IasAlsaHwDeviceHandler) (direction : IasAvbStreamDirection)
    (e : PresentationTimes) (t : TimeBase) (q : IasLocalAudioBufferDesc)
    (channels : List ShmChannel) : Bool :=
  match direction with
  | .eIasAvbReceiveFromNetwork =>
      (d.scheduleFor e t (channels.map ShmChannel.buffer) q).resetRequested
  | .eIasAvbTransmitToNetwork =>
      d.hasBufferDesc && decide (t.epochCounter ≠ d.mLastPtpEpoch)

def copyJob (d : IasAlsaHwDeviceHandler) (direction : IasAvbStreamDirection)
    (e : PresentationTimes) (t : TimeBase) (r : RingAnswers) (q : IasLocalAudioBufferDesc)
    (timestamp : Nat) (channels : List ShmChannel) : Outcome :=
  let untouched : Outcome := {
    device := d, descQ := q, channels := channels.map fun c => { toShmChannel := c } }
  if d.mPeriodSize = 0 ∨ d.periodSize % d.mPeriodSize ≠ 0 then untouched
  else
    match r.granted with
    | none => { untouched with wildWrite := true }
    | some shmFrames =>
        let (st, copied) := d.process direction e t q shmFrames timestamp channels
        let left :=
          if d.resetRequested direction e t q channels then resetChannels st.descQ copied
          else (st.descQ, copied)
        { device := { d with
            mLastPtpEpoch := if d.hasBufferDesc then t.epochCounter else d.mLastPtpEpoch }
          descQ := left.1
          channels := left.2
          committed := shmFrames
          wildWrite := st.wildWrite }

end IasAlsaHwDeviceHandler

end AvbStreamHandler
