import AvbStreamHandler.Audio.AlsaHwDeviceHandler

/-!
# The worker thread of a hardware device

`IasAlsaHandlerWorkerThread::run` up to where frames are transferred: the thread waits for a
period of the device, looks at the fill level of the ASRC buffer and estimates how many frames the
other side of that buffer has virtually moved since its last access. Once both buffers have moved
some periods it ends the start-up phase, and puts the fill level at its target by skipping frames
or inserting silence.

The fill levels and the time stamps are what the ring buffers answer. The sample rate converter,
its controller and the transfer itself do not go back into the estimate and are left out, as is
the logging.
-/

namespace AvbStreamHandler

inductive IasDeviceType where
  | eIasDeviceTypeSource
  | eIasDeviceTypeSink
  deriving DecidableEq, Repr

structure IasAudioBufferParams where
  periodSize : UInt32
  numPeriods : UInt32

structure IasAlsaHandlerWorkerThreadParams where
  samplerate : UInt32
  deviceBufferParams : IasAudioBufferParams
  asrcBufferParams : IasAudioBufferParams

structure IasAlsaHandlerWorkerThread where
  mParams : IasAlsaHandlerWorkerThreadParams
  mDeviceType : IasDeviceType
  mSamplerateIn : UInt32
  mSamplerateOut : UInt32

/-- The parameters `IasAlsaHwDeviceHandler::initHandler` hands over: both buffers have the period
of the device. -/
def IasAlsaHwDeviceHandler.workerParams (samplerate periodSize numPeriods numPeriodsAsrcBuffer :
    UInt32) : Option IasAlsaHandlerWorkerThreadParams :=
  if numPeriodsAsrcBuffer < 1 then none
  else some {
    samplerate := samplerate
    deviceBufferParams := { periodSize := periodSize, numPeriods := numPeriods }
    asrcBufferParams := { periodSize := periodSize, numPeriods := numPeriodsAsrcBuffer } }

/-- The local variables of `run` that outlive a pass. -/
structure AsrcLoop where
  cntPeriodsDeviceBuffer : UInt64 := 0
  cntPeriodsAsrcBuffer : UInt64 := 0
  startupFinished : Bool := false
  numTotalFramesPrevious : UInt32 := 0
  asrcBufferNumFramesAvailable : UInt32 := 0
  deriving DecidableEq

/-- What the ring buffers answer in a pass. -/
structure AsrcReadings where
  asrcBufferNumFramesAvailable : UInt32
  /-- The fill levels after a reset of the ASRC buffer, one for each turn of the loop. -/
  afterReset : List UInt32 := []
  timestampDeviceBuffer : UInt64
  timestampAsrcBufferRemote : UInt64

structure AsrcEstimate where
  numVirtualFrames : Int
  numTotalFrames : UInt32
  numVirtualFramesValid : Bool
  deriving DecidableEq

/-- What a pass comes to. -/
structure AsrcPass where
  /-- The fill level the estimate starts from. -/
  available : UInt32
  estimate : AsrcEstimate
  numFramesToAdjust : UInt32
  loop : AsrcLoop
  deriving DecidableEq

namespace IasAlsaHandlerWorkerThread

/-- Only the rate of the converter's other side is that of the network. -/
def init (params : IasAlsaHandlerWorkerThreadParams) (deviceType : IasDeviceType)
    (avbSampleRate : UInt32) : IasAlsaHandlerWorkerThread :=
  match deviceType with
  | .eIasDeviceTypeSource =>
      { mParams := params, mDeviceType := deviceType
        mSamplerateIn := params.samplerate, mSamplerateOut := avbSampleRate }
  | .eIasDeviceTypeSink =>
      { mParams := params, mDeviceType := deviceType
        mSamplerateIn := avbSampleRate, mSamplerateOut := params.samplerate }

/-- The sample rate in MHz, with 16 bits behind the point. -/
def samplerateMHz (t : IasAlsaHandlerWorkerThread) : UInt64 :=
  match t.mDeviceType with
  | .eIasDeviceTypeSource => ((t.mSamplerateIn * 65536) / 1000000).toUInt64
  | .eIasDeviceTypeSink => ((t.mSamplerateOut * 65536) / 1000000).toUInt64

def periodSize (t : IasAlsaHandlerWorkerThread) : UInt32 := t.mParams.deviceBufferParams.periodSize

def asrcBufferLength (t : IasAlsaHandlerWorkerThread) : UInt32 :=
  t.mParams.asrcBufferParams.numPeriods * t.mParams.asrcBufferParams.periodSize

/-- Half of the buffer and half of a period. -/
def asrcBufferTargetLevel (t : IasAlsaHandlerWorkerThread) : UInt32 :=
  (t.asrcBufferLength + t.mParams.asrcBufferParams.periodSize) >>> 1

/-- A period, and a quarter of one for latency. -/
def cNumVirtualFramesUpperLimit (t : IasAlsaHandlerWorkerThread) : Int :=
  (t.periodSize + (t.periodSize >>> 2)).toNat

/-! ## The fill level -/

/-- The loop that skips what lies above the target level: the level it ends with, and how many
periods were adjusted. There is no result as long as it goes on. -/
def skipPeriods (t : IasAlsaHandlerWorkerThread) : UInt64 → List UInt32 → Option (UInt32 × UInt64)
  | _, [] => none
  | cnt, available :: rest =>
      let cnt := if t.asrcBufferTargetLevel ≤ available then cnt + 1 else cnt
      let available := if t.periodSize ≤ available then available - t.periodSize else available
      if t.asrcBufferTargetLevel ≤ available then skipPeriods t cnt rest
      else some (available, cnt)

/-- Periods are counted. Without enough frames in the ASRC buffer the start-up phase begins
anew. -/
def countPeriods (t : IasAlsaHandlerWorkerThread) (l : AsrcLoop) (r : AsrcReadings) :
    Option AsrcLoop :=
  if t.periodSize ≤ r.asrcBufferNumFramesAvailable then
    some { l with
      cntPeriodsDeviceBuffer := l.cntPeriodsDeviceBuffer + 1
      cntPeriodsAsrcBuffer := l.cntPeriodsAsrcBuffer + 1
      asrcBufferNumFramesAvailable := r.asrcBufferNumFramesAvailable }
  else
    (t.skipPeriods 0 r.afterReset).map fun (available, cnt) => { l with
      startupFinished := false
      cntPeriodsDeviceBuffer := 0
      cntPeriodsAsrcBuffer := cnt
      asrcBufferNumFramesAvailable := available }

/-! ## Virtual frames -/

/-- A signed time, and a product that is not: the rate makes it one of unsigned registers. -/
def numVirtualFrames (t : IasAlsaHandlerWorkerThread) (r : AsrcReadings) : Int :=
  let bufferDifftime := r.timestampDeviceBuffer.toInt64 - r.timestampAsrcBufferRemote.toInt64
  ((bufferDifftime.toUInt64 * t.samplerateMHz) >>> 16).toInt64.toInt

def estimate (t : IasAlsaHandlerWorkerThread) (l : AsrcLoop) (r : AsrcReadings) : AsrcEstimate :=
  let numVirtualFrames := t.numVirtualFrames r
  let numTotalFrames := l.asrcBufferNumFramesAvailable + UInt32.ofInt numVirtualFrames
  let numTotalFramesDiff :=
    (numTotalFrames.toInt32 - l.numTotalFramesPrevious.toInt32).abs.toUInt32
  { numVirtualFrames := numVirtualFrames
    numTotalFrames := numTotalFrames
    numVirtualFramesValid :=
      decide (0 ≤ numVirtualFrames) && decide (numVirtualFrames ≤ t.cNumVirtualFramesUpperLimit)
        && decide (numTotalFramesDiff < t.periodSize >>> 2) }

/-! ## The end of the start-up phase -/

/-- Both buffers have moved enough periods. -/
def endsStartup (l : AsrcLoop) (e : AsrcEstimate) : Bool :=
  !l.startupFinished && decide (4 < l.cntPeriodsAsrcBuffer)
    && decide (4 ≤ l.cntPeriodsDeviceBuffer) && e.numVirtualFramesValid

/-- The frames above the target level, where the start-up phase ends. -/
def numFramesToAdjust (t : IasAlsaHandlerWorkerThread) (l : AsrcLoop) (e : AsrcEstimate) : UInt32 :=
  if endsStartup l e = true ∧ t.asrcBufferTargetLevel < e.numTotalFrames then
    e.numTotalFrames - t.asrcBufferTargetLevel
  else 0

/-- What a pass comes to once the periods are counted. -/
def passFrom (t : IasAlsaHandlerWorkerThread) (l : AsrcLoop) (r : AsrcReadings) : AsrcPass :=
  let e := t.estimate l r
  let adjust := t.numFramesToAdjust l e
  { available := l.asrcBufferNumFramesAvailable
    estimate := e
    numFramesToAdjust := adjust
    loop := { l with
      startupFinished := l.startupFinished || endsStartup l e
      numTotalFramesPrevious := e.numTotalFrames
      asrcBufferNumFramesAvailable := l.asrcBufferNumFramesAvailable - adjust } }

/-- A pass of `run`, up to the adjustment. -/
def pass (t : IasAlsaHandlerWorkerThread) (l : AsrcLoop) (r : AsrcReadings) : Option AsrcPass :=
  (t.countPeriods l r).map fun l => t.passFrom l r

end IasAlsaHandlerWorkerThread

end AvbStreamHandler
