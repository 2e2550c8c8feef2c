import AvbStreamHandler.AvbTypes
import AvbStreamHandler.Kit.Run
import Mathlib.Data.List.AList
import Mathlib.Data.List.Infix
import Mathlib.Logic.Function.Basic

/-!
# The ALSA engine

`IasAlsaEngine`: two maps of streams, one for the virtual devices and one for those of the
hardware, and a list of worker threads, each with the streams it services. Streams and worker
threads are objects behind pointers, which are numbers here.

A stream is created in steps that can fail: it is allocated and initialized, a worker thread
takes it, or a new one is made for it, which is started if the engine is; only then it goes
into its map. What the steps below the engine report is part of the call.

The engine uses streams through its maps and through the lists of its worker threads. In one
place it goes on with a stream it has just deleted: that is noted.
-/

namespace AvbStreamHandler

open IasAvbProcessingResult

inductive IasAvbStreamDirection
  | eIasAvbTransmitToNetwork
  | eIasAvbReceiveFromNetwork
deriving DecidableEq, Repr

inductive IasAlsaDeviceTypes
  | eIasAlsaVirtualDevice
  | eIasAlsaHwDevice
  | eIasAlsaHwDeviceAsync
deriving DecidableEq, Repr

/-- An `IasAlsaVirtualDeviceStream` or an `IasAlsaHwDeviceHandler`. -/
structure AlsaStream where
  alsaDeviceType : IasAlsaDeviceTypes
  direction : IasAvbStreamDirection
  streamId : UInt16
  /-- The name it was asked for by. -/
  deviceName : String
  periodSize : UInt32
  sampleFrequency : UInt32
  connected : Bool := false
deriving DecidableEq, Repr

namespace AlsaStream

/-- It is in the map of the hardware devices. -/
def isHw (s : AlsaStream) : Bool := s.alsaDeviceType != .eIasAlsaVirtualDevice

def suffix : IasAvbStreamDirection → String
  | .eIasAvbTransmitToNetwork => "_p"
  | .eIasAvbReceiveFromNetwork => "_c"

def fullDeviceName (s : AlsaStream) : String := s.deviceName ++ suffix s.direction

/-- `getDeviceName`. A virtual device has the name of its shared memory, one of the hardware
the name ALSA knows it by. -/
def getDeviceName (s : AlsaStream) : String :=
  if s.isHw then s.deviceName else "avb_" ++ s.fullDeviceName

/-- `init`, with what the other arguments and the base class make of it. -/
def init (s : AlsaStream) (result : IasAvbProcessingResult) : IasAvbProcessingResult :=
  if s.periodSize = 0 ∨ s.deviceName = "" then eIasAvbProcInvalidParam
  else if result ≠ eIasAvbProcOK then result
  else if s.sampleFrequency = 0 then eIasAvbProcInvalidParam
  else eIasAvbProcOK

end AlsaStream

/-- `std::string::find` finds it. -/
def stringFind (name sub : String) : Bool := decide (sub.toList <:+: name.toList)

/-- What the registry says about the worker threads. -/
structure AlsaConfig where
  basePeriod : UInt32 := 128
  baseFreq : UInt32 := 48000

structure IasAlsaWorkerThread where
  mClockDomain : Nat
  mAlsaPeriodSize : UInt32
  mSampleFrequency : UInt32
  mAlsaStreams : List Nat := []
deriving DecidableEq, Repr, Inhabited

namespace IasAlsaWorkerThread

/-- The static `checkParameter`: a period takes a whole number of base periods. -/
def checkParameter (alsaPeriodSize sampleFrequency periodBase frequencyBase : UInt32) : Bool :=
  let p := alsaPeriodSize.toNat * frequencyBase.toNat
  let q := periodBase.toNat * sampleFrequency.toNat
  q != 0 && decide (1 ≤ p / q) && p % q == 0

/-- `checkParameter` of a stream, and of the clock domain it is to run on. -/
def checkStream (t : IasAlsaWorkerThread) (clockDomain : Option Nat) (s : AlsaStream) : Bool :=
  clockDomain == some t.mClockDomain
    && checkParameter s.periodSize s.sampleFrequency t.mAlsaPeriodSize t.mSampleFrequency

/-- `addAlsaStream`. -/
def addAlsaStream (t : IasAlsaWorkerThread) (k : Nat) (s : AlsaStream) :
    IasAlsaWorkerThread × IasAvbProcessingResult :=
  if s.periodSize = 0 ∨ s.sampleFrequency = 0 then (t, eIasAvbProcInvalidParam)
  else if k ∈ t.mAlsaStreams then (t, eIasAvbProcInvalidParam)
  else if s.periodSize.toNat * t.mSampleFrequency.toNat
      % (t.mAlsaPeriodSize.toNat * s.sampleFrequency.toNat) = 0 then
    ({ t with mAlsaStreams := k :: t.mAlsaStreams }, eIasAvbProcOK)
  else (t, eIasAvbProcInvalidParam)

end IasAlsaWorkerThread

structure IasAlsaEngine where
  mIsInitialized : Bool := false
  mIsStarted : Bool := false
  mAlsaHwDevStreams : AList fun _ : UInt16 => Nat := ∅
  mAlsaViDevStreams : AList fun _ : UInt16 => Nat := ∅
  mWorkerThreads : List Nat := []
  /-- The streams there are. -/
  streams : Nat → Option AlsaStream := fun _ => none
  /-- The next stream gets this number. -/
  allocated : Nat := 0
  /-- The worker threads behind the pointers of the list. -/
  worker : Nat → IasAlsaWorkerThread := fun _ => default
  /-- The next worker thread gets this number. -/
  allocatedWorkers : Nat := 0
  /-- A call went on with a stream it had deleted. -/
  usedAfterDeletion : Bool := false

/-- The arguments of `createAlsaStream`: the stream that is asked for, and its clock. -/
structure AlsaRequest where
  stream : AlsaStream
  clockDomain : Option Nat

/-- What the steps of `createAlsaStream` come across. Whether the device of the hardware
starts is only logged. -/
structure AlsaOutcome where
  /-- There is memory for the stream. -/
  memory : Bool := true
  init : IasAvbProcessingResult := eIasAvbProcOK
  /-- There is memory for a worker thread. -/
  workerMemory : Bool := true
  /-- The result of its `init`: of its thread object and of its watchdog. -/
  workerInit : IasAvbProcessingResult := eIasAvbProcOK
  workerStart : IasAvbProcessingResult := eIasAvbProcOK

inductive AlsaEvent
  | init
  | createAlsaStream (request : AlsaRequest) (outcome : AlsaOutcome)
  | destroyAlsaStream (streamId : UInt16)
  /-- A network stream is connected to the stream, or gives it up. -/
  | setConnected (k : Nat) (connected : Bool)
  | start
  | stop

namespace IasAlsaEngine

/-! ## The objects -/

/-- One of the two maps. -/
def streamMap (w : IasAlsaEngine) (hw : Bool) : AList fun _ : UInt16 => Nat :=
  if hw then w.mAlsaHwDevStreams else w.mAlsaViDevStreams

def setMap (w : IasAlsaEngine) (hw : Bool) (m : AList fun _ : UInt16 => Nat) : IasAlsaEngine :=
  if hw then { w with mAlsaHwDevStreams := m } else { w with mAlsaViDevStreams := m }

def setStream (w : IasAlsaEngine) (k : Nat) (s : Option AlsaStream) : IasAlsaEngine :=
  { w with streams := Function.update w.streams k s }

def setWorker (w : IasAlsaEngine) (t : Nat) (d : IasAlsaWorkerThread) : IasAlsaEngine :=
  { w with worker := Function.update w.worker t d }

/-- `new`, for a stream. -/
def newStream (w : IasAlsaEngine) (s : AlsaStream) : IasAlsaEngine :=
  { w.setStream w.allocated (some s) with allocated := w.allocated + 1 }

/-- `new` and `push_back`, for a worker thread. -/
def pushWorker (w : IasAlsaEngine) (d : IasAlsaWorkerThread) : IasAlsaEngine :=
  { w.setWorker w.allocatedWorkers d with
    mWorkerThreads := w.mWorkerThreads ++ [w.allocatedWorkers]
    allocatedWorkers := w.allocatedWorkers + 1 }

def eraseWorker (w : IasAlsaEngine) (t : Nat) : IasAlsaEngine :=
  { w with mWorkerThreads := w.mWorkerThreads.erase t }

/-- `start` of a stream that was deleted before. -/
def useDeleted (w : IasAlsaEngine) (hw : Bool) : IasAlsaEngine :=
  { w with usedAfterDeletion := w.usedAfterDeletion || hw }

/-! ## Worker threads -/

/-- The first worker thread that can take the stream. -/
def matchingWorker (w : IasAlsaEngine) (r : AlsaRequest) : Option Nat :=
  w.mWorkerThreads.find? fun t => (w.worker t).checkStream r.clockDomain r.stream

/-- A new worker thread, with the period its stream asks for or the one all are to have. -/
def newWorker (c : AlsaConfig) (s : AlsaStream) (clockDomain : Nat) : IasAlsaWorkerThread :=
  if IasAlsaWorkerThread.checkParameter s.periodSize s.sampleFrequency c.basePeriod c.baseFreq then
    { mClockDomain := clockDomain, mAlsaPeriodSize := c.basePeriod,
      mSampleFrequency := c.baseFreq }
  else
    { mClockDomain := clockDomain, mAlsaPeriodSize := s.periodSize,
      mSampleFrequency := s.sampleFrequency }

/-- `init` of a new worker thread. -/
def initWorker (c : AlsaConfig) (k : Nat) (r : AlsaRequest) (o : AlsaOutcome) :
    Option IasAlsaWorkerThread × IasAvbProcessingResult :=
  match r.clockDomain with
  | none => (none, eIasAvbProcInvalidParam)
  | some clockDomain =>
      match (newWorker c r.stream clockDomain).addAlsaStream k r.stream with
      | (d, eIasAvbProcOK) => (some d, o.workerInit)
      | (_, result) => (none, result)

/-- `assignToWorkerThread`. A new worker thread that does not start stays in the list. -/
def assignToWorkerThread (c : AlsaConfig) (w : IasAlsaEngine) (k : Nat) (r : AlsaRequest)
    (o : AlsaOutcome) : IasAlsaEngine × IasAvbProcessingResult :=
  if r.stream.periodSize = 0 ∨ r.stream.sampleFrequency = 0 then (w, eIasAvbProcInvalidParam)
  else
    match w.matchingWorker r with
    | some t =>
        (w.setWorker t ((w.worker t).addAlsaStream k r.stream).1,
          ((w.worker t).addAlsaStream k r.stream).2)
    | none =>
        if o.workerMemory = false then (w, eIasAvbProcNotEnoughMemory)
        else
          match initWorker c k r o with
          | (some d, eIasAvbProcOK) =>
              (w.pushWorker d, if w.mIsStarted then o.workerStart else eIasAvbProcOK)
          | (_, result) => (w, result)

/-- `getWorkerThread`: the first one with a stream of that id. -/
def getWorkerThread (w : IasAlsaEngine) (streamId : UInt16) : Option Nat :=
  w.mWorkerThreads.find? fun t => (w.worker t).mAlsaStreams.any fun k =>
    (w.streams k).any fun s => s.streamId == streamId

/-- `removeFromWorkerThread`, and the thread with its last stream. -/
def removeFromWorkerThread (w : IasAlsaEngine) (k : Nat) (s : AlsaStream) :
    IasAlsaEngine × IasAvbProcessingResult :=
  match w.getWorkerThread s.streamId with
  | none => (w, eIasAvbProcErr)
  | some t =>
      if k ∈ (w.worker t).mAlsaStreams then
        let rest := (w.worker t).mAlsaStreams.erase k
        let w := w.setWorker t { w.worker t with mAlsaStreams := rest }
        (if rest = [] then w.eraseWorker t else w, eIasAvbProcOK)
      else (w, eIasAvbProcErr)

/-! ## The calls -/

/-- The name is found within that of a stream in the same map. -/
def deviceNameInUse (w : IasAlsaEngine) (s : AlsaStream) : Bool :=
  (w.streamMap s.isHw).entries.any fun e =>
    (w.streams e.2).any fun s' => stringFind s'.getDeviceName s.fullDeviceName

def createAlsaStream (c : AlsaConfig) (w : IasAlsaEngine) (r : AlsaRequest) (o : AlsaOutcome) :
    IasAlsaEngine × IasAvbProcessingResult :=
  if w.mIsInitialized = false then (w, eIasAvbProcNotInitialized)
  else if ((w.streamMap r.stream.isHw).lookup r.stream.streamId).isSome then
    (w, eIasAvbProcInvalidParam)
  else if w.deviceNameInUse r.stream then (w, eIasAvbProcInvalidParam)
  else if o.memory = false then (w, eIasAvbProcNotEnoughMemory)
  else
    let k := w.allocated
    let result := r.stream.init o.init
    if result ≠ eIasAvbProcOK then ((w.newStream r.stream).setStream k none, result)
    else
      match assignToWorkerThread c (w.newStream r.stream) k r o with
      | (w, eIasAvbProcOK) =>
          (w.setMap r.stream.isHw ((w.streamMap r.stream.isHw).insert r.stream.streamId k),
            eIasAvbProcOK)
      | (w, result) => ((w.setStream k none).useDeleted r.stream.isHw, result)

/-- A stream that was found in one of the maps. -/
def destroyFound (w : IasAlsaEngine) (hw : Bool) (streamId : UInt16) (k : Nat) :
    IasAlsaEngine × IasAvbProcessingResult :=
  match w.streams k with
  | none => (w.useDeleted true, eIasAvbProcErr)
  | some s =>
      if s.connected then (w, eIasAvbProcAlreadyInUse)
      else
        match w.removeFromWorkerThread k s with
        | (w, eIasAvbProcOK) =>
            ((w.setMap hw ((w.streamMap hw).erase streamId)).setStream k none, eIasAvbProcOK)
        | (w, result) => (w, result)

def destroyAlsaStream (w : IasAlsaEngine) (streamId : UInt16) :
    IasAlsaEngine × IasAvbProcessingResult :=
  if w.mIsInitialized = false then (w, eIasAvbProcNotInitialized)
  else
    match w.mAlsaHwDevStreams.lookup streamId with
    | some k => w.destroyFound true streamId k
    | none =>
        match w.mAlsaViDevStreams.lookup streamId with
        | some k => w.destroyFound false streamId k
        | none => (w, eIasAvbProcInvalidParam)

/-- `getLocalAudioStream`. -/
def getLocalAudioStream (w : IasAlsaEngine) (streamId : UInt16) : Option Nat :=
  (w.mAlsaHwDevStreams.lookup streamId).or (w.mAlsaViDevStreams.lookup streamId)

def init (w : IasAlsaEngine) : IasAlsaEngine × IasAvbProcessingResult :=
  if w.mIsInitialized then (w, eIasAvbProcInitializationFailed)
  else
    ({ w with
      mAlsaViDevStreams := ∅
      mAlsaHwDevStreams := ∅
      mWorkerThreads := []
      mIsInitialized := true }, eIasAvbProcOK)

/-- `start`. Whether the worker threads start is not asked. -/
def start (w : IasAlsaEngine) : IasAlsaEngine × IasAvbProcessingResult :=
  if w.mIsInitialized then ({ w with mIsStarted := true }, eIasAvbProcOK)
  else (w, eIasAvbProcNotInitialized)

def stop (w : IasAlsaEngine) : IasAlsaEngine × IasAvbProcessingResult :=
  if w.mIsInitialized then ({ w with mIsStarted := false }, eIasAvbProcOK)
  else (w, eIasAvbProcNotInitialized)

def setConnected (w : IasAlsaEngine) (k : Nat) (connected : Bool) : IasAlsaEngine :=
  w.setStream k ((w.streams k).map fun s => { s with connected := connected })

def step (c : AlsaConfig) (w : IasAlsaEngine) : AlsaEvent → IasAlsaEngine
  | .init => w.init.1
  | .createAlsaStream request outcome => (createAlsaStream c w request outcome).1
  | .destroyAlsaStream streamId => (w.destroyAlsaStream streamId).1
  | .setConnected k connected => w.setConnected k connected
  | .start => w.start.1
  | .stop => w.stop.1

end IasAlsaEngine

end AvbStreamHandler
