import AvbStreamHandler.Control.HandlerEngines
import AvbStreamHandler.Control.LocalStreamCalls
import AvbStreamHandler.Kit.Mutex

/-!
# The stream handler

The API of `IasAvbStreamHandler`. A call checks its arguments, makes an engine if none is there
yet, asks it for a stream, and goes on with the stream: a transmit stream may be activated, a
clock domain may be derived from a receive stream, and a clock may be recovered from that. Each
of these steps can fail.

The calls take the API mutex as soon as it is enabled, which is when the handler has been
initialised; those that create a clock reference stream, derive a clock domain or set up a clock
recovery do not. What a call does with the mutex is noted.

The engines are those of `HandlerEngines`; local streams, the ALSA engine and the video interface
are kept as in `LocalStreams`, whose two flags are the state of the handler.
-/

namespace AvbStreamHandler

open Kit Kit.Mutex IasAvbProcessingResult

inductive IasAvbResult
  | eIasAvbResultOk
  | eIasAvbResultErr
  | eIasAvbResultNotImplemented
  | eIasAvbResultNotSupported
  | eIasAvbResultInvalidParam
deriving DecidableEq, Repr

def mapResultCode : IasAvbProcessingResult → IasAvbResult
  | eIasAvbProcOK => .eIasAvbResultOk
  | eIasAvbProcUnsupportedFormat => .eIasAvbResultNotSupported
  | eIasAvbProcNotImplemented => .eIasAvbResultNotImplemented
  | _ => .eIasAvbResultErr

inductive IasAvbIdAssignMode
  | eIasAvbIdAssignModeStatic
  | eIasAvbIdAssignModeDynamicAll
  | eIasAvbIdAssignModeDynamicMaap
  | eIasAvbIdAssignModeDynamicSrp
deriving DecidableEq, Repr

def cIasAvbPtpClockDomainId : UInt32 := 0
def cIasAvbHwCaptureClockDomainId : UInt32 := 16
def cIasAvbRawClockDomainId : UInt32 := 33
def cRxClockDomainIdStart : UInt32 := 1000

inductive ClockDomain
  | ptp
  | raw
  | hwCapture
  /-- Derived from a receive stream. -/
  | rxStream (streamId : Nat)
deriving DecidableEq, Repr

/-- What the registry says. -/
structure HandlerConfig where
  alsa : AlsaConfig := {}
  receive : ReceiveConfig := {}
  /-- Whether there is a hardware capture clock, that is, a frequency for it. -/
  clockHwCap : Bool := false
  /-- `cClkRecoverFrom`, if it is configured. -/
  clkRecoverFrom : Option Nat := none
  /-- `cClkRecoverUsing`, if it is configured. -/
  clkRecoverUsing : Option UInt32 := none
  apiMutex : Bool := true

structure IasAvbStreamHandler where
  locals : LocalStreams := {}
  /-- `mRunning` of the video interface. -/
  videoRunning : Bool := false
  mAvbTransmitEngine : Option IasAvbTransmitEngine := none
  mAvbReceiveEngine : Option IasAvbReceiver := none
  mAvbClockDomains : AList fun _ : UInt32 => ClockDomain := ∅
  mNextClockDomainId : UInt32 := cRxClockDomainIdStart
  /-- The master and the slave of each, by their ids. -/
  mClockControllers : List (UInt32 × UInt32) := []
  mApiMutexEnable : Bool := false

/-- What the creation of an engine comes across. -/
structure EngineOutcome where
  memory : Bool := true
  init : IasAvbProcessingResult := eIasAvbProcOK
  registerEventInterface : IasAvbProcessingResult := eIasAvbProcOK
  /-- Only asked for if the handler is started. -/
  start : IasAvbProcessingResult := eIasAvbProcOK

/-- What a clock domain derived from a stream and a clock controller come across. -/
structure RecoveryOutcome where
  domainMemory : Bool := true
  hookClockDomain : IasAvbProcessingResult := eIasAvbProcOK
  controllerMemory : Bool := true
  controllerInit : IasAvbProcessingResult := eIasAvbProcOK

/-- The arguments of a call that creates a transmit stream, but for those of the stream. -/
structure TransmitRequest where
  streamId : Nat
  srClass : IasAvbSrClass
  clockId : UInt32
  assignMode : IasAvbIdAssignMode := .eIasAvbIdAssignModeStatic
  active : Bool

/-- What `start` comes across. -/
structure StartOutcome where
  /-- Of the network device, of PTP and of the clock driver, on a resume from suspend. -/
  resume : IasAvbProcessingResult := eIasAvbProcOK
  sequencers : IasAvbSrClass → Bool := fun _ => true
  receive : IasAvbProcessingResult := eIasAvbProcOK

/-- A call that has returned, and what it did with the API mutex. -/
structure Called (ρ : Type) where
  handler : IasAvbStreamHandler
  result : ρ
  mutex : List Op := []

namespace IasAvbStreamHandler

def isInitialized (h : IasAvbStreamHandler) : Bool := h.locals.initialized

def isStarted (h : IasAvbStreamHandler) : Bool := h.locals.started

/-- Between `lockApiMutex` and `unlockApiMutex`. -/
def guard (h : IasAvbStreamHandler) (ops : List Op) : List Op :=
  if h.mApiMutexEnable then guarded ops else ops

def setReceive (h : IasAvbStreamHandler) (r : IasAvbReceiver) : IasAvbStreamHandler :=
  { h with mAvbReceiveEngine := some r }

def setTransmit (h : IasAvbStreamHandler) (e : IasAvbTransmitEngine) : IasAvbStreamHandler :=
  { h with mAvbTransmitEngine := some e }

/-! ## Engines on demand -/

/-- `createReceiveEngine`, which the calls for audio and video streams spell out. -/
def createReceiveEngine (h : IasAvbStreamHandler) (o : EngineOutcome) :
    IasAvbStreamHandler × IasAvbProcessingResult :=
  match h.mAvbReceiveEngine with
  | some _ => (h, eIasAvbProcOK)
  | none =>
      if o.memory = false then (h, eIasAvbProcNotEnoughMemory)
      else if o.init ≠ eIasAvbProcOK then (h, o.init)
      else if o.registerEventInterface ≠ eIasAvbProcOK then (h, o.registerEventInterface)
      else if h.isStarted = true ∧ o.start ≠ eIasAvbProcOK then (h, o.start)
      else (h.setReceive { running := h.isStarted }, eIasAvbProcOK)

/-- `createTransmitEngine`. Without sequencers there is nothing that could fail to start. -/
def createTransmitEngine (h : IasAvbStreamHandler) (o : EngineOutcome) :
    IasAvbStreamHandler × IasAvbProcessingResult :=
  match h.mAvbTransmitEngine with
  | some _ => (h, eIasAvbProcOK)
  | none =>
      if o.memory = false then (h, eIasAvbProcNotEnoughMemory)
      else if o.init ≠ eIasAvbProcOK then (h, o.init)
      else if o.registerEventInterface ≠ eIasAvbProcOK then (h, o.registerEventInterface)
      else (h.setTransmit { mRunning := h.isStarted }, eIasAvbProcOK)

/-! ## Clock domains -/

/-- The loop over the ids that are in use; it ends at zero if there are no more. -/
def skipUsed (m : AList fun _ : UInt32 => ClockDomain) : Nat → UInt32 → UInt32
  | 0, id => id
  | n + 1, id => if (m.lookup id).isSome ∧ id ≠ 0 then skipUsed m n (id + 1) else id

def nextClockDomainId (h : IasAvbStreamHandler) : UInt32 :=
  skipUsed h.mAvbClockDomains 4294967296 h.mNextClockDomainId

/-- What `deriveClockDomainFromRxStream` returns, the id by reference. -/
structure Derived where
  handler : IasAvbStreamHandler
  clockId : UInt32
  result : IasAvbResult

def deriveClockDomainFromRxStream (h : IasAvbStreamHandler) (rxStreamId : Nat)
    (clockId : UInt32) (o : RecoveryOutcome) : Derived :=
  if h.isInitialized = false then ⟨h, clockId, .eIasAvbResultErr⟩
  else if clockId ≠ 0 ∧ (h.mAvbClockDomains.lookup clockId).isSome then
    ⟨h, clockId, .eIasAvbResultErr⟩
  else
    let h := if clockId = 0 then { h with mNextClockDomainId := h.nextClockDomainId } else h
    let clockId := if clockId = 0 then h.mNextClockDomainId else clockId
    if clockId = 0 then ⟨h, clockId, .eIasAvbResultErr⟩
    else if (h.mAvbReceiveEngine.bind fun r => r.engine.index rxStreamId).isNone then
      ⟨h, clockId, .eIasAvbResultErr⟩
    else if o.domainMemory = false then ⟨h, clockId, .eIasAvbResultErr⟩
    else if o.hookClockDomain ≠ eIasAvbProcOK then ⟨h, clockId, mapResultCode o.hookClockDomain⟩
    else
      ⟨{ h with mAvbClockDomains := h.mAvbClockDomains.insert clockId (.rxStream rxStreamId) },
        clockId, .eIasAvbResultOk⟩

def setClockRecoveryParams (h : IasAvbStreamHandler) (masterClockId slaveClockId : UInt32)
    (o : RecoveryOutcome) : IasAvbStreamHandler × IasAvbResult :=
  if h.isInitialized = false then (h, .eIasAvbResultErr)
  else if (h.mAvbClockDomains.lookup masterClockId).isNone
      ∨ (h.mAvbClockDomains.lookup slaveClockId).isNone then (h, .eIasAvbResultInvalidParam)
  else if o.controllerMemory = false then (h, .eIasAvbResultErr)
  else if o.controllerInit ≠ eIasAvbProcOK then (h, .eIasAvbResultErr)
  else
    ({ h with mClockControllers := h.mClockControllers ++ [(masterClockId, slaveClockId)] },
      .eIasAvbResultOk)

/-- The clock that is to follow a recovered one. -/
def slaveClockId (c : HandlerConfig) : UInt32 :=
  c.clkRecoverUsing.getD cIasAvbHwCaptureClockDomainId

/-! ## Receive streams -/

/-- The engine, and a stream of it. -/
def createReceived (h : IasAvbStreamHandler) (streamId : Nat) (destMacAddr : IasAvbMacAddress)
    (engine : EngineOutcome) (o : ReceiveOutcome) :
    IasAvbStreamHandler × IasAvbProcessingResult :=
  match h.createReceiveEngine engine with
  | (h, eIasAvbProcOK) =>
      match h.mAvbReceiveEngine with
      -- asserted not to happen
      | none => (h, eIasAvbProcNullPointerAccess)
      | some r =>
          let created := r.createReceiveStream streamId destMacAddr o
          (h.setReceive created.1, created.2)
  | (h, result) => (h, result)

/-- The clock recovery that the configuration may ask for with a new audio stream. -/
def recoverFromAudio (c : HandlerConfig) (h : IasAvbStreamHandler) (streamId : Nat)
    (o : RecoveryOutcome) : IasAvbStreamHandler × IasAvbProcessingResult :=
  if c.clkRecoverFrom = some streamId then
    let derived := h.deriveClockDomainFromRxStream streamId 0 o
    let (h, res) :=
      if derived.result = .eIasAvbResultOk then
        derived.handler.setClockRecoveryParams derived.clockId (slaveClockId c) o
      else (derived.handler, derived.result)
    (h, if res = .eIasAvbResultOk then eIasAvbProcOK else eIasAvbProcErr)
  else (h, eIasAvbProcOK)

def createReceiveAudioStream (c : HandlerConfig) (h : IasAvbStreamHandler)
    (maxNumberChannels : UInt16) (streamId : Nat) (destMacAddr : IasAvbMacAddress)
    (engine : EngineOutcome) (o : ReceiveOutcome) (recovery : RecoveryOutcome) :
    Called IasAvbResult :=
  let created :=
    if h.isInitialized = false then (h, eIasAvbProcNotInitialized)
    else if cIasAvbMaxNumChannels < maxNumberChannels then (h, eIasAvbProcErr)
    else h.createReceived streamId destMacAddr engine o
  let done :=
    if created.2 = eIasAvbProcOK then recoverFromAudio c created.1 streamId recovery else created
  { handler := done.1, result := mapResultCode done.2, mutex := h.guard [] }

def createReceiveVideoStream (h : IasAvbStreamHandler) (streamId : Nat)
    (destMacAddr : IasAvbMacAddress) (engine : EngineOutcome) (o : ReceiveOutcome) :
    Called IasAvbResult :=
  let created :=
    if h.isInitialized = false then (h, eIasAvbProcNotInitialized)
    else h.createReceived streamId destMacAddr engine o
  { handler := created.1, result := mapResultCode created.2, mutex := h.guard [] }

/-- What follows a new clock reference stream: its clock domain, and the clock recovery that the
configuration may ask for. -/
def recoverFromReference (c : HandlerConfig) (h : IasAvbStreamHandler) (streamId : Nat)
    (clockId : UInt32) (o : RecoveryOutcome) : IasAvbStreamHandler × IasAvbResult :=
  let derived := h.deriveClockDomainFromRxStream streamId clockId o
  if derived.result = .eIasAvbResultOk ∧ c.clkRecoverFrom = some streamId then
    derived.handler.setClockRecoveryParams derived.clockId (slaveClockId c) o
  else (derived.handler, derived.result)

/-- The API mutex is not taken. -/
def createReceiveClockReferenceStream (c : HandlerConfig) (h : IasAvbStreamHandler)
    (streamId : Nat) (destMacAddr : IasAvbMacAddress) (clockId : UInt32) (engine : EngineOutcome)
    (o : ReceiveOutcome) (recovery : RecoveryOutcome) : Called IasAvbResult :=
  let created :=
    if h.isInitialized = false then (h, eIasAvbProcNotInitialized)
    else h.createReceived streamId destMacAddr engine o
  let done :=
    if mapResultCode created.2 = .eIasAvbResultOk then
      recoverFromReference c created.1 streamId clockId recovery
    else (created.1, mapResultCode created.2)
  { handler := done.1, result := done.2 }

/-! ## Transmit streams -/

/-- The clock and the way to assign ids are checked, then the engine is asked. -/
def createTransmitted (h : IasAvbStreamHandler) (q : TransmitRequest) (o : TransmitOutcome) :
    IasAvbStreamHandler × IasAvbProcessingResult :=
  if (h.mAvbClockDomains.lookup q.clockId).isNone then (h, eIasAvbProcInvalidParam)
  else if q.assignMode ≠ .eIasAvbIdAssignModeStatic then (h, eIasAvbProcNotImplemented)
  else
    match h.mAvbTransmitEngine with
    -- asserted not to happen
    | none => (h, eIasAvbProcNullPointerAccess)
    | some e =>
        let created := e.createTransmitStream q.streamId q.srClass o
        (h.setTransmit created.1, created.2)

/-- A stream that cannot be activated is destroyed. It is inactive, so that nothing has to be
removed from a transmit list. -/
def activateCreated (h : IasAvbStreamHandler) (q : TransmitRequest) (o : TransmitOutcome) :
    IasAvbStreamHandler × IasAvbProcessingResult :=
  match h.mAvbTransmitEngine with
  | none => (h, eIasAvbProcNullPointerAccess)
  | some e =>
      match e.activateAvbStream q.streamId o.addition with
      | (e, eIasAvbProcOK) => (h.setTransmit e, eIasAvbProcOK)
      | (e, result) => (h.setTransmit (e.destroyAvbStream q.streamId eIasAvbProcOK).1, result)

/-- What the three calls that create a transmit stream have in common, after `check`. -/
def createTransmitStream (h : IasAvbStreamHandler) (check : IasAvbProcessingResult)
    (q : TransmitRequest) (engine : EngineOutcome) (o : TransmitOutcome) :
    IasAvbStreamHandler × IasAvbProcessingResult :=
  if h.isInitialized = false then (h, eIasAvbProcNotInitialized)
  else if check ≠ eIasAvbProcOK then (h, check)
  else
    match h.createTransmitEngine engine with
    | (h, eIasAvbProcOK) =>
        match h.createTransmitted q o with
        | (h, eIasAvbProcOK) => if q.active then h.activateCreated q o else (h, eIasAvbProcOK)
        | (h, result) => (h, result)
    | (h, result) => (h, result)

def createTransmitAudioStream (h : IasAvbStreamHandler) (maxNumberChannels : UInt16)
    (q : TransmitRequest) (engine : EngineOutcome) (o : TransmitOutcome) : Called IasAvbResult :=
  let check :=
    if cIasAvbMaxNumChannels < maxNumberChannels then eIasAvbProcErr else eIasAvbProcOK
  let done := h.createTransmitStream check q engine o
  { handler := done.1, result := mapResultCode done.2, mutex := h.guard [] }

def createTransmitVideoStream (h : IasAvbStreamHandler) (q : TransmitRequest)
    (engine : EngineOutcome) (o : TransmitOutcome) : Called IasAvbResult :=
  let done := h.createTransmitStream eIasAvbProcOK q engine o
  { handler := done.1, result := mapResultCode done.2, mutex := h.guard [] }

/-- The API mutex is not taken. -/
def createTransmitClockReferenceStream (h : IasAvbStreamHandler) (q : TransmitRequest)
    (engine : EngineOutcome) (o : TransmitOutcome) : Called IasAvbResult :=
  let done := h.createTransmitStream eIasAvbProcOK q engine o
  { handler := done.1, result := mapResultCode done.2 }

/-- The transmit engine is asked first. -/
def destroyStream (h : IasAvbStreamHandler) (streamId : Nat) (removal : IasAvbProcessingResult) :
    Called IasAvbResult :=
  let transmit :=
    match h.isInitialized, h.mAvbTransmitEngine with
    | true, some e =>
        let r := e.destroyAvbStream streamId removal
        (h.setTransmit r.1, r.2)
    | _, _ => (h, eIasAvbProcNotInitialized)
  let done :=
    match transmit.2, h.isInitialized, h.mAvbReceiveEngine with
    | eIasAvbProcOK, _, _ => transmit
    | _, true, some r =>
        let destroyed := r.destroyAvbStream streamId
        (transmit.1.setReceive destroyed.1, destroyed.2)
    | _, _, _ => transmit
  { handler := done.1, result := mapResultCode done.2, mutex := h.guard [] }

def setStreamActive (h : IasAvbStreamHandler) (streamId : Nat) (active : Bool)
    (outcome : IasAvbProcessingResult) : Called IasAvbResult :=
  let done :=
    match h.isInitialized, h.mAvbTransmitEngine with
    | true, some e =>
        let r :=
          if active then e.activateAvbStream streamId outcome
          else e.deactivateAvbStream streamId outcome
        (h.setTransmit r.1, r.2)
    | _, _ => (h, eIasAvbProcNotInitialized)
  { handler := done.1, result := mapResultCode done.2, mutex := h.guard [] }

/-! ## Local streams -/

/-- `stream` holds the arguments for the stream; its clock is looked up here. -/
def createAlsaStream (c : HandlerConfig) (h : IasAvbStreamHandler)
    (streamId numberOfChannels : UInt16) (clockId : UInt32) (stream : AlsaStream)
    (engineMemory : Bool) (o : AlsaOutcome) : Called IasAvbResult :=
  let request : AlsaRequest := {
    stream := stream
    clockDomain := (h.mAvbClockDomains.lookup clockId).map fun _ => clockId.toNat }
  let created :=
    LocalStreams.createAlsaStream c.alsa h.locals streamId numberOfChannels request engineMemory o
  { handler := { h with locals := created.1 }
    result := mapResultCode created.2.result
    mutex := h.guard [] }

def createTestToneStream (h : IasAvbStreamHandler) (streamId : UInt16)
    (format : IasAvbAudioFormat) (memory : Bool) (init : IasAvbProcessingResult) :
    Called IasAvbResult :=
  let created := h.locals.createTestToneStream streamId format memory init
  { handler := { h with locals := created.1 }
    result := mapResultCode created.2.result
    mutex := h.guard [] }

/-- A new video interface is started at once. One that is stopped creates no stream. -/
def createLocalVideoStream (h : IasAvbStreamHandler) (streamId : UInt16)
    (direction : IasAvbStreamDirection) (interfaceMemory memory : Bool)
    (init : IasAvbProcessingResult) : Called IasAvbResult :=
  let running := h.locals.mVideoStreamInterface.isNone || h.videoRunning
  let created :=
    h.locals.createLocalVideoStream streamId direction interfaceMemory (!running || memory)
      (if running then init else eIasAvbProcNotInitialized)
  { handler := { h with
      locals := created.1
      videoRunning :=
        if h.locals.mVideoStreamInterface.isNone then created.1.mVideoStreamInterface.isSome
        else h.videoRunning }
    result := mapResultCode created.2.result
    mutex := h.guard [] }

def destroyLocalStream (h : IasAvbStreamHandler) (streamId : UInt16) : Called IasAvbResult :=
  let destroyed := h.locals.destroyLocalStream streamId
  { handler := { h with locals := destroyed.1 }
    result := mapResultCode destroyed.2
    mutex := h.guard [] }

/-! ## Starting and stopping -/

def stop (h : IasAvbStreamHandler) (suspend : Bool) (driver : Bool) :
    Called IasAvbProcessingResult :=
  if h.isInitialized = false then
    { handler := h, result := eIasAvbProcNotInitialized, mutex := h.guard [] }
  else if h.isStarted = false then
    { handler := h, result := eIasAvbProcOK, mutex := h.guard [] }
  else
    { handler := { h with
        videoRunning := h.videoRunning && suspend
        locals := { h.locals with
          mAlsaEngine := h.locals.mAlsaEngine.map fun e => e.stop.1
          started := false }
        mAvbTransmitEngine := h.mAvbTransmitEngine.map fun e => e.stop
        mAvbReceiveEngine := h.mAvbReceiveEngine.map fun r => r.stop }
      result := if suspend = true ∧ driver = false then eIasAvbProcInitializationFailed
        else eIasAvbProcOK
      mutex := h.guard [] }

def startTransmit (h : IasAvbStreamHandler) (o : StartOutcome) :
    IasAvbStreamHandler × IasAvbProcessingResult :=
  match h.mAvbTransmitEngine with
  | none => (h, eIasAvbProcOK)
  | some e => (h.setTransmit (e.start o.sequencers).1, (e.start o.sequencers).2)

def startReceive (h : IasAvbStreamHandler) (o : StartOutcome) :
    IasAvbStreamHandler × IasAvbProcessingResult :=
  match h.mAvbReceiveEngine with
  | none => (h, eIasAvbProcOK)
  | some r => (h.setReceive (r.start o.receive).1, (r.start o.receive).2)

def startAlsa (h : IasAvbStreamHandler) : IasAvbStreamHandler × IasAvbProcessingResult :=
  match h.locals.mAlsaEngine with
  | none => (h, eIasAvbProcOK)
  | some e =>
      ({ h with locals := { h.locals with mAlsaEngine := some e.start.1 } }, e.start.2)

/-- One engine after the other, as long as there is no error. -/
def startEngines (h : IasAvbStreamHandler) (o : StartOutcome) :
    IasAvbStreamHandler × IasAvbProcessingResult :=
  match h.startTransmit o with
  | (h, eIasAvbProcOK) =>
      match h.startReceive o with
      | (h, eIasAvbProcOK) => h.startAlsa
      | (h, result) => (h, result)
  | (h, result) => (h, result)

/-- After an error `stop` is called, with the mutex held and the state unchanged. -/
def start (h : IasAvbStreamHandler) (resume : Bool) (o : StartOutcome) :
    Called IasAvbProcessingResult :=
  if h.isInitialized = false then
    { handler := h, result := eIasAvbProcNotInitialized, mutex := h.guard [] }
  else if h.isStarted then { handler := h, result := eIasAvbProcOK, mutex := h.guard [] }
  else
    let engines :=
      if resume = true ∧ o.resume ≠ eIasAvbProcOK then (h, o.resume) else h.startEngines o
    if engines.2 = eIasAvbProcOK then
      { handler :=
          { engines.1 with locals := { engines.1.locals with started := true } }
        result := eIasAvbProcOK
        mutex := h.guard [] }
    else
      let stopped := engines.1.stop false true
      { handler := stopped.handler, result := engines.2, mutex := h.guard stopped.mutex }

/-! ## Initialisation -/

/-- `cleanup`: everything is stopped and deleted. What is left are the numbers for the next ids,
and what is known about the mutex. -/
def cleanup (h : IasAvbStreamHandler) : Called Unit :=
  { handler := {
      locals := {
        mNextLocalStreamId := h.locals.mNextLocalStreamId
        allocated := h.locals.allocated }
      mNextClockDomainId := h.mNextClockDomainId
      mApiMutexEnable := h.mApiMutexEnable }
    result := ()
    mutex := (h.stop false true).mutex }

/-- The clock domains there are without any stream. -/
def addClockDomains (c : HandlerConfig) (m : AList fun _ : UInt32 => ClockDomain) :
    AList fun _ : UInt32 => ClockDomain :=
  let m := (m.insert cIasAvbPtpClockDomainId .ptp).insert cIasAvbRawClockDomainId .raw
  if c.clockHwCap then m.insert cIasAvbHwCaptureClockDomainId .hwCapture else m

/-- `init`, as far as `config.setup`, which uses the calls above. Before that, `result` tells
what all the steps come to. -/
def init (c : HandlerConfig) (h : IasAvbStreamHandler) (result : IasAvbProcessingResult) :
    Called IasAvbProcessingResult :=
  if h.isInitialized then { handler := h, result := eIasAvbProcAlreadyInUse }
  else if result ≠ eIasAvbProcOK then { h.cleanup with result := result }
  else
    { handler := { h with
        locals := { h.locals with initialized := true }
        mAvbClockDomains := addClockDomains c h.mAvbClockDomains }
      result := eIasAvbProcOK }

/-- It is called once `init` has gone well. The mutex is taken for it in any case. -/
def activateMutexHandling (c : HandlerConfig) (h : IasAvbStreamHandler) : Called Unit :=
  { handler := { h with mApiMutexEnable := c.apiMutex }, result := (), mutex := guarded [] }

end IasAvbStreamHandler

end AvbStreamHandler
