import AvbStreamHandler.Config.CommandLine
import AvbStreamHandler.Kit.Script

/-!
# Setting up the streams

`IasAvbConfigurationBase::setup` goes through the tables and asks the stream handler for one
stream after the other, and then for their connections. It ends at the first error. In between it
sets up the clock recovery; what goes wrong there is reported, but nothing depends on it, and it is
tried also after a stream could not be created.

The stream handler is what is behind `IasAvbStreamHandlerInterface`, whatever that is. Ids and
addresses that are handed over by reference come back as they were, but for the ids of local
streams, which are not looked at again, and for those of clocks.
-/

namespace AvbStreamHandler

open Kit.Script ContinueStatus

/-- The calls of the interface that `setup` makes, with their arguments. -/
inductive SetupCall
  | createTestToneStream (numberOfChannels : UInt16) (sampleFreq : UInt32)
      (format : IasAvbAudioFormat) (channelLayout : UInt8) (streamId : UInt16)
  | setTestToneParams (localStreamId channel : UInt16) (signalFrequency : UInt32) (level : Int)
      (mode : IasAvbTestToneMode) (userParam : Int)
  | createReceiveClockReferenceStream (srClass : IasAvbSrClass)
      (type : IasAvbClockReferenceStreamType) (maxCrfStampsPerPdu : UInt16)
      (streamId dmac : UInt64) (clockId : UInt32)
  | createTransmitClockReferenceStream (srClass : IasAvbSrClass)
      (type : IasAvbClockReferenceStreamType) (crfStampsPerPdu crfStampInterval : UInt16)
      (baseFreq : UInt32) (pull : IasAvbClockMultiplier) (clockId : UInt32)
      (assignMode : IasAvbIdAssignMode) (streamId dmac : UInt64) (active : Bool)
  | createReceiveAudioStream (srClass : IasAvbSrClass) (maxNumberChannels : UInt16)
      (sampleFreq : UInt32) (streamId destMacAddr : UInt64)
  | createTransmitAudioStream (srClass : IasAvbSrClass) (maxNumberChannels : UInt16)
      (sampleFreq : UInt32) (format : IasAvbAudioFormat) (clockId : UInt32)
      (assignMode : IasAvbIdAssignMode) (streamId destMacAddr : UInt64) (active : Bool)
  | createReceiveVideoStream (srClass : IasAvbSrClass) (maxPacketRate maxPacketSize : UInt16)
      (format : IasAvbVideoFormat) (streamId destMacAddr : UInt64)
  | createTransmitVideoStream (srClass : IasAvbSrClass) (maxPacketRate maxPacketSize : UInt16)
      (format : IasAvbVideoFormat) (clockId : UInt32) (assignMode : IasAvbIdAssignMode)
      (streamId dmac : UInt64) (active : Bool)
  | createAlsaStream (direction : IasAvbStreamDirection) (numberOfChannels : UInt16)
      (sampleFreq : UInt32) (format : IasAvbAudioFormat) (clockId periodSize numPeriods : UInt32)
      (channelLayout : UInt8) (hasSideChannel : Bool) (deviceName : String) (streamId : UInt16)
      (alsaDeviceType : IasAlsaDeviceTypes) (sampleFreqASRC : UInt32)
  | createLocalVideoStream (direction : IasAvbStreamDirection)
      (maxPacketRate maxPacketSize : UInt16) (format : IasAvbVideoFormat) (ipcName : String)
      (streamId : UInt16)
  | deriveClockDomainFromRxStream (rxStreamId : UInt64) (clockId : UInt32)
  | setClockRecoveryParams (masterClockId slaveClockId driverId : UInt32)
  | connectStreams (networkStreamId : UInt64) (localStreamId : UInt16)
deriving DecidableEq

/-- A call that is made for the clock recovery. -/
def SetupCall.isRecovery : SetupCall → Bool
  | .deriveClockDomainFromRxStream .. => true
  | .setClockRecoveryParams .. => true
  | _ => false

/-- What a call returns, the id of a clock by reference. -/
structure Reply (σ : Type) where
  handler : σ
  result : IasAvbResult
  clockId : UInt32 := 0

/-- A stream handler, and what a derived class makes of it before and after the streams. -/
structure SetupTarget (σ : Type) where
  call : SetupCall → σ → Reply σ
  preSetup : σ → σ × ContinueStatus := fun h => (h, eContinue)
  postSetup : σ → σ × ContinueStatus := fun h => (h, eContinue)

/-! ## What is asked for -/

def srClassOf (c : Char) : IasAvbSrClass :=
  if c = 'H' then .eIasAvbSrClassHigh else .eIasAvbSrClassLow

def StreamParamsTestTone.creation (e : StreamParamsTestTone) : SetupCall :=
  .createTestToneStream e.numberOfChannels e.sampleFreq e.format e.channelLayout e.streamId

/-- The stream is the one of the table, also if the handler has chosen another id. -/
def StreamParamsTestTone.tone (e : StreamParamsTestTone) (p : TestToneParams) : SetupCall :=
  .setTestToneParams e.streamId p.channel p.signalFrequency p.level p.mode p.userParam

def StreamParamsAvbClockReferenceRx.creation (e : StreamParamsAvbClockReferenceRx) : SetupCall :=
  .createReceiveClockReferenceStream (srClassOf e.srClass) e.type e.maxCrfStampsPerPdu e.streamId
    e.dMac e.clockId

def StreamParamsAvbClockReferenceTx.creation (e : StreamParamsAvbClockReferenceTx) : SetupCall :=
  .createTransmitClockReferenceStream (srClassOf e.srClass) .eIasAvbCrsTypeAudio
    e.crfStampsPerPdu e.crfStampInterval e.baseFreq e.pull e.clockId e.assignMode e.streamId
    e.dMac e.activate

def StreamParamsAvbRx.creation (e : StreamParamsAvbRx) : SetupCall :=
  .createReceiveAudioStream (srClassOf e.srClass) e.maxNumChannels e.sampleFreq e.streamId e.dMac

def StreamParamsAvbTx.creation (e : StreamParamsAvbTx) : SetupCall :=
  .createTransmitAudioStream (srClassOf e.srClass) e.maxNumChannels e.sampleFreq
    .eIasAvbAudioFormatSaf16 e.clockId .eIasAvbIdAssignModeStatic e.streamId e.dMac e.activate

def StreamParamsAvbVideoRx.creation (e : StreamParamsAvbVideoRx) : SetupCall :=
  .createReceiveVideoStream (srClassOf e.srClass) e.maxPacketRate e.maxPacketSize.toUInt16
    e.format e.streamId e.dMac

def StreamParamsAvbVideoTx.creation (e : StreamParamsAvbVideoTx) : SetupCall :=
  .createTransmitVideoStream (srClassOf e.srClass) e.maxPacketRate e.maxPacketSize.toUInt16
    e.format e.clockId .eIasAvbIdAssignModeStatic e.streamId e.dMac e.activate

def StreamParamsAlsa.creation (e : StreamParamsAlsa) : SetupCall :=
  .createAlsaStream e.streamDirection e.numChannels e.sampleFreq .eIasAvbAudioFormatSaf16
    e.clockId e.periodSize e.numPeriods e.layout e.hasSideChannel e.deviceName e.streamId
    e.alsaDeviceType e.sampleFreqASRC

def StreamParamsVideo.creation (e : StreamParamsVideo) : SetupCall :=
  .createLocalVideoStream e.streamDirection e.maxPacketRate e.maxPacketSize e.format e.ipcName
    e.streamId

/-! ## The calls, one after the other -/

structure SetupState (σ : Type) where
  handler : σ
  /-- The calls that were made, and what they returned. -/
  calls : List (SetupCall × IasAvbResult) := []
  result : IasAvbResult := .eIasAvbResultOk
  rxClockId : UInt32 := 0
  clkIdx : Option Nat := none
  /-- An assertion has failed. -/
  trapped : Bool := false

variable {σ : Type}

namespace SetupState

/-- The call, and its entry in the list; its result is left to the caller. -/
def made (s : SetupState σ) (c : SetupCall) (r : Reply σ) : SetupState σ :=
  { s with handler := r.handler, calls := s.calls ++ [(c, r.result)] }

def call (t : SetupTarget σ) (s : SetupState σ) (c : SetupCall) : SetupState σ :=
  let r := t.call c s.handler
  { s.made c r with result := r.result }

/-- A loop over a table, as long as there is no error. -/
def each {α : Type} (f : SetupState σ → α → SetupState σ) (s : SetupState σ) (l : List α) :
    SetupState σ :=
  l.foldl (fun s a => if s.result = .eIasAvbResultOk then f s a else s) s

/-- Without any parameters for the tones nothing but a line in the log is missing. -/
def createTestTone (t : SetupTarget σ) (s : SetupState σ) (e : StreamParamsTestTone) :
    SetupState σ :=
  each (fun s p => s.call t (e.tone p)) (s.call t e.creation)
    (validEntries (·.isValid) e.toneParams)

/-- The clock of the stream is noted, created or not. There is one such stream at most. -/
def createClkRefRx (t : SetupTarget σ) (s : SetupState σ) (e : StreamParamsAvbClockReferenceRx) :
    SetupState σ :=
  let r := t.call e.creation s.handler
  { s.made e.creation r with result := r.result, rxClockId := r.clockId, clkIdx := some 0 }

def createClkRefRxStreams (t : SetupTarget σ) (b : IasAvbConfigurationBase) (s : SetupState σ) :
    SetupState σ :=
  if 1 < b.mAvbClkRefStreamRx.num then { s with result := .eIasAvbResultNotSupported }
  else each (createClkRefRx t) s b.mAvbClkRefStreamRx.used

def createStreams (t : SetupTarget σ) (b : IasAvbConfigurationBase) (s : SetupState σ) :
    SetupState σ :=
  let s := s.createClkRefRxStreams t b
  let s := each (fun s e => s.call t e.creation) s b.mAvbClkRefStreamTx.used
  let s := each (fun s e => s.call t e.creation) s b.mAvbStreamsRx.used
  let s := each (fun s e => s.call t e.creation) s b.mAvbStreamsTx.used
  let s := each (fun s e => s.call t e.creation) s b.mAvbVideoStreamsRx.used
  let s := each (fun s e => s.call t e.creation) s b.mAvbVideoStreamsTx.used
  let s := each (fun s e => s.call t e.creation) s b.mAlsaStreams.used
  each (fun s e => s.call t e.creation) s b.mVideoStreams.used

/-! ### Clock recovery -/

/-- A clock domain is derived from the first audio stream that has a slave clock, unless there is
a clock reference stream. What comes back is the result, and whether there is a domain now. -/
def deriveClockDomain (t : SetupTarget σ) (b : IasAvbConfigurationBase) (s : SetupState σ) :
    SetupState σ × IasAvbResult × Bool :=
  if s.rxClockId ≠ 0 then (s, .eIasAvbResultOk, false)
  else
    match b.mAvbStreamsRx.used.zipIdx.find? (fun e => e.1.slaveClockId ≠ 0) with
    | none => (s, .eIasAvbResultOk, false)
    | some (e, i) =>
        let c := SetupCall.deriveClockDomainFromRxStream e.streamId s.rxClockId
        let r := t.call c s.handler
        ({ s.made c r with rxClockId := r.clockId, clkIdx := some i }, r.result,
          r.result = .eIasAvbResultOk)

/-- The slave clock and the driver for the recovered clock. -/
def recoveryClocks (b : IasAvbConfigurationBase) (clkIdx : Nat) (recoverFromAudioStream : Bool) :
    Option (UInt32 × UInt32) :=
  if recoverFromAudioStream then
    (validEntries (·.isValid) b.mAvbStreamsRx.entries)[clkIdx]?.map fun e =>
      (e.slaveClockId, e.clockDriverId)
  else
    (validEntries (·.isValid) b.mAvbClkRefStreamRx.entries)[clkIdx]?.map fun e =>
      (e.slaveClockId, e.clockDriverId)

def setClockRecovery (t : SetupTarget σ) (b : IasAvbConfigurationBase) (s : SetupState σ)
    (recoverFromAudioStream : Bool) : SetupState σ :=
  match s.clkIdx.bind fun clkIdx => recoveryClocks b clkIdx recoverFromAudioStream with
  | none => { s with trapped := true }
  | some (slaveClockId, clockDriverId) =>
      let slaveClockId := if b.mUseHwC then cIasAvbHwCaptureClockDomainId else slaveClockId
      let c := SetupCall.setClockRecoveryParams s.rxClockId slaveClockId clockDriverId
      s.made c (t.call c s.handler)

def setupRecovery (t : SetupTarget σ) (b : IasAvbConfigurationBase) (s : SetupState σ) :
    SetupState σ :=
  if b.mAvbStreamsRx.entries = none then s
  else
    let (s, result, recoverFromAudioStream) := s.deriveClockDomain t b
    if result = .eIasAvbResultOk ∧ s.rxClockId ≠ 0 ∧ b.mUseClkRec = true then
      s.setClockRecovery t b recoverFromAudioStream
    else s

/-! ### Connections -/

def connect (t : SetupTarget σ) (s : SetupState σ) (e : UInt64 × UInt16) : SetupState σ :=
  if e.2 ≠ 0 then s.call t (.connectStreams e.1 e.2) else s

/-- After an error none of the loops does anything. -/
def connectStreams (t : SetupTarget σ) (b : IasAvbConfigurationBase) (s : SetupState σ) :
    SetupState σ :=
  let s := each (fun s e => s.connect t (e.streamId, e.localStreamdIDToConnect)) s
    b.mAvbStreamsRx.used
  let s := each (fun s e => s.connect t (e.streamId, e.localStreamdIDToConnect)) s
    b.mAvbStreamsTx.used
  let s := each (fun s e => s.connect t (e.streamId, e.localStreamdIDToConnect)) s
    b.mAvbVideoStreamsRx.used
  each (fun s e => s.connect t (e.streamId, e.localStreamdIDToConnect)) s
    b.mAvbVideoStreamsTx.used

end SetupState

open SetupState

/-- All between the two overrides. The test streams have a result of their own: if it is an error
nothing follows. -/
def setupStreams (t : SetupTarget σ) (b : IasAvbConfigurationBase) (h : σ) : SetupState σ :=
  let s := each (createTestTone t) { handler := h } b.mTestStreams.used
  if s.result ≠ .eIasAvbResultOk then s
  else ((s.createStreams t b).setupRecovery t b).connectStreams t b

def setup (t : SetupTarget σ) (b : IasAvbConfigurationBase) (streamHandler : σ) :
    SetupState σ × Bool :=
  let (h, cont) := t.preSetup streamHandler
  if cont ≠ eContinue then ({ handler := h }, cont ≠ eError)
  else
    let s := setupStreams t b h
    if s.result ≠ .eIasAvbResultOk then (s, false)
    else
      let (h, cont) := t.postSetup s.handler
      ({ s with handler := h }, cont ≠ eError)

end AvbStreamHandler
