import AvbStreamHandler.Alsa.AlsaEngine
import AvbStreamHandler.Audio.AvbAudioStream
import AvbStreamHandler.Kit.Search

/-!
# Local streams

What `IasAvbStreamHandler` keeps about local streams: the ALSA engine, the map of test tone
streams, the video interface with its two maps, and the number the next stream gets if the
client does not ask for one.

The ALSA engine and the video interface are made when they are first needed. A call that
creates a stream is given an id, or zero for one of the handler's choice, and gives back the
id of the stream, or zero.
-/

namespace AvbStreamHandler

open Kit Kit.Search IasAvbProcessingResult

def cIasAvbMaxNumChannels : UInt16 := 738

/-- A test tone stream or a video stream. -/
structure LocalStream where
  streamId : UInt16
  connected : Bool := false
deriving DecidableEq, Repr

structure IasVideoStreamInterface where
  mVideoInStreams : AList fun _ : UInt16 => Nat := ∅
  mVideoOutStreams : AList fun _ : UInt16 => Nat := ∅

def IasVideoStreamInterface.getLocalVideoStream (v : IasVideoStreamInterface)
    (streamId : UInt16) : Option Nat :=
  (v.mVideoInStreams.lookup streamId).or (v.mVideoOutStreams.lookup streamId)

/-- The registries a local stream can be in. -/
inductive LocalStreamKind
  | alsaHw
  | alsaVirtual
  | testTone
  | videoIn
  | videoOut
deriving DecidableEq, Repr

/-- A pointer to a local stream. -/
inductive LocalStreamRef
  | alsa (k : Nat)
  | other (k : Nat)
deriving DecidableEq, Repr

structure LocalStreams where
  initialized : Bool := false
  started : Bool := false
  mAlsaEngine : Option IasAlsaEngine := none
  mTestToneStreams : AList fun _ : UInt16 => Nat := ∅
  mVideoStreamInterface : Option IasVideoStreamInterface := none
  mNextLocalStreamId : UInt16 := 1
  /-- The test tone and video streams there are. -/
  streams : Nat → Option LocalStream := fun _ => none
  /-- The next of these streams gets this number. -/
  allocated : Nat := 0

/-- What a call that creates a stream returns, the id by reference. -/
structure CreateResult where
  streamId : UInt16
  result : IasAvbProcessingResult
deriving DecidableEq, Repr

inductive LocalStreamEvent
  | init
  /-- The stream's own id is set by the call. -/
  | createAlsaStream (streamId numberOfChannels : UInt16) (request : AlsaRequest)
      (engineMemory : Bool) (outcome : AlsaOutcome)
  | createTestToneStream (streamId : UInt16) (format : IasAvbAudioFormat) (memory : Bool)
      (initResult : IasAvbProcessingResult)
  | createLocalVideoStream (streamId : UInt16) (direction : IasAvbStreamDirection)
      (interfaceMemory memory : Bool) (initResult : IasAvbProcessingResult)
  | destroyLocalStream (streamId : UInt16)
  | setConnected (stream : LocalStreamRef) (connected : Bool)
  | start
  | stop

namespace LocalStreams

/-! ## Finding a stream -/

/-- The ALSA engine is asked first. -/
def getLocalAudioStreamById (w : LocalStreams) (id : UInt16) : Option LocalStreamRef :=
  ((w.mAlsaEngine.bind fun e => e.getLocalAudioStream id).map .alsa).or
    ((w.mTestToneStreams.lookup id).map .other)

def getLocalVideoStreamById (w : LocalStreams) (id : UInt16) : Option LocalStreamRef :=
  (w.mVideoStreamInterface.bind fun v => v.getLocalVideoStream id).map .other

def isLocalStreamIdInUse (w : LocalStreams) (streamId : UInt16) : Bool :=
  (w.getLocalAudioStreamById streamId).isSome || (w.getLocalVideoStreamById streamId).isSome

/-- The loop of `getNextLocalStreamId`; nothing comes back if all ids are in use. -/
def nextFreeId (w : LocalStreams) : Option UInt16 :=
  search (· + 1) (fun id => id == 0 || w.isLocalStreamIdInUse id) w.mNextLocalStreamId 65536
    w.mNextLocalStreamId

/-- The id a stream is to get: the one that is asked for, or the next. -/
def chooseId (w : LocalStreams) (streamId : UInt16) : Option (UInt16 × LocalStreams) :=
  if streamId ≠ 0 then some (streamId, w)
  else w.nextFreeId.map fun id => (id, { w with mNextLocalStreamId := id + 1 })

/-- The streams an operation on this id is passed on to. -/
def reach (w : LocalStreams) (id : UInt16) : List LocalStreamRef :=
  (w.getLocalAudioStreamById id).toList ++ (w.getLocalVideoStreamById id).toList

/-! ## The registries -/

/-- One of the maps that are not those of the ALSA engine. -/
def otherMap (w : LocalStreams) : LocalStreamKind → AList fun _ : UInt16 => Nat
  | .testTone => w.mTestToneStreams
  | .videoIn => (w.mVideoStreamInterface.map (·.mVideoInStreams)).getD ∅
  | .videoOut => (w.mVideoStreamInterface.map (·.mVideoOutStreams)).getD ∅
  | _ => ∅

def setOtherMap (w : LocalStreams) (kind : LocalStreamKind) (m : AList fun _ : UInt16 => Nat) :
    LocalStreams :=
  match kind with
  | .testTone => { w with mTestToneStreams := m }
  | .videoIn =>
      { w with mVideoStreamInterface :=
          w.mVideoStreamInterface.map fun v => { v with mVideoInStreams := m } }
  | .videoOut =>
      { w with mVideoStreamInterface :=
          w.mVideoStreamInterface.map fun v => { v with mVideoOutStreams := m } }
  | _ => w

/-- `new`, and into its map. -/
def addOther (w : LocalStreams) (kind : LocalStreamKind) (streamId : UInt16) : LocalStreams :=
  { w.setOtherMap kind ((w.otherMap kind).insert streamId w.allocated) with
    streams := Function.update w.streams w.allocated (some { streamId := streamId })
    allocated := w.allocated + 1 }

/-- Out of its map, and `delete`, unless it is connected. -/
def destroyOther (w : LocalStreams) (kind : LocalStreamKind) (streamId : UInt16) (k : Nat) :
    LocalStreams × IasAvbProcessingResult :=
  if (w.streams k).any (·.connected) then (w, eIasAvbProcAlreadyInUse)
  else
    ({ w.setOtherMap kind ((w.otherMap kind).erase streamId) with
      streams := Function.update w.streams k none }, eIasAvbProcOK)

/-! ## The calls -/

def refused (result : IasAvbProcessingResult) : CreateResult :=
  { streamId := 0, result := result }

/-- The ALSA engine, which is made and started if there is none. -/
def alsaEngine (w : LocalStreams) (memory : Bool) : Option IasAlsaEngine :=
  match w.mAlsaEngine with
  | some e => some e
  | none =>
      if memory = false then none
      else
        let e := ({} : IasAlsaEngine).init.1
        some (if w.started then e.start.1 else e)

/-- `createAlsaStream`. -/
def createAlsaStream (c : AlsaConfig) (w : LocalStreams) (streamId numberOfChannels : UInt16)
    (r : AlsaRequest) (engineMemory : Bool) (o : AlsaOutcome) : LocalStreams × CreateResult :=
  if w.initialized = false then (w, refused eIasAvbProcNotInitialized)
  else if cIasAvbMaxNumChannels < numberOfChannels then (w, refused eIasAvbProcErr)
  else
    match w.alsaEngine engineMemory with
    | none => (w, refused eIasAvbProcNotEnoughMemory)
    | some e =>
        let w := { w with mAlsaEngine := some e }
        if streamId ≠ 0 ∧ w.isLocalStreamIdInUse streamId = true then
          (w, refused eIasAvbProcInvalidParam)
        else
          match w.chooseId streamId with
          | none => (w, refused eIasAvbProcErr)
          | some (id, w) =>
              if r.clockDomain = none then (w, refused eIasAvbProcInvalidParam)
              else
                let request := { r with stream := { r.stream with streamId := id } }
                let created := IasAlsaEngine.createAlsaStream c e request o
                ({ w with mAlsaEngine := some created.1 },
                  { streamId := if created.2 = eIasAvbProcOK then id else 0
                    result := created.2 })

/-- `createTestToneStream`. An id that is asked for is looked up among the audio streams. -/
def createTestToneStream (w : LocalStreams) (streamId : UInt16) (format : IasAvbAudioFormat)
    (memory : Bool) (initResult : IasAvbProcessingResult) : LocalStreams × CreateResult :=
  if w.initialized = false then (w, refused eIasAvbProcNotInitialized)
  else if streamId ≠ 0 ∧ (w.getLocalAudioStreamById streamId).isSome = true then
    (w, refused eIasAvbProcInvalidParam)
  else if streamId ≠ 0 ∧ format ≠ .eIasAvbAudioFormatSafFloat then
    (w, refused eIasAvbProcUnsupportedFormat)
  else
    match w.chooseId streamId with
    | none => (w, refused eIasAvbProcErr)
    | some (id, w) =>
        if memory = false then (w, refused eIasAvbProcNotEnoughMemory)
        else if initResult ≠ eIasAvbProcOK then (w, refused initResult)
        else (w.addOther .testTone id, { streamId := id, result := eIasAvbProcOK })

def videoKind : IasAvbStreamDirection → LocalStreamKind
  | .eIasAvbTransmitToNetwork => .videoIn
  | .eIasAvbReceiveFromNetwork => .videoOut

/-- `createLocalVideoStream`, and `createVideoStream` of the interface. -/
def createLocalVideoStream (w : LocalStreams) (streamId : UInt16)
    (direction : IasAvbStreamDirection) (interfaceMemory memory : Bool)
    (initResult : IasAvbProcessingResult) : LocalStreams × CreateResult :=
  if w.initialized = false then (w, refused eIasAvbProcNotInitialized)
  else if w.mVideoStreamInterface.isNone ∧ interfaceMemory = false then
    (w, refused eIasAvbProcNotEnoughMemory)
  else
    let w := { w with mVideoStreamInterface := some (w.mVideoStreamInterface.getD {}) }
    if streamId ≠ 0 ∧ w.isLocalStreamIdInUse streamId = true then
      (w, refused eIasAvbProcInvalidParam)
    else
      match w.chooseId streamId with
      | none => (w, refused eIasAvbProcErr)
      | some (id, w) =>
          if ((w.otherMap (videoKind direction)).lookup id).isSome then
            (w, refused eIasAvbProcInvalidParam)
          else if memory = false then (w, refused eIasAvbProcNotEnoughMemory)
          else if initResult ≠ eIasAvbProcOK then (w, refused initResult)
          else (w.addOther (videoKind direction) id, { streamId := id, result := eIasAvbProcOK })

/-- `destroyVideoStream`. -/
def destroyVideoStream (w : LocalStreams) (streamId : UInt16) :
    LocalStreams × IasAvbProcessingResult :=
  match (w.otherMap .videoIn).lookup streamId with
  | some k => w.destroyOther .videoIn streamId k
  | none =>
      match (w.otherMap .videoOut).lookup streamId with
      | some k => w.destroyOther .videoOut streamId k
      | none => (w, eIasAvbProcInvalidParam)

def destroyLocalStream (w : LocalStreams) (streamId : UInt16) :
    LocalStreams × IasAvbProcessingResult :=
  if w.initialized = false then (w, eIasAvbProcNotInitialized)
  else
    match w.getLocalAudioStreamById streamId, w.mAlsaEngine with
    | some (.alsa _), some e =>
        let destroyed := e.destroyAlsaStream streamId
        ({ w with mAlsaEngine := some destroyed.1 }, destroyed.2)
    | some _, _ =>
        match w.mTestToneStreams.lookup streamId with
        | some k => w.destroyOther .testTone streamId k
        | none => (w, eIasAvbProcInvalidParam)
    | none, _ =>
        if (w.getLocalVideoStreamById streamId).isSome then w.destroyVideoStream streamId
        else (w, eIasAvbProcInvalidParam)

/-- A network stream is connected to the stream, or gives it up. -/
def setConnected (w : LocalStreams) (stream : LocalStreamRef) (connected : Bool) :
    LocalStreams :=
  match stream with
  | .alsa k => { w with mAlsaEngine := w.mAlsaEngine.map fun e => e.setConnected k connected }
  | .other k =>
      let s := (w.streams k).map fun s => { s with connected := connected }
      { w with streams := Function.update w.streams k s }

def step (c : AlsaConfig) (w : LocalStreams) : LocalStreamEvent → LocalStreams
  | .init => { w with initialized := true }
  | .createAlsaStream streamId numberOfChannels request engineMemory outcome =>
      (createAlsaStream c w streamId numberOfChannels request engineMemory outcome).1
  | .createTestToneStream streamId format memory initResult =>
      (w.createTestToneStream streamId format memory initResult).1
  | .createLocalVideoStream streamId direction interfaceMemory memory initResult =>
      (w.createLocalVideoStream streamId direction interfaceMemory memory initResult).1
  | .destroyLocalStream streamId => (w.destroyLocalStream streamId).1
  | .setConnected stream connected => w.setConnected stream connected
  | .start =>
      { w with started := true, mAlsaEngine := w.mAlsaEngine.map fun e => e.start.1 }
  | .stop =>
      { w with started := false, mAlsaEngine := w.mAlsaEngine.map fun e => e.stop.1 }

end LocalStreams

end AvbStreamHandler
