import AvbStreamHandler.AvbTypes
import AvbStreamHandler.Kit.Bytes
import AvbStreamHandler.Kit.Word
import AvbStreamHandler.Receive.Validation
import Mathlib.Data.List.AList

/-!
# The receive engine

`IasAvbReceiveEngine`: the map from stream ids to receive streams, the calls that create and
destroy streams, and what the receive thread does with a frame.

The lock is held for a whole frame, but not for a whole call that creates a stream: the id is
checked without it, it is taken for adding the stream and given back, the multicast address is
bound without it, and it is taken again to remove the stream if that failed. Those are the
steps here. The calls themselves do not overlap, the API mutex sees to that.

The three calls that create a stream differ in the class of the stream, and so in what
`initReceive` makes of their arguments; its result is part of the step.
-/

namespace AvbStreamHandler

open Kit Kit.Word IasAvbProcessingResult

def ETH_P_8021Q : Nat := 0x8100

def ETH_P_IEEE1722 : Nat := 0x22F0

abbrev IasAvbMacAddress := List UInt8

def cIasAvbMacAddressLength : Nat := 6

/-- The id that stands for any. -/
def wildcardId : Nat := 0

def wildcardMac : IasAvbMacAddress := List.replicate cIasAvbMacAddressLength 0

/-- A receive stream, as far as the engine looks into it. -/
structure ReceiveStream where
  mAvbStreamId : Nat
  mDmac : IasAvbMacAddress
  mSmac : IasAvbMacAddress := wildcardMac
deriving DecidableEq, Repr

/-- An entry of the map; `stream` says which object it points at. -/
structure IasAvbReceiveEngine.StreamData where
  stream : Nat
  lastState : IasAvbStreamState
  lastTimeDispatched : Nat := 0
deriving DecidableEq, Repr

/-- What the registry says. -/
structure ReceiveConfig where
  mIgnoreStreamId : Bool := false
  /-- `discardAfter`, if it is configured. -/
  discardByPts : Option Nat := none

/-- How far the call of a client has come. -/
inductive ReceiveCall
  | returned (result : IasAvbProcessingResult)
  /-- The id was not in use. -/
  | checked (streamId : Nat) (destMacAddr : IasAvbMacAddress)
  /-- The stream is in the map, but its multicast address is not bound. -/
  | added (streamId stream : Nat)
deriving DecidableEq

structure IasAvbReceiveEngine where
  mAvbStreams : AList fun _ : Nat => IasAvbReceiveEngine.StreamData := ∅
  /-- The stream objects there are. -/
  streams : Nat → Option ReceiveStream := fun _ => none
  /-- The next object gets this number. -/
  allocated : Nat := 0
  call : ReceiveCall := .returned eIasAvbProcOK

namespace IasAvbReceiveEngine

/-! ## Creating and destroying -/

def setCall (w : IasAvbReceiveEngine) (call : ReceiveCall) : IasAvbReceiveEngine :=
  { w with call := call }

def setEntry (w : IasAvbReceiveEngine) (streamId : Nat) (data : StreamData) :
    IasAvbReceiveEngine :=
  { w with mAvbStreams := w.mAvbStreams.insert streamId data }

def setStream (w : IasAvbReceiveEngine) (stream : Nat) (s : Option ReceiveStream) :
    IasAvbReceiveEngine :=
  { w with streams := Function.update w.streams stream s }

/-- `mAvbStreams.erase` and `delete`. -/
def remove (w : IasAvbReceiveEngine) (streamId stream : Nat) : IasAvbReceiveEngine :=
  { w with
    mAvbStreams := w.mAvbStreams.erase streamId
    streams := Function.update w.streams stream none }

def checkStreamIdInUse (w : IasAvbReceiveEngine) (streamId : Nat) : IasAvbProcessingResult :=
  if (w.mAvbStreams.lookup streamId).isSome then eIasAvbProcAlreadyInUse else eIasAvbProcOK

/-- `createReceiveAudioStream`, `createReceiveVideoStream` and
`createReceiveClockReferenceStream`, as far as the check of the id. -/
def createReceiveStream (w : IasAvbReceiveEngine) (streamId : Nat)
    (destMacAddr : IasAvbMacAddress) : IasAvbReceiveEngine :=
  match w.call with
  | .returned _ =>
      if w.checkStreamIdInUse streamId = eIasAvbProcOK then
        w.setCall (.checked streamId destMacAddr)
      else w.setCall (.returned (w.checkStreamIdInUse streamId))
  | _ => w

/-- A new object goes into the map. -/
def addStream (w : IasAvbReceiveEngine) (streamId : Nat) (destMacAddr : IasAvbMacAddress) :
    IasAvbReceiveEngine :=
  { (w.setStream w.allocated (some { mAvbStreamId := streamId, mDmac := destMacAddr })).setEntry
      streamId { stream := w.allocated, lastState := .eIasAvbStreamInactive } with
    allocated := w.allocated + 1 }

/-- Further on: the object is made and initialized, and if that went well, added. -/
def initReceive (w : IasAvbReceiveEngine) (result : IasAvbProcessingResult) :
    IasAvbReceiveEngine :=
  match w.call with
  | .checked streamId destMacAddr =>
      if result = eIasAvbProcOK then
        (w.addStream streamId destMacAddr).setCall (.added streamId w.allocated)
      else w.setCall (.returned result)
  | _ => w

/-- And the last part: if the multicast address cannot be bound, whatever is in the map under
the id is removed. An entry that is not there is made first, and points at nothing. -/
def bindMcastAddr (w : IasAvbReceiveEngine) (success : Bool) : IasAvbReceiveEngine :=
  match w.call with
  | .added streamId _ =>
      if success then w.setCall (.returned eIasAvbProcOK)
      else
        match w.mAvbStreams.lookup streamId with
        | some data => (w.remove streamId data.stream).setCall (.returned eIasAvbProcErr)
        | none => w.setCall (.returned eIasAvbProcErr)
  | _ => w

def destroyAvbStream (w : IasAvbReceiveEngine) (streamId : Nat) : IasAvbReceiveEngine :=
  match w.call with
  | .returned _ =>
      match w.mAvbStreams.lookup streamId with
      | some data => (w.remove streamId data.stream).setCall (.returned eIasAvbProcOK)
      | none => w.setCall (.returned eIasAvbProcInvalidParam)
  | _ => w

/-! ## Finding the stream for a frame -/

/-- `begin()` of the map. -/
def firstStream (w : IasAvbReceiveEngine) : Option Nat := w.mAvbStreams.keys.min?

/-- The wildcard stream becomes a regular one. -/
def rebind (w : IasAvbReceiveEngine) (streamId : Nat) (data : StreamData) :
    IasAvbReceiveEngine :=
  { w with
    streams := Function.update w.streams data.stream
      ((w.streams data.stream).map fun s => { s with mAvbStreamId := streamId })
    mAvbStreams := (w.mAvbStreams.erase wildcardId).insert streamId data }

/-- `getDmac`. -/
def dmacOf (w : IasAvbReceiveEngine) (data : StreamData) : Option IasAvbMacAddress :=
  (w.streams data.stream).map ReceiveStream.mDmac

/-- The search by wildcard. -/
def findWildcard (w : IasAvbReceiveEngine) (streamId : Nat) (frame : Bytes) :
    IasAvbReceiveEngine × Option Nat :=
  match w.mAvbStreams.lookup wildcardId with
  | some data =>
      if w.dmacOf data = some (frame.slice 0 cIasAvbMacAddressLength) then
        (w.rebind streamId data, some streamId)
      else if w.dmacOf data = some wildcardMac then (w, some wildcardId)
      else (w, none)
  | none => (w, none)

/-- The key under which the stream for a frame is found. -/
def findStream (c : ReceiveConfig) (w : IasAvbReceiveEngine) (streamId : Nat) (frame : Bytes) :
    IasAvbReceiveEngine × Option Nat :=
  match w.mAvbStreams.lookup streamId with
  | some _ => (w, some streamId)
  | none =>
      match w.findWildcard streamId frame with
      | (w, some key) => (w, some key)
      | (w, none) => (w, if c.mIgnoreStreamId then w.firstStream else none)

/-! ## Dispatching -/

/-- `dispatchPacket` and the two calls of `checkStreamState` around it, given the state the
stream is in afterwards. A valid packet tells the source address. -/
def noteDispatch (w : IasAvbReceiveEngine) (key : Nat) (data : StreamData) (now : Nat)
    (newState : IasAvbStreamState) (sMac : IasAvbMacAddress) : IasAvbReceiveEngine :=
  let w := w.setEntry key { data with lastState := newState, lastTimeDispatched := now }
  if newState = .eIasAvbStreamValid then
    w.setStream data.stream ((w.streams data.stream).map fun s => { s with mSmac := sMac })
  else w

/-- The timeouts: all streams are told that nothing came, or, with an `idleWait`, those that
were not serviced for that long. -/
def notifyTimeouts (w : IasAvbReceiveEngine) (now : Nat) (idleWait : Option Nat)
    (newState : Nat → IasAvbStreamState) : IasAvbReceiveEngine :=
  w.mAvbStreams.keys.foldl (fun w key =>
    match w.mAvbStreams.lookup key with
    | some data =>
        if idleWait.all fun wait => decide (wait < sub64 now data.lastTimeDispatched) then
          w.setEntry key
            { data with lastState := newState data.stream, lastTimeDispatched := now }
        else w
    | none => w) w

end IasAvbReceiveEngine

/-! ## Frames -/

/-- Where a frame came from: a raw socket, or the packet buffers of the network device. -/
inductive Reception
  /-- What `recvfrom` returned. -/
  | recvfrom (result : Nat)
  /-- The length of the packet, if `igb_receive` had one. -/
  | igbReceive (packet : Option Nat)

/-- `recv_length`. -/
def Reception.recvLength : Reception → Int
  | .recvfrom result => toInt32 result
  | .igbReceive (some len) => toInt32 len
  | .igbReceive none => -1

/-- A call of the stream's `dispatchPacket`: the payload starts at `offset`. -/
structure Dispatch where
  stream : Nat
  offset : Nat
  length : Nat
deriving DecidableEq, Repr

/-- What was done with a frame: the offsets of the bytes that were looked at, and the call. -/
structure FrameTrace where
  inspected : List Nat := []
  dispatched : Option Dispatch := none
deriving DecidableEq, Repr

namespace IasAvbReceiveEngine

/-- Behind the tag of a VLAN, if there is one. -/
def ethTypeOffset (frame : Bytes) : Nat := if frame.be16 12 = ETH_P_8021Q then 16 else 12

/-- The first byte of the AVTP header. -/
def avtpBase (frame : Bytes) : Nat := ethTypeOffset frame + 2

/-- The stream id is valid. -/
def streamIdValid (frame : Bytes) : Bool := frame (avtpBase frame + 1) &&& 0x80 != 0

/-- The time stamp is valid. -/
def timestampValid (frame : Bytes) : Bool := frame (avtpBase frame + 1) &&& 0x01 != 0

/-- The presentation time is too long ago. -/
def tooLate (discardAfter now : Nat) (frame : Bytes) : Bool :=
  decide (toInt32 discardAfter < toInt32 (sub64 now (frame.be32 (avtpBase frame + 12))))

/-- The bytes up to the stream id. -/
def headerBytes (frame : Bytes) : List Nat :=
  List.range' 12 2 ++ (if frame.be16 12 = ETH_P_8021Q then List.range' 16 2 else [])
    ++ if frame.be16 (ethTypeOffset frame) = ETH_P_IEEE1722 then
      (avtpBase frame + 1) :: List.range' (avtpBase frame + 4) 8
    else []

/-- The time stamp. -/
def timestampBytes (frame : Bytes) : List Nat := List.range' (avtpBase frame + 12) 4

/-- The addresses: the destination for the wildcard, the source of what is dispatched. -/
def addressBytes (w : IasAvbReceiveEngine) (streamId : Nat) (found : Option Nat) : List Nat :=
  (if w.mAvbStreams.lookup streamId = none ∧ w.mAvbStreams.lookup wildcardId ≠ none then
      List.range' 0 6 else [])
    ++ if found = none then [] else List.range' 6 6

/-- A frame for a stream that was found. The stream's `dispatchPacket` looks at the time stamp
if it is valid. -/
def dispatchFrame (w : IasAvbReceiveEngine) (key : Nat) (frame : Bytes) (recvLength : Int)
    (now : Nat) (newState : Nat → IasAvbStreamState) : IasAvbReceiveEngine × Option Dispatch :=
  match w.mAvbStreams.lookup key with
  | some data =>
      (w.noteDispatch key data now (newState data.stream) (frame.slice 6 cIasAvbMacAddressLength),
        some {
          stream := data.stream
          offset := avtpBase frame
          length := ofInt64 (recvLength - avtpBase frame) })
  | none => (w, none)

/-- What is done with a frame that carries a stream id and is not too late; `inspected` are the
bytes that were looked at before. -/
def forwardFrame (c : ReceiveConfig) (w : IasAvbReceiveEngine) (frame : Bytes) (recvLength : Int)
    (now : Nat) (newState : Nat → IasAvbStreamState) (inspected : List Nat) :
    IasAvbReceiveEngine × FrameTrace :=
  let streamId := frame.be64 (avtpBase frame + 4)
  let (w', found) := findStream c w streamId frame
  let inspected := inspected ++ addressBytes w streamId found
  match found with
  | none => (w', { inspected := inspected })
  | some key =>
      let (w', dispatched) := w'.dispatchFrame key frame recvLength now newState
      (w', {
        inspected := inspected ++ if timestampValid frame then timestampBytes frame else []
        dispatched := dispatched })

/-- A frame in the receive buffer; behind `recvLength` bytes there is what was there before. -/
def receiveFrame (c : ReceiveConfig) (w : IasAvbReceiveEngine) (frame : Bytes) (recvLength : Int)
    (now : Nat) (newState : Nat → IasAvbStreamState) : IasAvbReceiveEngine × FrameTrace :=
  if recvLength ≤ 0 then (w, {})
  else if frame.be16 (ethTypeOffset frame) ≠ ETH_P_IEEE1722 then
    (w, { inspected := headerBytes frame })
  else if !streamIdValid frame then (w, { inspected := headerBytes frame })
  else if c.discardByPts.isSome && timestampValid frame then
    let inspected := headerBytes frame ++ timestampBytes frame
    if tooLate (c.discardByPts.getD 0) now frame then (w, { inspected := inspected })
    else forwardFrame c w frame recvLength now newState inspected
  else forwardFrame c w frame recvLength now newState (headerBytes frame)

end IasAvbReceiveEngine

end AvbStreamHandler
