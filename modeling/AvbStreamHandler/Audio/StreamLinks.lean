import AvbStreamHandler.Alsa.AlsaEngine
import AvbStreamHandler.Audio.LocalAudioStream
import AvbStreamHandler.Kit.Registry
import AvbStreamHandler.Kit.Run

/-!
# Links between network and local audio streams

A network stream that is connected knows its local stream, and the local stream knows its
client. The link is made and taken apart in `IasAvbAudioStream::connectTo`, which tells the
local stream about it; either end can be destroyed, the local one only while it is not
connected.

Streams are objects behind pointers, which are numbers here; an address can be used again.
-/

namespace AvbStreamHandler

open Kit Kit.Run Kit.Registry IasAvbProcessingResult IasAvbStreamDirection

/-- `IasAvbAudioStream`, as far as its link goes. -/
structure NetworkAudioStream where
  config : AvbAudioConfig
  direction : IasAvbStreamDirection
  /-- `isInitialized()`: the stream has its traffic specification. -/
  initialized : Bool
  mActive : Bool := false
  mLocalStream : Option Nat := none
  mStride : Nat := 0

/-- `IasLocalAudioStream`, with its client. -/
structure ClientAudioStream extends LocalAudioStream where
  direction : IasAvbStreamDirection
  mClient : Option Nat := none
  mClientState : ClientState := .eIasNotConnected
deriving DecidableEq, Repr

namespace ClientAudioStream

def isConnected (t : ClientAudioStream) : Bool := t.mClientState != .eIasNotConnected

/-- `connect`. A stream has one client. -/
def connect (t : ClientAudioStream) (client : Option Nat) :
    ClientAudioStream × IasAvbProcessingResult :=
  if client = none then (t, eIasAvbProcInvalidParam)
  else if t.mClient ≠ none then (t, eIasAvbProcAlreadyInUse)
  else ({ t with mClient := client, mClientState := .eIasIdle }, eIasAvbProcOK)

def disconnect (t : ClientAudioStream) : ClientAudioStream :=
  { t with mClient := none, mClientState := .eIasNotConnected }

/-- `setClientActive`, which a stream without a client ignores. -/
def setClientActive (t : ClientAudioStream) (active : Bool) : ClientAudioStream :=
  if t.mClient = none then t
  else { t with mClientState := if active then .eIasActive else .eIasIdle }

end ClientAudioStream

namespace NetworkAudioStream

def isTransmitStream (s : NetworkAudioStream) : Bool :=
  s.direction == eIasAvbTransmitToNetwork

/-- What `connectTo` checks before it asks the local stream. -/
def accepts (s : NetworkAudioStream) (t : ClientAudioStream) : Bool :=
  AvbAudioConfig.connectable s.config t.toLocalAudioStream && s.direction == t.direction

def stride (s : NetworkAudioStream) (t : ClientAudioStream) : Nat :=
  AvbAudioConfig.audioChannels t.toLocalAudioStream * getSampleSize s.config.mAudioFormat % 65536

end NetworkAudioStream

structure AudioLinks where
  avbStreams : Nat → Option NetworkAudioStream := fun _ => none
  localStreams : Nat → Option ClientAudioStream := fun _ => none

inductive LinkEvent
  /-- A new stream, after its init function. -/
  | createAvbStream (a : Nat) (config : AvbAudioConfig) (direction : IasAvbStreamDirection)
      (initialized : Bool)
  | createLocalStream (l : Nat) (kind : LocalAudioStream) (direction : IasAvbStreamDirection)
  /-- `connectTo` with a local stream, or with none to disconnect. -/
  | connectTo (a : Nat) (l : Option Nat)
  | setActive (a : Nat) (active : Bool)
  /-- What is received, or a discontinuity, activates or deactivates the local stream. -/
  | setClientActive (a : Nat) (active : Bool)
  | destroyAvbStream (a : Nat)
  /-- The worker thread may refuse to let the stream go. -/
  | destroyLocalStream (l : Nat) (removed : IasAvbProcessingResult)

namespace AudioLinks

/-- `mLocalStream` of a network stream. -/
def localOf (w : AudioLinks) (a : Nat) : Option Nat :=
  (w.avbStreams a).bind NetworkAudioStream.mLocalStream

/-- `mClient` of a local stream. -/
def clientOf (w : AudioLinks) (l : Nat) : Option Nat :=
  (w.localStreams l).bind ClientAudioStream.mClient

def setAvb (w : AudioLinks) (a : Nat) (s : Option NetworkAudioStream) : AudioLinks :=
  { w with avbStreams := Function.update w.avbStreams a s }

def setLocal (w : AudioLinks) (l : Nat) (t : Option ClientAudioStream) : AudioLinks :=
  { w with localStreams := Function.update w.localStreams l t }

/-- A call on the local stream behind a pointer. -/
def onLocal (w : AudioLinks) (l : Nat) (f : ClientAudioStream → ClientAudioStream) : AudioLinks :=
  w.setLocal l ((w.localStreams l).map f)

/-! ## Connecting -/

/-- The old link is taken apart first, on both sides. -/
def dropLink (w : AudioLinks) (a : Nat) (s : NetworkAudioStream) : AudioLinks :=
  match s.mLocalStream with
  | none => w
  | some l =>
      (w.onLocal l ClientAudioStream.disconnect).setAvb a
        (some { s with mLocalStream := none, mStride := 0 })

/-- The new link, which the local stream may refuse. -/
def makeLink (w : AudioLinks) (a : Nat) (s : NetworkAudioStream) (l : Nat)
    (t : ClientAudioStream) : AudioLinks × IasAvbProcessingResult :=
  if s.accepts t = false then (w, eIasAvbProcInvalidParam)
  else
    let connected := t.connect (some a)
    if connected.2 ≠ eIasAvbProcOK then (w, connected.2)
    else
      ((w.setLocal l (some (connected.1.setClientActive (s.isTransmitStream && s.mActive)))).setAvb
        a (some { s with mLocalStream := some l, mStride := s.stride t }), eIasAvbProcOK)

/-- `connectTo` of stream `s` at `a`, with the local stream behind the pointer, or with null. -/
def connectTo (w : AudioLinks) (a : Nat) (s : NetworkAudioStream)
    (localStream : Option (Nat × ClientAudioStream)) : AudioLinks × IasAvbProcessingResult :=
  if s.initialized = false then (w, eIasAvbProcNotInitialized)
  else if localStream.map Prod.fst = s.mLocalStream then (w, eIasAvbProcOK)
  else
    match localStream with
    | none => (w.dropLink a s, eIasAvbProcOK)
    | some (l, t) => (w.dropLink a s).makeLink a s l t

/-- The streams are looked up; one that is not found is refused. -/
def connectStreams (w : AudioLinks) (a : Nat) (l : Option Nat) :
    AudioLinks × IasAvbProcessingResult :=
  match w.avbStreams a with
  | none => (w, eIasAvbProcInvalidParam)
  | some s =>
      match l with
      | none => w.connectTo a s none
      | some l =>
          match w.localStreams l with
          | none => (w, eIasAvbProcInvalidParam)
          | some t => w.connectTo a s (some (l, t))

/-! ## Activation and destruction -/

/-- `setClientActive` of the local stream, if there is one. -/
def passOn (w : AudioLinks) (a : Nat) (active : Bool) : AudioLinks :=
  match w.localOf a with
  | none => w
  | some l => w.onLocal l (·.setClientActive active)

/-- `activate` and `deactivate`, with `activationChanged`. -/
def setActive (w : AudioLinks) (a : Nat) (active : Bool) : AudioLinks :=
  match w.avbStreams a with
  | none => w
  | some s =>
      if s.mActive = active then w
      else (w.setAvb a (some { s with mActive := active })).passOn a active

/-- `delete` of a network stream: `cleanup` deactivates it, and disconnects it. -/
def destroyAvbStream (w : AudioLinks) (a : Nat) : AudioLinks :=
  let w := w.setActive a false
  match w.avbStreams a with
  | none => w
  | some s =>
      let w := if s.mLocalStream ≠ none then (w.connectTo a s none).1 else w
      w.setAvb a none

/-- `destroyAlsaStream`, of a stream that is found. A connected stream stays. -/
def destroyLocalStream (w : AudioLinks) (l : Nat) (removed : IasAvbProcessingResult) :
    AudioLinks × IasAvbProcessingResult :=
  match w.localStreams l with
  | none => (w, eIasAvbProcInvalidParam)
  | some t =>
      if t.isConnected then (w, eIasAvbProcAlreadyInUse)
      else if removed ≠ eIasAvbProcOK then (w, removed)
      else (w.setLocal l none, eIasAvbProcOK)

/-- A new object is put where there is none. -/
def step (w : AudioLinks) : LinkEvent → AudioLinks
  | .createAvbStream a config direction initialized =>
      if w.avbStreams a = none then
        w.setAvb a (some { config := config, direction := direction, initialized := initialized })
      else w
  | .createLocalStream l kind direction =>
      if w.localStreams l = none then
        w.setLocal l (some { toLocalAudioStream := kind, direction := direction })
      else w
  | .connectTo a l => (w.connectStreams a l).1
  | .setActive a active => w.setActive a active
  | .setClientActive a active => w.passOn a active
  | .destroyAvbStream a => w.destroyAvbStream a
  | .destroyLocalStream l removed => (w.destroyLocalStream l removed).1

end AudioLinks

end AvbStreamHandler
