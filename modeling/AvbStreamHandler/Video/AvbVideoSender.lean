import AvbStreamHandler.Kit.Run
import AvbStreamHandler.Video.LocalVideoOutStream

/-!
# Sending through the shared video ring

`IasAvbVideoSender`: an application sends a packet by asking the ring for one slot, filling it
and giving it back. Several threads and processes may send through one ring. Only the ring's
calls are atomic; between its own two calls a thread is held up for as long as the scheduler
likes.

A call whose `beginAccess` is refused calls `endAccess` all the same. That is where it meets
the write access of somebody else.

The flag `mWriteInProgress` and the lock that goes with it are set and released together in
one call, so the flag stands for both.
-/

namespace AvbStreamHandler

open Kit Kit.Run Kit.Word

inductive IasAvbvideobridgeResult
  | IAS_AVB_RES_OK
  | IAS_AVB_RES_FAILED
  | IAS_AVB_RES_NULL_PTR
  | IAS_AVB_RES_NO_SPACE
  | IAS_AVB_RES_PAYLOAD_TOO_LARGE
deriving DecidableEq, Repr

open IasAvbvideobridgeResult IasVideoRingBufferResult

/-- What an application hands over: so many bytes from `data` on. -/
structure IasAvbvideobridgeBuffer where
  size : Nat
  data : Nat → UInt8

/-- The shared ring with its data area. -/
structure VideoRing where
  shm : IasAvbVideoRingBufferShm
  bufferSize : Nat
  cell : Nat → UInt8

def VideoRing.setShm (r : VideoRing) (q : IasAvbVideoRingBufferShm) : VideoRing :=
  { r with shm := q }

/-- A call of `sendPacketH264` or `sendPacketMpegTs`. -/
structure SendCall where
  /-- Has `init` found a ring? -/
  mRingBuffer : Bool
  packet : Option IasAvbvideobridgeBuffer
  /-- The transfer packet is filled in, from an address on. -/
  put : Memory UInt8 → Nat → IasAvbvideobridgeBuffer → Memory UInt8

def sendPacketH264 (mRingBuffer : Bool) (packet : Option IasAvbvideobridgeBuffer) : SendCall where
  mRingBuffer := mRingBuffer
  packet := packet
  put m dataPtr packet := TransferPacket.putH264 m dataPtr packet.size packet.data

def sendPacketMpegTs (mRingBuffer sph : Bool) (packet : Option IasAvbvideobridgeBuffer) :
    SendCall where
  mRingBuffer := mRingBuffer
  packet := packet
  put m dataPtr packet := TransferPacket.putMpegTS m dataPtr sph packet.size packet.data

/-- How far a call is. -/
inductive SendStage
  /-- It has not come to the ring. -/
  | returned (result : IasAvbvideobridgeResult)
  /-- `beginAccess` has failed. -/
  | refused
  /-- `beginAccess` has granted no slot. -/
  | full
  | granted (packet : IasAvbvideobridgeBuffer) (offset : Nat)
  | copied (packet : IasAvbvideobridgeBuffer) (offset : Nat)

namespace SendCall

/-- Up to `beginAccess`. -/
def enter (c : SendCall) (r : VideoRing) : SendStage × VideoRing :=
  match c.mRingBuffer, c.packet with
  | true, some packet =>
      if r.bufferSize < packet.size then (.returned IAS_AVB_RES_PAYLOAD_TOO_LARGE, r)
      else
        match r.shm.beginAccessWrite 1 with
        | (.error _, q) => (.refused, r.setShm q)
        | (.ok access, q) =>
            (if access.numBuffers = 0 then .full else .granted packet access.offset, r.setShm q)
  | _, _ => (.returned IAS_AVB_RES_NULL_PTR, r)

/-- The packet is copied into its slot. Slots and their size are 32-bit numbers, and so is
where a slot begins. -/
def copy (c : SendCall) (r : VideoRing) (packet : IasAvbvideobridgeBuffer) (offset : Nat) :
    Memory UInt8 :=
  c.put ⟨r.cell, []⟩ (offset * r.bufferSize % 4294967296) packet

end SendCall

/-- `numPacketsTransferred`. -/
def SendStage.transferred : SendStage → Nat
  | .copied _ _ => 1
  | _ => 0

/-- From `endAccess` on, at time `now`. -/
def SendStage.leave (stage : SendStage) (r : VideoRing) (now : Nat) :
    IasAvbvideobridgeResult × VideoRing :=
  let (result, q) := r.shm.endAccessWrite stage.transferred now
  match stage with
  | .refused => (IAS_AVB_RES_NO_SPACE, r.setShm q)
  | _ => (if result = eIasRingBuffOk then IAS_AVB_RES_OK else IAS_AVB_RES_FAILED, r.setShm q)

/-! ## Many senders -/

/-- A call in progress, and what its steps have done to the ring: before and after. -/
structure SendInFlight where
  id : Nat
  call : SendCall
  stage : SendStage
  steps : List (VideoRing × VideoRing)

/-- A slot that was appended: who wrote it last, and what the data area held then. -/
structure AppendedSlot where
  id : Option Nat
  slot : Nat
  bufferSize : Nat
  cell : Nat → UInt8

/-- A call that has returned. -/
structure SendReturned where
  id : Nat
  call : SendCall
  result : IasAvbvideobridgeResult
  steps : List (VideoRing × VideoRing)

/-- The ring, the threads that send through it, and what has happened so far. -/
structure SendWorld (τ : Type) where
  ring : VideoRing
  thread : τ → Option SendInFlight := fun _ => none
  /-- The number of the next call. -/
  next : Nat := 0
  /-- The call that wrote a slot last. -/
  writer : Nat → Option Nat := fun _ => none
  appended : List AppendedSlot := []
  returned : List SendReturned := []

/-- What happens next: a step of a thread, or a call from the other end of the ring. -/
inductive SendEvent (τ : Type)
  | enter (t : τ) (call : SendCall)
  | copy (t : τ)
  | leave (t : τ) (now : Nat)
  | reader (call : IasAvbVideoRingBufferShm.ReaderCall)

namespace SendWorld

variable {τ : Type}

/-- A new ring of `numPackets` slots; without slots none is created. -/
def start (τ : Type) (numPackets bufferSize : Nat) (stale : Nat → UInt8) : SendWorld τ where
  ring := { shm := { mNumBuffers := numPackets }, bufferSize := bufferSize, cell := stale }

def setRing (w : SendWorld τ) (r : VideoRing) : SendWorld τ := { w with ring := r }

def takeNumber (w : SendWorld τ) : SendWorld τ := { w with next := w.next + 1 }

def setReturned (w : SendWorld τ) (s : SendReturned) : SendWorld τ :=
  { w with returned := s :: w.returned }

variable [DecidableEq τ]

def setThread (w : SendWorld τ) (t : τ) (f : Option SendInFlight) : SendWorld τ :=
  { w with thread := Function.update w.thread t f }

/-- The slots that a step has appended are those by which the fill level has grown. -/
def noteAppended (w : SendWorld τ) (r : VideoRing) : SendWorld τ :=
  if r.shm.mBufferLevel = w.ring.shm.mBufferLevel then w
  else
    { w with
      appended :=
        { id := w.writer w.ring.shm.mWriteOffset
          slot := w.ring.shm.mWriteOffset
          bufferSize := w.ring.bufferSize
          cell := w.ring.cell } :: w.appended }

def enter (w : SendWorld τ) (t : τ) (call : SendCall) : SendWorld τ :=
  let (stage, r) := call.enter w.ring
  let w' := (w.setRing r).takeNumber
  match stage with
  | .returned result =>
      w'.setReturned {
        id := w.next, call := call, result := result, steps := [(w.ring, r)] }
  | stage =>
      w'.setThread t (some {
        id := w.next, call := call, stage := stage, steps := [(w.ring, r)] })

def copy (w : SendWorld τ) (t : τ) (f : SendInFlight) : SendWorld τ :=
  match f.stage with
  | .granted packet offset =>
      let r := { w.ring with cell := (f.call.copy w.ring packet offset).cell }
      { (w.setRing r).setThread t (some { f with
          stage := .copied packet offset
          steps := (w.ring, r) :: f.steps }) with
        writer := Function.update w.writer offset (some f.id) }
  | _ => w

def leave (w : SendWorld τ) (t : τ) (f : SendInFlight) (now : Nat) : SendWorld τ :=
  match f.stage with
  | .granted _ _ => w
  | stage =>
      let (result, r) := stage.leave w.ring now
      (((w.noteAppended r).setRing r).setThread t none).setReturned {
        id := f.id, call := f.call, result := result, steps := (w.ring, r) :: f.steps }

/-- One step. A thread makes one call at a time. -/
def step (w : SendWorld τ) : SendEvent τ → SendWorld τ
  | .enter t call =>
      match w.thread t with
      | none => w.enter t call
      | some _ => w
  | .copy t =>
      match w.thread t with
      | none => w
      | some f => w.copy t f
  | .leave t now =>
      match w.thread t with
      | none => w
      | some f => w.leave t f now
  | .reader call => w.setRing (w.ring.setShm (w.ring.shm.readerCall call))

end SendWorld

end AvbStreamHandler
