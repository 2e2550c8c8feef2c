import AvbStreamHandler.Video.AvbVideoSender

/-!
# Reading from the shared video ring

Two threads read packets out of a ring, one at a time: `IasLocalVideoInStream` on the talker's
side, and the worker of `IasAvbVideoReceiver` in an application. Both wait, begin an access,
hand the packet of the first slot on and end the access. They differ in what they make of an
access that grants no slot: the receiver ends it, the local stream goes on.

While a packet is being processed the others use the ring, and a reader that takes too long
loses its place.
-/

namespace AvbStreamHandler

open Kit Kit.Run Kit.Word IasVideoRingBufferResult IasAvbVideoRingBufferShm

/-- What `waitRead` can return. -/
inductive WaitReadResult
  | eIasRingBuffOk
  | eIasRingBuffInvalidParam
  | eIasRingBuffTimeOut
  | eIasRingBuffCondWaitFailed
deriving DecidableEq, Repr

/-- A call of the ring, whoever makes it. -/
inductive RingCall
  | beginWrite (numBuffers : Nat)
  | endWrite (numBuffers now : Nat)
  | reader (call : ReaderCall)
deriving DecidableEq

namespace IasAvbVideoRingBufferShm

def ringCall (q : IasAvbVideoRingBufferShm) : RingCall → IasAvbVideoRingBufferShm
  | .beginWrite numBuffers => (q.beginAccessWrite numBuffers).2
  | .endWrite numBuffers now => (q.endAccessWrite numBuffers now).2
  | .reader call => q.readerCall call

end IasAvbVideoRingBufferShm

/-- A packet as it is handed on. -/
inductive RingPacket
  | h264 (data : List UInt8)
  | mpegTs (sph : Bool) (data : List UInt8)
deriving DecidableEq

/-- What a reader has done with a slot. -/
structure SlotUse where
  granted : RingAccess
  /-- The slot it has looked at. -/
  slot : Nat
  /-- What it has handed on. -/
  packet : Option RingPacket
  /-- Has the ring taken the slot back? -/
  released : Bool
deriving DecidableEq

namespace VideoRing

/-- Slots and their size are 32-bit numbers, and so is where a slot begins. -/
def dataPtr (r : VideoRing) (offset : Nat) : Nat := offset * r.bufferSize % 4294967296

def packetH264 (r : VideoRing) (offset : Nat) : RingPacket :=
  .h264 (TransferPacket.getH264 r.cell (r.dataPtr offset))

def packetMpegTS (r : VideoRing) (offset : Nat) : RingPacket :=
  let (sph, data) := TransferPacket.getMpegTS r.cell (r.dataPtr offset)
  .mpegTs sph data

/-- The end of an access of `numPackets` packets, after the calls that others have made. -/
def endRead (r : VideoRing) (q : IasAvbVideoRingBufferShm) (others : List RingCall)
    (pid numPackets now : Nat) : IasVideoRingBufferResult × VideoRing :=
  let (result, q) := (exec ringCall q others).endAccessRead pid numPackets now
  (result, r.setShm q)

end VideoRing

/-! ## The local stream of a talker -/

namespace IasLocalVideoInStream

/-- `init`, as far as the ring goes. `shmOk` tells whether the shared memory can be had,
`stale` is what is in it. A local video buffer takes two packets at least. -/
def init (ipcNameEmpty : Bool) (maxPacketSize : Nat) (format : IasAvbVideoFormat)
    (numPackets : Nat) (shmOk : Bool) (stale : Nat → UInt8) : Option VideoRing :=
  if maxPacketSize = 0 ∨ ipcNameEmpty = true then none
  else if 1500 < maxPacketSize then none
  else if numPackets ≤ 1 ∨ shmOk = false then none
  else some {
    shm := { mNumBuffers := numPackets }
    bufferSize := maxPacketSize + sizeofTransferPacket format
    cell := stale }

/-- `copyJob` of thread `tid`. -/
def copyJob (r : VideoRing) (mFormat : IasAvbVideoFormat) (tid now : Nat) (others : List RingCall)
    (later : Nat) : Option SlotUse × VideoRing :=
  match r.shm.beginAccessRead tid 1 now with
  | (.error _, q) => (none, (r.endRead q others tid 0 later).2)
  | (.ok access, q) =>
      let packet :=
        match mFormat with
        | .eIasAvbVideoFormatRtp => r.packetH264 access.offset
        | .eIasAvbVideoFormatIec61883 => r.packetMpegTS access.offset
      let (result, r') := r.endRead q others tid 1 later
      (some {
        granted := access
        slot := access.offset
        packet := some packet
        released := decide (result = eIasRingBuffOk) }, r')

/-- A round of the loop in `run`. -/
def round (res : WaitReadResult) (r : VideoRing) (mFormat : IasAvbVideoFormat) (tid now : Nat)
    (others : List RingCall) (later : Nat) : Option SlotUse × VideoRing :=
  if res ≠ .eIasRingBuffTimeOut then copyJob r mFormat tid now others later else (none, r)

end IasLocalVideoInStream

/-! ## The receiver in an application -/

/-- `receivingFormat`. -/
inductive ReceivingFormat
  | eFormatUnknown
  | eFormatH264
  | eFormatMpegTs
deriving DecidableEq, Repr

namespace IasAvbVideoReceiver

/-- A round of the loop in `workerThread`. -/
def round (vres : WaitReadResult) (r : VideoRing) (mFormat : ReceivingFormat) (pid now : Nat)
    (others : List RingCall) (later : Nat) : Option SlotUse × VideoRing :=
  if vres = .eIasRingBuffTimeOut then (none, r)
  else
    match r.shm.beginAccessRead pid 1 now with
    | (.error _, q) => (none, (r.endRead q others pid 0 later).2)
    | (.ok access, q) =>
        if access.numBuffers = 0 then (none, (r.endRead q others pid access.numBuffers later).2)
        else
          let packet :=
            match mFormat with
            | .eFormatH264 => some (r.packetH264 access.offset)
            | .eFormatMpegTs => some (r.packetMpegTS access.offset)
            | .eFormatUnknown => none
          let (result, r') := r.endRead q others pid access.numBuffers later
          (some {
            granted := access
            slot := access.offset
            packet := packet
            released := decide (result = eIasRingBuffOk) }, r')

end IasAvbVideoReceiver

end AvbStreamHandler
