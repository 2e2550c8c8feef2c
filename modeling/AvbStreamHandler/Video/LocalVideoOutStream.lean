import AvbStreamHandler.AvbTypes
import AvbStreamHandler.Video.AvbVideoStream
import AvbStreamHandler.Video.RingBufferShm
import AvbStreamHandler.Video.TransferPacket

/-!
# The local video stream of a listener

`IasLocalVideoOutStream` takes what a receive stream hands over and pushes it into the shared
ring, where the clients read it. For H.264 it first rebuilds the RTP header, in the received
packet and in front of the payload, over what is left of the AVTP header. Each push asks the
ring for one slot and fills it with a transfer packet.

The slots are made as large as the transfer packet of the configured format and
`maxPacketSize` bytes more. What a push writes goes by the packet.
-/

namespace AvbStreamHandler

open Kit Kit.Word

/-- A push into a slot, and the bytes of the shared memory it wrote. -/
structure Push where
  bufferSize : Nat
  slot : Nat
  touched : List Nat
deriving DecidableEq

structure IasLocalVideoOutStream where
  mMaxPacketRate : Nat
  mMaxPacketSize : Nat
  mFormat : IasAvbVideoFormat
  /-- The shared ring, the size of its slots and the bytes of its data area. -/
  ring : IasAvbVideoRingBufferShm
  bufferSize : Nat
  cell : Nat → UInt8

namespace IasLocalVideoOutStream

open IasAvbProcessingResult IasVideoRingBufferResult

/-- `init`. `shmOk` tells whether the shared memory can be had, `stale` is what is in it. -/
def init (ipcNameEmpty : Bool) (maxPacketRate maxPacketSize : Nat) (format : IasAvbVideoFormat)
    (numPackets : Nat) (shmOk : Bool) (stale : Nat → UInt8) : Option IasLocalVideoOutStream :=
  if maxPacketSize = 0 ∨ ipcNameEmpty = true then none
  else if 1500 < maxPacketSize then none
  else if numPackets = 0 ∨ shmOk = false then none
  else some {
    mMaxPacketRate := maxPacketRate
    mMaxPacketSize := maxPacketSize
    mFormat := format
    ring := { mNumBuffers := numPackets }
    bufferSize := maxPacketSize + sizeofTransferPacket format
    cell := stale }

def setRing (o : IasLocalVideoOutStream) (q : IasAvbVideoRingBufferShm) : IasLocalVideoOutStream :=
  { o with ring := q }

def setCell (o : IasLocalVideoOutStream) (cell : Nat → UInt8) : IasLocalVideoOutStream :=
  { o with cell := cell }

def resultOf : IasVideoRingBufferResult → IasAvbProcessingResult
  | eIasRingBuffOk => eIasAvbProcOK
  | _ => eIasAvbProcErr

/-- The end of a push of `n` packets at time `now`. -/
def endPush (o : IasLocalVideoOutStream) (n now : Nat) :
    IasAvbProcessingResult × IasLocalVideoOutStream :=
  (resultOf (o.ring.endAccessWrite n now).1, o.setRing (o.ring.endAccessWrite n now).2)

/-- Both overloads of `pushPayload`, which differ in the transfer packet they `put`. -/
def pushPayload (o : IasLocalVideoOutStream) (put : Memory UInt8 → Nat → Memory UInt8)
    (now : Nat) : IasAvbProcessingResult × IasLocalVideoOutStream × List Push :=
  match o.ring.beginAccessWrite 1 with
  | (.error _, _) => (eIasAvbProcErr, o, [])
  | (.ok access, q) =>
      if access.numBuffers = 0 then
        let (result, o') := (o.setRing q).endPush 0 now
        (result, o', [])
      else
        -- slots and their size are 32-bit numbers, and so is where a slot begins
        let m := put ⟨o.cell, []⟩ (access.offset * o.bufferSize % 4294967296)
        let (result, o') := ((o.setRing q).setCell m.cell).endPush 1 now
        (result, o', [{ bufferSize := o.bufferSize, slot := access.offset, touched := m.touched }])

def pushPayloadH264 (o : IasLocalVideoOutStream) (data : Nat → UInt8) (size now : Nat) :
    IasAvbProcessingResult × IasLocalVideoOutStream × List Push :=
  o.pushPayload (fun m dataPtr => TransferPacket.putH264 m dataPtr size data) now

def pushPayloadMpegTs (o : IasLocalVideoOutStream) (sph : Bool) (data : Nat → UInt8)
    (size now : Nat) : IasAvbProcessingResult × IasLocalVideoOutStream × List Push :=
  o.pushPayload (fun m dataPtr => TransferPacket.putMpegTS m dataPtr sph size data) now

/-- `pushNull`, for the sake of the access time. The results are not looked at. -/
def pushNull (o : IasLocalVideoOutStream) (now : Nat) : IasLocalVideoOutStream :=
  o.setRing ((o.ring.beginAccessWrite 0).2.endAccessWrite 0 now).2

/-- The RTP header of twelve bytes, written into the packet. -/
def restoreRtpHeader (packet : Bytes) (d : VideoDesc) : Bytes :=
  ((((packet.put d.rtpPacketPtr 0x80).put (d.rtpPacketPtr + 1) d.mptField).put16
    (d.rtpPacketPtr + 2) d.rtpSequenceNumber).put32 (d.rtpPacketPtr + 4) d.rtpTimestamp).put32
    (d.rtpPacketPtr + 8) 0x4120db95

/-- `packetH264.buffer`: the RTP packet that is handed over. -/
def rtpPacket (packet : Bytes) (d : VideoDesc) (i : Nat) : UInt8 :=
  restoreRtpHeader packet d (d.rtpPacketPtr + i)

def rtpPacketSize (d : VideoDesc) : Nat := add32 d.size 12

/-- `writeLocalVideoBuffer`, for a descriptor of the received `packet`. -/
def writeLocalVideoBuffer (o : IasLocalVideoOutStream) (packet : Bytes) (now : Nat) :
    Option VideoDesc → IasLocalVideoOutStream × List Push
  | none => (o.pushNull now, [])
  | some d =>
      if d.isIec61883Packet = false then
        (o.pushPayloadH264 (rtpPacket packet d) (rtpPacketSize d) now).2
      else (o.pushPayloadMpegTs true (fun i => packet (d.data + i)) d.size now).2

end IasLocalVideoOutStream

/-! ## What the readers leave alone -/

namespace IasAvbVideoRingBufferShm

/-- What the writer goes by is the same in both rings. -/
structure SameWriter (q q' : IasAvbVideoRingBufferShm) : Prop where
  numBuffers : q'.mNumBuffers = q.mNumBuffers
  writeOffset : q'.mWriteOffset = q.mWriteOffset
  inProgress : q'.mWriteInProgress = q.mWriteInProgress
  allowed : q'.mAllowedToWrite = q.mAllowedToWrite

theorem SameWriter.refl (q : IasAvbVideoRingBufferShm) : SameWriter q q := ⟨rfl, rfl, rfl, rfl⟩

theorem SameWriter.trans {q q' q'' : IasAvbVideoRingBufferShm} (h : SameWriter q q')
    (h' : SameWriter q' q'') : SameWriter q q'' :=
  ⟨h'.numBuffers.trans h.numBuffers, h'.writeOffset.trans h.writeOffset,
    h'.inProgress.trans h.inProgress, h'.allowed.trans h.allowed⟩

variable (q : IasAvbVideoRingBufferShm)

theorem sameWriter_beginAccessRead (pid n now : Nat) :
    SameWriter q (q.beginAccessRead pid n now).2 := by
  unfold beginAccessRead
  split
  · exact .refl q
  · exact ⟨rfl, rfl, rfl, rfl⟩

theorem sameWriter_updateSmallerReaderOffset : SameWriter q q.updateSmallerReaderOffset.2 := by
  unfold updateSmallerReaderOffset
  split
  · exact .refl q
  · split
    · exact ⟨rfl, rfl, rfl, rfl⟩
    · exact .refl q

theorem sameWriter_aggregateReaderOffset : SameWriter q q.aggregateReaderOffset :=
  (sameWriter_updateSmallerReaderOffset q).trans ⟨rfl, rfl, rfl, rfl⟩

theorem sameWriter_endAccessRead (pid n now : Nat) :
    SameWriter q (q.endAccessRead pid n now).2 := by
  unfold endAccessRead
  split
  · exact .refl q
  · rename_i i _
    split
    · exact .refl q
    · have hmove : SameWriter q (q.advance i n) := ⟨rfl, rfl, rfl, rfl⟩
      exact hmove.trans ((sameWriter_aggregateReaderOffset _).trans ⟨rfl, rfl, rfl, rfl⟩)

theorem sameWriter_addReader (pid now : Nat) : SameWriter q (q.addReader pid now).2 := by
  unfold addReader
  split
  · exact .refl q
  · split
    · exact .refl q
    · exact ⟨rfl, rfl, rfl, rfl⟩

theorem sameWriter_removeReader (pid : Nat) : SameWriter q (q.removeReader pid).2 := by
  unfold removeReader
  split
  · exact .refl q
  · exact ⟨rfl, rfl, rfl, rfl⟩

/-- What the processes at the other end of the ring may do. -/
inductive ReaderCall
  | addReader (pid now : Nat)
  | removeReader (pid : Nat)
  | beginAccess (pid numBuffers now : Nat)
  | endAccess (pid numBuffers now : Nat)
deriving DecidableEq

def readerCall : ReaderCall → IasAvbVideoRingBufferShm
  | .addReader pid now => (q.addReader pid now).2
  | .removeReader pid => (q.removeReader pid).2
  | .beginAccess pid numBuffers now => (q.beginAccessRead pid numBuffers now).2
  | .endAccess pid numBuffers now => (q.endAccessRead pid numBuffers now).2

/-- **Readers do not touch what the writer goes by.** -/
theorem sameWriter_readerCall (call : ReaderCall) : SameWriter q (q.readerCall call) := by
  cases call with
  | addReader pid now => exact sameWriter_addReader q pid now
  | removeReader pid => exact sameWriter_removeReader q pid
  | beginAccess pid numBuffers now => exact sameWriter_beginAccessRead q pid numBuffers now
  | endAccess pid numBuffers now => exact sameWriter_endAccessRead q pid numBuffers now

/-- The write offset is the number of a slot. -/
def WritePlaced : Prop := q.mWriteOffset < q.mNumBuffers

variable {q} {q' : IasAvbVideoRingBufferShm}

theorem SameWriter.placed (h : SameWriter q q') (hq : q.WritePlaced) : q'.WritePlaced := by
  unfold WritePlaced
  rw [h.writeOffset, h.numBuffers]
  exact hq

theorem beginAccessWrite_offset (q : IasAvbVideoRingBufferShm) (n : Nat) :
    (q.beginAccessWrite n).2.mWriteOffset = q.mWriteOffset
      ∧ (q.beginAccessWrite n).2.mNumBuffers = q.mNumBuffers := by
  unfold beginAccessWrite
  split
  · exact ⟨rfl, rfl⟩
  · exact ⟨rfl, rfl⟩

/-- A commit moves the write offset within the ring, if it moves it at all. -/
theorem endAccessWrite_placed (hq : q.WritePlaced) (n now : Nat) :
    (q.endAccessWrite n now).2.WritePlaced
      ∧ (q.endAccessWrite n now).2.mNumBuffers = q.mNumBuffers := by
  unfold endAccessWrite
  split
  · exact ⟨hq, rfl⟩
  · split
    · exact ⟨hq, rfl⟩
    · unfold commitWrite
      dsimp only
      unfold WritePlaced at hq ⊢
      by_cases hover : q.mNumBuffers < add32 q.mWriteOffset n
      · rw [if_pos hover]
        exact ⟨hq, rfl⟩
      · rw [if_neg hover]
        refine ⟨?_, rfl⟩
        show (if add32 q.mWriteOffset n = q.mNumBuffers then 0 else add32 q.mWriteOffset n)
          < q.mNumBuffers
        split <;> omega

end IasAvbVideoRingBufferShm

end AvbStreamHandler
