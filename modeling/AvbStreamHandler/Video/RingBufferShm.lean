import AvbStreamHandler.Kit.Word
import AvbStreamHandler.Kit.Least
import Mathlib.Data.List.FinRange

/-!
# The shared video ring

`IasAvbVideoRingBufferShm`: one writer, up to 32 readers. The writer asks for slots, fills
them and commits some; a reader asks for slots, reads them and gives some back. Every
reader has an offset of its own. It may rest at `mNumBuffers` until all readers have
finished the lap, and then all of them go back to the start together.

`mReadOffset` is meant to be the offset of the slowest reader, and `mBufferLevel` the
distance from there to `mWriteOffset`. A reader that ends an access brings both up to date
in two steps under two locks, `updateSmallerReaderOffset` and `applySmallerOffset`; they
are functions of their own here, so that they can be taken together or apart.
-/

namespace AvbStreamHandler

open Kit Kit.Word

/-- `cIasVideoRingBufferShmMaxReaders`. -/
abbrev cIasVideoRingBufferShmMaxReaders : Nat := 32

def UINT32_MAX : Nat := 4294967295

def READER_TIMEOUT_NS : Nat := 2 * 1000000000

inductive IasVideoRingBufferResult
  | eIasRingBuffOk
  | eIasRingBuffInvalidParam
  | eIasRingBuffNotAllowed
  | eIasRingBuffTooManyReaders
deriving DecidableEq, Repr

open IasVideoRingBufferResult

/-- A place for a reader; it is free if `pid` is 0. -/
structure RingBufferReader where
  pid : Nat := 0
  offset : Nat := 0
  allowedToRead : Nat := 0
  /-- In nanoseconds of the monotonic clock. -/
  lastAccess : Nat := 0
deriving DecidableEq, Repr

structure IasAvbVideoRingBufferShm where
  mNumBuffers : Nat
  mReadOffset : Nat := 0
  mWriteOffset : Nat := 0
  mBufferLevel : Nat := 0
  mWriteInProgress : Bool := false
  mAllowedToWrite : Nat := 0
  mReaders : Fin cIasVideoRingBufferShmMaxReaders → RingBufferReader := fun _ => {}

/-- What `beginAccess` hands out. -/
structure RingAccess where
  offset : Nat
  numBuffers : Nat
deriving DecidableEq, Repr

namespace IasAvbVideoRingBufferShm

/-- The order of the loops over `mReaders`. -/
def slots : List (Fin cIasVideoRingBufferShmMaxReaders) :=
  List.finRange cIasVideoRingBufferShmMaxReaders

def registered (q : IasAvbVideoRingBufferShm) (i : Fin cIasVideoRingBufferShmMaxReaders) : Bool :=
  decide ((q.mReaders i).pid ≠ 0)

def findReader (q : IasAvbVideoRingBufferShm) (pid : Nat) :
    Option (Fin cIasVideoRingBufferShmMaxReaders) :=
  if 0 < pid then slots.find? fun i => decide ((q.mReaders i).pid = pid) else none

def setReader (q : IasAvbVideoRingBufferShm) (i : Fin cIasVideoRingBufferShmMaxReaders)
    (reader : RingBufferReader) : IasAvbVideoRingBufferShm :=
  { q with mReaders := Function.update q.mReaders i reader }

/-- `updateReaderAccess`, at time `now`. -/
def updateReaderAccess (q : IasAvbVideoRingBufferShm)
    (i : Fin cIasVideoRingBufferShmMaxReaders) (now : Nat) : IasAvbVideoRingBufferShm :=
  q.setReader i { q.mReaders i with lastAccess := now }

def calculateReaderBufferLevel (q : IasAvbVideoRingBufferShm) (reader : RingBufferReader) : Nat :=
  if reader.offset ≤ q.mWriteOffset then sub32 q.mWriteOffset reader.offset
  else add32 (sub32 q.mNumBuffers reader.offset) q.mWriteOffset

/-! ## Asking for slots -/

/-- The slots a reader gets if it asks for `numBuffers`. -/
def grantRead (q : IasAvbVideoRingBufferShm) (reader : RingBufferReader) (numBuffers : Nat) :
    Nat :=
  let bufferLevel := q.calculateReaderBufferLevel reader
  let numBuffers := if bufferLevel < numBuffers then bufferLevel else numBuffers
  if q.mNumBuffers ≤ add32 reader.offset numBuffers then sub32 q.mNumBuffers reader.offset
  else numBuffers

/-- `beginAccess` for reading. -/
def beginAccessRead (q : IasAvbVideoRingBufferShm) (pid numBuffers now : Nat) :
    Except IasVideoRingBufferResult RingAccess × IasAvbVideoRingBufferShm :=
  match q.findReader pid with
  | none => (.error eIasRingBuffInvalidParam, q)
  | some i =>
      let reader := q.mReaders i
      let numBuffers := q.grantRead reader numBuffers
      (.ok { offset := reader.offset, numBuffers := numBuffers },
        (q.setReader i { reader with allowedToRead := numBuffers }).updateReaderAccess i now)

/-- The slots the writer gets if it asks for `numBuffers`. -/
def grantWrite (q : IasAvbVideoRingBufferShm) (numBuffers : Nat) : Nat :=
  let free := sub32 q.mNumBuffers q.mBufferLevel
  let numBuffers := if free < numBuffers then free else numBuffers
  let numBuffers :=
    if q.mNumBuffers ≤ add32 q.mWriteOffset numBuffers then sub32 q.mNumBuffers q.mWriteOffset
    else numBuffers
  if q.mWriteOffset < q.mReadOffset then sub32 (sub32 q.mReadOffset q.mWriteOffset) 1
  else numBuffers

/-- `beginAccess` for writing. -/
def beginAccessWrite (q : IasAvbVideoRingBufferShm) (numBuffers : Nat) :
    Except IasVideoRingBufferResult RingAccess × IasAvbVideoRingBufferShm :=
  if q.mWriteInProgress = true then (.error eIasRingBuffNotAllowed, q)
  else
    let numBuffers := q.grantWrite numBuffers
    (.ok { offset := q.mWriteOffset, numBuffers := numBuffers },
      { q with mWriteInProgress := true, mAllowedToWrite := numBuffers })

/-! ## The offset of the slowest reader -/

/-- The least offset of a registered reader, `UINT32_MAX` without one. -/
def smallerOffset (q : IasAvbVideoRingBufferShm) : Nat :=
  least q.registered (fun i => (q.mReaders i).offset) UINT32_MAX slots

/-- All registered readers go back to the start. -/
def resetOffsets (q : IasAvbVideoRingBufferShm) : IasAvbVideoRingBufferShm :=
  { q with
    mReaders := fun i =>
      if q.registered i = true then { q.mReaders i with offset := 0 } else q.mReaders i }

/-- Under `mMutexReaders`. -/
def updateSmallerReaderOffset (q : IasAvbVideoRingBufferShm) : Nat × IasAvbVideoRingBufferShm :=
  if q.smallerOffset = UINT32_MAX then (q.smallerOffset, q)
  else if q.smallerOffset = q.mNumBuffers then (q.smallerOffset, q.resetOffsets)
  else (q.smallerOffset, q)

/-- The second half of `aggregateReaderOffset`, under `mMutex`. -/
def applySmallerOffset (q : IasAvbVideoRingBufferShm) (smallerOffset : Nat) :
    IasAvbVideoRingBufferShm :=
  { q with
    mBufferLevel := sub32 q.mBufferLevel (sub32 smallerOffset q.mReadOffset)
    mReadOffset :=
      if smallerOffset = q.mNumBuffers then 0
      else if smallerOffset < q.mNumBuffers then smallerOffset
      else q.mReadOffset }

def aggregateReaderOffset (q : IasAvbVideoRingBufferShm) : IasAvbVideoRingBufferShm :=
  q.updateSmallerReaderOffset.2.applySmallerOffset q.updateSmallerReaderOffset.1

/-! ## Giving slots back -/

/-- The reader moves on by `numBuffers`. -/
def advance (q : IasAvbVideoRingBufferShm) (i : Fin cIasVideoRingBufferShmMaxReaders)
    (numBuffers : Nat) : IasAvbVideoRingBufferShm :=
  q.setReader i
    { q.mReaders i with
      allowedToRead := 0
      offset := add32 (q.mReaders i).offset numBuffers }

/-- `endAccess` for reading. -/
def endAccessRead (q : IasAvbVideoRingBufferShm) (pid numBuffers now : Nat) :
    IasVideoRingBufferResult × IasAvbVideoRingBufferShm :=
  match q.findReader pid with
  | none => (eIasRingBuffInvalidParam, q)
  | some i =>
      if (q.mReaders i).allowedToRead < numBuffers then (eIasRingBuffInvalidParam, q)
      else
        (eIasRingBuffOk, (q.advance i numBuffers).aggregateReaderOffset.updateReaderAccess i now)

/-- The writer's part of `endAccess` under `mMutex`; the access stays open if the slots
reach beyond the ring. -/
def commitWrite (q : IasAvbVideoRingBufferShm) (numBuffers : Nat) :
    IasVideoRingBufferResult × IasAvbVideoRingBufferShm :=
  let q := { q with mAllowedToWrite := 0 }
  if q.mNumBuffers < add32 q.mWriteOffset numBuffers then (eIasRingBuffInvalidParam, q)
  else
    (eIasRingBuffOk,
      { q with
        mWriteOffset :=
          if add32 q.mWriteOffset numBuffers = q.mNumBuffers then 0
          else add32 q.mWriteOffset numBuffers
        mBufferLevel := add32 q.mBufferLevel numBuffers
        mWriteInProgress := false })

/-! ## Readers come and go -/

/-- Every reader that `leaves` gives its place free. -/
def removeReaders (q : IasAvbVideoRingBufferShm) (leaves : RingBufferReader → Bool) :
    IasAvbVideoRingBufferShm :=
  { q with mReaders := fun i => if leaves (q.mReaders i) = true then {} else q.mReaders i }

/-- Has the reader been silent for too long? -/
def unresponsive (now : Nat) (reader : RingBufferReader) : Bool :=
  decide (reader.pid ≠ 0 ∧ reader.lastAccess < now ∧
    READER_TIMEOUT_NS < now - reader.lastAccess)

def purgeUnresponsiveReaders (q : IasAvbVideoRingBufferShm) (now : Nat) :
    IasAvbVideoRingBufferShm :=
  q.removeReaders (unresponsive now)

/-- `endAccess` for writing. -/
def endAccessWrite (q : IasAvbVideoRingBufferShm) (numBuffers now : Nat) :
    IasVideoRingBufferResult × IasAvbVideoRingBufferShm :=
  if q.mWriteInProgress = false then (eIasRingBuffOk, q)
  else if q.mAllowedToWrite < numBuffers then (eIasRingBuffInvalidParam, q)
  else
    match q.commitWrite numBuffers with
    | (eIasRingBuffOk, q) => (eIasRingBuffOk, q.purgeUnresponsiveReaders now)
    | (result, q) => (result, q)

/-- The first free place. -/
def freePlace (q : IasAvbVideoRingBufferShm) : Option (Fin cIasVideoRingBufferShmMaxReaders) :=
  slots.find? fun i => decide ((q.mReaders i).pid = 0)

def addReader (q : IasAvbVideoRingBufferShm) (pid now : Nat) :
    IasVideoRingBufferResult × IasAvbVideoRingBufferShm :=
  if pid = 0 then (eIasRingBuffInvalidParam, q)
  else
    match q.freePlace with
    | none => (eIasRingBuffTooManyReaders, q)
    | some i =>
        (eIasRingBuffOk,
          (q.setReader i { q.mReaders i with pid := pid, offset := q.mReadOffset }).updateReaderAccess
            i now)

def removeReader (q : IasAvbVideoRingBufferShm) (pid : Nat) :
    IasVideoRingBufferResult × IasAvbVideoRingBufferShm :=
  if pid = 0 then (eIasRingBuffInvalidParam, q)
  else
    let leaves (reader : RingBufferReader) : Bool := decide (reader.pid = pid)
    (if slots.any fun i => leaves (q.mReaders i) then eIasRingBuffOk else eIasRingBuffInvalidParam,
      q.removeReaders leaves)

/-! ## One reader at a time -/

section

variable {q : IasAvbVideoRingBufferShm} {i j : Fin cIasVideoRingBufferShmMaxReaders}
  {reader : RingBufferReader}

@[simp] theorem mReaders_setReader_self : (q.setReader i reader).mReaders i = reader :=
  Function.update_self ..

theorem mReaders_setReader_ne (h : j ≠ i) :
    (q.setReader i reader).mReaders j = q.mReaders j := Function.update_of_ne h ..

/-- A change of a reader that keeps its `pid` keeps the readers registered. -/
theorem registered_setReader (h : reader.pid = (q.mReaders i).pid)
    (j : Fin cIasVideoRingBufferShmMaxReaders) :
    (q.setReader i reader).registered j = q.registered j := by
  unfold registered
  by_cases hji : j = i
  · subst hji
    simp only [mReaders_setReader_self, h]
  · simp only [mReaders_setReader_ne hji]

@[simp] theorem registered_updateReaderAccess (now : Nat) :
    (q.updateReaderAccess i now).registered j = q.registered j := by
  unfold updateReaderAccess
  rw [registered_setReader]
  rfl

@[simp] theorem offset_updateReaderAccess (now : Nat) :
    ((q.updateReaderAccess i now).mReaders j).offset = (q.mReaders j).offset := by
  unfold updateReaderAccess
  by_cases hji : j = i
  · subst hji
    rw [mReaders_setReader_self]
  · rw [mReaders_setReader_ne hji]

theorem registered_beginAccessRead (pid n now : Nat) (j : Fin cIasVideoRingBufferShmMaxReaders) :
    (q.beginAccessRead pid n now).2.registered j = q.registered j := by
  unfold beginAccessRead
  split
  · rfl
  · rw [registered_updateReaderAccess, registered_setReader]
    rfl

theorem offset_beginAccessRead (pid n now : Nat) (j : Fin cIasVideoRingBufferShmMaxReaders) :
    ((q.beginAccessRead pid n now).2.mReaders j).offset = (q.mReaders j).offset := by
  unfold beginAccessRead
  split
  · rfl
  · rename_i i _
    rw [offset_updateReaderAccess]
    by_cases hji : j = i
    · subst hji
      rw [mReaders_setReader_self]
    · rw [mReaders_setReader_ne hji]

theorem mReadOffset_beginAccessRead (pid n now : Nat) :
    (q.beginAccessRead pid n now).2.mReadOffset = q.mReadOffset := by
  unfold beginAccessRead
  split <;> rfl

@[simp] theorem registered_advance (n : Nat) :
    (q.advance i n).registered j = q.registered j := by
  unfold advance
  rw [registered_setReader]
  rfl

theorem offset_advance_self (n : Nat) :
    ((q.advance i n).mReaders i).offset = add32 (q.mReaders i).offset n := by
  unfold advance
  rw [mReaders_setReader_self]

theorem mReaders_advance_ne (h : j ≠ i) (n : Nat) :
    (q.advance i n).mReaders j = q.mReaders j := mReaders_setReader_ne h

/-- What `addReader` does when it finds a place. -/
theorem addReader_eq {pid : Nat} (hpid : pid ≠ 0) (hf : q.freePlace = some i) (now : Nat) :
    q.addReader pid now = (eIasRingBuffOk,
      (q.setReader i { q.mReaders i with pid := pid, offset := q.mReadOffset }).updateReaderAccess
        i now) := by
  unfold addReader
  rw [if_neg hpid, hf]

/-- The new reader is registered and stands at `mReadOffset`. -/
theorem addReader_new {pid : Nat} (hpid : pid ≠ 0) (hf : q.freePlace = some i) (now : Nat) :
    (q.addReader pid now).2.registered i = true ∧
      ((q.addReader pid now).2.mReaders i).offset = q.mReadOffset := by
  rw [addReader_eq hpid hf]
  refine ⟨?_, ?_⟩
  · rw [registered_updateReaderAccess]
    unfold registered
    simp only [mReaders_setReader_self]
    exact decide_eq_true hpid
  · rw [offset_updateReaderAccess, mReaders_setReader_self]

/-- The other places stay as they are. -/
theorem addReader_others {pid : Nat} (hpid : pid ≠ 0) (hf : q.freePlace = some i) (now : Nat)
    (hji : j ≠ i) : (q.addReader pid now).2.mReaders j = q.mReaders j := by
  rw [addReader_eq hpid hf]
  unfold updateReaderAccess
  rw [mReaders_setReader_ne hji, mReaders_setReader_ne hji]

theorem registered_congr {q' : IasAvbVideoRingBufferShm} (h : q'.mReaders j = q.mReaders j) :
    q'.registered j = q.registered j := by
  unfold registered
  simp only [h]

/-- No place, no reader. -/
theorem addReader_fails {pid : Nat} (h : pid = 0 ∨ q.freePlace = none) (now : Nat) :
    (q.addReader pid now).2 = q := by
  unfold addReader
  split
  · rfl
  · rename_i hpid
    rcases h with h | h
    · exact absurd h hpid
    · rw [h]

end

end IasAvbVideoRingBufferShm

end AvbStreamHandler
