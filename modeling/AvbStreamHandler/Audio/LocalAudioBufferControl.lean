import AvbStreamHandler.Audio.LocalAudioBuffer
import Mathlib.Logic.Function.Iterate

/-!
# The bookkeeping of a local audio buffer

What a call does to the indices and counters of a buffer does not depend on the samples. The
bookkeeping part of a buffer, taken by itself, is a small machine: each call acts on it as
the call of the same name acts on the buffer.
-/

namespace AvbStreamHandler

open Kit Kit.Word

/-- A buffer without its samples and statistics. -/
structure BufferControl where
  mTotalSize : Nat
  mReadIndex : Nat
  mWriteIndex : Nat
  mReadReady : Bool
  mReadThreshold : Nat
  mMonotonicReadIndex : Nat
  mMonotonicWriteIndex : Nat
deriving DecidableEq, Repr

namespace BufferControl

def getFillLevel (c : BufferControl) : Nat :=
  let ret := sub32 c.mWriteIndex c.mReadIndex
  if ret > c.mTotalSize then add32 ret c.mTotalSize else ret

def remaining (c : BufferControl) : Nat := sub32 (sub32 c.mTotalSize c.getFillLevel) 1

def reset (c : BufferControl) (optimalFillLevel : Nat) : BufferControl :=
  { c with
    mReadIndex :=
      let i := sub32 c.mWriteIndex optimalFillLevel
      if i > c.mTotalSize then add32 i c.mTotalSize else i
    mReadReady := false
    mMonotonicReadIndex := 0
    mMonotonicWriteIndex := 0 }

/-- The write index of a block copy. -/
def advanceWrite (c : BufferControl) (n : Nat) : BufferControl :=
  { c with
    mWriteIndex :=
      let beforeWrap := sub32 c.mTotalSize c.mWriteIndex
      if n > beforeWrap then n - beforeWrap else add32 c.mWriteIndex n
    mMonotonicWriteIndex := add64 c.mMonotonicWriteIndex n }

/-- A full buffer becomes readable. -/
def markReady (c : BufferControl) : BufferControl :=
  { c with mReadReady := c.mReadReady || decide (c.getFillLevel ≥ c.mReadThreshold) }

/-- `n` samples are offered. -/
def write (c : BufferControl) (n : Nat) : BufferControl :=
  (c.advanceWrite (min n c.remaining)).markReady

/-- The read index after one round of the interleaved loop. -/
def wrapRead (totalSize i : Nat) : Nat := if sub32 totalSize i = 1 then 0 else add32 i 1

/-- `n` samples are asked for. -/
def read (c : BufferControl) (n : Nat) : BufferControl :=
  { c with
    mReadIndex :=
      let beforeWrap := sub32 c.mTotalSize c.mReadIndex
      let n := min n c.getFillLevel
      if n > beforeWrap then n - beforeWrap else add32 c.mReadIndex n
    mMonotonicReadIndex := add64 c.mMonotonicReadIndex (min n c.getFillLevel) }

/-- `n` samples are asked for, with local iteration. -/
def readStrided (c : BufferControl) (n stride : Nat) : BufferControl :=
  if stride = 2 then c.read n
  else
    { c with
      mReadIndex := (wrapRead c.mTotalSize)^[min n c.getFillLevel] c.mReadIndex
      mMonotonicReadIndex := add64 c.mMonotonicReadIndex (min n c.getFillLevel) }

end BufferControl

namespace IasLocalAudioBuffer

def control (b : IasLocalAudioBuffer) : BufferControl where
  mTotalSize := b.mTotalSize
  mReadIndex := b.mReadIndex
  mWriteIndex := b.mWriteIndex
  mReadReady := b.mReadReady
  mReadThreshold := b.mReadThreshold
  mMonotonicReadIndex := b.mMonotonicReadIndex
  mMonotonicWriteIndex := b.mMonotonicWriteIndex

variable {b : IasLocalAudioBuffer}

theorem control_fill : b.control.getFillLevel = b.getFillLevel := rfl

theorem control_remaining : b.control.remaining = b.remaining := rfl

@[simp] theorem control_noteOverrun (n : Nat) : (b.noteOverrun n).control = b.control := by
  unfold noteOverrun; split <;> rfl

@[simp] theorem control_noteReference : b.noteReference.control = b.control := by
  unfold noteReference; split <;> rfl

@[simp] theorem control_padWithZeros (k : Nat) : (b.padWithZeros k).control = b.control := by
  unfold padWithZeros
  dsimp only
  split
  · split <;> rfl
  · rfl

/-- **Reset acts on the bookkeeping.** -/
theorem control_reset (k : Nat) : (b.reset k).control = b.control.reset k := by
  have hpad := control_padWithZeros (b := b) k
  simp only [control, BufferControl.mk.injEq] at hpad
  unfold reset control BufferControl.reset newReadIndex
  simp only [hpad]

theorem control_copyInBlock (buffer : Nat → AudioData) (n : Nat) :
    (b.copyInBlock buffer n).control
      = { b.control.advanceWrite n with
          mMonotonicWriteIndex := b.control.mMonotonicWriteIndex } := by
  unfold copyInBlock BufferControl.advanceWrite
  dsimp only [control]
  split <;> rfl

theorem control_noteWritten (n : Nat) :
    (b.noteWritten n).control
      = { b.control with
          mMonotonicWriteIndex := add64 b.control.mMonotonicWriteIndex n }.markReady := by
  have hfill : BufferControl.getFillLevel { b.control with
      mMonotonicWriteIndex := add64 b.control.mMonotonicWriteIndex n } = b.getFillLevel := rfl
  unfold noteWritten BufferControl.markReady
  rw [hfill]
  dsimp only [control]
  cases hready : b.mReadReady with
  | true => simp
  | false =>
      by_cases hfull : b.getFillLevel ≥ b.mReadThreshold
      · rw [if_pos ⟨rfl, hfull⟩]
        simp [hfull]
      · rw [if_neg fun h => hfull h.2]
        simp [hfull]

/-- **Write acts on the bookkeeping**, whatever the samples. -/
theorem control_write (buffer : Nat → AudioData) (n : Nat) :
    (b.write buffer n).1.control = b.control.write n := by
  unfold write BufferControl.write
  dsimp only
  rw [control_noteWritten, control_noteReference, control_copyInBlock, control_noteOverrun]
  rfl

@[simp] theorem control_noteRead (n : Nat) :
    (b.noteRead n).control
      = { b.control with
          mMonotonicReadIndex := add64 b.control.mMonotonicReadIndex n } := by
  unfold noteRead
  dsimp only
  split <;> rfl

theorem control_copyOutBlock (n : Nat) :
    (b.copyOutBlock n).1.control
      = { b.control with
          mReadIndex :=
            let beforeWrap := sub32 b.control.mTotalSize b.control.mReadIndex
            if n > beforeWrap then n - beforeWrap else add32 b.control.mReadIndex n } := by
  unfold copyOutBlock
  dsimp only [control]
  split <;> rfl

theorem length_copyOutBlock (n : Nat) : (b.copyOutBlock n).2.length = n := by
  unfold copyOutBlock Memory.copyOut
  dsimp only
  split
  · rw [List.length_append, List.length_map, List.length_map, List.length_range',
      List.length_range']
    omega
  · rw [List.length_map, List.length_range']

/-- **Read acts on the bookkeeping.** -/
theorem control_read (n : Nat) : (b.read n).1.control = b.control.read n := by
  unfold read
  dsimp only
  rw [control_noteRead, control_copyOutBlock]
  rfl

/-- A read delivers what is asked for, as far as there is that much. -/
theorem length_read (n : Nat) : (b.read n).2.length = min n b.getFillLevel := by
  unfold read
  exact length_copyOutBlock _

theorem control_loadSamples (n : Nat) :
    (b.loadSamples n).1.control
      = { b.control with
          mReadIndex := (BufferControl.wrapRead b.mTotalSize)^[n] b.mReadIndex } := by
  induction n generalizing b with
  | zero => rfl
  | succ n ih =>
      rw [loadSamples]
      dsimp only
      rw [ih]
      rfl

theorem control_readStrided (n stride : Nat) :
    (b.readStrided n stride).1.control = b.control.readStrided n stride := by
  unfold readStrided BufferControl.readStrided
  dsimp only
  split
  · exact control_read n
  · rw [control_noteRead, control_loadSamples]
    rfl

end IasLocalAudioBuffer

end AvbStreamHandler
