import AvbStreamHandler.Kit.Word
import AvbStreamHandler.Kit.Run
import AvbStreamHandler.Kit.Memory

/-!
# The local audio buffer

One channel of a local audio stream is a ring of 16-bit samples. A writer and a
reader move two indices through it under one lock, so every call is one atomic step.

Two families of calls share those indices. The contiguous ones copy blocks: an index
that reaches the end of the ring *stays there*, one past the last element, until the
next block copy finds no room before the wrap. The strided ones copy sample by sample
and wrap an index to zero as soon as it reaches the end. Whether the two conventions
agree is the subject of `Audio/LocalAudioBufferProof.lean`; here they are only
transcribed.

Indices are 32-bit registers and every subtraction of the source is one of them, the
ones that go below zero included.
-/

namespace AvbStreamHandler

open Kit Kit.Word

/-- One sample of one channel. -/
abbrev AudioData := BitVec 16

inductive IasAudioBufferState
  | eIasAudioBufferStateInit
  | eIasAudioBufferStateOk
  | eIasAudioBufferStateUnderrun
  | eIasAudioBufferStateOverrun
deriving DecidableEq, Repr

/-- The counters the diagnostics read. -/
structure DiagData where
  numOverrun : Nat := 0
  numUnderrun : Nat := 0
  numOverrunTotal : Nat := 0
  numUnderrunTotal : Nat := 0
  numReset : Nat := 0
deriving DecidableEq, Repr

structure IasLocalAudioBuffer where
  mReadIndex : Nat := 0
  mWriteIndex : Nat := 0
  mReadCnt : Nat := 0
  mTotalSize : Nat
  mReferenceFill : Nat := 0
  mBufferState : IasAudioBufferState := .eIasAudioBufferStateInit
  mBufferStateLast : IasAudioBufferState := .eIasAudioBufferStateInit
  mDoAnalysis : Bool
  mBuffer : Memory AudioData
  mLastRead : Nat := 0
  mDiagData : DiagData := {}
  mReadReady : Bool := false
  mReadThreshold : Nat := 0
  mMonotonicReadIndex : Nat := 0
  mMonotonicWriteIndex : Nat := 0

namespace IasLocalAudioBuffer

/-- The object after its constructor and an `init` whose allocation succeeded; the
samples are whatever `new` left in them. -/
def init (totalSize : Nat) (doAnalysis : Bool) (heap : Nat → AudioData) :
    IasLocalAudioBuffer where
  mTotalSize := totalSize
  mDoAnalysis := doAnalysis
  mBuffer := { cell := heap, touched := [] }

def getFillLevel (b : IasLocalAudioBuffer) : Nat :=
  let ret := sub32 b.mWriteIndex b.mReadIndex
  if ret > b.mTotalSize then add32 ret b.mTotalSize else ret

/-- The room a write call finds: one element always stays free. -/
def remaining (b : IasLocalAudioBuffer) : Nat :=
  sub32 (sub32 b.mTotalSize b.getFillLevel) 1

/-- `memset` to silence. -/
def silence (b : IasLocalAudioBuffer) (dst n : Nat) : IasLocalAudioBuffer :=
  { b with mBuffer := b.mBuffer.copyIn dst (fun _ => 0) n }

/-- Where `reset` puts the read index. -/
def newReadIndex (b : IasLocalAudioBuffer) (optimalFillLevel : Nat) : Nat :=
  let i := sub32 b.mWriteIndex optimalFillLevel
  if i > b.mTotalSize then add32 i b.mTotalSize else i

/-- The zeros `reset` adds in front of a buffer that holds too little. -/
def padWithZeros (b : IasLocalAudioBuffer) (optimalFillLevel : Nat) : IasLocalAudioBuffer :=
  let newReadIndex := b.newReadIndex optimalFillLevel
  if b.getFillLevel < optimalFillLevel then
    if newReadIndex < b.mReadIndex then
      b.silence newReadIndex (b.mReadIndex - newReadIndex)
    else
      (b.silence newReadIndex (sub32 b.mTotalSize newReadIndex)).silence 0 b.mReadIndex
  else b

def reset (b : IasLocalAudioBuffer) (optimalFillLevel : Nat) : IasLocalAudioBuffer :=
  { b.padWithZeros optimalFillLevel with
    mReadIndex := b.newReadIndex optimalFillLevel
    mBufferState := .eIasAudioBufferStateOk
    mBufferStateLast := .eIasAudioBufferStateOk
    mReferenceFill := 0
    mDiagData := { b.mDiagData with
      numOverrun := 0, numUnderrun := 0, numReset := add32 b.mDiagData.numReset 1 }
    mReadReady := false
    mMonotonicReadIndex := 0
    mMonotonicWriteIndex := 0 }

/-! ## Writing -/

/-- An overrun is counted when the caller offers more than there is room for. -/
def noteOverrun (b : IasLocalAudioBuffer) (nrSamples : Nat) : IasLocalAudioBuffer :=
  if nrSamples > b.remaining then
    { b with mDiagData := { b.mDiagData with
        numOverrun := add32 b.mDiagData.numOverrun 1
        numOverrunTotal := add32 b.mDiagData.numOverrunTotal 1 } }
  else b

/-- The block copy into the ring, in two parts if it does not fit before the end. -/
def copyInBlock (b : IasLocalAudioBuffer) (buffer : Nat → AudioData) (nrSamples : Nat) :
    IasLocalAudioBuffer :=
  let beforeWrap := sub32 b.mTotalSize b.mWriteIndex
  if nrSamples > beforeWrap then
    { b with
      mBuffer := (b.mBuffer.copyIn b.mWriteIndex buffer beforeWrap).copyIn 0
        (fun i => buffer (beforeWrap + i)) (nrSamples - beforeWrap)
      mWriteIndex := nrSamples - beforeWrap }
  else
    { b with
      mBuffer := b.mBuffer.copyIn b.mWriteIndex buffer nrSamples
      mWriteIndex := add32 b.mWriteIndex nrSamples }

/-- The first write after a reset fixes the reference fill. -/
def noteReference (b : IasLocalAudioBuffer) : IasLocalAudioBuffer :=
  if b.mReferenceFill = 0 then { b with mReferenceFill := b.getFillLevel } else b

/-- One round of the interleaved loop: store a sample, advance and wrap at once. -/
def storeSample (b : IasLocalAudioBuffer) (sample : AudioData) : IasLocalAudioBuffer :=
  let b' := { b with mBuffer := b.mBuffer.copyIn b.mWriteIndex (fun _ => sample) 1 }
  let beforeWrap := sub32 b.mTotalSize b.mWriteIndex
  noteReference
    (if beforeWrap = 1 then { b' with mWriteIndex := 0 }
      else { b' with mWriteIndex := add32 b.mWriteIndex 1 })

/-- The interleaved loop: `nrSamples` rounds, `advance` elements apart at the caller's
side. -/
def storeSamples (advance : Nat) (b : IasLocalAudioBuffer) (buffer : Nat → AudioData) :
    Nat → IasLocalAudioBuffer
  | 0 => b
  | nrSamples + 1 =>
      storeSamples advance (b.storeSample (buffer 0)) (fun i => buffer (advance + i)) nrSamples

/-- What both write calls do last. -/
def noteWritten (b : IasLocalAudioBuffer) (samplesWritten : Nat) : IasLocalAudioBuffer :=
  let b' := { b with mMonotonicWriteIndex := add64 b.mMonotonicWriteIndex samplesWritten }
  if b'.mReadReady = false ∧ b'.getFillLevel ≥ b'.mReadThreshold then
    { b' with mReadReady := true } else b'

/-- The contiguous write; the count is what the caller is told. -/
def write (b : IasLocalAudioBuffer) (buffer : Nat → AudioData) (nrSamples : Nat) :
    IasLocalAudioBuffer × Nat :=
  let n := min nrSamples b.remaining
  (((b.noteOverrun nrSamples).copyInBlock buffer n).noteReference.noteWritten n, n)

/-- The write with local iteration. A stride of one sample is not interleaved and
copies blocks. -/
def writeStrided (b : IasLocalAudioBuffer) (buffer : Nat → AudioData)
    (nrSamples stride : Nat) : IasLocalAudioBuffer × Nat :=
  let n := min nrSamples b.remaining
  if stride = 2 then
    (((b.noteOverrun nrSamples).copyInBlock buffer n).noteReference.noteWritten n, n)
  else
    ((storeSamples (stride / 2) (b.noteOverrun nrSamples) buffer n).noteWritten n, n)

/-! ## Reading -/

/-- The block copy out of the ring, in two parts if the end comes before the last
sample. -/
def copyOutBlock (b : IasLocalAudioBuffer) (nrSamples : Nat) :
    IasLocalAudioBuffer × List AudioData :=
  let beforeWrap := sub32 b.mTotalSize b.mReadIndex
  if nrSamples > beforeWrap then
    let (first, m) := b.mBuffer.copyOut b.mReadIndex beforeWrap
    let (second, m) := m.copyOut 0 (nrSamples - beforeWrap)
    ({ b with mBuffer := m, mReadIndex := nrSamples - beforeWrap }, first ++ second)
  else
    let (first, m) := b.mBuffer.copyOut b.mReadIndex nrSamples
    ({ b with mBuffer := m, mReadIndex := add32 b.mReadIndex nrSamples }, first)

/-- One round of the interleaved read loop. -/
def loadSample (b : IasLocalAudioBuffer) : IasLocalAudioBuffer × List AudioData :=
  let (sample, m) := b.mBuffer.copyOut b.mReadIndex 1
  let beforeWrap := sub32 b.mTotalSize b.mReadIndex
  ({ b with
      mBuffer := m
      mReadIndex := if beforeWrap = 1 then 0 else add32 b.mReadIndex 1 }, sample)

def loadSamples (b : IasLocalAudioBuffer) : Nat → IasLocalAudioBuffer × List AudioData
  | 0 => (b, [])
  | nrSamples + 1 =>
      let (b, sample) := b.loadSample
      let (b, samples) := loadSamples b nrSamples
      (b, sample ++ samples)

/-- What both read calls do last; the counters behind the log line are only kept when
the analysis is on. -/
def noteRead (b : IasLocalAudioBuffer) (samplesRead : Nat) : IasLocalAudioBuffer :=
  let b := { b with mMonotonicReadIndex := add64 b.mMonotonicReadIndex samplesRead }
  if b.mDoAnalysis then
    { b with
      mLastRead :=
        if b.mReadCnt % 32000 = 0 ∨ samplesRead ≠ b.mLastRead then samplesRead else b.mLastRead
      mReadCnt := add32 b.mReadCnt 1 }
  else b

/-- The contiguous read; the list is what arrives at the caller, in order. -/
def read (b : IasLocalAudioBuffer) (nrSamples : Nat) : IasLocalAudioBuffer × List AudioData :=
  let n := min nrSamples b.getFillLevel
  let (b, samples) := b.copyOutBlock n
  (b.noteRead n, samples)

/-- The read with local iteration. The stride spaces the samples at the caller's side
only. -/
def readStrided (b : IasLocalAudioBuffer) (nrSamples stride : Nat) :
    IasLocalAudioBuffer × List AudioData :=
  let n := min nrSamples b.getFillLevel
  let (b, samples) := if stride = 2 then b.copyOutBlock n else b.loadSamples n
  (b.noteRead n, samples)

/-! ## The calls on one buffer -/

/-- A call, with what its caller passes. -/
inductive Call
  | reset (optimalFillLevel : Nat)
  | write (buffer : Nat → AudioData) (nrSamples : Nat)
  | writeStrided (buffer : Nat → AudioData) (nrSamples stride : Nat)
  | read (nrSamples : Nat)
  | readStrided (nrSamples stride : Nat)

def step (b : IasLocalAudioBuffer) : Call → IasLocalAudioBuffer
  | .reset k => b.reset k
  | .write buffer n => (b.write buffer n).1
  | .writeStrided buffer n stride => (b.writeStrided buffer n stride).1
  | .read n => (b.read n).1
  | .readStrided n stride => (b.readStrided n stride).1

end IasLocalAudioBuffer

end AvbStreamHandler
