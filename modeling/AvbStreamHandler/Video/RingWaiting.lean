import AvbStreamHandler.Kit.Waiting
import AvbStreamHandler.Video.RingConcurrent
import AvbStreamHandler.Video.VideoCondVar
import AvbStreamHandler.Video.VideoRingReaders

/-!
# Waiting for the shared video ring

`waitRead` and `waitWrite`, on top of the sections of the ring. A reader looks at its level, and
the writer at the level of the ring; who finds too little sleeps on a condition variable. The
writer announces a commit to the readers, behind the section in which it is made, and a reader
announces to the writer what it has given back.

A look, the falling asleep, the return of the futex and each announcement are steps of their own,
so a commit may fall between a look and the sleep that follows it. A thread that waits does
nothing else.
-/

namespace AvbStreamHandler

open Kit Kit.Run Kit.Word Kit.Waiting

namespace IasAvbVideoRingBufferShm

/-- What a reader waits for: the place that was found for its `pid`, and a level. -/
structure WaitRead where
  place : Fin cIasVideoRingBufferShmMaxReaders
  numBuffers : Nat
deriving DecidableEq, Repr

/-- A wait that is over. -/
structure WaitOutcome where
  /-- The reader; nothing for the writer. -/
  pid : Option Nat
  result : WaitReadResult
  /-- Was the level there at some time during the wait? -/
  seen : Bool
deriving DecidableEq, Repr

/-- The ring and who waits for it. -/
structure RingWaiting where
  world : World
  mReadWaitLevel : Nat := 0
  mWriteWaitLevel : Nat := 0
  reader : Nat → Place WaitRead := fun _ => .idle
  writer : Place Unit := .idle
  /-- The writer has committed, and has not come to the announcement. -/
  owesRead : Bool := false
  /-- A reader has given something back, and has not come to the announcement. -/
  owesWrite : Nat → Bool := fun _ => false
  readerSeen : Nat → Bool := fun _ => false
  writerSeen : Bool := false
  outcomes : List WaitOutcome := []

inductive WaitEvent
  /-- A section of the ring. -/
  | access (s : Section)
  | broadcastRead
  | broadcastWrite (pid : Nat)
  | waitRead (pid numBuffers timeout_ms now : Nat)
  | readerSleeps (pid : Nat)
  /-- `wait` returns, or is interrupted and goes on sleeping. -/
  | readerReturns (pid : Nat) (result : Option CondResult) (now : Nat)
  | readerLooks (pid now : Nat)
  | waitWrite (numBuffers timeout_ms : Nat)
  | writerSleeps
  | writerReturns (result : Option CondResult)
  | writerLooks

namespace RingWaiting

def init (N : Nat) : RingWaiting := { world := World.init N }

def ring (w : RingWaiting) : IasAvbVideoRingBufferShm := w.world.ring

def setReader (w : RingWaiting) (pid : Nat) (p : Place WaitRead) : RingWaiting :=
  { w with reader := Function.update w.reader pid p }

/-- `updateReaderAccess`. -/
def updateReaderAccess (w : RingWaiting) (i : Fin cIasVideoRingBufferShmMaxReaders) (now : Nat) :
    RingWaiting :=
  { w with world := { w.world with ring := w.ring.updateReaderAccess i now } }

/-- The end of `waitRead`. -/
def readerDone (w : RingWaiting) (pid : Nat) (result : WaitReadResult) : RingWaiting :=
  { w.setReader pid .idle with
    outcomes := w.outcomes ++ [⟨some pid, result, w.readerSeen pid⟩] }

/-- The end of `waitWrite`. -/
def writerDone (w : RingWaiting) (result : WaitReadResult) : RingWaiting :=
  { w with
    writer := .idle
    outcomes := w.outcomes ++ [⟨none, result, w.writerSeen⟩] }

/-- The packets a reader has not read. -/
def unread (w : RingWaiting) (i : Fin cIasVideoRingBufferShmMaxReaders) : Nat :=
  w.world.written - (w.world.readersLap + (w.ring.mReaders i).offset)

/-- The condition of a reader. -/
def ReadReady (w : RingWaiting) (a : WaitRead) : Prop :=
  a.numBuffers ≤ w.ring.calculateReaderBufferLevel (w.ring.mReaders a.place)

instance (w : RingWaiting) (a : WaitRead) : Decidable (w.ReadReady a) :=
  inferInstanceAs (Decidable (_ ≤ _))

/-- The condition of the writer. -/
def WriteReady (w : RingWaiting) : Prop := w.ring.mBufferLevel ≤ w.mWriteWaitLevel

instance (w : RingWaiting) : Decidable w.WriteReady := inferInstanceAs (Decidable (_ ≤ _))

/-- The reader that makes a step in a section. -/
def reading : Section → Option Nat
  | .beginRead pid _ _ => some pid
  | .advance pid _ => some pid
  | .compute pid => some pid
  | .apply pid _ => some pid
  | _ => none

/-- Is it a section of the writer? -/
def writing : Section → Bool
  | .beginWrite _ => true
  | .commit _ => true
  | .purge _ => true
  | _ => false

/-- Whose section it is does not wait, and owes no announcement. -/
def Free (w : RingWaiting) (s : Section) : Prop :=
  (∀ pid ∈ reading s, w.reader pid = .idle ∧ w.owesWrite pid = false) ∧
    (writing s = true → w.writer = .idle ∧ w.owesRead = false)

instance (w : RingWaiting) (s : Section) : Decidable (w.Free s) :=
  inferInstanceAs (Decidable (_ ∧ _))

/-- A section, and whether something is to be announced behind it. -/
def access (w : RingWaiting) (s : Section) : RingWaiting :=
  let world := w.world.step s
  { w with
    world := world
    owesRead := w.owesRead || (!w.world.purging && world.purging)
    owesWrite :=
      match s with
      | .apply pid _ =>
          if w.world.thread pid ≠ .idle ∧ world.thread pid = .idle then
            Function.update w.owesWrite pid true
          else w.owesWrite
      | _ => w.owesWrite }

/-! ## The announcements -/

/-- In `endAccess` of the writer. -/
def broadcastRead (w : RingWaiting) : RingWaiting :=
  if w.owesRead = true then
    { w with
      owesRead := false
      reader :=
        if w.mReadWaitLevel ≤ w.ring.mBufferLevel then fun pid => (w.reader pid).wake
        else w.reader }
  else w

/-- In `endAccess` of a reader. -/
def broadcastWrite (w : RingWaiting) (pid : Nat) : RingWaiting :=
  if w.owesWrite pid = true then
    { w with
      owesWrite := Function.update w.owesWrite pid false
      writer := if w.WriteReady then w.writer.wake else w.writer }
  else w

/-! ## `waitRead` -/

/-- A look at the level, in the loop. -/
def look (w : RingWaiting) (pid : Nat) (a : WaitRead) : RingWaiting :=
  if w.ReadReady a then w.readerDone pid .eIasRingBuffOk else w.setReader pid (.checked a)

/-- The wait level becomes the least of what the readers wait for. -/
def enterRead (w : RingWaiting) (pid : Nat) (a : WaitRead) : RingWaiting :=
  { w with
    mReadWaitLevel := if a.numBuffers < w.mReadWaitLevel then a.numBuffers else w.mReadWaitLevel
    readerSeen := Function.update w.readerSeen pid (decide (a.numBuffers ≤ w.unread a.place)) }

/-- The start, up to the first look; `mMutex` is taken for the wait level. -/
def waitRead (w : RingWaiting) (pid numBuffers timeout_ms now : Nat) : RingWaiting :=
  if w.reader pid = .idle ∧ w.world.thread pid = .idle ∧ w.owesWrite pid = false then
    match w.ring.findReader pid with
    | none => w.readerDone pid .eIasRingBuffInvalidParam
    | some i =>
        if w.ring.mNumBuffers < numBuffers ∨ numBuffers = 0 ∨ timeout_ms = 0 then
          w.readerDone pid .eIasRingBuffInvalidParam
        else if w.world.purging = true then w
        else ((w.enterRead pid ⟨i, numBuffers⟩).updateReaderAccess i now).look pid ⟨i, numBuffers⟩
  else w

def readerSleeps (w : RingWaiting) (pid : Nat) : RingWaiting :=
  match w.reader pid with
  | .checked a => w.setReader pid (.asleep a)
  | _ => w

def readerReturns (w : RingWaiting) (pid : Nat) (result : Option CondResult) (now : Nat) :
    RingWaiting :=
  match w.reader pid with
  | .asleep a =>
      match result with
      | none => w.setReader pid (.checked a)
      | some .eIasOk => w.setReader pid (.woken a)
      | some .eIasTimeout => w.setReader pid (.timedOut a)
      | some _ => (w.updateReaderAccess a.place now).readerDone pid .eIasRingBuffCondWaitFailed
  | _ => w

def readerLooks (w : RingWaiting) (pid now : Nat) : RingWaiting :=
  match w.reader pid with
  | .woken a => (w.updateReaderAccess a.place now).look pid a
  | .timedOut a =>
      let w := w.updateReaderAccess a.place now
      w.readerDone pid (if w.ReadReady a then .eIasRingBuffOk else .eIasRingBuffTimeOut)
  | _ => w

/-! ## `waitWrite` -/

def writerLook (w : RingWaiting) : RingWaiting :=
  if w.WriteReady then w.writerDone .eIasRingBuffOk else { w with writer := .checked () }

def enterWrite (w : RingWaiting) (numBuffers : Nat) : RingWaiting :=
  let level := w.ring.mNumBuffers - numBuffers
  { w with mWriteWaitLevel := level, writerSeen := decide (w.ring.mBufferLevel ≤ level) }

/-- The writer is not in its `endAccess`. -/
def waitWrite (w : RingWaiting) (numBuffers timeout_ms : Nat) : RingWaiting :=
  if w.writer = .idle ∧ w.world.purging = false then
    if w.ring.mNumBuffers < numBuffers ∨ numBuffers = 0 ∨ timeout_ms = 0 then
      w.writerDone .eIasRingBuffInvalidParam
    else (w.enterWrite numBuffers).writerLook
  else w

def writerSleeps (w : RingWaiting) : RingWaiting :=
  match w.writer with
  | .checked a => { w with writer := .asleep a }
  | _ => w

def writerReturns (w : RingWaiting) (result : Option CondResult) : RingWaiting :=
  match w.writer with
  | .asleep a =>
      match result with
      | none => { w with writer := .checked a }
      | some .eIasOk => { w with writer := .woken a }
      | some .eIasTimeout => { w with writer := .timedOut a }
      | some _ => w.writerDone .eIasRingBuffCondWaitFailed
  | _ => w

def writerLooks (w : RingWaiting) : RingWaiting :=
  match w.writer with
  | .woken _ => w.writerLook
  | .timedOut _ =>
      w.writerDone (if w.WriteReady then .eIasRingBuffOk else .eIasRingBuffTimeOut)
  | _ => w

/-! ## A step -/

def perform (w : RingWaiting) : WaitEvent → RingWaiting
  | .access s => if w.Free s then w.access s else w
  | .broadcastRead => w.broadcastRead
  | .broadcastWrite pid => w.broadcastWrite pid
  | .waitRead pid numBuffers timeout_ms now => w.waitRead pid numBuffers timeout_ms now
  | .readerSleeps pid => w.readerSleeps pid
  | .readerReturns pid result now => w.readerReturns pid result now
  | .readerLooks pid now => w.readerLooks pid now
  | .waitWrite numBuffers timeout_ms => w.waitWrite numBuffers timeout_ms
  | .writerSleeps => w.writerSleeps
  | .writerReturns result => w.writerReturns result
  | .writerLooks => w.writerLooks

/-- It is kept in mind who has what it waits for. -/
def note (w : RingWaiting) : RingWaiting :=
  { w with
    readerSeen := fun pid => w.readerSeen pid ||
      match (w.reader pid).waits with
      | some a => decide (a.numBuffers ≤ w.unread a.place)
      | none => false
    writerSeen := w.writerSeen || (w.writer.waits.isSome && decide w.WriteReady) }

def step (w : RingWaiting) (e : WaitEvent) : RingWaiting := (w.perform e).note

/-! ## What is promised -/

/-- A section removes no reader that waits. -/
def WaitersStay (w : RingWaiting) (s : Section) : Prop :=
  ∀ pid a, (w.reader pid).waits = some a → (w.world.step s).ring.registered a.place = true

/-- **The ring is used as it has to be**: its sections meet their condition, and no reader that
waits is removed. -/
def UsedWell (w : RingWaiting) : WaitEvent → Prop
  | .access s => w.Free s → World.StepOk w.world s ∧ w.WaitersStay s
  | _ => True

/-! ## Lost wake-ups -/

/-- **Nobody sleeps over the ring**: who sleeps does not find its level there, or is about to be
told. -/
structure NoneSleepsOver (w : RingWaiting) : Prop where
  reader : NoneOver (fun _ => w.ReadReady) (w.owesRead = true) w.reader
  writer : NoneOver (fun _ _ => w.WriteReady) (∃ pid, w.owesWrite pid = true) fun _ : Unit => w.writer

/-- **Who falls asleep does not do so over its level**, unless it is about to be told. -/
def SleepsInTime (w : RingWaiting) : WaitEvent → Prop
  | .readerSleeps pid => ∀ a, w.reader pid = .checked a → w.ReadReady a → w.owesRead = true
  | .writerSleeps => ∀ a, w.writer = .checked a → w.WriteReady → ∃ pid, w.owesWrite pid = true
  | _ => True

/-! ## Honest results -/

/-- **What the waits return is right**: a level that was there is still there, and so a wait ends
well exactly if the level was there at some time, and with a timeout only if it never was. -/
structure Honest (w : RingWaiting) : Prop where
  reader : ∀ pid a, (w.reader pid).waits = some a → w.readerSeen pid = true → w.ReadReady a
  writer : w.writer ≠ .idle → w.writerSeen = true → w.WriteReady
  ok : ∀ o ∈ w.outcomes, o.result = .eIasRingBuffOk → o.seen = true
  timedOut : ∀ o ∈ w.outcomes, o.result = .eIasRingBuffTimeOut → o.seen = false

/-- `endAccess` of the writer goes through. -/
def Commits (w : RingWaiting) (numBuffers : Nat) : Prop :=
  w.Free (.commit numBuffers) ∧ w.world.purging = false ∧ w.ring.mWriteInProgress = true ∧
    numBuffers ≤ w.ring.mAllowedToWrite

instance (w : RingWaiting) (numBuffers : Nat) : Decidable (w.Commits numBuffers) :=
  inferInstanceAs (Decidable (_ ∧ _))

/-- `waitRead` comes to its first look. -/
def Starts (w : RingWaiting) (pid numBuffers timeout_ms : Nat) : Prop :=
  (w.reader pid = .idle ∧ w.world.thread pid = .idle ∧ w.owesWrite pid = false) ∧
    ¬ (w.ring.mNumBuffers < numBuffers ∨ numBuffers = 0 ∨ timeout_ms = 0) ∧
      w.world.purging = false

instance (w : RingWaiting) (pid numBuffers timeout_ms : Nat) :
    Decidable (w.Starts pid numBuffers timeout_ms) := inferInstanceAs (Decidable (_ ∧ _))

/-- **The ring is not filled up to a reader that waits**: with a whole ring unread its level would
be zero. -/
def LeavesRoom (w : RingWaiting) : WaitEvent → Prop
  | .access (.commit numBuffers) => w.Commits numBuffers → ∀ pid a,
      (w.reader pid).waits = some a → w.unread a.place + numBuffers ≠ w.ring.mNumBuffers
  | .waitRead pid numBuffers timeout_ms _ => w.Starts pid numBuffers timeout_ms →
      ∀ i ∈ w.ring.findReader pid, w.unread i ≠ w.ring.mNumBuffers
  | _ => True

end RingWaiting

end IasAvbVideoRingBufferShm

end AvbStreamHandler
