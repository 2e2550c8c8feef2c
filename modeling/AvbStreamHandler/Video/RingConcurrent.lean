import AvbStreamHandler.Kit.Run
import AvbStreamHandler.Video.RingLedger

/-!
# The shared video ring under concurrent readers

A reader that ends an access moves its offset, computes the least offset of all readers
under one lock and applies it under another. Between these steps the writer and the other
readers go on. Every section that a lock protects is a step of its own here; the writer
holds `mMutex` from its commit to the end of the purge.

The least offset a thread has computed is a promise: as long as some thread still has to
compute, or has the current least offset to apply, `mReadOffset` will catch up. `Inv` says
so in positions of the packet stream, where `floor` is the position of the slowest reader.
`StepOk` excludes what breaks the promise: a minimum applied after a later one, a reader
that joins at an offset about to be left, the slowest reader leaving with nobody left to
compute the new minimum.
-/

namespace AvbStreamHandler

open Kit Kit.Run Kit.Word

namespace IasAvbVideoRingBufferShm

/-- The least offset a thread has computed, and where the lap started that it belongs
to. -/
structure Minimum where
  lap : Nat
  offset : Nat
deriving DecidableEq

def Minimum.pos (m : Minimum) : Nat := m.lap + m.offset

/-- How far a thread is in its `endAccess`. -/
inductive EndAccess
  | idle
  /-- The offset is moved. -/
  | advanced (place : Fin cIasVideoRingBufferShmMaxReaders)
  /-- `updateSmallerReaderOffset` has returned. -/
  | computed (place : Fin cIasVideoRingBufferShmMaxReaders) (smallerOffset : Minimum)
deriving DecidableEq

/-- The ring, the threads that use it, and the positions behind the offsets. -/
structure World where
  ring : IasAvbVideoRingBufferShm
  thread : Nat → EndAccess := fun _ => .idle
  /-- The writer is between its commit and the purge, and holds `mMutex`. -/
  purging : Bool := false
  /-- The number of packets committed. -/
  written : Nat := 0
  readersLap : Nat := 0
  readLap : Nat := 0
  /-- The number of packets committed when the last reader left. -/
  freed : Nat := 0

inductive Section
  | beginWrite (numBuffers : Nat)
  | commit (numBuffers : Nat)
  | purge (now : Nat)
  | beginRead (pid numBuffers now : Nat)
  | advance (pid numBuffers : Nat)
  | compute (pid : Nat)
  | apply (pid now : Nat)
  | addReader (pid now : Nat)
  | removeReader (pid : Nat)

/-- The thread whose `endAccess` a section belongs to. -/
def Section.thread : Section → Option Nat
  | .advance pid _ => some pid
  | .compute pid => some pid
  | .apply pid _ => some pid
  | _ => none

namespace World

def init (N : Nat) : World := { ring := { mNumBuffers := N } }

def setThread (w : World) (pid : Nat) (phase : EndAccess) : World :=
  { w with thread := Function.update w.thread pid phase }

/-- Some readers leave; the record is kept if they were the last. -/
def leave (w : World) (q : IasAvbVideoRingBufferShm) : World :=
  { w with
    ring := q
    freed :=
      if (∃ i, w.ring.registered i = true) ∧ ∀ i, q.registered i = false then w.written
      else w.freed }

def step (w : World) : Section → World
  | .beginWrite numBuffers =>
      if w.purging = true then w else { w with ring := (w.ring.beginAccessWrite numBuffers).2 }
  | .commit numBuffers =>
      if w.purging = false ∧ w.ring.mWriteInProgress = true ∧ numBuffers ≤ w.ring.mAllowedToWrite then
        match w.ring.commitWrite numBuffers with
        | (.eIasRingBuffOk, q) =>
            { w with ring := q, purging := true, written := w.written + numBuffers }
        | (_, q) => { w with ring := q }
      else w
  | .purge now =>
      if w.purging = true then
        { w.leave (w.ring.purgeUnresponsiveReaders now) with purging := false }
      else w
  | .beginRead pid numBuffers now =>
      match w.thread pid with
      | .idle => { w with ring := (w.ring.beginAccessRead pid numBuffers now).2 }
      | _ => w
  | .advance pid numBuffers =>
      match w.thread pid, w.ring.findReader pid with
      | .idle, some i =>
          if numBuffers ≤ (w.ring.mReaders i).allowedToRead then
            { w.setThread pid (.advanced i) with ring := w.ring.advance i numBuffers }
          else w
      | _, _ => w
  | .compute pid =>
      match w.thread pid with
      | .advanced i =>
          let smallerOffset := w.ring.updateSmallerReaderOffset.1
          { w.setThread pid (.computed i { lap := w.readersLap, offset := smallerOffset }) with
            ring := w.ring.updateSmallerReaderOffset.2
            readersLap :=
              if smallerOffset = w.ring.mNumBuffers then w.readersLap + w.ring.mNumBuffers
              else w.readersLap }
      | _ => w
  | .apply pid now =>
      match w.thread pid with
      | .computed i m =>
          if w.purging = true then w
          else
            { w.setThread pid .idle with
              ring := (w.ring.applySmallerOffset m.offset).updateReaderAccess i now
              readLap :=
                if m.offset = w.ring.mNumBuffers then w.readLap + w.ring.mNumBuffers
                else w.readLap }
      | _ => w
  | .addReader pid now => { w with ring := (w.ring.addReader pid now).2 }
  | .removeReader pid => w.leave (w.ring.removeReader pid).2

/-! ## The account -/

/-- No `endAccess` is in progress. -/
def Quiet (w : World) : Prop := (∀ pid, w.thread pid = .idle) ∧ w.purging = false

structure Accounted (N : Nat) (w : World) : Prop where
  /-- `mReadOffset` is the offset of the slowest reader. -/
  slowest : (∃ i, w.ring.registered i = true) → w.ring.mReadOffset = w.ring.smallerOffset
  /-- `mBufferLevel` is the distance from `mReadOffset` to `mWriteOffset`. -/
  distance : (w.ring.mReadOffset + w.ring.mBufferLevel) % N = w.ring.mWriteOffset
  /-- Without readers, nothing is held back but what came since. -/
  freed : (∀ i, w.ring.registered i = false) → w.ring.mBufferLevel + w.freed = w.written

/-! ## The condition -/

/-- Those that leave are not the slowest, or a thread still has to compute the minimum; if
none is left, nothing was unread. -/
def LeaveOk (w : World) (q : IasAvbVideoRingBufferShm) : Prop :=
  if ∃ i, q.registered i = true then
    q.smallerOffset = w.ring.smallerOffset ∨ ∃ pid i, w.thread pid = .advanced i
  else ∀ i, w.ring.registered i = true → w.readersLap + (w.ring.mReaders i).offset = w.written

/-- The condition on a section, in the state it is entered in. -/
def StepOk (w : World) : Section → Prop
  | .beginWrite n => w.ring.mWriteInProgress = false → WriteFits w.ring n
  | .commit _ => True
  | .purge now => w.purging = true → LeaveOk w (w.ring.purgeUnresponsiveReaders now)
  | .beginRead pid n _ => ∀ i ∈ w.ring.findReader pid, ReadFits w.ring (w.ring.mReaders i) n
  | .advance _ _ => True
  | .compute pid =>
      match w.thread pid with
      | .advanced _ => w.ring.smallerOffset ≠ UINT32_MAX
      | _ => True
  | .apply pid _ =>
      match w.thread pid with
      | .computed _ m => m.lap = w.readLap ∧ w.ring.mReadOffset ≤ m.offset
      | _ => True
  | .addReader pid _ => pid ≠ 0 → w.ring.freePlace ≠ none →
      ∀ p i m, w.thread p = .computed i m → m.pos = w.readLap + w.ring.mReadOffset
  | .removeReader pid => pid ≠ 0 → LeaveOk w (w.ring.removeReader pid).2

/-! ## The invariant -/

/-- **The invariant**, with `floor` for the position of the slowest reader. -/
structure Inv (N floor : Nat) (w : World) : Prop where
  ledger : Ledger N w.ring w.written w.readersLap w.readLap
  below : ∀ i, w.ring.registered i = true → floor ≤ w.readersLap + (w.ring.mReaders i).offset
  reached : (∃ i, w.ring.registered i = true) →
    ∃ i, w.ring.registered i = true ∧ w.readersLap + (w.ring.mReaders i).offset = floor
  read : w.readLap + w.ring.mReadOffset ≤ floor
  written : floor ≤ w.written
  /-- Without readers, the floor is where the last one left. -/
  freed : (∀ i, w.ring.registered i = false) → floor = w.freed
  /-- What was computed is not above the floor, and an end of the lap is taken up. -/
  computed : ∀ pid i m, w.thread pid = .computed i m → m.pos ≤ floor ∧ m.offset ≤ N ∧
    (m.offset = N → m.lap + N ≤ w.readersLap)
  /-- `mReadOffset` is at the floor, or some thread will bring it there. -/
  fresh : w.readLap + w.ring.mReadOffset = floor ∨
    (∃ pid i m, w.thread pid = .computed i m ∧ m.pos = floor) ∨
      ∃ pid i, w.thread pid = .advanced i
  /-- The readers are a lap ahead only until the end of the lap is applied. -/
  laps : w.readersLap = w.readLap ∨ w.readersLap = w.readLap + N ∧
    ∃ pid i m, w.thread pid = .computed i m ∧ m.lap = w.readLap ∧ m.offset = N

variable {N floor : Nat} {w : World}

theorem inv_init (hN : 0 < N) : Inv N 0 (init N) where
  ledger := ledger_init hN
  below i h := by simp [init, registered] at h
  reached := by
    rintro ⟨i, h⟩
    simp [init, registered] at h
  read := Nat.le_refl 0
  written := Nat.le_refl 0
  freed _ := rfl
  computed pid i m h := by simp [init] at h
  fresh := Or.inl rfl
  laps := Or.inl rfl

theorem thread_setThread_self (w : World) (pid : Nat) (phase : EndAccess) :
    (w.setThread pid phase).thread pid = phase := Function.update_self ..

theorem thread_setThread_ne (w : World) {p pid : Nat} (hp : p ≠ pid) (phase : EndAccess) :
    (w.setThread pid phase).thread p = w.thread p := Function.update_of_ne hp ..

/-- A section of one thread leaves those in other phases where they are. -/
theorem thread_kept {p pid : Nat} {phase phase' : EndAccess} (hp : w.thread p = phase)
    (hpid : w.thread pid = phase') (hne : phase' ≠ phase) (next : EndAccess) :
    (w.setThread pid next).thread p = phase := by
  have hpp : p ≠ pid := by
    rintro rfl
    exact hne (hpid.symm.trans hp)
  exact (thread_setThread_ne w hpp next).trans hp

/-- Only the second section computes; the others leave what was computed before. -/
theorem computed_before {p pid : Nat} {j : Fin cIasVideoRingBufferShmMaxReaders} {m : Minimum}
    {next : EndAccess} (hp : (w.setThread pid next).thread p = .computed j m)
    (hnext : ∀ i m, next ≠ .computed i m) : w.thread p = .computed j m := by
  have hpp : p ≠ pid := by
    rintro rfl
    exact hnext j m ((thread_setThread_self w p next).symm.trans hp)
  exact (thread_setThread_ne w hpp next).symm.trans hp

/-- Behind the second section there is the new minimum, and what was computed before. -/
theorem computed_cases {p pid : Nat} {i j : Fin cIasVideoRingBufferShmMaxReaders} {m m' : Minimum}
    (hp : (w.setThread pid (.computed i m)).thread p = .computed j m') :
    m' = m ∨ w.thread p = .computed j m' := by
  by_cases hpp : p = pid
  · subst hpp
    have hp := (thread_setThread_self w p _).symm.trans hp
    exact Or.inl (EndAccess.computed.inj hp).2.symm
  · exact Or.inr ((thread_setThread_ne w hpp _).symm.trans hp)

/-- **The invariant gives the account** as soon as all is quiet. -/
theorem Inv.accounted (h : Inv N floor w) (hN : N < 4294967296) (hquiet : Quiet w) :
    Accounted N w := by
  have hfloor : w.readLap + w.ring.mReadOffset = floor := by
    rcases h.fresh with hf | ⟨pid, i, m, hp, -⟩ | ⟨pid, i, hp⟩
    · exact hf
    · exact absurd ((hquiet.1 pid).symm.trans hp) (by simp)
    · exact absurd ((hquiet.1 pid).symm.trans hp) (by simp)
  have hlap : w.readersLap = w.readLap := by
    rcases h.laps with hl | ⟨-, pid, i, m, hp, -⟩
    · exact hl
    · exact absurd ((hquiet.1 pid).symm.trans hp) (by simp)
  have hlevel := h.ledger.level
  refine ⟨?_, ?_, ?_⟩
  · intro hex
    obtain ⟨i, hi, hat⟩ := h.reached hex
    have hoff : (w.ring.mReaders i).offset = w.ring.mReadOffset := by omega
    have hread := h.ledger.read_lt
    rw [smallerOffset_eq hi, hoff]
    · rw [hoff]
      show w.ring.mReadOffset ≤ 4294967295
      omega
    · intro j hj
      have hbelow := h.below j hj
      omega
  · have hmod := mod_lap (p := w.written) h.ledger.lap (by omega)
    have hd : w.written - w.readLap = w.ring.mReadOffset + w.ring.mBufferLevel := by omega
    rw [h.ledger.write, hmod, hd]
  · intro hnone
    have hfreed := h.freed hnone
    omega

/-! ## Sections that move no reader -/

/-- The threads, the readers and `mReadOffset` stay where they are. -/
theorem Inv.ofRing (h : Inv N floor w) {w' : World}
    (hledger : Ledger N w'.ring w'.written w.readersLap w.readLap)
    (hreg : ∀ i, w'.ring.registered i = w.ring.registered i)
    (hoff : ∀ i, (w'.ring.mReaders i).offset = (w.ring.mReaders i).offset)
    (hread : w'.ring.mReadOffset = w.ring.mReadOffset) (hwritten : w.written ≤ w'.written)
    (hthread : w'.thread = w.thread) (hlap : w'.readersLap = w.readersLap)
    (hlap' : w'.readLap = w.readLap) (hfreed : w'.freed = w.freed) : Inv N floor w' where
  ledger := by
    rw [hlap, hlap']
    exact hledger
  below i hi := by
    rw [hlap, hoff]
    exact h.below i ((hreg i).symm.trans hi)
  reached := by
    rintro ⟨i, hi⟩
    obtain ⟨j, hj, hat⟩ := h.reached ⟨i, (hreg i).symm.trans hi⟩
    refine ⟨j, (hreg j).trans hj, ?_⟩
    rw [hlap, hoff]
    exact hat
  read := by
    rw [hlap', hread]
    exact h.read
  written := le_trans h.written hwritten
  freed hnone := by
    rw [hfreed]
    exact h.freed fun i => (hreg i).symm.trans (hnone i)
  computed pid i m hp := by
    rw [hthread] at hp
    rw [hlap]
    exact h.computed pid i m hp
  fresh := by
    rw [hlap', hread, hthread]
    exact h.fresh
  laps := by
    rw [hlap, hlap', hthread]
    exact h.laps

theorem inv_beginWrite (h : Inv N floor w) (hN : N < 4294967296) {n : Nat}
    (hok : StepOk w (.beginWrite n)) : Inv N floor (step w (.beginWrite n)) := by
  unfold step
  dsimp only
  split
  · exact h
  · have hledger := h.ledger.beginAccessWrite hN (n := n) hok
    have hsame : (w.ring.beginAccessWrite n).2.mReaders = w.ring.mReaders ∧
        (w.ring.beginAccessWrite n).2.mReadOffset = w.ring.mReadOffset := by
      unfold beginAccessWrite
      split <;> exact ⟨rfl, rfl⟩
    refine h.ofRing hledger ?_ ?_ hsame.2 (Nat.le_refl _) rfl rfl rfl rfl
    · intro i
      unfold registered
      rw [hsame.1]
    · intro i
      rw [hsame.1]

theorem inv_commit (h : Inv N floor w) (hN : N < 4294967296) (n : Nat) :
    Inv N floor (step w (.commit n)) := by
  unfold step
  dsimp only
  split
  · rename_i hc
    obtain ⟨-, hprog, hn⟩ := hc
    rw [h.ledger.commitWrite_eq hN hprog hn]
    exact h.ofRing (h.ledger.committed hprog hn) (fun _ => rfl) (fun _ => rfl) rfl
      (Nat.le_add_right _ _) rfl rfl rfl rfl
  · exact h

theorem inv_beginRead (h : Inv N floor w) (hN : N < 4294967296) {pid n : Nat} (now : Nat)
    (hok : StepOk w (.beginRead pid n now)) : Inv N floor (step w (.beginRead pid n now)) := by
  have hledger := h.ledger.beginAccessRead hN now hok
  unfold step
  dsimp only
  split
  · refine h.ofRing hledger ?_ ?_ ?_ (Nat.le_refl _) rfl rfl rfl rfl
    · intro i
      exact registered_beginAccessRead pid n now i
    · intro i
      exact offset_beginAccessRead pid n now i
    · exact mReadOffset_beginAccessRead pid n now
  · exact h

/-! ## The three sections of `endAccess` -/

theorem inv_advance (h : Inv N floor w) (hN : N < 4294967296) (pid n : Nat) :
    ∃ floor', Inv N floor' (step w (.advance pid n)) := by
  unfold step
  dsimp only
  split
  · rename_i i hidle hf
    split
    · rename_i hn
      have hi := findReader_registered hf
      have hledger := h.ledger.advance hN hi hn
      have hr := h.ledger.reader i hi
      have hlap := hr.lap
      -- the new floor is where the slowest reader is now
      obtain ⟨k, hk, hkoff⟩ := hledger.exists_slowest hN ⟨i, (registered_advance n).trans hi⟩
      have hgrow : ∀ j, (w.ring.mReaders j).offset ≤ ((w.ring.advance i n).mReaders j).offset := by
        intro j
        by_cases hji : j = i
        · subst hji
          rw [offset_advance_self, add32_of_lt (by omega)]
          omega
        · rw [mReaders_advance_ne hji]
      have hfloor : floor ≤ w.readersLap + (w.ring.advance i n).smallerOffset := by
        have hb := h.below k ((registered_advance n).symm.trans hk)
        have hg := hgrow k
        omega
      have hread := h.read
      refine ⟨w.readersLap + (w.ring.advance i n).smallerOffset, hledger, ?_, ?_, ?_, ?_, ?_, ?_,
        ?_, ?_⟩
      · intro j hj
        exact Nat.add_le_add_left (smallerOffset_le hj) _
      · intro _
        exact ⟨k, hk, congrArg (w.readersLap + ·) hkoff⟩
      · exact le_trans h.read hfloor
      · have hahead := (hledger.reader k hk).ahead
        show _ ≤ w.written
        omega
      · intro hnone
        exact Bool.noConfusion (((hnone i).symm.trans (registered_advance n)).trans hi)
      · intro p j m hp
        have hc := h.computed p j m (computed_before hp fun _ _ => nofun)
        exact ⟨le_trans hc.1 hfloor, hc.2⟩
      · exact Or.inr (Or.inr ⟨pid, i, thread_setThread_self w pid _⟩)
      · rcases h.laps with hl | ⟨hl, p, j, m, hp, hm⟩
        · exact Or.inl hl
        · exact Or.inr ⟨hl, p, j, m, thread_kept hp hidle nofun _, hm⟩
    · exact ⟨floor, h⟩
  · exact ⟨floor, h⟩

section

variable {pid : Nat} {i k : Fin cIasVideoRingBufferShmMaxReaders} {m : Minimum}

/-- The minimum is the position of the slowest reader. -/
theorem Inv.smallerOffset_floor (h : Inv N floor w) (hk : w.ring.registered k = true)
    (hkoff : (w.ring.mReaders k).offset = w.ring.smallerOffset) :
    w.readersLap + w.ring.smallerOffset = floor := by
  obtain ⟨j, hj, hat⟩ := h.reached ⟨k, hk⟩
  have hle := smallerOffset_le hj
  have hbelow := h.below k hk
  omega

/-- At the end of a lap all readers are in the lap of `mReadOffset`. -/
theorem Inv.laps_of_end (h : Inv N floor w) (hk : w.ring.registered k = true)
    (hkoff : (w.ring.mReaders k).offset = w.ring.smallerOffset)
    (hend : w.ring.smallerOffset = N) : w.readersLap = w.readLap := by
  rcases h.laps with hl | ⟨hl, -⟩
  · exact hl
  · -- two laps ahead of `mReadOffset` nothing is written
    have hahead := (h.ledger.reader k hk).ahead
    have hlevel := h.ledger.level
    have hle := h.ledger.level_le
    have hread := h.ledger.read_lt
    omega

/-- The readers are at the end of the lap: they start a new one. -/
theorem inv_computeEnd (h : Inv N floor w) (i : Fin cIasVideoRingBufferShmMaxReaders)
    (hk : w.ring.registered k = true)
    (hkoff : (w.ring.mReaders k).offset = w.ring.smallerOffset)
    (hend : w.ring.smallerOffset = N)
    (hreset : Ledger N w.ring.resetOffsets w.written (w.readersLap + N) w.readLap) :
    Inv N floor
      { w.setThread pid (.computed i { lap := w.readersLap, offset := w.ring.smallerOffset }) with
        ring := w.ring.resetOffsets
        readersLap := w.readersLap + N } := by
  have hpos := h.smallerOffset_floor hk hkoff
  have hlaps := h.laps_of_end hk hkoff hend
  refine ⟨hreset, ?_, ?_, h.read, h.written, ?_, ?_, ?_, ?_⟩
  · intro j hj
    have hj := (registered_resetOffsets j).symm.trans hj
    show floor ≤ w.readersLap + N + (w.ring.resetOffsets.mReaders j).offset
    omega
  · intro _
    refine ⟨k, (registered_resetOffsets k).trans hk, ?_⟩
    show w.readersLap + N + (w.ring.resetOffsets.mReaders k).offset = floor
    rw [offset_resetOffsets hk]
    omega
  · intro hnone
    exact h.freed fun j => (registered_resetOffsets j).symm.trans (hnone j)
  · intro p j m hp
    show m.pos ≤ floor ∧ m.offset ≤ N ∧ (m.offset = N → m.lap + N ≤ w.readersLap + N)
    rcases computed_cases hp with rfl | hp
    · exact ⟨Nat.le_of_eq hpos, Nat.le_of_eq hend, fun _ => Nat.le_refl _⟩
    · obtain ⟨h1, h2, h3⟩ := h.computed p j m hp
      exact ⟨h1, h2, fun ho => le_trans (h3 ho) (Nat.le_add_right _ _)⟩
  · exact Or.inr (Or.inl ⟨pid, i, _, thread_setThread_self w pid _, hpos⟩)
  · refine Or.inr ⟨?_, pid, i, _, thread_setThread_self w pid _, hlaps, hend⟩
    show w.readersLap + N = w.readLap + N
    rw [hlaps]

/-- A reader is within the lap: nothing but the minimum is new. -/
theorem inv_computeWithin (h : Inv N floor w) (hadv : w.thread pid = .advanced i)
    (hk : w.ring.registered k = true)
    (hkoff : (w.ring.mReaders k).offset = w.ring.smallerOffset)
    (hlt : w.ring.smallerOffset < N) :
    Inv N floor
      (w.setThread pid (.computed i { lap := w.readersLap, offset := w.ring.smallerOffset })) := by
  have hpos := h.smallerOffset_floor hk hkoff
  refine ⟨h.ledger, h.below, h.reached, h.read, h.written, h.freed, ?_, ?_, ?_⟩
  · intro p j m hp
    rcases computed_cases hp with rfl | hp
    · exact ⟨Nat.le_of_eq hpos, Nat.le_of_lt hlt, fun ho => absurd ho (Nat.ne_of_lt hlt)⟩
    · exact h.computed p j m hp
  · exact Or.inr (Or.inl ⟨pid, i, _, thread_setThread_self w pid _, hpos⟩)
  · rcases h.laps with hl | ⟨hl, p, j, m, hp, hm⟩
    · exact Or.inl hl
    · exact Or.inr ⟨hl, p, j, m, thread_kept hp hadv nofun _, hm⟩

/-- The computed minimum is the floor; at the end of a lap the readers start a new one. -/
theorem inv_compute (h : Inv N floor w) (hok : StepOk w (.compute pid)) :
    Inv N floor (step w (.compute pid)) := by
  unfold step
  dsimp only
  split
  · rename_i i hadv
    unfold StepOk at hok
    dsimp only at hok
    rw [hadv] at hok
    have hmax : w.ring.smallerOffset ≠ UINT32_MAX := hok
    obtain ⟨hm, hcase⟩ := h.ledger.updateSmallerReaderOffset hmax
    obtain ⟨k, hk, hkoff⟩ := smallerOffset_mem hmax
    rw [hm, h.ledger.numBuffers]
    rcases hcase with ⟨hend, hq, hreset⟩ | ⟨hlt, hq⟩
    · rw [hq, if_pos hend]
      exact inv_computeEnd h i hk hkoff hend hreset
    · rw [hq, if_neg (Nat.ne_of_lt hlt)]
      exact inv_computeWithin h hadv hk hkoff hlt
  · exact h

/-- Who was to bring `mReadOffset` to the floor has done so, or is still there. -/
theorem Inv.fresh_apply (h : Inv N floor w) (hcomp : w.thread pid = .computed i m)
    (hlap : m.lap = w.readLap) (hle : w.ring.mReadOffset ≤ m.offset)
    (hfloor : w.readLap + m.offset ≤ floor) :
    w.readLap + m.offset = floor ∨
      (∃ p j m', (w.setThread pid .idle).thread p = .computed j m' ∧ m'.pos = floor) ∨
        ∃ p j, (w.setThread pid .idle).thread p = .advanced j := by
  rcases h.fresh with hf | ⟨p, j, m', hp, hat⟩ | ⟨p, j, hp⟩
  · exact Or.inl (by omega)
  · by_cases hsame : EndAccess.computed i m = .computed j m'
    · obtain ⟨-, rfl⟩ := EndAccess.computed.inj hsame
      unfold Minimum.pos at hat
      rw [hlap] at hat
      exact Or.inl hat
    · exact Or.inr (Or.inl ⟨p, j, m', thread_kept hp hcomp hsame _, hat⟩)
  · exact Or.inr (Or.inr ⟨p, j, thread_kept hp hcomp nofun _⟩)

/-- The lap of `mReadOffset` ends with the thread that applies the end of the lap. -/
theorem Inv.laps_apply (h : Inv N floor w) (hcomp : w.thread pid = .computed i m)
    (hmlap : m.offset = N → w.readLap + N ≤ w.readersLap) :
    w.readersLap = (if m.offset = N then w.readLap + N else w.readLap) ∨
      w.readersLap = (if m.offset = N then w.readLap + N else w.readLap) + N ∧
        ∃ p j m', (w.setThread pid .idle).thread p = .computed j m' ∧
          m'.lap = (if m.offset = N then w.readLap + N else w.readLap) ∧ m'.offset = N := by
  rcases h.laps with hl | ⟨hl, p, j, m', hp, hlap, hend⟩
  · -- in the same lap, the end of the lap is not applied
    have hne : m.offset ≠ N := by
      intro heq
      have := hmlap heq
      have := h.ledger.read_lt
      omega
    rw [if_neg hne]
    exact Or.inl hl
  · by_cases hmend : m.offset = N
    · rw [if_pos hmend]
      exact Or.inl hl
    · rw [if_neg hmend]
      refine Or.inr ⟨hl, p, j, m', thread_kept hp hcomp ?_ _, hlap, hend⟩
      intro hsame
      obtain ⟨-, rfl⟩ := EndAccess.computed.inj hsame
      exact hmend hend

end

/-- `mReadOffset` moves to a minimum that was computed, towards the floor. -/
theorem inv_apply (h : Inv N floor w) (hN : N < 4294967296) {pid now : Nat}
    (hok : StepOk w (.apply pid now)) : Inv N floor (step w (.apply pid now)) := by
  unfold step
  dsimp only
  split
  · rename_i i m hcomp
    unfold StepOk at hok
    dsimp only at hok
    rw [hcomp] at hok
    obtain ⟨hlap, hle⟩ := hok
    obtain ⟨hfloor, hmN, hmlap⟩ := h.computed pid i m hcomp
    unfold Minimum.pos at hfloor
    rw [hlap] at hfloor hmlap
    split
    · exact h
    · have hledger := h.ledger.applySmallerOffset hN hle hmN
        (fun j hj => le_trans hfloor (h.below j hj)) (le_trans hfloor h.written)
      have hpos := h.ledger.read_applySmallerOffset hmN
      rw [h.ledger.numBuffers]
      refine ⟨hledger.updateReaderAccess now, ?_, ?_, ?_, h.written, ?_, ?_, ?_,
        h.laps_apply hcomp hmlap⟩
      · intro j hj
        show floor ≤ w.readersLap + _
        dsimp only
        rw [offset_updateReaderAccess]
        exact h.below j ((registered_updateReaderAccess now).symm.trans hj)
      · rintro ⟨j, hj⟩
        obtain ⟨k, hk, hat⟩ := h.reached ⟨j, (registered_updateReaderAccess now).symm.trans hj⟩
        refine ⟨k, (registered_updateReaderAccess now).trans hk, ?_⟩
        dsimp only
        rw [offset_updateReaderAccess]
        exact hat
      · show _ + (w.ring.applySmallerOffset m.offset).mReadOffset ≤ floor
        dsimp only
        rw [hpos]
        exact hfloor
      · intro hnone
        exact h.freed fun j => (registered_updateReaderAccess now).symm.trans (hnone j)
      · intro p j m' hp
        exact h.computed p j m' (computed_before hp fun _ _ => nofun)
      · show _ + (w.ring.applySmallerOffset m.offset).mReadOffset = floor ∨ _
        dsimp only
        rw [hpos]
        exact h.fresh_apply hcomp hlap hle hfloor
  · exact h

/-! ## Readers come and go -/

/-- A reader joins at `mReadOffset`, which becomes the floor. -/
theorem inv_addReader (h : Inv N floor w) {pid now : Nat} (hok : StepOk w (.addReader pid now)) :
    ∃ floor', Inv N floor' (step w (.addReader pid now)) := by
  unfold step
  dsimp only
  by_cases hpid : pid = 0
  · rw [addReader_fails (Or.inl hpid)]
    exact ⟨floor, h⟩
  cases hf : w.ring.freePlace with
  | none =>
      rw [addReader_fails (Or.inr hf)]
      exact ⟨floor, h⟩
  | some i =>
      have hpending := hok hpid (by rw [hf]; simp)
      have hlevel := h.ledger.level
      have hread := h.ledger.read_lt
      have hlap : w.readersLap = w.readLap := by
        rcases h.laps with hl | ⟨hl, p, j, m, hp, hm, hend⟩
        · exact hl
        · have hat := hpending p j m hp
          unfold Minimum.pos at hat
          omega
      have hledger := h.ledger.addReader pid now fun _ => hlap
      obtain ⟨hnew, hnewoff⟩ := addReader_new hpid hf now
      have hroff : (w.ring.addReader pid now).2.mReadOffset = w.ring.mReadOffset := by
        rw [addReader_eq hpid hf]
        rfl
      refine ⟨w.readLap + w.ring.mReadOffset, hledger, ?_, ?_, ?_, ?_, ?_, ?_, ?_, h.laps⟩
      · intro j hj
        have hbehind := (hledger.reader j hj).behind
        rw [hroff] at hbehind
        exact hbehind
      · intro _
        refine ⟨i, hnew, ?_⟩
        rw [hnewoff, hlap]
      · rw [hroff]
      · show _ ≤ w.written
        omega
      · intro hnone
        exact Bool.noConfusion (hnew.symm.trans (hnone i))
      · intro p j m hp
        exact ⟨Nat.le_of_eq (hpending p j m hp), (h.computed p j m hp).2⟩
      · rw [hroff]
        exact Or.inl rfl

/-- Readers leave, with a purge or one at a time. -/
theorem inv_leave (h : Inv N floor w) (hN : N < 4294967296) (leaves : RingBufferReader → Bool)
    (hok : LeaveOk w (w.ring.removeReaders leaves)) :
    ∃ floor', Inv N floor' (w.leave (w.ring.removeReaders leaves)) := by
  have hledger := h.ledger.removeReaders leaves
  have hread := h.read
  unfold LeaveOk at hok
  by_cases hex : ∃ i, (w.ring.removeReaders leaves).registered i = true
  · rw [if_pos hex] at hok
    obtain ⟨k, hk, hkoff⟩ := hledger.exists_slowest hN hex
    have hkeep : ∀ j, (w.ring.removeReaders leaves).registered j = true →
        w.ring.registered j = true ∧
          (w.ring.removeReaders leaves).mReaders j = w.ring.mReaders j :=
      fun j hj => registered_of_removeReaders hj
    have hfloor : floor ≤ w.readersLap + (w.ring.removeReaders leaves).smallerOffset := by
      have hb := h.below k (hkeep k hk).1
      rw [← (hkeep k hk).2] at hb
      omega
    have hahead := (hledger.reader k hk).ahead
    refine ⟨w.readersLap + (w.ring.removeReaders leaves).smallerOffset, hledger, ?_, ?_, ?_, ?_, ?_,
      ?_, ?_, h.laps⟩
    · intro j hj
      exact Nat.add_le_add_left (smallerOffset_le hj) _
    · intro _
      exact ⟨k, hk, congrArg (w.readersLap + ·) hkoff⟩
    · exact le_trans hread hfloor
    · show _ ≤ w.written
      omega
    · intro hnone
      exact Bool.noConfusion (hk.symm.trans (hnone k))
    · intro p j m hp
      have hc := h.computed p j m hp
      exact ⟨le_trans hc.1 hfloor, hc.2⟩
    · rcases hok with hsame | hadv
      · -- the slowest is still there
        have hsame : w.readersLap + (w.ring.removeReaders leaves).smallerOffset = floor := by
          obtain ⟨j, hj, hat⟩ := h.reached ⟨k, (hkeep k hk).1⟩
          have hle := smallerOffset_le hj
          omega
        rw [hsame]
        exact h.fresh
      · exact Or.inr (Or.inr hadv)
  · rw [if_neg hex] at hok
    have hnone : ∀ i, (w.ring.removeReaders leaves).registered i = false := fun i =>
      Bool.eq_false_of_not_eq_true fun hi => hex ⟨i, hi⟩
    refine ⟨floor, hledger, ?_, fun hex' => absurd hex' hex, hread, h.written, ?_, h.computed,
      h.fresh, h.laps⟩
    · intro i hi
      exact absurd ⟨i, hi⟩ hex
    · intro _
      show floor = if _ then w.written else w.freed
      by_cases hbefore : ∃ i, w.ring.registered i = true
      · rw [if_pos ⟨hbefore, hnone⟩]
        obtain ⟨i, hi, hat⟩ := h.reached hbefore
        rw [← hat]
        exact hok i hi
      · rw [if_neg fun hc => hbefore hc.1]
        exact h.freed fun i => Bool.eq_false_of_not_eq_true fun hi => hbefore ⟨i, hi⟩

theorem inv_purge (h : Inv N floor w) (hN : N < 4294967296) {now : Nat}
    (hok : StepOk w (.purge now)) : ∃ floor', Inv N floor' (step w (.purge now)) := by
  unfold step
  dsimp only
  split
  · rename_i hpurging
    obtain ⟨floor', hinv⟩ := inv_leave h hN (unresponsive now) (hok hpurging)
    exact ⟨floor', hinv.ledger, hinv.below, hinv.reached, hinv.read, hinv.written, hinv.freed,
      hinv.computed, hinv.fresh, hinv.laps⟩
  · exact ⟨floor, h⟩

theorem inv_removeReader (h : Inv N floor w) (hN : N < 4294967296) {pid : Nat}
    (hok : StepOk w (.removeReader pid)) : ∃ floor', Inv N floor' (step w (.removeReader pid)) := by
  unfold step
  unfold StepOk at hok
  dsimp only at hok ⊢
  unfold removeReader at hok ⊢
  split
  · -- nobody leaves
    have hsame : w.leave w.ring = w := by
      unfold leave
      rw [if_neg]
      rintro ⟨⟨i, hi⟩, hnone⟩
      exact Bool.noConfusion (hi.symm.trans (hnone i))
    dsimp only
    rw [hsame]
    exact ⟨floor, h⟩
  · rename_i hpid
    rw [if_neg hpid] at hok
    dsimp only at hok ⊢
    exact inv_leave h hN _ (hok hpid)

/-! ## Runs -/

/-- **Every section that meets the condition keeps the invariant.** -/
theorem inv_step (h : Inv N floor w) (hN : N < 4294967296) (s : Section) (hok : StepOk w s) :
    ∃ floor', Inv N floor' (step w s) := by
  cases s with
  | beginWrite n => exact ⟨floor, inv_beginWrite h hN hok⟩
  | commit n => exact ⟨floor, inv_commit h hN n⟩
  | purge now => exact inv_purge h hN hok
  | beginRead pid n now => exact ⟨floor, inv_beginRead h hN now hok⟩
  | advance pid n => exact inv_advance h hN pid n
  | compute pid => exact ⟨floor, inv_compute h hok⟩
  | apply pid now => exact ⟨floor, inv_apply h hN hok⟩
  | addReader pid now => exact inv_addReader h hok
  | removeReader pid => exact inv_removeReader h hN hok

/-- **The account of the ring under concurrency**: in every state of every interleaving
whose sections meet the condition the level is in range, and whenever no access is being
ended, offset and level are what they are called. -/
theorem accounted_of_stepOk (N : Nat) (hN : 2 ≤ N) (hmax : N < 4294967296)
    (sections : List Section) (hok : Always step StepOk (init N) sections) :
    (exec step (init N) sections).ring.mBufferLevel ≤ N ∧
      (Quiet (exec step (init N) sections) → Accounted N (exec step (init N) sections)) := by
  have hstep : ∀ (w : World) (s : Section), (∃ floor, Inv N floor w) → StepOk w s →
      ∃ floor, Inv N floor (step w s) := by
    rintro w s ⟨floor, h⟩ hs
    exact inv_step h hmax s hs
  obtain ⟨floor, h⟩ := @inv_exec _ _ _ _ (fun w => ∃ floor, Inv N floor w) hstep _ _
    ⟨0, inv_init (by omega)⟩ hok
  exact ⟨h.ledger.level_le, h.accounted hmax⟩

/-! ## Interleavings -/

/-- A section of one thread leaves the others where they are. -/
theorem thread_step (w : World) {s : Section} {p : Nat} (hp : s.thread ≠ some p) :
    (step w s).thread p = w.thread p := by
  cases s with
  | advance pid n =>
      have hne : p ≠ pid := fun h => hp (congrArg some h.symm)
      unfold step
      dsimp only
      split
      · split
        · exact thread_setThread_ne w hne _
        · rfl
      · rfl
  | compute pid =>
      have hne : p ≠ pid := fun h => hp (congrArg some h.symm)
      unfold step
      dsimp only
      split
      · exact thread_setThread_ne w hne _
      · rfl
  | apply pid now =>
      have hne : p ≠ pid := fun h => hp (congrArg some h.symm)
      unfold step
      dsimp only
      split
      · split
        · rfl
        · exact thread_setThread_ne w hne _
      · rfl
  | beginWrite n =>
      unfold step
      dsimp only
      split <;> rfl
  | commit n =>
      unfold step
      dsimp only
      split
      · split <;> rfl
      · rfl
  | purge now =>
      unfold step
      dsimp only
      split <;> rfl
  | beginRead pid n now =>
      unfold step
      dsimp only
      split <;> rfl
  | addReader pid now => rfl
  | removeReader pid => rfl

/-- All is quiet once the threads that did something are. -/
theorem quiet_exec {N : Nat} {sections : List Section} (threads : List Nat)
    (hall : ∀ s ∈ sections, ∀ p ∈ s.thread, p ∈ threads)
    (hidle : ∀ p ∈ threads, (exec step (init N) sections).thread p = .idle)
    (hpurging : (exec step (init N) sections).purging = false) :
    Quiet (exec step (init N) sections) := by
  refine ⟨?_, hpurging⟩
  intro p
  by_cases hp : p ∈ threads
  · exact hidle p hp
  · have hframe : ∀ (l : List Section) (w : World), (∀ s ∈ l, s.thread ≠ some p) →
        (exec step w l).thread p = w.thread p := by
      intro l
      induction l with
      | nil => exact fun _ _ => rfl
      | cons s l ih =>
          intro w hl
          rw [exec_cons, ih _ fun s' hs' => hl s' (List.mem_cons_of_mem s hs')]
          exact thread_step w (hl s List.mem_cons_self)
    refine hframe sections _ ?_
    intro s hs heq
    exact hp (hall s hs p heq)

/-- Two readers end an access at the same time, and compute before either applies. -/
def overlapping : List Section :=
  [.addReader 7 1, .addReader 8 1, .beginWrite 3, .commit 3, .purge 2, .beginRead 7 3 3,
    .beginRead 8 2 3, .advance 7 3, .advance 8 2, .compute 7, .compute 8, .apply 8 4, .apply 7 4]

theorem accounted_of_stepOk_overlapping : Accounted 4 (exec step (init 4) overlapping) := by
  refine (accounted_of_stepOk 4 (by decide) (by decide) overlapping ?_).2
    (quiet_exec [7, 8] (by decide) (by decide) (by decide))
  simp only [overlapping, Always]
  refine ⟨?_, ?_, fun _ => by decide, trivial, ?_, ?_, ?_, trivial, trivial,
    Nat.ne_of_lt (by decide), Nat.ne_of_lt (by decide), And.intro (by decide) (by decide),
    And.intro (by decide) (by decide), trivial⟩
  · intro _ _ p i m hp
    exact absurd hp (by simp [init])
  · intro _ _ p i m hp
    exact absurd hp (by simp [init, step])
  · intro _
    unfold LeaveOk
    rw [if_pos (by decide)]
    exact Or.inl (by decide)
  · show ∀ i ∈ findReader _ 7, ReadFits _ _ 3
    decide
  · show ∀ i ∈ findReader _ 8, ReadFits _ _ 2
    decide

/-- Reader 8 computes after reader 7 and applies before it. -/
def outOfOrder : List Section :=
  [.addReader 7 1, .addReader 8 1, .beginWrite 3, .commit 3, .purge 2, .beginRead 7 1 3,
    .beginRead 8 2 3, .advance 7 1, .compute 7, .advance 8 2, .compute 8, .apply 8 4, .apply 7 4]

/-- Reader 8 joins at the old offset when reader 7 has finished the lap. -/
def joinsAtEndOfLap : List Section :=
  [.addReader 7 1, .beginWrite 3, .commit 3, .purge 2, .beginRead 7 3 3, .advance 7 3, .compute 7,
    .apply 7 3, .beginWrite 1, .commit 1, .purge 4, .beginRead 7 1 5, .advance 7 1, .compute 7,
    .addReader 8 6, .apply 7 6, .removeReader 7, .beginRead 8 1 7, .advance 8 1, .compute 8,
    .apply 8 8]

/-- Reader 7 is the slowest and leaves. -/
def slowestLeaves : List Section :=
  [.addReader 7 1, .addReader 8 1, .beginWrite 2, .commit 2, .purge 2, .beginRead 8 2 3,
    .advance 8 2, .compute 8, .apply 8 3, .removeReader 7]

/-- The only reader leaves with two packets unread. -/
def lastLeaves : List Section :=
  [.addReader 7 1, .beginWrite 2, .commit 2, .purge 2, .removeReader 7]

/-- The only reader is purged after it has moved its offset. -/
def purgedMidway : List Section :=
  [.addReader 7 1, .beginWrite 2, .commit 2, .purge 2, .beginRead 7 2 3, .advance 7 2,
    .beginWrite 1, .commit 1, .purge 3000000000, .compute 7, .apply 7 3000000000]

/-- **Each part of the condition is needed**: `mReadOffset` falls behind the slowest
reader, the level wraps below zero, slots stay taken when nobody holds them. -/
theorem unguarded_sections_break :
    (Quiet (exec step (init 4) outOfOrder) ∧ ¬ Accounted 4 (exec step (init 4) outOfOrder)) ∧
    ¬ (exec step (init 4) joinsAtEndOfLap).ring.mBufferLevel ≤ 4 ∧
    (Quiet (exec step (init 4) slowestLeaves) ∧ ¬ Accounted 4 (exec step (init 4) slowestLeaves)) ∧
    (Quiet (exec step (init 4) lastLeaves) ∧ ¬ Accounted 4 (exec step (init 4) lastLeaves)) ∧
    Quiet (exec step (init 4) purgedMidway) ∧ ¬ Accounted 4 (exec step (init 4) purgedMidway) := by
  refine ⟨⟨?_, ?_⟩, by decide, ⟨?_, ?_⟩, ⟨?_, ?_⟩, ?_, ?_⟩
  · exact quiet_exec [7, 8] (by decide) (by decide) (by decide)
  · intro h
    exact absurd (h.slowest ⟨0, by decide⟩) (by decide)
  · exact quiet_exec [8] (by decide) (by decide) (by decide)
  · intro h
    exact absurd (h.slowest ⟨1, by decide⟩) (by decide)
  · exact quiet_exec [] (by decide) (by decide) (by decide)
  · intro h
    exact absurd (h.freed (by decide)) (by decide)
  · exact quiet_exec [7] (by decide) (by decide) (by decide)
  · intro h
    exact absurd h.distance (by decide)

end World

end IasAvbVideoRingBufferShm

end AvbStreamHandler
