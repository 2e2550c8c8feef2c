import AvbStreamHandler.Kit.Run
import AvbStreamHandler.Kit.Broadcast
import AvbStreamHandler.Video.RingLedger

/-!
# The shared video ring as a broadcast log

The ring with its packets, every call taken as one step. What has been committed so far is
a log; each reader has a place in the log where it started and the packets it has read
since. `Sound` says what the ring promises: every reader goes through the log without a
gap, the writer never gets a slot that is still to be read, and the levels are what they
are called.

The ring keeps the promise as long as each call meets `CallOk`. The condition names the
three calls that break it: a writer behind the readers gets more than it asked for, a
writer at the end of the circle may fill the ring completely, which the readers take for
empty, and a reader that leaves takes the place of the slowest with it.
-/

namespace AvbStreamHandler

open Kit Kit.Run Kit.Word Kit.Broadcast

/-- What the writer asked for and got. -/
structure WriterGrant extends RingAccess where
  asked : Nat

variable {P : Type}

namespace IasAvbVideoRingBufferShm

/-- The ring, its packets, and the record of what went through it. -/
structure Watched (P : Type) where
  ring : IasAvbVideoRingBufferShm
  /-- `mDataBuf`, packet by packet. -/
  slot : Nat → P
  log : List P := []
  start : Fin cIasVideoRingBufferShmMaxReaders → Nat := fun _ => 0
  got : Fin cIasVideoRingBufferShmMaxReaders → List P := fun _ => []
  granted : Option WriterGrant := none

inductive Event (P : Type)
  | beginWrite (numBuffers : Nat)
  /-- The writer fills the `k`-th of its slots. -/
  | store (k : Nat) (packet : P)
  | endWrite (numBuffers now : Nat)
  | beginRead (pid numBuffers now : Nat)
  | endRead (pid numBuffers now : Nat)
  | addReader (pid now : Nat)
  | removeReader (pid : Nat)

namespace Watched

def init (N : Nat) (slot : Nat → P) : Watched P := { ring := { mNumBuffers := N }, slot := slot }

/-- Where a reader is in the log. -/
def pos (t : Watched P) (i : Fin cIasVideoRingBufferShmMaxReaders) : Nat :=
  t.start i + (t.got i).length

def step (t : Watched P) : Event P → Watched P
  | .beginWrite numBuffers =>
      match t.ring.beginAccessWrite numBuffers with
      | (.ok access, q) => { t with ring := q, granted := some { access with asked := numBuffers } }
      | (.error _, q) => { t with ring := q }
  | .store k packet =>
      match t.granted with
      | none => t
      | some g =>
          if k < g.numBuffers then { t with slot := Function.update t.slot (g.offset + k) packet }
          else t
  | .endWrite numBuffers now =>
      match t.granted, t.ring.endAccessWrite numBuffers now with
      | some g, (.eIasRingBuffOk, q) =>
          { t with
            ring := q
            log := t.log ++ readSlots t.slot g.offset numBuffers
            granted := none }
      | _, (_, q) => { t with ring := q }
  | .beginRead pid numBuffers now =>
      { t with ring := (t.ring.beginAccessRead pid numBuffers now).2 }
  | .endRead pid numBuffers now =>
      match t.ring.findReader pid, t.ring.endAccessRead pid numBuffers now with
      | some i, (.eIasRingBuffOk, q) =>
          -- the reader read where `beginAccess` told it to, at its offset
          { t with
            ring := q
            got := Function.update t.got i
              (t.got i ++ readSlots t.slot (t.ring.mReaders i).offset numBuffers) }
      | _, (_, q) => { t with ring := q }
  | .addReader pid now =>
      match t.ring.freePlace, t.ring.addReader pid now with
      | some i, (.eIasRingBuffOk, q) =>
          -- the reader starts with the oldest packet in the ring
          { t with
            ring := q
            start := Function.update t.start i (t.log.length - t.ring.mBufferLevel)
            got := Function.update t.got i [] }
      | _, (_, q) => { t with ring := q }
  | .removeReader pid => { t with ring := (t.ring.removeReader pid).2 }

/-! ## The promise -/

/-- No registered reader is behind `i`. -/
def Slowest (t : Watched P) (i : Fin cIasVideoRingBufferShmMaxReaders) : Prop :=
  t.ring.registered i = true ∧ ∀ j, t.ring.registered j = true → t.pos i ≤ t.pos j

structure Sound (N : Nat) (t : Watched P) : Prop where
  /-- Every reader has read the log from its start on, without a gap and in order. -/
  received : ∀ i, t.ring.registered i = true → t.got i <+: t.log.drop (t.start i)
  /-- The slots a reader may read hold what comes next in the log. -/
  next : ∀ i, t.ring.registered i = true →
    readSlots t.slot (t.ring.mReaders i).offset (t.ring.mReaders i).allowedToRead =
      (t.log.drop (t.pos i)).take (t.ring.mReaders i).allowedToRead
  /-- The level of a reader is what it has not read. -/
  readerLevel : ∀ i, t.ring.registered i = true →
    t.ring.calculateReaderBufferLevel (t.ring.mReaders i) + t.pos i = t.log.length
  /-- The writer gets at most what it asked for, inside the ring. -/
  asked : ∀ g, t.granted = some g → g.numBuffers ≤ g.asked
  inside : ∀ g, t.granted = some g → g.offset + g.numBuffers ≤ N
  /-- The writer gets no slot of a packet that a reader has not read. -/
  unread : ∀ g, t.granted = some g → ∀ i, t.ring.registered i = true → ∀ p, t.pos i ≤ p →
    p < t.log.length → ∀ k, k < g.numBuffers → p % N ≠ g.offset + k
  /-- The level is what the slowest reader has not read. -/
  level : ∀ i, t.Slowest i → t.ring.mBufferLevel + t.pos i = t.log.length
  /-- A ring that is not empty is not empty for the slowest reader. -/
  notEmpty : ∀ i, t.Slowest i → 0 < t.ring.mBufferLevel →
    0 < t.ring.calculateReaderBufferLevel (t.ring.mReaders i)

/-! ## The condition -/

/-- After the readers have left, none is left or the slowest still stands at
`mReadOffset`. -/
def SlowestKept (q : IasAvbVideoRingBufferShm) : Prop :=
  (∀ i, q.registered i = false) ∨ q.smallerOffset = q.mReadOffset

instance (q : IasAvbVideoRingBufferShm) : Decidable (SlowestKept q) :=
  inferInstanceAs (Decidable (_ ∨ _))

/-- The condition on a call, in the state it is made in. -/
def CallOk (t : Watched P) : Event P → Prop
  | .beginWrite n => t.ring.mWriteInProgress = false → WriteFits t.ring n ∧
      (t.ring.mWriteOffset < t.ring.mReadOffset → t.ring.mReadOffset - t.ring.mWriteOffset - 1 ≤ n)
  | .store _ _ => True
  | .endWrite n now => t.ring.mWriteInProgress = true → n ≤ t.ring.mAllowedToWrite →
      SlowestKept (t.ring.purgeUnresponsiveReaders now) ∧
        (t.ring.mBufferLevel + n < t.ring.mNumBuffers ∨
          ∀ i, (t.ring.purgeUnresponsiveReaders now).registered i = false)
  | .beginRead pid n _ =>
      ∀ i ∈ t.ring.findReader pid, ReadFits t.ring (t.ring.mReaders i) n
  | .endRead pid n _ => ∀ i ∈ t.ring.findReader pid, n ≤ (t.ring.mReaders i).allowedToRead →
      (t.ring.advance i n).smallerOffset ≠ UINT32_MAX
  | .addReader pid _ => pid ≠ 0 → t.ring.freePlace ≠ none →
      t.ring.mBufferLevel < t.ring.mNumBuffers
  | .removeReader pid => pid ≠ 0 → SlowestKept (t.ring.removeReader pid).2

/-! ## The invariant -/

/-- **The invariant**: the readers and `mReadOffset` are in the same lap, and the slowest
reader stands at `mReadOffset`. -/
structure Inv (N lap : Nat) (t : Watched P) : Prop where
  ledger : Ledger N t.ring t.log.length lap lap
  pos : ∀ i, t.ring.registered i = true → t.pos i = lap + (t.ring.mReaders i).offset
  received : ∀ i, t.ring.registered i = true → t.got i <+: t.log.drop (t.start i)
  /-- The readers could not tell a full ring from an empty one. -/
  notFull : (∃ i, t.ring.registered i = true) → t.ring.mBufferLevel < N
  slowest : (∃ i, t.ring.registered i = true) →
    ∃ i, t.ring.registered i = true ∧ (t.ring.mReaders i).offset = t.ring.mReadOffset
  stored : Holds N t.slot t.log (lap + t.ring.mReadOffset)
  granted : ∀ g, t.granted = some g → t.ring.mWriteInProgress = true ∧
    g.offset = t.ring.mWriteOffset ∧ g.numBuffers = t.ring.mAllowedToWrite ∧
      g.numBuffers ≤ g.asked
  idle : t.granted = none → t.ring.mWriteInProgress = false

variable {N lap : Nat} {t : Watched P}

theorem inv_init (hN : 0 < N) (slot : Nat → P) : Inv N 0 (init N slot) where
  ledger := ledger_init hN
  pos i h := by simp [init, registered] at h
  received i h := by simp [init, registered] at h
  notFull := by
    rintro ⟨i, h⟩
    simp [init, registered] at h
  slowest := by
    rintro ⟨i, h⟩
    simp [init, registered] at h
  stored k _ h := absurd h (Nat.not_lt_zero k)
  granted g h := by simp [init] at h
  idle _ := rfl

/-- A slot that holds an unread packet is not free. -/
theorem Inv.unread (h : Inv N lap t) {g : WriterGrant} (hg : t.granted = some g) {p k : Nat}
    (hp : lap + t.ring.mReadOffset ≤ p) (hlen : p < t.log.length) (hk : k < g.numBuffers) :
    p % N ≠ g.offset + k := by
  obtain ⟨hprog, hoff, hnum, -⟩ := h.granted g hg
  have hgrant := h.ledger.grant hprog
  have hlevel := h.ledger.level
  have hw := h.ledger.write
  rw [hoff, hw, ← mod_add (by omega)]
  exact mod_ne (by omega) (by omega)

/-- **The slots a reader may read** hold what comes next in the log. -/
theorem Inv.next (h : Inv N lap t) {i : Fin cIasVideoRingBufferShmMaxReaders}
    (hi : t.ring.registered i = true) {n : Nat} (hn : n ≤ (t.ring.mReaders i).allowedToRead) :
    readSlots t.slot (t.ring.mReaders i).offset n = (t.log.drop (t.pos i)).take n := by
  have hr := h.ledger.reader i hi
  have hbehind := hr.behind
  have hlap := hr.lap
  have hahead := hr.ahead
  rw [h.pos i hi]
  rcases Nat.eq_zero_or_pos n with rfl | hpos
  · rfl
  · have hmod : (lap + (t.ring.mReaders i).offset) % N = (t.ring.mReaders i).offset := by
      rw [Nat.add_mod, h.ledger.lap, Nat.zero_add, Nat.mod_mod, Nat.mod_eq_of_lt (by omega)]
    have hread := h.stored.readSlots_eq (p := lap + (t.ring.mReaders i).offset) (n := n) hbehind
      (by omega) (by rw [hmod]; omega)
    rw [hmod] at hread
    exact hread

/-- **The invariant implies the promise.** -/
theorem Inv.sound (h : Inv N lap t) (hN : N < 4294967296) : Sound N t := by
  have hunread : ∀ i, t.ring.registered i = true →
      t.ring.calculateReaderBufferLevel (t.ring.mReaders i) + t.pos i = t.log.length := by
    intro i hi
    have hahead := (h.ledger.reader i hi).ahead
    rw [h.ledger.readerLevel_eq hN hi (h.notFull ⟨i, hi⟩), h.pos i hi]
    omega
  have hlevel : ∀ i, t.Slowest i → t.ring.mBufferLevel + t.pos i = t.log.length := by
    intro i hi
    obtain ⟨j, hj, hoff⟩ := h.slowest ⟨i, hi.1⟩
    have hle := hi.2 j hj
    have hbehind := (h.ledger.reader i hi.1).behind
    have hl := h.ledger.level
    rw [h.pos i hi.1, h.pos j hj, hoff] at hle
    rw [h.pos i hi.1]
    omega
  refine ⟨h.received, fun i hi => h.next hi (Nat.le_refl _), hunread, ?_, ?_, ?_, hlevel, ?_⟩
  · intro g hg
    exact (h.granted g hg).2.2.2
  · intro g hg
    obtain ⟨hprog, hoff, hnum, -⟩ := h.granted g hg
    rw [hoff, hnum]
    exact (h.ledger.grant hprog).1
  · intro g hg i hi p hp hlen k hk
    have hbehind := (h.ledger.reader i hi).behind
    rw [h.pos i hi] at hp
    exact h.unread hg (by omega) hlen hk
  · intro i hi hpos
    have h1 := hlevel i hi
    have h2 := hunread i hi.1
    omega

/-! ## Calls that only touch the ring -/

/-- The readers that are left stand where they stood. -/
theorem Inv.ofRing (h : Inv N lap t) {q : IasAvbVideoRingBufferShm}
    (hledger : Ledger N q t.log.length lap lap) (hread : q.mReadOffset = t.ring.mReadOffset)
    (hlevel : q.mBufferLevel = t.ring.mBufferLevel)
    (hwrite : q.mWriteOffset = t.ring.mWriteOffset)
    (hprog : q.mWriteInProgress = t.ring.mWriteInProgress)
    (hallowed : q.mAllowedToWrite = t.ring.mAllowedToWrite)
    (hreg : ∀ i, q.registered i = true →
      t.ring.registered i = true ∧ (q.mReaders i).offset = (t.ring.mReaders i).offset)
    (hslow : (∃ i, q.registered i = true) →
      ∃ i, q.registered i = true ∧ (q.mReaders i).offset = t.ring.mReadOffset) :
    Inv N lap { t with ring := q } where
  ledger := hledger
  pos i hi := by
    obtain ⟨hold, hoff⟩ := hreg i hi
    show t.pos i = lap + (q.mReaders i).offset
    rw [hoff]
    exact h.pos i hold
  received i hi := h.received i (hreg i hi).1
  notFull := by
    rintro ⟨i, hi⟩
    show q.mBufferLevel < N
    rw [hlevel]
    exact h.notFull ⟨i, (hreg i hi).1⟩
  slowest hi := by
    obtain ⟨i, hi, hoff⟩ := hslow hi
    exact ⟨i, hi, hoff.trans hread.symm⟩
  stored := by
    show Holds N t.slot t.log (lap + q.mReadOffset)
    rw [hread]
    exact h.stored
  granted g hg := by
    show q.mWriteInProgress = true ∧ g.offset = q.mWriteOffset ∧ g.numBuffers = q.mAllowedToWrite ∧ _
    rw [hprog, hwrite, hallowed]
    exact h.granted g hg
  idle hg := hprog.trans (h.idle hg)

/-- The slowest reader is not among those that left. -/
theorem slowest_of_kept {q : IasAvbVideoRingBufferShm} (h : SlowestKept q)
    (hlt : q.mReadOffset < UINT32_MAX) (hi : ∃ i, q.registered i = true) :
    ∃ i, q.registered i = true ∧ (q.mReaders i).offset = q.mReadOffset := by
  rcases h with hnone | hmin
  · obtain ⟨i, hi⟩ := hi
    exact Bool.noConfusion (hi.symm.trans (hnone i))
  · have hmax : q.smallerOffset ≠ UINT32_MAX := by
      rw [hmin]
      exact Nat.ne_of_lt hlt
    obtain ⟨i, hi, hoff⟩ := smallerOffset_mem hmax
    exact ⟨i, hi, hoff.trans hmin⟩

theorem inv_beginRead (h : Inv N lap t) (hN : N < 4294967296) {pid n : Nat} (now : Nat)
    (hok : CallOk t (.beginRead pid n now)) : Inv N lap (step t (.beginRead pid n now)) := by
  have hledger := h.ledger.beginAccessRead hN now hok
  have hreg := registered_beginAccessRead (q := t.ring) pid n now
  have hoff := offset_beginAccessRead (q := t.ring) pid n now
  refine h.ofRing hledger ?_ ?_ ?_ ?_ ?_ ?_ ?_
  any_goals unfold beginAccessRead; split <;> rfl
  · intro j hj
    exact ⟨(hreg j).symm.trans hj, hoff j⟩
  · rintro ⟨j, hj⟩
    obtain ⟨k, hk, hkoff⟩ := h.slowest ⟨j, (hreg j).symm.trans hj⟩
    exact ⟨k, (hreg k).trans hk, (hoff k).trans hkoff⟩

/-- Readers leave, and the slowest does not leave others behind. -/
theorem Inv.removeReaders (h : Inv N lap t) (hN : N < 4294967296) {leaves : RingBufferReader → Bool}
    (hkept : SlowestKept (t.ring.removeReaders leaves)) :
    Inv N lap { t with ring := t.ring.removeReaders leaves } := by
  refine h.ofRing (h.ledger.removeReaders leaves) rfl rfl rfl rfl rfl ?_ ?_
  · intro i hi
    obtain ⟨hold, hsame⟩ := registered_of_removeReaders hi
    rw [hsame]
    exact ⟨hold, rfl⟩
  · intro hex
    have hread := h.ledger.read_lt
    refine slowest_of_kept hkept ?_ hex
    show t.ring.mReadOffset < 4294967295
    omega

theorem inv_removeReader (h : Inv N lap t) (hN : N < 4294967296) {pid : Nat}
    (hok : CallOk t (.removeReader pid)) : Inv N lap (step t (.removeReader pid)) := by
  show Inv N lap { t with ring := (t.ring.removeReader pid).2 }
  unfold CallOk at hok
  dsimp only at hok
  unfold removeReader at hok ⊢
  split
  · exact h
  · rename_i hpid
    rw [if_neg hpid] at hok
    dsimp only at hok ⊢
    exact h.removeReaders hN (hok hpid)

/-! ## The writer -/

theorem inv_beginWrite (h : Inv N lap t) (hN : N < 4294967296) {n : Nat}
    (hok : CallOk t (.beginWrite n)) : Inv N lap (step t (.beginWrite n)) := by
  have hledger := h.ledger.beginAccessWrite hN (n := n) fun hp => (hok hp).1
  unfold step
  dsimp only
  unfold IasAvbVideoRingBufferShm.beginAccessWrite at hledger ⊢
  by_cases hprog : t.ring.mWriteInProgress = true
  · rw [if_pos hprog]
    exact h
  · rw [if_neg hprog] at hledger ⊢
    obtain ⟨hfits, hasked⟩ := hok (Bool.eq_false_of_not_eq_true hprog)
    refine ⟨hledger, h.pos, h.received, h.notFull, h.slowest, h.stored, ?_, ?_⟩
    · intro g hg
      obtain rfl := Option.some.inj hg
      exact ⟨rfl, rfl, rfl, h.ledger.grantWrite_le_asked hN hfits hasked⟩
    · intro hg
      exact absurd hg (by simp)

/-- What the writer stores lies in no slot that is still to be read. -/
theorem inv_store (h : Inv N lap t) (k : Nat) (packet : P) :
    Inv N lap (step t (.store k packet)) := by
  unfold step
  cases hg : t.granted with
  | none => exact h
  | some g =>
      dsimp only
      split
      · rename_i hk
        obtain ⟨hprog, hoff, hnum, -⟩ := h.granted g hg
        have hgrant := h.ledger.grant hprog
        have hlevel := h.ledger.level
        have hw := h.ledger.write
        have hmod : (t.log.length + k) % N = g.offset + k := by
          rw [hoff, hw]
          exact mod_add (by omega)
        refine ⟨h.ledger, h.pos, h.received, h.notFull, h.slowest, ?_, ?_, ?_⟩
        · have hstore := h.stored.store (k := k) (by omega) packet
          rw [hmod] at hstore
          exact hstore
        · intro g' hg'
          rw [← hg] at hg'
          exact h.granted g' hg'
        · intro hnone
          exact absurd (hnone.symm.trans hg.symm) (by simp [hg])
      · exact h

/-- A commit appends what the writer stored, and then the silent readers are purged. -/
theorem Inv.committed (h : Inv N lap t) {g : WriterGrant} (hg : t.granted = some g)
    {n now : Nat} (hn : n ≤ t.ring.mAllowedToWrite)
    (hkept : SlowestKept ((t.ring.committed n).purgeUnresponsiveReaders now))
    (hfull : (t.ring.mBufferLevel + n < t.ring.mNumBuffers)
      ∨ ∀ i, ((t.ring.committed n).purgeUnresponsiveReaders now).registered i = false)
    (hN : N < 4294967296) :
    Inv N lap { t with
      ring := (t.ring.committed n).purgeUnresponsiveReaders now
      log := t.log ++ readSlots t.slot g.offset n
      granted := none } := by
  obtain ⟨hprog, hoff, -, -⟩ := h.granted g hg
  have hgrant := h.ledger.grant hprog
  have hread := h.ledger.read_lt
  have hlen : (t.log ++ readSlots t.slot g.offset n).length = t.log.length + n := by
    rw [List.length_append, length_readSlots]
  -- the commit does not touch the readers
  have hpurged : ∀ i, ((t.ring.committed n).purgeUnresponsiveReaders now).registered i = true →
      t.ring.registered i = true ∧
        ((t.ring.committed n).purgeUnresponsiveReaders now).mReaders i = t.ring.mReaders i :=
    fun i hi => registered_of_removeReaders hi
  refine ⟨?_, ?_, ?_, ?_, ?_, ?_, nofun, fun _ => rfl⟩
  · rw [hlen]
    exact (h.ledger.committed hprog hn).removeReaders (unresponsive now)
  · intro i hi
    obtain ⟨hold, hsame⟩ := hpurged i hi
    show t.pos i = _
    rw [hsame]
    exact h.pos i hold
  · intro i hi
    obtain ⟨hold, -⟩ := hpurged i hi
    have hahead := (h.ledger.reader i hold).ahead
    have hpos := h.pos i hold
    unfold Watched.pos at hpos
    exact prefix_append (h.received i hold) (by omega) _
  · rintro ⟨i, hi⟩
    rcases hfull with hfull | hnone
    · show t.ring.mBufferLevel + n < N
      rw [← h.ledger.numBuffers]
      exact hfull
    · exact Bool.noConfusion (hi.symm.trans (hnone i))
  · intro hex
    exact slowest_of_kept hkept (by show t.ring.mReadOffset < 4294967295; omega) hex
  · show Holds N t.slot _ (lap + t.ring.mReadOffset)
    rw [hoff, h.ledger.write]
    refine h.stored.append ?_
    rw [← h.ledger.write]
    omega

/-- The writer commits, unless it has no access or commits more than it was granted. -/
theorem inv_endWrite (h : Inv N lap t) (hN : N < 4294967296) {n now : Nat}
    (hok : CallOk t (.endWrite n now)) : Inv N lap (step t (.endWrite n now)) := by
  unfold step
  dsimp only
  cases hg : t.granted with
  | none =>
      have hq : t.ring.endAccessWrite n now = (.eIasRingBuffOk, t.ring) := if_pos (h.idle hg)
      rw [hq]
      dsimp only
      rw [← hg]
      exact h
  | some g =>
      have hprog := (h.granted g hg).1
      have hnprog : ¬ t.ring.mWriteInProgress = false := by
        rw [hprog]
        simp
      by_cases hn : t.ring.mAllowedToWrite < n
      · -- more than was granted: the ring refuses and the access stays open
        have hq : t.ring.endAccessWrite n now = (.eIasRingBuffInvalidParam, t.ring) := by
          unfold endAccessWrite
          rw [if_neg hnprog, if_pos hn]
        rw [hq]
        dsimp only
        rw [← hg]
        exact h
      · have hn : n ≤ t.ring.mAllowedToWrite := Nat.le_of_not_lt hn
        have hq : t.ring.endAccessWrite n now =
            (.eIasRingBuffOk, (t.ring.committed n).purgeUnresponsiveReaders now) := by
          unfold endAccessWrite
          rw [if_neg hnprog, if_neg (Nat.not_lt.mpr hn), h.ledger.commitWrite_eq hN hprog hn]
        obtain ⟨hkept, hfull⟩ := hok hprog hn
        rw [hq]
        exact h.committed hg hn hkept hfull hN

/-! ## Readers -/

/-- A reader gives slots back, and `mReadOffset` follows the slowest. -/
theorem Inv.givenBack (h : Inv N lap t) (hN : N < 4294967296)
    {i : Fin cIasVideoRingBufferShmMaxReaders} (hi : t.ring.registered i = true) {n : Nat}
    (hn : n ≤ (t.ring.mReaders i).allowedToRead) (now : Nat)
    (hmax : (t.ring.advance i n).smallerOffset ≠ UINT32_MAX) :
    ∃ lap', Inv N lap' { t with
      ring := (t.ring.advance i n).aggregateReaderOffset.updateReaderAccess i now
      got := Function.update t.got i
        (t.got i ++ readSlots t.slot (t.ring.mReaders i).offset n) } := by
  obtain ⟨lap', hagg⟩ := (h.ledger.advance hN hi hn).aggregateReaderOffset hN hmax
  have hr := h.ledger.reader i hi
  have hlap := hr.lap
  have hahead := hr.ahead
  have hreg : ∀ j, ((t.ring.advance i n).aggregateReaderOffset.updateReaderAccess
      i now).registered j = t.ring.registered j := fun j =>
    (registered_updateReaderAccess now).trans ((hagg.registered j).trans (registered_advance n))
  refine ⟨lap', hagg.ledger.updateReaderAccess now, ?_, ?_, ?_, ?_, ?_, ?_, ?_⟩
  · intro j hj
    have hold : t.ring.registered j = true := (hreg j).symm.trans hj
    have hmove := hagg.pos j ((registered_advance n).trans hold)
    have hposj := h.pos j hold
    dsimp only
    rw [offset_updateReaderAccess, hmove]
    unfold Watched.pos at hposj ⊢
    dsimp only
    -- the reader that gives back moves on by what it read, and the others stay
    by_cases hji : j = i
    · subst hji
      rw [offset_advance_self, add32_of_lt (by omega), Function.update_self,
        List.length_append, length_readSlots]
      omega
    · rw [mReaders_advance_ne hji, Function.update_of_ne hji]
      exact hposj
  · intro j hj
    have hold : t.ring.registered j = true := (hreg j).symm.trans hj
    dsimp only
    by_cases hji : j = i
    · subst hji
      rw [Function.update_self, h.next hold hn]
      exact prefix_take (h.received j hold) n
    · rw [Function.update_of_ne hji]
      exact h.received j hold
  · intro _
    show (t.ring.advance i n).aggregateReaderOffset.mBufferLevel < N
    exact Nat.lt_of_le_of_lt hagg.level (h.notFull ⟨i, hi⟩)
  · intro _
    obtain ⟨j, hj, hoff⟩ := hagg.slowest
    exact ⟨j, (registered_updateReaderAccess now).trans hj,
      (offset_updateReaderAccess now).trans hoff⟩
  · exact h.stored.mono hagg.read
  · intro g hg
    show (t.ring.advance i n).aggregateReaderOffset.mWriteInProgress = true ∧
      g.offset = (t.ring.advance i n).aggregateReaderOffset.mWriteOffset ∧
        g.numBuffers = (t.ring.advance i n).aggregateReaderOffset.mAllowedToWrite ∧ _
    rw [hagg.progress, hagg.write, hagg.allowed]
    exact h.granted g hg
  · intro hg
    exact hagg.progress.trans (h.idle hg)

/-- A reader gives slots back, unless they are more than it was granted. -/
theorem inv_endRead (h : Inv N lap t) (hN : N < 4294967296) {pid n now : Nat}
    (hok : CallOk t (.endRead pid n now)) : ∃ lap', Inv N lap' (step t (.endRead pid n now)) := by
  unfold step
  dsimp only
  cases hf : t.ring.findReader pid with
  | none =>
      have hq : t.ring.endAccessRead pid n now = (.eIasRingBuffInvalidParam, t.ring) := by
        unfold endAccessRead
        rw [hf]
      rw [hq]
      exact ⟨lap, h⟩
  | some i =>
      by_cases hn : (t.ring.mReaders i).allowedToRead < n
      · have hq : t.ring.endAccessRead pid n now = (.eIasRingBuffInvalidParam, t.ring) := by
          unfold endAccessRead
          rw [hf]
          exact if_pos hn
        rw [hq]
        exact ⟨lap, h⟩
      · have hn : n ≤ (t.ring.mReaders i).allowedToRead := Nat.le_of_not_lt hn
        have hq : t.ring.endAccessRead pid n now = (.eIasRingBuffOk,
            (t.ring.advance i n).aggregateReaderOffset.updateReaderAccess i now) := by
          unfold endAccessRead
          rw [hf]
          exact if_neg (Nat.not_lt.mpr hn)
        rw [hq]
        exact h.givenBack hN (findReader_registered hf) hn now (hok i hf hn)

/-- A reader joins at the oldest packet in the ring. -/
theorem inv_addReader (h : Inv N lap t) {pid now : Nat} (hok : CallOk t (.addReader pid now)) :
    Inv N lap (step t (.addReader pid now)) := by
  unfold step
  dsimp only
  by_cases hpid : pid = 0
  · have hq : t.ring.addReader pid now = (.eIasRingBuffInvalidParam, t.ring) := if_pos hpid
    rw [hq]
    cases t.ring.freePlace <;> exact h
  cases hf : t.ring.freePlace with
  | none =>
      have hq : t.ring.addReader pid now = (.eIasRingBuffTooManyReaders, t.ring) := by
        unfold addReader
        rw [if_neg hpid, hf]
      rw [hq]
      exact h
  | some i =>
      have hledger := h.ledger.addReader pid now fun _ => rfl
      have hfull := hok hpid (by rw [hf]; simp)
      rw [h.ledger.numBuffers] at hfull
      have hlevel := h.ledger.level
      obtain ⟨hnew, hnewoff⟩ := addReader_new hpid hf now
      have hold := fun j (hji : j ≠ i) => addReader_others hpid hf now hji
      have hq := addReader_eq hpid hf now
      rw [hq] at hledger hnew hnewoff hold ⊢
      refine ⟨hledger, ?_, ?_, fun _ => hfull, fun _ => ⟨i, hnew, hnewoff⟩, h.stored, h.granted,
        h.idle⟩
      · intro j hj
        unfold pos
        dsimp only
        by_cases hji : j = i
        · subst hji
          rw [Function.update_self, Function.update_self, hnewoff]
          show t.log.length - t.ring.mBufferLevel + 0 = _
          omega
        · rw [Function.update_of_ne hji, Function.update_of_ne hji, hold j hji]
          exact h.pos j ((registered_congr (hold j hji)).symm.trans hj)
      · intro j hj
        dsimp only
        by_cases hji : j = i
        · subst hji
          rw [Function.update_self]
          exact List.nil_prefix
        · rw [Function.update_of_ne hji, Function.update_of_ne hji]
          exact h.received j ((registered_congr (hold j hji)).symm.trans hj)

/-! ## Runs -/

/-- **Every call that meets the condition keeps the invariant.** -/
theorem inv_step (h : Inv N lap t) (hN : N < 4294967296) (ev : Event P) (hok : CallOk t ev) :
    ∃ lap', Inv N lap' (step t ev) := by
  cases ev with
  | beginWrite n => exact ⟨lap, inv_beginWrite h hN hok⟩
  | store k packet => exact ⟨lap, inv_store h k packet⟩
  | endWrite n now => exact ⟨lap, inv_endWrite h hN hok⟩
  | beginRead pid n now => exact ⟨lap, inv_beginRead h hN now hok⟩
  | endRead pid n now => exact inv_endRead h hN hok
  | addReader pid now => exact ⟨lap, inv_addReader h hok⟩
  | removeReader pid => exact ⟨lap, inv_removeReader h hN hok⟩

/-- **The ring is a broadcast log**: in every state of every run whose calls meet the
condition, readers and writer get what they are promised. -/
theorem sound_of_callOk (N : Nat) (hN : 2 ≤ N) (hmax : N < 4294967296) (slot : Nat → P)
    (events : List (Event P)) (hok : Always step CallOk (init N slot) events) :
    Sound N (exec step (init N slot) events) := by
  have hstep : ∀ (t : Watched P) (ev : Event P), (∃ lap, Inv N lap t) → CallOk t ev →
      ∃ lap, Inv N lap (step t ev) := by
    rintro t ev ⟨lap, h⟩ hev
    exact inv_step h hmax ev hev
  obtain ⟨lap, h⟩ := @inv_exec _ _ _ _ (fun t => ∃ lap, Inv N lap t) hstep _ _
    ⟨0, inv_init (by omega) slot⟩ hok
  exact h.sound hmax

instance (t : Watched P) (ev : Event P) : Decidable (CallOk t ev) := by
  unfold CallOk
  split <;> infer_instance

/-- Two readers of different speed, over the end of a ring of four slots. -/
def twoReaders : List (Event Nat) :=
  [.addReader 7 1, .addReader 8 1, .beginWrite 3, .store 0 10, .store 1 11, .store 2 12,
    .endWrite 3 2, .beginRead 7 3 3, .endRead 7 3 3, .beginRead 8 1 4, .endRead 8 1 4,
    .beginWrite 2, .store 0 13, .endWrite 1 5, .beginRead 7 2 6, .endRead 7 1 6,
    .beginRead 8 5 7, .endRead 8 3 7]

theorem sound_of_callOk_twoReaders : Sound 4 (exec step (init 4 fun _ => 0) twoReaders) :=
  sound_of_callOk 4 (by decide) (by decide) _ _ (by decide)

/-- The writer is one slot into the second lap, the reader three slots into the first. -/
def writerBehind : List (Event Nat) :=
  [.addReader 7 1, .beginWrite 3, .endWrite 3 2, .beginRead 7 3 3, .endRead 7 3 3, .beginWrite 1,
    .endWrite 1 4, .beginWrite 1]

/-- The writer commits as many packets as there are slots. -/
def filled : List (Event Nat) := [.addReader 7 1, .beginWrite 2, .endWrite 2 2]

/-- One reader has read all, and the other leaves. -/
def slowestLeaves : List (Event Nat) :=
  [.addReader 7 1, .addReader 8 1, .beginWrite 2, .endWrite 2 2, .beginRead 8 2 3, .endRead 8 2 3,
    .removeReader 7]

/-- **Each part of the condition is needed.** The writer asks for one slot and gets two; a
full ring has nothing to read for its only reader; a reader that has read everything is
charged with two packets. -/
theorem unguarded_calls_break :
    ¬ Sound 4 (exec step (init 4 fun _ => 0) writerBehind) ∧
      ¬ Sound 2 (exec step (init 2 fun _ => 0) filled) ∧
        ¬ Sound 4 (exec step (init 4 fun _ => 0) slowestLeaves) := by
  refine ⟨?_, ?_, ?_⟩
  · intro h
    have hg : (exec step (init 4 fun _ => 0) writerBehind).granted =
        some { offset := 0, numBuffers := 2, asked := 1 } := rfl
    exact absurd (h.asked _ hg) (by decide)
  · intro h
    exact absurd (h.notEmpty 0 ⟨by decide, by decide⟩ (by decide)) (by decide)
  · intro h
    exact absurd (h.level 1 ⟨by decide, by decide⟩) (by decide)

end Watched

end IasAvbVideoRingBufferShm

end AvbStreamHandler
