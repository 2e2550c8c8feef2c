import AvbStreamHandler.Video.RingBufferShm
import Mathlib.Tactic.Linarith

/-!
# The ledger of the shared video ring

The offsets of the ring are places in a circle. The ledger writes down which positions of
the packet stream they stand for: `written` packets are committed, the readers' offsets
count from the start of the lap `readersLap`, and `mReadOffset` counts from the start of
the lap `readLap`. The two laps differ between the moment the readers go back to the start
and the moment `mReadOffset` follows.

`Ledger` says that all this fits together. Each operation of the ring keeps it, under a
condition that says what the operation relies on; the level and the grants then mean what
their names say. Whether `mReadOffset` is the offset of the slowest reader is not in the
ledger: that is what the runs are about.
-/

namespace AvbStreamHandler.IasAvbVideoRingBufferShm

open Kit Kit.Word

/-- A reader that has read what lies before its offset, and nothing that is not there. -/
structure ReaderOk (N written readersLap floor : Nat) (reader : RingBufferReader) : Prop where
  behind : floor ≤ readersLap + reader.offset
  lap : reader.offset + reader.allowedToRead ≤ N
  ahead : readersLap + reader.offset + reader.allowedToRead ≤ written

structure Ledger (N : Nat) (q : IasAvbVideoRingBufferShm) (written readersLap readLap : Nat) :
    Prop where
  numBuffers : q.mNumBuffers = N
  read_lt : q.mReadOffset < N
  lap : readLap % N = 0
  lap' : readersLap % N = 0
  level : readLap + q.mReadOffset + q.mBufferLevel = written
  level_le : q.mBufferLevel ≤ N
  write : q.mWriteOffset = written % N
  grant : q.mWriteInProgress = true →
    q.mWriteOffset + q.mAllowedToWrite ≤ N ∧ q.mBufferLevel + q.mAllowedToWrite ≤ N
  reader : ∀ i, q.registered i = true →
    ReaderOk N written readersLap (readLap + q.mReadOffset) (q.mReaders i)
  free : ∀ i, q.registered i = false → (q.mReaders i).allowedToRead = 0

variable {N : Nat} {q : IasAvbVideoRingBufferShm} {written readersLap readLap : Nat}
  {i : Fin cIasVideoRingBufferShmMaxReaders}

theorem mem_slots (i : Fin cIasVideoRingBufferShmMaxReaders) : i ∈ slots := List.mem_finRange i

theorem ledger_init (hN : 0 < N) : Ledger N { mNumBuffers := N } 0 0 0 where
  numBuffers := rfl
  read_lt := hN
  lap := Nat.zero_mod N
  lap' := Nat.zero_mod N
  level := rfl
  level_le := Nat.zero_le N
  write := (Nat.zero_mod N).symm
  grant h := Bool.noConfusion h
  reader i h := by simp [registered] at h
  free _ _ := rfl

/-! ## Places and positions -/

/-- A position and its distance from the start of a lap lie in the same slot. -/
theorem mod_lap {p lap : Nat} (hlap : lap % N = 0) (hle : lap ≤ p) : p % N = (p - lap) % N := by
  obtain ⟨k, rfl⟩ := Nat.dvd_of_mod_eq_zero hlap
  have hp : p = (p - N * k) + N * k := by omega
  conv_lhs => rw [hp]
  rw [Nat.add_mul_mod_self_left]

/-- The slot of a position up to two laps on. -/
theorem mod_cases {d : Nat} (hd : d ≤ N + N) :
    d < N ∧ d % N = d ∨ N ≤ d ∧ d < N + N ∧ d % N = d - N ∨ d = N + N ∧ d % N = 0 := by
  rcases Nat.lt_or_ge d N with h | h
  · exact Or.inl ⟨h, Nat.mod_eq_of_lt h⟩
  rcases Nat.lt_or_ge d (N + N) with h' | h'
  · refine Or.inr (Or.inl ⟨h, h', ?_⟩)
    rw [Nat.mod_eq_sub_mod h, Nat.mod_eq_of_lt (by omega)]
  · obtain rfl : d = N + N := Nat.le_antisymm hd h'
    exact Or.inr (Or.inr ⟨rfl, by simp⟩)

theorem Ledger.write_lt (h : Ledger N q written readersLap readLap) : q.mWriteOffset < N := by
  rw [h.write]
  exact Nat.mod_lt _ (Nat.lt_of_le_of_lt (Nat.zero_le _) h.read_lt)

/-- **The level of a reader** is what it has not read, up to a full ring. -/
theorem Ledger.readerLevel (h : Ledger N q written readersLap readLap) (hN : N < 4294967296)
    (hi : q.registered i = true) :
    q.calculateReaderBufferLevel (q.mReaders i) =
      (written - (readersLap + (q.mReaders i).offset)) % N := by
  have hr := h.reader i hi
  have hbehind := hr.behind
  have hlap := hr.lap
  have hahead := hr.ahead
  have hlevel := h.level
  have hle := h.level_le
  have hwlt := h.write_lt
  have hw := h.write
  rw [mod_lap h.lap' (by omega)] at hw
  have hread := h.read_lt
  -- the distance from the start of the readers' lap, and from the reader
  have hcase := mod_cases (N := N) (d := written - readersLap) (by omega)
  have hcase' := mod_cases (N := N) (d := written - (readersLap + (q.mReaders i).offset))
    (by omega)
  rw [← hw] at hcase
  unfold calculateReaderBufferLevel
  rw [h.numBuffers]
  split
  · rw [sub32_of_le (by omega) (by omega)]
    omega
  · rw [sub32_of_le (by omega) (by omega), add32_of_lt (by omega)]
    omega

/-- Unless the ring is full, the level of a reader is what it has not read. -/
theorem Ledger.readerLevel_eq (h : Ledger N q written readersLap readLap) (hN : N < 4294967296)
    (hi : q.registered i = true) (hfull : q.mBufferLevel < N) :
    q.calculateReaderBufferLevel (q.mReaders i) =
      written - (readersLap + (q.mReaders i).offset) := by
  rw [h.readerLevel hN hi]
  have hbehind := (h.reader i hi).behind
  have hlevel := h.level
  exact Nat.mod_eq_of_lt (by omega)

/-! ## Changing the readers -/

/-- Only what happened to the readers has to be looked at. -/
theorem Ledger.withReaders (h : Ledger N q written readersLap readLap) {lap : Nat}
    (hlap : lap % N = 0) (f : Fin cIasVideoRingBufferShmMaxReaders → RingBufferReader)
    (hreader : ∀ i, (f i).pid ≠ 0 → ReaderOk N written lap (readLap + q.mReadOffset) (f i))
    (hfree : ∀ i, (f i).pid = 0 → (f i).allowedToRead = 0) :
    Ledger N { q with mReaders := f } written lap readLap where
  numBuffers := h.numBuffers
  read_lt := h.read_lt
  lap := h.lap
  lap' := hlap
  level := h.level
  level_le := h.level_le
  write := h.write
  grant := h.grant
  reader i hi := hreader i (of_decide_eq_true hi)
  free i hi := hfree i (Decidable.not_not.mp (of_decide_eq_false hi))

theorem Ledger.reader_of_pid (h : Ledger N q written readersLap readLap)
    (hi : (q.mReaders i).pid ≠ 0) :
    ReaderOk N written readersLap (readLap + q.mReadOffset) (q.mReaders i) :=
  h.reader i (decide_eq_true hi)

theorem Ledger.free_of_pid (h : Ledger N q written readersLap readLap)
    (hi : (q.mReaders i).pid = 0) : (q.mReaders i).allowedToRead = 0 :=
  h.free i (decide_eq_false (not_not_intro hi))

/-- One reader changes. -/
theorem Ledger.setReader (h : Ledger N q written readersLap readLap)
    {reader : RingBufferReader}
    (hreader : reader.pid ≠ 0 →
      ReaderOk N written readersLap (readLap + q.mReadOffset) reader)
    (hfree : reader.pid = 0 → reader.allowedToRead = 0) :
    Ledger N (q.setReader i reader) written readersLap readLap := by
  refine h.withReaders h.lap' _ ?_ ?_
  · intro j hj
    by_cases hji : j = i
    · rw [hji, Function.update_self] at hj ⊢
      exact hreader hj
    · rw [Function.update_of_ne hji] at hj ⊢
      exact h.reader_of_pid hj
  · intro j hj
    by_cases hji : j = i
    · rw [hji, Function.update_self] at hj ⊢
      exact hfree hj
    · rw [Function.update_of_ne hji] at hj ⊢
      exact h.free_of_pid hj

theorem Ledger.updateReaderAccess (h : Ledger N q written readersLap readLap) (now : Nat) :
    Ledger N (q.updateReaderAccess i now) written readersLap readLap := by
  refine h.setReader ?_ ?_
  · intro hpid
    have hr := h.reader_of_pid hpid
    exact ⟨hr.behind, hr.lap, hr.ahead⟩
  · intro hpid
    exact h.free_of_pid hpid

/-- Readers may leave at any time. -/
theorem Ledger.removeReaders (h : Ledger N q written readersLap readLap)
    (leaves : RingBufferReader → Bool) :
    Ledger N (q.removeReaders leaves) written readersLap readLap := by
  refine h.withReaders h.lap' _ ?_ ?_
  · intro j hj
    split at hj
    · exact absurd rfl hj
    · rename_i hl
      rw [if_neg hl]
      exact h.reader_of_pid hj
  · intro j hj
    split
    · rfl
    · rename_i hl
      rw [if_neg hl] at hj
      exact h.free_of_pid hj

/-! ## Finding readers -/

theorem findReader_registered {pid : Nat} (h : q.findReader pid = some i) :
    q.registered i = true := by
  unfold findReader at h
  split at h
  · rename_i hpos
    have hpid : (q.mReaders i).pid = pid := by simpa using List.find?_some h
    exact decide_eq_true (by omega)
  · exact absurd h (by simp)

theorem freePlace_free (h : q.freePlace = some i) : (q.mReaders i).pid = 0 := by
  unfold freePlace at h
  simpa using List.find?_some h

/-- A reader joins at `mReadOffset`, if the readers are in the same lap. -/
theorem Ledger.addReader (h : Ledger N q written readersLap readLap) (pid now : Nat)
    (hlap : (∃ i, q.registered i = false) → readersLap = readLap) :
    Ledger N (q.addReader pid now).2 written readersLap readLap := by
  unfold IasAvbVideoRingBufferShm.addReader
  split
  · exact h
  split
  · exact h
  · rename_i hpid _ i hi
    have hzero := freePlace_free hi
    have hallowed := h.free_of_pid hzero
    have hlap := hlap ⟨i, decide_eq_false (not_not_intro hzero)⟩
    refine Ledger.updateReaderAccess ?_ now
    refine h.setReader ?_ (fun hz => absurd hz hpid)
    intro _
    have hlevel := h.level
    have hread := h.read_lt
    refine ⟨?_, ?_, ?_⟩
    · show readLap + q.mReadOffset ≤ readersLap + q.mReadOffset
      omega
    · show q.mReadOffset + (q.mReaders i).allowedToRead ≤ N
      omega
    · show readersLap + q.mReadOffset + (q.mReaders i).allowedToRead ≤ written
      omega

/-! ## Grants -/

/-- The sum that decides whether a grant reaches the end does not overflow. -/
def ReadFits (q : IasAvbVideoRingBufferShm) (reader : RingBufferReader) (numBuffers : Nat) :
    Prop :=
  reader.offset + min numBuffers (q.calculateReaderBufferLevel reader) < 4294967296

instance (q : IasAvbVideoRingBufferShm) (reader : RingBufferReader) (numBuffers : Nat) :
    Decidable (ReadFits q reader numBuffers) := inferInstanceAs (Decidable (_ < _))

/-- A reader gets no more than it asks for, no more than there is, and not beyond the
end. -/
theorem grantRead_le {reader : RingBufferReader} {n : Nat} (hN : q.mNumBuffers < 4294967296)
    (hoff : reader.offset ≤ q.mNumBuffers) (hfits : ReadFits q reader n) :
    q.grantRead reader n ≤ n ∧ q.grantRead reader n ≤ q.calculateReaderBufferLevel reader ∧
      reader.offset + q.grantRead reader n ≤ q.mNumBuffers := by
  unfold ReadFits at hfits
  have hmin : (if q.calculateReaderBufferLevel reader < n
      then q.calculateReaderBufferLevel reader else n) =
        min n (q.calculateReaderBufferLevel reader) := by
    split <;> omega
  unfold grantRead
  dsimp only
  rw [hmin, add32_of_lt hfits]
  split
  · rw [sub32_of_le hoff hN]
    omega
  · omega

/-- `beginAccess` keeps the ledger, for a reader. -/
theorem Ledger.beginAccessRead (h : Ledger N q written readersLap readLap)
    (hN : N < 4294967296) {pid n : Nat} (now : Nat)
    (hfits : ∀ i, q.findReader pid = some i → ReadFits q (q.mReaders i) n) :
    Ledger N (q.beginAccessRead pid n now).2 written readersLap readLap := by
  unfold IasAvbVideoRingBufferShm.beginAccessRead
  split
  · exact h
  · rename_i i hi
    have hreg := findReader_registered hi
    have hr := h.reader i hreg
    have hlap := hr.lap
    have hahead := hr.ahead
    obtain ⟨-, hle, hend⟩ := grantRead_le (by rw [h.numBuffers]; exact hN)
      (by rw [h.numBuffers]; omega) (hfits i hi)
    rw [h.numBuffers] at hend
    have hlevel := h.readerLevel hN hreg
    have hmod := Nat.mod_le (written - (readersLap + (q.mReaders i).offset)) N
    refine Ledger.updateReaderAccess ?_ now
    refine h.setReader ?_ (fun hz => absurd hz (of_decide_eq_true hreg))
    intro _
    refine ⟨hr.behind, hend, ?_⟩
    show readersLap + (q.mReaders i).offset + q.grantRead (q.mReaders i) n ≤ written
    omega

/-- The same for the writer; it is not compared when the writer is behind. -/
def WriteFits (q : IasAvbVideoRingBufferShm) (numBuffers : Nat) : Prop :=
  q.mReadOffset ≤ q.mWriteOffset →
    q.mWriteOffset + min numBuffers (q.mNumBuffers - q.mBufferLevel) < 4294967296

instance (q : IasAvbVideoRingBufferShm) (numBuffers : Nat) : Decidable (WriteFits q numBuffers) :=
  inferInstanceAs (Decidable (_ → _))

/-- A writer that is behind in the circle has all but `mReadOffset - mWriteOffset` slots
filled. -/
theorem Ledger.level_of_behind (h : Ledger N q written readersLap readLap)
    (hlt : q.mWriteOffset < q.mReadOffset) :
    q.mBufferLevel + q.mReadOffset = N + q.mWriteOffset := by
  have hlevel := h.level
  have hle := h.level_le
  have hread := h.read_lt
  have hw := h.write
  rw [mod_lap h.lap (by omega)] at hw
  have hcase := mod_cases (N := N) (d := written - readLap) (by omega)
  rw [← hw] at hcase
  omega

theorem sub32_sub32_one {a b : Nat} (h : b < a) (ha : a < 4294967296) :
    sub32 (sub32 a b) 1 = a - b - 1 := by
  rw [sub32_of_le (a := a) (by omega) ha, sub32_of_le (by omega) (by omega)]

/-- The writer gets slots that are free and do not reach beyond the end. -/
theorem Ledger.grantWrite_le (h : Ledger N q written readersLap readLap)
    (hN : N < 4294967296) {n : Nat} (hfits : WriteFits q n) :
    q.mWriteOffset + q.grantWrite n ≤ N ∧ q.mBufferLevel + q.grantWrite n ≤ N := by
  have hle := h.level_le
  have hread := h.read_lt
  have hwlt := h.write_lt
  unfold grantWrite
  unfold WriteFits at hfits
  rw [h.numBuffers] at hfits ⊢
  dsimp only
  split
  · rename_i hlt
    have hlevel := h.level_of_behind hlt
    rw [sub32_sub32_one hlt (by omega)]
    omega
  · rename_i hlt
    have hfits := hfits (by omega)
    rw [sub32_of_le hle hN]
    have hmin : (if N - q.mBufferLevel < n then N - q.mBufferLevel else n) =
        min n (N - q.mBufferLevel) := by
      split <;> omega
    rw [hmin, add32_of_lt hfits]
    split
    · rw [sub32_of_le (by omega) hN]
      omega
    · omega

/-- The writer gets no more than it asks for, unless it is behind. -/
theorem Ledger.grantWrite_le_asked (h : Ledger N q written readersLap readLap)
    (hN : N < 4294967296) {n : Nat} (hfits : WriteFits q n)
    (hasked : q.mWriteOffset < q.mReadOffset → q.mReadOffset - q.mWriteOffset - 1 ≤ n) :
    q.grantWrite n ≤ n := by
  have hle := h.level_le
  have hread := h.read_lt
  have hwlt := h.write_lt
  unfold grantWrite
  unfold WriteFits at hfits
  rw [h.numBuffers] at hfits ⊢
  dsimp only
  split
  · rename_i hlt
    have hasked := hasked hlt
    rw [sub32_sub32_one hlt (by omega)]
    exact hasked
  · rename_i hlt
    have hfits := hfits (by omega)
    rw [sub32_of_le hle hN]
    have hmin : (if N - q.mBufferLevel < n then N - q.mBufferLevel else n) =
        min n (N - q.mBufferLevel) := by
      split <;> omega
    rw [hmin, add32_of_lt hfits]
    split
    · rw [sub32_of_le (by omega) hN]
      omega
    · omega

theorem Ledger.beginAccessWrite (h : Ledger N q written readersLap readLap)
    (hN : N < 4294967296) {n : Nat} (hfits : q.mWriteInProgress = false → WriteFits q n) :
    Ledger N (q.beginAccessWrite n).2 written readersLap readLap := by
  unfold IasAvbVideoRingBufferShm.beginAccessWrite
  split
  · exact h
  · rename_i hprog
    exact { h with grant := fun _ => h.grantWrite_le hN (hfits (Bool.eq_false_of_not_eq_true hprog)) }

/-! ## Moving on -/

/-- A reader gives back some of the slots it was granted. -/
theorem Ledger.advance (h : Ledger N q written readersLap readLap) (hN : N < 4294967296)
    (hi : q.registered i = true) {n : Nat} (hn : n ≤ (q.mReaders i).allowedToRead) :
    Ledger N (q.advance i n) written readersLap readLap := by
  have hr := h.reader i hi
  have hbehind := hr.behind
  have hlap := hr.lap
  have hahead := hr.ahead
  refine h.setReader ?_ (fun _ => rfl)
  intro _
  rw [add32_of_lt (by omega)]
  refine ⟨?_, ?_, ?_⟩
  · show readLap + q.mReadOffset ≤ readersLap + ((q.mReaders i).offset + n)
    omega
  · show (q.mReaders i).offset + n + 0 ≤ N
    omega
  · show readersLap + ((q.mReaders i).offset + n) + 0 ≤ written
    omega

/-- All readers have finished the lap, and a new one begins. -/
theorem Ledger.resetOffsets (h : Ledger N q written readersLap readLap)
    (hend : ∀ i, q.registered i = true → (q.mReaders i).offset = N) :
    Ledger N q.resetOffsets written (readersLap + N) readLap := by
  refine h.withReaders (by rw [Nat.add_mod_right]; exact h.lap') _ ?_ ?_
  · intro i hi
    by_cases hreg : q.registered i = true
    · rw [if_pos hreg]
      have hr := h.reader i hreg
      have hoff := hend i hreg
      have hbehind := hr.behind
      have hlap := hr.lap
      have hahead := hr.ahead
      rw [hoff] at hbehind hlap hahead
      refine ⟨?_, ?_, ?_⟩
      · show readLap + q.mReadOffset ≤ readersLap + N + 0
        omega
      · show 0 + (q.mReaders i).allowedToRead ≤ N
        omega
      · show readersLap + N + 0 + (q.mReaders i).allowedToRead ≤ written
        omega
    · rw [if_neg hreg] at hi ⊢
      exact absurd (decide_eq_true hi) hreg
  · intro i hi
    by_cases hreg : q.registered i = true
    · rw [if_pos hreg] at hi
      exact absurd hi (of_decide_eq_true hreg)
    · rw [if_neg hreg]
      exact h.free i (Bool.eq_false_of_not_eq_true hreg)

/-- Where `mReadOffset` is after it was moved to `m`. -/
theorem Ledger.read_applySmallerOffset (h : Ledger N q written readersLap readLap) {m : Nat}
    (hm : m ≤ N) :
    (if m = N then readLap + N else readLap) + (q.applySmallerOffset m).mReadOffset =
      readLap + m := by
  have hread := h.read_lt
  unfold IasAvbVideoRingBufferShm.applySmallerOffset
  rw [h.numBuffers]
  dsimp only
  split
  · omega
  · rw [if_pos (by omega)]

/-- `mReadOffset` moves on to where no reader is behind. -/
theorem Ledger.applySmallerOffset (h : Ledger N q written readersLap readLap)
    (hN : N < 4294967296) {m : Nat} (hle : q.mReadOffset ≤ m) (hm : m ≤ N)
    (hfloor : ∀ i, q.registered i = true → readLap + m ≤ readersLap + (q.mReaders i).offset)
    (hwritten : readLap + m ≤ written) :
    Ledger N (q.applySmallerOffset m) written readersLap
      (if m = N then readLap + N else readLap) := by
  have hlevel := h.level
  have hlevel_le := h.level_le
  have hread := h.read_lt
  have hpos := h.read_applySmallerOffset hm
  have hnew : (q.applySmallerOffset m).mBufferLevel =
      q.mBufferLevel - (m - q.mReadOffset) := by
    show sub32 q.mBufferLevel (sub32 m q.mReadOffset) = _
    rw [sub32_of_le hle (by omega), sub32_of_le (by omega) (by omega)]
  refine ⟨h.numBuffers, ?_, ?_, h.lap', ?_, ?_, h.write, ?_, ?_, h.free⟩
  · show (if m = q.mNumBuffers then 0 else _) < N
    rw [h.numBuffers]
    split
    · omega
    · rw [if_pos (by omega)]
      omega
  · split
    · rw [Nat.add_mod_right]
      exact h.lap
    · exact h.lap
  · rw [hpos, hnew]
    omega
  · rw [hnew]
    omega
  · intro hprog
    have hgrant := h.grant hprog
    rw [hnew]
    show q.mWriteOffset + q.mAllowedToWrite ≤ N ∧ _ + q.mAllowedToWrite ≤ N
    omega
  · intro i hi
    have hr := h.reader i hi
    rw [hpos]
    exact ⟨hfloor i hi, hr.lap, hr.ahead⟩

/-! ## The slowest reader -/

theorem smallerOffset_le (hi : q.registered i = true) :
    q.smallerOffset ≤ (q.mReaders i).offset := least_le UINT32_MAX (mem_slots i) hi

theorem smallerOffset_mem (h : q.smallerOffset ≠ UINT32_MAX) :
    ∃ i, q.registered i = true ∧ (q.mReaders i).offset = q.smallerOffset := by
  rcases least_mem UINT32_MAX slots with htop | ⟨i, -, hi, hoff⟩
  · exact absurd htop h
  · exact ⟨i, hi, hoff⟩

theorem smallerOffset_eq (hi : q.registered i = true) (hmax : (q.mReaders i).offset ≤ UINT32_MAX)
    (hmin : ∀ j, q.registered j = true → (q.mReaders i).offset ≤ (q.mReaders j).offset) :
    q.smallerOffset = (q.mReaders i).offset :=
  least_eq (mem_slots i) hi hmax fun j _ => hmin j

/-- With a reader there is a slowest one. -/
theorem Ledger.exists_slowest (h : Ledger N q written readersLap readLap) (hN : N < 4294967296)
    (hex : ∃ i, q.registered i = true) :
    ∃ i, q.registered i = true ∧ (q.mReaders i).offset = q.smallerOffset := by
  obtain ⟨i, hi⟩ := hex
  by_cases hmax : q.smallerOffset = UINT32_MAX
  · -- then all readers stand at `UINT32_MAX`
    have hle := smallerOffset_le hi
    have hlap := (h.reader i hi).lap
    rw [hmax] at hle
    refine ⟨i, hi, Nat.le_antisymm ?_ (by rw [hmax]; exact hle)⟩
    rw [hmax]
    show (q.mReaders i).offset ≤ 4294967295
    omega
  · exact smallerOffset_mem hmax

/-- `updateSmallerReaderOffset` starts a new lap of the readers if all have finished the
old one, and changes nothing else. -/
theorem Ledger.updateSmallerReaderOffset (h : Ledger N q written readersLap readLap)
    (hmax : q.smallerOffset ≠ UINT32_MAX) :
    q.updateSmallerReaderOffset.1 = q.smallerOffset ∧
      (q.smallerOffset = N ∧ q.updateSmallerReaderOffset.2 = q.resetOffsets ∧
          Ledger N q.resetOffsets written (readersLap + N) readLap ∨
        q.smallerOffset < N ∧ q.updateSmallerReaderOffset.2 = q) := by
  obtain ⟨i, hi, hoff⟩ := smallerOffset_mem hmax
  have hlap := (h.reader i hi).lap
  unfold IasAvbVideoRingBufferShm.updateSmallerReaderOffset
  rw [if_neg hmax, h.numBuffers]
  split
  · rename_i hend
    refine ⟨rfl, Or.inl ⟨hend, rfl, h.resetOffsets ?_⟩⟩
    intro j hj
    have hle := smallerOffset_le hj
    have hlap := (h.reader j hj).lap
    omega
  · rename_i hend
    exact ⟨rfl, Or.inr ⟨by omega, rfl⟩⟩

theorem registered_resetOffsets (i : Fin cIasVideoRingBufferShmMaxReaders) :
    q.resetOffsets.registered i = q.registered i := by
  unfold registered IasAvbVideoRingBufferShm.resetOffsets
  dsimp only
  split <;> rfl

theorem offset_resetOffsets (hi : q.registered i = true) :
    (q.resetOffsets.mReaders i).offset = 0 := by
  unfold IasAvbVideoRingBufferShm.resetOffsets
  dsimp only
  rw [if_pos hi]

/-- What `aggregateReaderOffset` does to a ring in good order, with both laps in step. -/
structure Aggregated (N written lap lap' : Nat) (q q' : IasAvbVideoRingBufferShm) : Prop where
  ledger : Ledger N q' written lap' lap'
  registered : ∀ i, q'.registered i = q.registered i
  /-- No reader moves. -/
  pos : ∀ i, q.registered i = true →
    lap' + (q'.mReaders i).offset = lap + (q.mReaders i).offset
  /-- `mReadOffset` catches up with the slowest reader. -/
  slowest : ∃ i, q'.registered i = true ∧ (q'.mReaders i).offset = q'.mReadOffset
  read : lap + q.mReadOffset ≤ lap' + q'.mReadOffset
  level : q'.mBufferLevel ≤ q.mBufferLevel
  write : q'.mWriteOffset = q.mWriteOffset
  progress : q'.mWriteInProgress = q.mWriteInProgress
  allowed : q'.mAllowedToWrite = q.mAllowedToWrite

/-- **Both steps of the aggregation together** bring `mReadOffset` to the slowest
reader. -/
theorem Ledger.aggregateReaderOffset {lap : Nat} (h : Ledger N q written lap lap)
    (hN : N < 4294967296) (hmax : q.smallerOffset ≠ UINT32_MAX) :
    ∃ lap', Aggregated N written lap lap' q q.aggregateReaderOffset := by
  obtain ⟨hm, hcase⟩ := h.updateSmallerReaderOffset hmax
  obtain ⟨i, hi, hoff⟩ := smallerOffset_mem hmax
  have hbehind := (h.reader i hi).behind
  have hahead := (h.reader i hi).ahead
  have hlevel := h.level
  have hread := h.read_lt
  unfold IasAvbVideoRingBufferShm.aggregateReaderOffset
  rw [hm]
  rcases hcase with ⟨hend, hq, hreset⟩ | ⟨hlt, hq⟩
  · -- the lap is over: the readers go back, and `mReadOffset` follows
    rw [hq, hend]
    have hwritten : lap + N ≤ written := by omega
    have happly := hreset.applySmallerOffset hN (m := N) (by show q.mReadOffset ≤ N; omega)
      (Nat.le_refl N) (fun j hj => by omega) hwritten
    rw [if_pos rfl] at happly
    have hzero : (q.resetOffsets.applySmallerOffset N).mReadOffset = 0 := by
      show (if N = q.mNumBuffers then 0 else _) = 0
      rw [if_pos h.numBuffers.symm]
    have hl := happly.level
    rw [hzero] at hl
    refine ⟨lap + N, happly, registered_resetOffsets, ?_, ⟨i, ?_, ?_⟩, ?_, ?_, rfl, rfl, rfl⟩
    · intro j hj
      show lap + N + (q.resetOffsets.mReaders j).offset = _
      have hle := smallerOffset_le hj
      have hlap := (h.reader j hj).lap
      rw [offset_resetOffsets hj]
      omega
    · exact (registered_resetOffsets i).trans hi
    · exact (offset_resetOffsets hi).trans hzero.symm
    · rw [hzero]
      omega
    · omega
  · rw [hq]
    have hfloor : ∀ j, q.registered j = true →
        lap + q.smallerOffset ≤ lap + (q.mReaders j).offset := by
      intro j hj
      have hle := smallerOffset_le hj
      omega
    have happly := h.applySmallerOffset hN (m := q.smallerOffset) (by omega) (by omega) hfloor
      (by omega)
    rw [if_neg (by omega)] at happly
    have hsame : (q.applySmallerOffset q.smallerOffset).mReadOffset = q.smallerOffset := by
      show (if q.smallerOffset = q.mNumBuffers then 0 else
        if q.smallerOffset < q.mNumBuffers then q.smallerOffset else _) = _
      rw [h.numBuffers, if_neg (by omega), if_pos hlt]
    have hl := happly.level
    rw [hsame] at hl
    refine ⟨lap, happly, fun _ => rfl, fun _ _ => rfl, ⟨i, hi, hoff.trans hsame.symm⟩, ?_, ?_,
      rfl, rfl, rfl⟩
    · rw [hsame]
      omega
    · omega

/-! ## The writer's commit -/

/-- The ring after `numBuffers` slots were committed. -/
def committed (q : IasAvbVideoRingBufferShm) (numBuffers : Nat) : IasAvbVideoRingBufferShm :=
  { q with
    mAllowedToWrite := 0
    mWriteOffset :=
      if q.mWriteOffset + numBuffers = q.mNumBuffers then 0 else q.mWriteOffset + numBuffers
    mBufferLevel := q.mBufferLevel + numBuffers
    mWriteInProgress := false }

theorem Ledger.commitWrite_eq (h : Ledger N q written readersLap readLap) (hN : N < 4294967296)
    (hprog : q.mWriteInProgress = true) {n : Nat} (hn : n ≤ q.mAllowedToWrite) :
    q.commitWrite n = (.eIasRingBuffOk, q.committed n) := by
  have hgrant := h.grant hprog
  have hlevel_le := h.level_le
  have hnum := h.numBuffers
  unfold commitWrite
  dsimp only
  rw [add32_of_lt (by omega), add32_of_lt (by omega), if_neg (by omega)]
  rfl

/-- The writer commits some of the slots it was granted. -/
theorem Ledger.committed (h : Ledger N q written readersLap readLap)
    (hprog : q.mWriteInProgress = true) {n : Nat} (hn : n ≤ q.mAllowedToWrite) :
    Ledger N (q.committed n) (written + n) readersLap readLap := by
  have hgrant := h.grant hprog
  have hlevel := h.level
  have hlevel_le := h.level_le
  have hwlt := h.write_lt
  have hw := h.write
  have hnum := h.numBuffers
  refine ⟨hnum, h.read_lt, h.lap, h.lap', ?_, ?_, ?_, ?_, ?_, h.free⟩
  · show readLap + q.mReadOffset + (q.mBufferLevel + n) = written + n
    omega
  · show q.mBufferLevel + n ≤ N
    omega
  · show (if q.mWriteOffset + n = q.mNumBuffers then 0 else q.mWriteOffset + n) =
      (written + n) % N
    rw [Nat.add_mod, ← hw, hnum]
    split
    · rename_i heq
      rcases Nat.lt_or_ge n N with hnN | hnN
      · rw [Nat.mod_eq_of_lt hnN, heq, Nat.mod_self]
      · have hzero : q.mWriteOffset = 0 := by omega
        have hnN : n = N := by omega
        rw [hzero, hnN, Nat.mod_self, Nat.zero_mod]
    · rw [Nat.mod_eq_of_lt (a := n) (by omega), Nat.mod_eq_of_lt (by omega)]
  · intro hp
    exact Bool.noConfusion hp
  · intro i hi
    have hr := h.reader i hi
    have hahead := hr.ahead
    refine ⟨hr.behind, hr.lap, ?_⟩
    show readersLap + (q.mReaders i).offset + (q.mReaders i).allowedToRead ≤ written + n
    omega

/-- A reader that is still there after some left was there before. -/
theorem registered_of_removeReaders {leaves : RingBufferReader → Bool}
    (hi : (q.removeReaders leaves).registered i = true) :
    q.registered i = true ∧ (q.removeReaders leaves).mReaders i = q.mReaders i := by
  unfold registered IasAvbVideoRingBufferShm.removeReaders at hi ⊢
  dsimp only at hi ⊢
  split at hi
  · simp at hi
  · rename_i hl
    rw [if_neg hl]
    exact ⟨hi, rfl⟩

end AvbStreamHandler.IasAvbVideoRingBufferShm
