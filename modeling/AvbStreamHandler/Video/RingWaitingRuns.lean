import AvbStreamHandler.Video.RingWaiting

/-!
# Runs with waiting readers

A reader that waits does not move, and no section of another thread moves it, so what it has not
read only grows; its level is that modulo the size of the ring. Only a commit can bring it above
what the reader waits for, and behind a commit the writer owes an announcement, which goes out
whatever the readers wait for: `mReadWaitLevel` is zero from the beginning and never gets higher.

From this follow two equivalences. Nobody sleeps over the ring exactly as long as nobody falls
asleep in the gap; and whether or not a wake-up is lost in it, what the waits return is right
exactly as long as the ring is not filled up to a reader that waits.
-/

namespace AvbStreamHandler

open Kit Kit.Run Kit.Word Kit.Waiting

namespace IasAvbVideoRingBufferShm

/-! ## What a section does -/

namespace World

variable {N floor : Nat} {w : World} {i : Fin cIasVideoRingBufferShmMaxReaders}

/-- A reader stays where it is. -/
structure Still (w w' : World) (i : Fin cIasVideoRingBufferShmMaxReaders) : Prop where
  pid : (w'.ring.mReaders i).pid = (w.ring.mReaders i).pid
  pos : w'.readersLap + (w'.ring.mReaders i).offset
    = w.readersLap + (w.ring.mReaders i).offset

theorem Still.of_eq {w' : World} (hreader : w'.ring.mReaders i = w.ring.mReaders i)
    (hlap : w'.readersLap = w.readersLap) : Still w w' i :=
  ⟨by rw [hreader], by rw [hreader, hlap]⟩

theorem pid_setReader {q : IasAvbVideoRingBufferShm} {j : Fin cIasVideoRingBufferShmMaxReaders}
    {reader : RingBufferReader} (h : reader.pid = (q.mReaders j).pid) :
    ((q.setReader j reader).mReaders i).pid = (q.mReaders i).pid := by
  by_cases hij : i = j
  · subst hij
    rw [mReaders_setReader_self, h]
  · rw [mReaders_setReader_ne hij]

theorem pid_beginAccessRead (q : IasAvbVideoRingBufferShm) (pid n now : Nat) :
    ((q.beginAccessRead pid n now).2.mReaders i).pid = (q.mReaders i).pid := by
  unfold beginAccessRead
  split
  · rfl
  · unfold IasAvbVideoRingBufferShm.updateReaderAccess
    rw [pid_setReader (by rfl), pid_setReader (by rfl)]

theorem pid_resetOffsets (q : IasAvbVideoRingBufferShm) :
    (q.resetOffsets.mReaders i).pid = (q.mReaders i).pid := by
  unfold resetOffsets
  dsimp only
  split <;> rfl

theorem mReaders_beginAccessWrite (q : IasAvbVideoRingBufferShm) (n : Nat) :
    (q.beginAccessWrite n).2.mReaders = q.mReaders := by
  unfold beginAccessWrite
  dsimp only
  split <;> rfl

theorem mReaders_commitWrite (q : IasAvbVideoRingBufferShm) (n : Nat) :
    (q.commitWrite n).2.mReaders = q.mReaders := by
  unfold commitWrite
  dsimp only
  split <;> rfl

theorem still_commit (w : World) (n : Nat) : Still w (step w (.commit n)) i := by
  have hcommit := mReaders_commitWrite w.ring n
  unfold step
  dsimp only
  split
  · split
    · rename_i heq
      rw [heq] at hcommit
      exact .of_eq (congrFun hcommit i) rfl
    · rename_i heq
      rw [heq] at hcommit
      exact .of_eq (congrFun hcommit i) rfl
  · exact .of_eq rfl rfl

theorem still_beginRead (w : World) (pid n now : Nat) :
    Still w (step w (.beginRead pid n now)) i := by
  unfold step
  dsimp only
  split
  · refine ⟨pid_beginAccessRead w.ring pid n now, ?_⟩
    dsimp only
    rw [offset_beginAccessRead]
  · exact .of_eq rfl rfl

/-- Only the reader that has read goes on. -/
theorem still_advance {pid n : Nat} (hne : (w.ring.mReaders i).pid ≠ pid) :
    Still w (step w (.advance pid n)) i := by
  unfold step
  dsimp only
  split
  swap
  · exact .of_eq rfl rfl
  rename_i j _ hfound
  split
  swap
  · exact .of_eq rfl rfl
  refine .of_eq (mReaders_advance_ne ?_ n) rfl
  rintro rfl
  unfold findReader at hfound
  split at hfound
  · exact hne (by simpa using List.find?_some hfound)
  · cases hfound

/-- **At the end of a lap** all offsets are set back, and the lap is counted. -/
theorem Inv.still_compute (h : Inv N floor w) {pid : Nat} (hok : StepOk w (.compute pid))
    (hi : w.ring.registered i = true) : Still w (step w (.compute pid)) i := by
  unfold step
  dsimp only
  split
  swap
  · exact .of_eq rfl rfl
  rename_i hadv
  unfold StepOk at hok
  dsimp only at hok
  rw [hadv] at hok
  obtain ⟨hm, hcase⟩ := h.ledger.updateSmallerReaderOffset hok
  rw [hm, h.ledger.numBuffers]
  rcases hcase with ⟨hend, hq, -⟩ | ⟨hlt, hq⟩
  · rw [hq, if_pos hend]
    refine ⟨pid_resetOffsets w.ring, ?_⟩
    have hlap := (h.ledger.reader i hi).lap
    have hle := smallerOffset_le hi
    dsimp only
    rw [offset_resetOffsets hi]
    omega
  · rw [hq, if_neg (Nat.ne_of_lt hlt)]
    exact .of_eq rfl rfl

theorem still_apply (w : World) (pid now : Nat) : Still w (step w (.apply pid now)) i := by
  unfold step
  dsimp only
  split
  swap
  · exact .of_eq rfl rfl
  split
  · exact .of_eq rfl rfl
  · refine ⟨?_, ?_⟩
    · unfold IasAvbVideoRingBufferShm.updateReaderAccess
      dsimp only
      rw [pid_setReader (by rfl)]
      rfl
    · dsimp only
      rw [offset_updateReaderAccess]
      rfl

/-- A new reader takes a place that is free. -/
theorem still_addReader (hi : w.ring.registered i = true) (pid now : Nat) :
    Still w (step w (.addReader pid now)) i := by
  unfold step
  dsimp only
  by_cases hpid : pid = 0
  · rw [addReader_fails (Or.inl hpid)]
    exact .of_eq rfl rfl
  · cases hfree : w.ring.freePlace with
    | none =>
        rw [addReader_fails (Or.inr hfree)]
        exact .of_eq rfl rfl
    | some j =>
        refine .of_eq (addReader_others hpid hfree now ?_) rfl
        rintro rfl
        exact of_decide_eq_true hi (freePlace_free hfree)

theorem still_removeReader {pid : Nat}
    (hi' : (step w (.removeReader pid)).ring.registered i = true) :
    Still w (step w (.removeReader pid)) i := by
  unfold step at hi' ⊢
  dsimp only at hi' ⊢
  unfold IasAvbVideoRingBufferShm.removeReader at hi' ⊢
  split
  · exact .of_eq rfl rfl
  · rename_i hpid
    rw [if_neg hpid] at hi'
    have hstays : (w.ring.removeReaders fun reader =>
        decide (reader.pid = pid)).registered i = true := hi'
    exact .of_eq (registered_of_removeReaders hstays).2 rfl

/-- **A reader that stays registered and does not read stays where it is**, whatever the others
do. At the end of a lap its offset starts again. -/
theorem Inv.still (h : Inv N floor w) {s : Section} (hok : StepOk w s)
    (hi : w.ring.registered i = true) (hi' : (step w s).ring.registered i = true)
    (hother : ∀ pid n, s = .advance pid n → (w.ring.mReaders i).pid ≠ pid) :
    Still w (step w s) i := by
  cases s with
  | beginWrite n =>
      unfold step
      dsimp only
      split
      · exact .of_eq rfl rfl
      · exact .of_eq (congrFun (mReaders_beginAccessWrite w.ring n) i) rfl
  | commit n => exact still_commit w n
  | purge now =>
      unfold step at hi' ⊢
      dsimp only at hi' ⊢
      split
      · rename_i hpurging
        rw [if_pos hpurging] at hi'
        exact .of_eq (registered_of_removeReaders hi').2 rfl
      · exact .of_eq rfl rfl
  | beginRead pid n now => exact still_beginRead w pid n now
  | advance pid n => exact still_advance (hother pid n rfl)
  | compute pid => exact h.still_compute hok hi
  | apply pid now => exact still_apply w pid now
  | addReader pid now => exact still_addReader hi pid now
  | removeReader pid => exact still_removeReader hi'

/-! ## What is written, and the level -/

theorem written_step (w : World) {s : Section} (hs : ∀ n, s ≠ .commit n) :
    (step w s).written = w.written := by
  unfold step
  cases s with
  | commit n => exact absurd rfl (hs n)
  | beginWrite n | purge now =>
      dsimp only
      split <;> rfl
  | beginRead pid n now | compute pid =>
      dsimp only
      split <;> rfl
  | advance pid n | apply pid now =>
      dsimp only
      split
      · split <;> rfl
      · rfl
  | addReader pid now | removeReader pid => rfl

/-- What a commit writes, if it goes through. -/
theorem Inv.written_commit (h : Inv N floor w) (hN : N < 4294967296) (n : Nat) :
    (step w (.commit n)).written =
      if w.purging = false ∧ w.ring.mWriteInProgress = true ∧ n ≤ w.ring.mAllowedToWrite then
        w.written + n
      else w.written := by
  unfold step
  dsimp only
  split
  · rename_i hc
    rw [h.ledger.commitWrite_eq hN hc.2.1 hc.2.2]
  · rfl

/-- No more is given back than is there. -/
theorem Inv.fits_apply (h : Inv N floor w) {pid : Nat} {m : Minimum}
    (hcomp : w.thread pid = .computed i m) (hlap : m.lap = w.readLap)
    (hle : w.ring.mReadOffset ≤ m.offset) :
    m.offset - w.ring.mReadOffset ≤ w.ring.mBufferLevel := by
  obtain ⟨hfloor, -, -⟩ := h.computed pid i m hcomp
  unfold Minimum.pos at hfloor
  have hwritten := h.written
  have hlevel := h.ledger.level
  omega

/-- Only the writer raises the level, and only an `apply` that is made lowers it. -/
theorem Inv.level_step (h : Inv N floor w) (hN : N < 4294967296) {s : Section} (hok : StepOk w s)
    (hs : ∀ n, s ≠ .commit n) :
    (step w s).ring.mBufferLevel ≤ w.ring.mBufferLevel ∧
      ((step w s).ring.mBufferLevel = w.ring.mBufferLevel ∨ ∃ pid now, s = .apply pid now ∧
        w.thread pid ≠ .idle ∧ (step w s).thread pid = .idle) := by
  unfold step
  cases s with
  | commit n => exact absurd rfl (hs n)
  | beginWrite n =>
      dsimp only
      split
      · exact ⟨Nat.le_refl _, .inl rfl⟩
      · unfold beginAccessWrite
        dsimp only
        split <;> exact ⟨Nat.le_refl _, .inl rfl⟩
  | purge now =>
      dsimp only
      split <;> exact ⟨Nat.le_refl _, .inl rfl⟩
  | beginRead pid n now =>
      dsimp only
      split
      · unfold beginAccessRead
        dsimp only
        split <;> exact ⟨Nat.le_refl _, .inl rfl⟩
      · exact ⟨Nat.le_refl _, .inl rfl⟩
  | advance pid n =>
      dsimp only
      split
      · split <;> exact ⟨Nat.le_refl _, .inl rfl⟩
      · exact ⟨Nat.le_refl _, .inl rfl⟩
  | compute pid =>
      dsimp only
      split
      · unfold updateSmallerReaderOffset
        dsimp only
        split
        · exact ⟨Nat.le_refl _, .inl rfl⟩
        · split <;> exact ⟨Nat.le_refl _, .inl rfl⟩
      · exact ⟨Nat.le_refl _, .inl rfl⟩
  | apply pid now =>
      dsimp only
      split
      · rename_i i m hcomp
        split
        · exact ⟨Nat.le_refl _, .inl rfl⟩
        · unfold StepOk at hok
          dsimp only at hok
          rw [hcomp] at hok
          obtain ⟨-, hmN, -⟩ := h.computed pid i m hcomp
          have hlevel := h.ledger.level_le
          refine ⟨?_, .inr ⟨pid, now, rfl, ?_, thread_setThread_self w pid _⟩⟩
          · show sub32 w.ring.mBufferLevel (sub32 m.offset w.ring.mReadOffset) ≤ _
            rw [sub32_of_le hok.2 (by omega)]
            have hfits := h.fits_apply hcomp hok.1 hok.2
            rw [sub32_of_le hfits (by omega)]
            exact Nat.sub_le _ _
          · rw [hcomp]
            exact nofun
      · exact ⟨Nat.le_refl _, .inl rfl⟩
  | addReader pid now =>
      dsimp only
      by_cases hpid : pid = 0
      · rw [addReader_fails (Or.inl hpid)]
        exact ⟨Nat.le_refl _, .inl rfl⟩
      · cases hfree : w.ring.freePlace with
        | none =>
            rw [addReader_fails (Or.inr hfree)]
            exact ⟨Nat.le_refl _, .inl rfl⟩
        | some j =>
            rw [addReader_eq hpid hfree]
            exact ⟨Nat.le_refl _, .inl rfl⟩
  | removeReader pid =>
      dsimp only
      unfold IasAvbVideoRingBufferShm.removeReader
      split <;> exact ⟨Nat.le_refl _, .inl rfl⟩

end World

/-- A reader's access is recorded: nothing else changes. -/
theorem World.Inv.updateReaderAccess {N floor : Nat} {w : World} (h : World.Inv N floor w)
    (i : Fin cIasVideoRingBufferShmMaxReaders) (now : Nat) :
    World.Inv N floor { w with ring := w.ring.updateReaderAccess i now } :=
  h.ofRing (h.ledger.updateReaderAccess now) (fun _ => registered_updateReaderAccess now)
    (fun _ => offset_updateReaderAccess now) rfl (Nat.le_refl _) rfl rfl rfl rfl

namespace RingWaiting

variable {N : Nat} {r : Prop} {w : RingWaiting} {pid : Nat} {a : WaitRead}

/-! ## The invariant -/

/-- What holds in the middle of a step, with the ledger of the ring in it; and, if `r` is asked
for, that there is room. -/
structure Base (N : Nat) (r : Prop) (w : RingWaiting) : Prop where
  world : ∃ floor, World.Inv N floor w.world
  /-- It starts at zero, and is only changed to something less. -/
  level : w.mReadWaitLevel = 0
  /-- Who waits has the place that was found. -/
  place : ∀ pid a, (w.reader pid).waits = some a →
    (0 < a.numBuffers ∧ a.numBuffers ≤ N) ∧ (w.ring.mReaders a.place).pid = pid ∧ pid ≠ 0
  /-- What was there is still there. -/
  readerSeen : ∀ pid a, (w.reader pid).waits = some a → w.readerSeen pid = true →
    a.numBuffers ≤ w.unread a.place
  writerSeen : w.writer ≠ .idle → w.writerSeen = true → w.WriteReady
  /-- The ring is not full to a reader that waits. -/
  room : r → ∀ pid a, (w.reader pid).waits = some a → w.unread a.place ≠ N

/-- **The invariant**: what is there has been noted as well. -/
structure Inv (N : Nat) (r : Prop) (w : RingWaiting) : Prop extends Base N r w where
  readerNoted : ∀ pid a, (w.reader pid).waits = some a → a.numBuffers ≤ w.unread a.place →
    w.readerSeen pid = true
  writerNoted : w.writer ≠ .idle → w.WriteReady → w.writerSeen = true

theorem inv_init (hN : 0 < N) : Inv N r (init N) where
  world := ⟨0, World.inv_init hN⟩
  level := rfl
  place _ _ h := nomatch h
  readerSeen _ _ h := nomatch h
  writerSeen h := absurd rfl h
  room _ _ _ h := nomatch h
  readerNoted _ _ h := nomatch h
  writerNoted h := absurd rfl h

theorem Base.registered (h : Base N r w) (hwaits : (w.reader pid).waits = some a) :
    w.ring.registered a.place = true := by
  obtain ⟨-, hpid, hne⟩ := h.place pid a hwaits
  exact decide_eq_true (hpid ▸ hne)

theorem Base.numBuffers (h : Base N r w) : w.ring.mNumBuffers = N := by
  obtain ⟨floor, hworld⟩ := h.world
  exact hworld.ledger.numBuffers

/-- What a reader has not read fits into the ring. -/
theorem Base.unread_le (h : Base N r w) {i : Fin cIasVideoRingBufferShmMaxReaders}
    (hi : w.ring.registered i = true) : w.unread i ≤ N := by
  obtain ⟨floor, hworld⟩ := h.world
  have hbehind := (hworld.ledger.reader i hi).behind
  have hlevel := hworld.ledger.level
  have hle := hworld.ledger.level_le
  unfold unread
  unfold ring
  omega

/-- **The condition of a reader**, in packets: a whole ring looks like none. -/
theorem Base.ready_iff (h : Base N r w) (hN : N < 4294967296)
    {i : Fin cIasVideoRingBufferShmMaxReaders} (hi : w.ring.registered i = true) {n : Nat}
    (hn : 0 < n) : w.ReadReady ⟨i, n⟩ ↔ n ≤ w.unread i ∧ w.unread i ≠ N := by
  obtain ⟨floor, hworld⟩ := h.world
  have hle := h.unread_le hi
  show n ≤ w.world.ring.calculateReaderBufferLevel (w.world.ring.mReaders i) ↔ _
  rw [hworld.ledger.readerLevel hN hi]
  show n ≤ w.unread i % N ↔ _
  by_cases hfull : w.unread i = N
  · rw [hfull, Nat.mod_self]
    omega
  · rw [Nat.mod_eq_of_lt (Nat.lt_of_le_of_ne hle hfull)]
    omega

theorem Base.readReady_iff (h : Base N r w) (hN : N < 4294967296)
    (hwaits : (w.reader pid).waits = some a) :
    w.ReadReady a ↔ a.numBuffers ≤ w.unread a.place ∧ w.unread a.place ≠ N :=
  h.ready_iff hN (h.registered hwaits) (h.place pid a hwaits).1.1

theorem Base.note (h : Base N r w) : Inv N r w.note where
  world := h.world
  level := h.level
  place := h.place
  readerSeen pid a hwaits hseen := by
    have hwaits : (w.reader pid).waits = some a := hwaits
    simp only [RingWaiting.note, hwaits, Bool.or_eq_true, decide_eq_true_eq] at hseen
    exact hseen.elim (h.readerSeen pid a hwaits) id
  writerSeen hwriter hseen := by
    simp only [RingWaiting.note, Bool.or_eq_true, Bool.and_eq_true, decide_eq_true_eq] at hseen
    exact hseen.elim (h.writerSeen hwriter) (·.2)
  room := h.room
  readerNoted pid a hwaits henough := by
    have hwaits : (w.reader pid).waits = some a := hwaits
    simp only [RingWaiting.note, hwaits, Bool.or_eq_true, decide_eq_true_eq]
    exact .inr henough
  writerNoted hwriter hready := by
    have hsome : w.writer.waits.isSome = true := by
      cases hp : w.writer with
      | idle => exact absurd hp hwriter
      | checked | asleep | woken | timedOut => rfl
    simp only [RingWaiting.note, Bool.or_eq_true, Bool.and_eq_true, decide_eq_true_eq]
    exact .inr ⟨hsome, hready⟩

/-! ## The small steps -/

section

variable (w)

theorem mReaders_updateReaderAccess (i j : Fin cIasVideoRingBufferShmMaxReaders) (now : Nat) :
    ((w.updateReaderAccess i now).ring.mReaders j).offset = (w.ring.mReaders j).offset ∧
      ((w.updateReaderAccess i now).ring.mReaders j).pid = (w.ring.mReaders j).pid :=
  ⟨IasAvbVideoRingBufferShm.offset_updateReaderAccess now, World.pid_setReader rfl⟩

@[simp] theorem unread_updateReaderAccess (i j : Fin cIasVideoRingBufferShmMaxReaders)
    (now : Nat) : (w.updateReaderAccess i now).unread j = w.unread j := by
  have hoffset := (w.mReaders_updateReaderAccess i j now).1
  unfold unread
  rw [hoffset]
  rfl

@[simp] theorem readReady_updateReaderAccess (i : Fin cIasVideoRingBufferShmMaxReaders)
    (now : Nat) (a : WaitRead) : (w.updateReaderAccess i now).ReadReady a ↔ w.ReadReady a := by
  have hoffset := (w.mReaders_updateReaderAccess i a.place now).1
  unfold ReadReady calculateReaderBufferLevel
  rw [hoffset]
  rfl

end

theorem Base.updateReaderAccess (h : Base N r w) (i : Fin cIasVideoRingBufferShmMaxReaders)
    (now : Nat) : Base N r (w.updateReaderAccess i now) where
  world := by
    obtain ⟨floor, hworld⟩ := h.world
    exact ⟨floor, hworld.updateReaderAccess i now⟩
  level := h.level
  place pid a hwaits := by
    rw [(w.mReaders_updateReaderAccess i a.place now).2]
    exact h.place pid a hwaits
  readerSeen pid a hwaits hseen := by
    rw [unread_updateReaderAccess]
    exact h.readerSeen pid a hwaits hseen
  writerSeen := h.writerSeen
  room hr pid a hwaits := by
    rw [unread_updateReaderAccess]
    exact h.room hr pid a hwaits

/-- A reader goes on to another place in the same wait. -/
theorem Base.setReader (h : Base N r w) {p : Place WaitRead}
    (hp : ∀ a, p.waits = some a → (w.reader pid).waits = some a) :
    Base N r (w.setReader pid p) := by
  have hsame : ∀ q a, ((w.setReader pid p).reader q).waits = some a →
      (w.reader q).waits = some a := by
    intro q a hwaits
    by_cases hq : q = pid
    · subst hq
      simp only [RingWaiting.setReader, Function.update_self] at hwaits
      exact hp a hwaits
    · simpa only [RingWaiting.setReader, Function.update_of_ne hq] using hwaits
  exact ⟨h.world, h.level, fun q a hwaits => h.place q a (hsame q a hwaits),
    fun q a hwaits => h.readerSeen q a (hsame q a hwaits), h.writerSeen,
    fun hr q a hwaits => h.room hr q a (hsame q a hwaits)⟩

theorem Base.readerDone (h : Base N r w) (pid : Nat) (result : WaitReadResult) :
    Base N r (w.readerDone pid result) :=
  have hidle : Base N r (w.setReader pid .idle) := h.setReader nofun
  ⟨hidle.world, hidle.level, hidle.place, hidle.readerSeen, hidle.writerSeen, hidle.room⟩

/-- The writer goes on in the same wait. -/
theorem Base.setWriter (h : Base N r w) {p : Place Unit} (hp : p ≠ .idle → w.writer ≠ .idle) :
    Base N r { w with writer := p } :=
  ⟨h.world, h.level, h.place, h.readerSeen, fun hwriter => h.writerSeen (hp hwriter), h.room⟩

theorem Base.writerDone (h : Base N r w) (result : WaitReadResult) :
    Base N r (w.writerDone result) :=
  ⟨h.world, h.level, h.place, h.readerSeen, fun hwriter => absurd rfl hwriter, h.room⟩

/-! ## A section -/

section

variable {s : Section}

/-- A reader that waits is not the one that makes the section. -/
theorem Base.still (h : Base N r w) (hfree : w.Free s) (hok : World.StepOk w.world s)
    (hstay : w.WaitersStay s) (hwaits : (w.reader pid).waits = some a) :
    World.Still w.world (w.world.step s) a.place := by
  obtain ⟨floor, hworld⟩ := h.world
  refine hworld.still hok (h.registered hwaits) (hstay pid a hwaits) ?_
  rintro pid' n rfl heq
  obtain ⟨-, hpid, -⟩ := h.place pid a hwaits
  obtain rfl : pid = pid' := hpid.symm.trans heq
  rw [(hfree.1 pid rfl).1] at hwaits
  cases hwaits

/-- Only what is written moves away from a waiting reader. -/
theorem Base.unread_eq (h : Base N r w) (hfree : w.Free s) (hok : World.StepOk w.world s)
    (hstay : w.WaitersStay s) (hwaits : (w.reader pid).waits = some a) :
    (w.access s).unread a.place = (w.world.step s).written
      - (w.world.readersLap + (w.world.ring.mReaders a.place).offset) := by
  rw [← (h.still hfree hok hstay hwaits).pos]
  rfl

theorem Base.unread_commit (h : Base N r w) (hN : N < 4294967296) {n : Nat}
    (hcommit : w.Commits n) (hok : World.StepOk w.world (.commit n))
    (hstay : w.WaitersStay (.commit n)) (hwaits : (w.reader pid).waits = some a) :
    (w.access (.commit n)).unread a.place = w.unread a.place + n := by
  have hunread := h.unread_eq hcommit.1 hok hstay hwaits
  have hregistered := h.registered hwaits
  obtain ⟨floor, hworld⟩ := h.world
  have hahead := (hworld.ledger.reader a.place hregistered).ahead
  rw [hworld.written_commit hN] at hunread
  have hc : w.world.purging = false ∧ w.world.ring.mWriteInProgress = true ∧
    n ≤ w.world.ring.mAllowedToWrite := hcommit.2
  rw [hunread, if_pos hc]
  show _ = w.world.written - (w.world.readersLap + (w.world.ring.mReaders a.place).offset) + n
  omega

/-- **What a waiting reader has not read** is what it was, and what a commit adds to it. -/
theorem Base.unread_access (h : Base N r w) (hN : N < 4294967296) (hfree : w.Free s)
    (hok : World.StepOk w.world s) (hstay : w.WaitersStay s)
    (hwaits : (w.reader pid).waits = some a) :
    (w.access s).unread a.place = w.unread a.place ∨
      ∃ n, s = .commit n ∧ w.Commits n ∧ (w.access s).unread a.place = w.unread a.place + n := by
  by_cases hcommit : ∃ n, s = .commit n ∧ w.Commits n
  · obtain ⟨n, rfl, hcommit⟩ := hcommit
    exact .inr ⟨n, rfl, hcommit, h.unread_commit hN hcommit hok hstay hwaits⟩
  · have hwritten : (w.world.step s).written = w.world.written := by
      by_cases hs : ∃ n, s = .commit n
      · obtain ⟨n, rfl⟩ := hs
        obtain ⟨floor, hworld⟩ := h.world
        rw [hworld.written_commit hN]
        exact if_neg fun hc => hcommit ⟨n, rfl, hfree, hc⟩
      · exact World.written_step w.world fun n hn => hs ⟨n, hn⟩
    refine .inl ?_
    rw [h.unread_eq hfree hok hstay hwaits, hwritten]
    rfl

theorem Base.le_unread_access (h : Base N r w) (hN : N < 4294967296) (hfree : w.Free s)
    (hok : World.StepOk w.world s) (hstay : w.WaitersStay s)
    (hwaits : (w.reader pid).waits = some a) :
    w.unread a.place ≤ (w.access s).unread a.place := by
  rcases h.unread_access hN hfree hok hstay hwaits with hsame | ⟨n, -, -, hmore⟩
  · exact Nat.le_of_eq hsame.symm
  · rw [hmore]
    exact Nat.le_add_right _ _

/-- As long as the writer waits the level does not rise. -/
theorem Base.writeReady_access (h : Base N r w) (hN : N < 4294967296) (hfree : w.Free s)
    (hok : World.StepOk w.world s) (hwriter : w.writer ≠ .idle) (hready : w.WriteReady) :
    (w.access s).WriteReady := by
  obtain ⟨floor, hworld⟩ := h.world
  have hcommit : ∀ n, s ≠ .commit n := by
    rintro n rfl
    exact hwriter (hfree.2 rfl).1
  exact le_trans (hworld.level_step hN hok hcommit).1 hready

theorem Base.access (h : Base N r w) (hN : N < 4294967296) (hfree : w.Free s)
    (hok : World.StepOk w.world s) (hstay : w.WaitersStay s)
    (hroom : r → w.LeavesRoom (.access s)) : Base N r (w.access s) where
  world := by
    obtain ⟨floor, hworld⟩ := h.world
    exact World.inv_step hworld hN s hok
  level := h.level
  place pid a hwaits := by
    obtain ⟨hn, hpid, hne⟩ := h.place pid a hwaits
    exact ⟨hn, (h.still hfree hok hstay hwaits).pid.trans hpid, hne⟩
  readerSeen pid a hwaits hseen :=
    le_trans (h.readerSeen pid a hwaits hseen) (h.le_unread_access hN hfree hok hstay hwaits)
  writerSeen hwriter hseen :=
    h.writeReady_access hN hfree hok hwriter (h.writerSeen hwriter hseen)
  room hr pid a hwaits := by
    rcases h.unread_access hN hfree hok hstay hwaits with hsame | ⟨n, rfl, hcommit, hmore⟩
    · rw [hsame]
      exact h.room hr pid a hwaits
    · rw [hmore, ← h.numBuffers]
      exact hroom hr hcommit pid a hwaits

end

/-! ## The other events -/

theorem Base.broadcastRead (h : Base N r w) : Base N r w.broadcastRead := by
  unfold RingWaiting.broadcastRead
  split
  · have hwaits : ∀ pid a, ((if w.mReadWaitLevel ≤ w.ring.mBufferLevel then
          fun pid => (w.reader pid).wake else w.reader) pid).waits = some a →
        (w.reader pid).waits = some a := by
      intro pid a hwaits
      split at hwaits
      · rwa [Place.waits_wake] at hwaits
      · exact hwaits
    exact ⟨h.world, h.level, fun pid a hp => h.place pid a (hwaits pid a hp),
      fun pid a hp => h.readerSeen pid a (hwaits pid a hp), h.writerSeen,
      fun hr pid a hp => h.room hr pid a (hwaits pid a hp)⟩
  · exact h

theorem Base.broadcastWrite (h : Base N r w) (pid : Nat) : Base N r (w.broadcastWrite pid) := by
  unfold RingWaiting.broadcastWrite
  split
  · refine ⟨h.world, h.level, h.place, h.readerSeen, fun hwriter => h.writerSeen ?_, h.room⟩
    intro hidle
    dsimp only at hwriter
    rw [hidle] at hwriter
    split at hwriter <;> exact hwriter rfl
  · exact h

/-- A look in a wait. -/
theorem Base.look (h : Base N r w) (hwaits : (w.reader pid).waits = some a) :
    Base N r (w.look pid a) := by
  unfold RingWaiting.look
  split
  · exact h.readerDone pid _
  · refine h.setReader ?_
    rintro b ⟨⟩
    exact hwaits

theorem findReader_pid {q : IasAvbVideoRingBufferShm}
    {i : Fin cIasVideoRingBufferShmMaxReaders} (h : q.findReader pid = some i) :
    (q.mReaders i).pid = pid ∧ pid ≠ 0 := by
  unfold findReader at h
  split at h
  · rename_i hpos
    exact ⟨by simpa using List.find?_some h, hpos.ne'⟩
  · cases h

/-- A wait begins. -/
theorem Base.setReader_new (h : Base N r w) (hplace : (0 < a.numBuffers ∧ a.numBuffers ≤ N) ∧
      (w.ring.mReaders a.place).pid = pid ∧ pid ≠ 0)
    (hseen : w.readerSeen pid = true → a.numBuffers ≤ w.unread a.place)
    (hroom : r → w.unread a.place ≠ N) : Base N r (w.setReader pid (.checked a)) := by
  have hcases : ∀ q b, ((w.setReader pid (.checked a)).reader q).waits = some b →
      (q = pid ∧ b = a) ∨ (w.reader q).waits = some b := by
    intro q b hwaits
    by_cases hq : q = pid
    · subst hq
      simp only [RingWaiting.setReader, Function.update_self] at hwaits
      exact .inl ⟨rfl, (Option.some.inj hwaits).symm⟩
    · simp only [RingWaiting.setReader, Function.update_of_ne hq] at hwaits
      exact .inr hwaits
  refine ⟨h.world, h.level, ?_, ?_, h.writerSeen, ?_⟩
  · intro q b hwaits
    rcases hcases q b hwaits with ⟨rfl, rfl⟩ | hbefore
    · exact hplace
    · exact h.place q b hbefore
  · intro q b hwaits hseenq
    rcases hcases q b hwaits with ⟨rfl, rfl⟩ | hbefore
    · exact hseen hseenq
    · exact h.readerSeen q b hbefore hseenq
  · intro hr q b hwaits
    rcases hcases q b hwaits with ⟨rfl, rfl⟩ | hbefore
    · exact hroom hr
    · exact h.room hr q b hbefore

theorem Base.enterRead (h : Base N r w) (hidle : w.reader pid = .idle) (a : WaitRead) :
    Base N r (w.enterRead pid a) where
  world := h.world
  level := by
    show (if a.numBuffers < w.mReadWaitLevel then _ else w.mReadWaitLevel) = 0
    rw [h.level, if_neg (Nat.not_lt_zero _)]
  place := h.place
  readerSeen q b hwaits hseen := by
    have hq : q ≠ pid := by
      rintro rfl
      have hwaits : (w.reader q).waits = some b := hwaits
      rw [hidle] at hwaits
      cases hwaits
    simp only [RingWaiting.enterRead, Function.update_of_ne hq] at hseen
    exact h.readerSeen q b hwaits hseen
  writerSeen := h.writerSeen
  room := h.room

theorem Base.waitRead (h : Base N r w) (pid numBuffers timeout_ms now : Nat)
    (hroom : r → w.LeavesRoom (.waitRead pid numBuffers timeout_ms now)) :
    Base N r (w.waitRead pid numBuffers timeout_ms now) := by
  unfold RingWaiting.waitRead
  split
  · rename_i hidle
    split
    · exact h.readerDone pid _
    · rename_i i hfound
      split
      · exact h.readerDone pid _
      · rename_i hparams
        split
        · exact h
        · rename_i hpurging
          have hn : 0 < numBuffers ∧ numBuffers ≤ N := by
            have hnum := h.numBuffers
            omega
          have hentered := (h.enterRead hidle.1 ⟨i, numBuffers⟩).updateReaderAccess i now
          unfold RingWaiting.look
          split
          · exact hentered.readerDone pid _
          · refine hentered.setReader_new ⟨hn, ?_⟩ ?_ ?_
            · rw [(RingWaiting.mReaders_updateReaderAccess _ i i now).2]
              exact findReader_pid hfound
            · intro hseen
              rw [unread_updateReaderAccess]
              have hthere : numBuffers ≤ w.unread i := by
                simpa [RingWaiting.updateReaderAccess, RingWaiting.enterRead] using hseen
              exact hthere
            · intro hr
              rw [unread_updateReaderAccess, ← h.numBuffers]
              exact hroom hr ⟨hidle, hparams, Bool.eq_false_of_not_eq_true hpurging⟩ i hfound
  · exact h

theorem Base.readerSleeps (h : Base N r w) (pid : Nat) : Base N r (w.readerSleeps pid) := by
  unfold RingWaiting.readerSleeps
  split
  · rename_i a hp
    refine h.setReader ?_
    rintro b ⟨⟩
    rw [hp]
    rfl
  · exact h

theorem Base.readerReturns (h : Base N r w) (pid : Nat) (result : Option CondResult) (now : Nat) :
    Base N r (w.readerReturns pid result now) := by
  unfold RingWaiting.readerReturns
  split
  · rename_i a hp
    have hwaits : (w.reader pid).waits = some a := by
      rw [hp]
      rfl
    split
    · exact h.setReader (by rintro b ⟨⟩; exact hwaits)
    · exact h.setReader (by rintro b ⟨⟩; exact hwaits)
    · exact h.setReader (by rintro b ⟨⟩; exact hwaits)
    · exact (h.updateReaderAccess a.place now).readerDone pid _
  · exact h

theorem Base.readerLooks (h : Base N r w) (pid now : Nat) : Base N r (w.readerLooks pid now) := by
  unfold RingWaiting.readerLooks
  split
  · rename_i a hp
    refine (h.updateReaderAccess a.place now).look ?_
    show (w.reader pid).waits = some a
    rw [hp]
    rfl
  · exact (h.updateReaderAccess _ now).readerDone pid _
  · exact h

theorem Base.writerLook (h : Base N r w)
    (hseen : w.writerSeen = true → w.WriteReady) : Base N r w.writerLook := by
  unfold RingWaiting.writerLook
  split
  · exact h.writerDone _
  · exact ⟨h.world, h.level, h.place, h.readerSeen, fun _ => hseen, h.room⟩

theorem Base.waitWrite (h : Base N r w) (numBuffers timeout_ms : Nat) :
    Base N r (w.waitWrite numBuffers timeout_ms) := by
  unfold RingWaiting.waitWrite
  split
  · rename_i hidle
    split
    · exact h.writerDone _
    · have hentered : Base N r (w.enterWrite numBuffers) :=
        ⟨h.world, h.level, h.place, h.readerSeen, fun hwriter => absurd hidle.1 hwriter, h.room⟩
      exact hentered.writerLook of_decide_eq_true
  · exact h

theorem Base.writerSleeps (h : Base N r w) : Base N r w.writerSleeps := by
  unfold RingWaiting.writerSleeps
  split
  · rename_i hp
    exact h.setWriter fun _ hidle => by rw [hp] at hidle; cases hidle
  · exact h

theorem Base.writerReturns (h : Base N r w) (result : Option CondResult) :
    Base N r (w.writerReturns result) := by
  unfold RingWaiting.writerReturns
  split
  · rename_i hp
    have hwriter : w.writer ≠ .idle := by
      rw [hp]
      exact nofun
    split
    · exact h.setWriter fun _ => hwriter
    · exact h.setWriter fun _ => hwriter
    · exact h.setWriter fun _ => hwriter
    · exact h.writerDone _
  · exact h

theorem Base.writerLooks (h : Base N r w) : Base N r w.writerLooks := by
  unfold RingWaiting.writerLooks
  split
  · rename_i hp
    exact h.writerLook (h.writerSeen (by rw [hp]; exact nofun))
  · exact h.writerDone _
  · exact h

/-- **A step keeps the invariant**, whatever is lost. -/
theorem Inv.step (h : Inv N r w) (hN : N < 4294967296) {e : WaitEvent} (hok : w.UsedWell e)
    (hroom : r → w.LeavesRoom e) : Inv N r (w.step e) := by
  refine Base.note ?_
  have hbase : Base N r w := h.toBase
  cases e with
  | access s =>
      show Base N r (if w.Free s then w.access s else w)
      split
      · rename_i hfree
        obtain ⟨hstep, hstay⟩ := hok hfree
        exact hbase.access hN hfree hstep hstay hroom
      · exact hbase
  | broadcastRead => exact hbase.broadcastRead
  | broadcastWrite pid => exact hbase.broadcastWrite pid
  | waitRead pid n timeout_ms now => exact hbase.waitRead pid n timeout_ms now hroom
  | readerSleeps pid => exact hbase.readerSleeps pid
  | readerReturns pid result now => exact hbase.readerReturns pid result now
  | readerLooks pid now => exact hbase.readerLooks pid now
  | waitWrite n timeout_ms => exact hbase.waitWrite n timeout_ms
  | writerSleeps => exact hbase.writerSleeps
  | writerReturns result => exact hbase.writerReturns result
  | writerLooks => exact hbase.writerLooks

/-! ## Lost wake-ups -/

theorem noneSleepsOver_init (N : Nat) : NoneSleepsOver (init N) := ⟨noneOver_idle, noneOver_idle⟩

theorem NoneSleepsOver.note (h : NoneSleepsOver w) : NoneSleepsOver w.note := ⟨h.1, h.2⟩

/-- A commit is made only if nothing is owed before, and something is behind it. -/
theorem owesRead_access (hN : N < 4294967296) (h : Base N r w) {n : Nat} (hcommit : w.Commits n) :
    (w.access (.commit n)).owesRead = true := by
  obtain ⟨floor, hworld⟩ := h.world
  have hc : w.world.purging = false ∧ w.world.ring.mWriteInProgress = true ∧
    n ≤ w.world.ring.mAllowedToWrite := hcommit.2
  have hpurging : (w.world.step (.commit n)).purging = true := by
    unfold World.step
    dsimp only
    rw [if_pos hc, hworld.ledger.commitWrite_eq hN hc.2.1 hc.2.2]
  show (w.owesRead || (!w.world.purging && (w.world.step (.commit n)).purging)) = true
  rw [hpurging, hc.1]
  simp

theorem owesRead_access_of (h : w.owesRead = true) (s : Section) :
    (w.access s).owesRead = true := by
  show (w.owesRead || _) = true
  rw [h, Bool.true_or]

/-- **Whoever makes a condition true owes it.** -/
theorem NoneSleepsOver.access (hover : NoneSleepsOver w) (h : Base N False w) (hN : N < 4294967296)
    {s : Section} (hfree : w.Free s) (hok : World.StepOk w.world s) (hstay : w.WaitersStay s) :
    NoneSleepsOver (w.access s) where
  reader := by
    have hafter := h.access hN hfree hok hstay False.elim
    refine hover.reader.announce (fun howes => owesRead_access_of howes s) ?_
    intro pid a hasleep hready
    have hwaits : (w.reader pid).waits = some a := by
      have hp : w.reader pid = .asleep a := hasleep
      rw [hp]
      rfl
    rcases h.unread_access hN hfree hok hstay hwaits with hsame | ⟨n, rfl, hcommit, -⟩
    · have hwaits' : ((w.access s).reader pid).waits = some a := hwaits
      rw [hafter.readReady_iff hN hwaits', hsame] at hready
      exact .inl ((h.readReady_iff hN hwaits).mpr hready)
    · exact .inr (owesRead_access hN h hcommit)
  writer := by
    have hwriter : ∀ p, w.writer = .asleep p → ∀ n, s ≠ .commit n := by
      rintro p hasleep n rfl
      have hidle := (hfree.2 rfl).1
      rw [hasleep] at hidle
      cases hidle
    obtain ⟨floor, hworld⟩ := h.world
    refine hover.writer.announce ?_ ?_
    · rintro ⟨pid, howes⟩
      refine ⟨pid, ?_⟩
      unfold RingWaiting.access
      cases s with
      | apply pid' now =>
          dsimp only
          split
          · by_cases hpid : pid = pid'
            · rw [hpid, Function.update_self]
            · rw [Function.update_of_ne hpid]
              exact howes
          · exact howes
      | beginWrite | commit | purge | beginRead | advance | compute | addReader | removeReader =>
          exact howes
    · intro _ p hasleep hready
      obtain ⟨-, hsame | ⟨pid, now, rfl, hbefore, hidle⟩⟩ :=
        hworld.level_step hN hok (hwriter p hasleep)
      · refine .inl ?_
        have hlevel : (w.world.step s).ring.mBufferLevel ≤ w.mWriteWaitLevel := hready
        rw [hsame] at hlevel
        exact hlevel
      · refine .inr ⟨pid, ?_⟩
        unfold RingWaiting.access
        dsimp only
        rw [if_pos ⟨hbefore, hidle⟩, Function.update_self]

theorem NoneSleepsOver.setReader (h : NoneSleepsOver w) {p : Place WaitRead}
    (hp : ∀ a, p = .asleep a → w.ReadReady a → w.owesRead = true) :
    NoneSleepsOver (w.setReader pid p) := ⟨h.reader.update hp, h.writer⟩

theorem NoneSleepsOver.readerDone (h : NoneSleepsOver w) (pid : Nat) (result : WaitReadResult) :
    NoneSleepsOver (w.readerDone pid result) :=
  have hidle : NoneSleepsOver (w.setReader pid .idle) := h.setReader nofun
  ⟨hidle.reader, hidle.writer⟩

theorem NoneSleepsOver.updateReaderAccess (h : NoneSleepsOver w)
    (i : Fin cIasVideoRingBufferShmMaxReaders) (now : Nat) :
    NoneSleepsOver (w.updateReaderAccess i now) where
  reader pid a hasleep hready :=
    h.reader pid a hasleep ((readReady_updateReaderAccess w i now a).mp hready)
  writer := h.writer

theorem NoneSleepsOver.look (h : NoneSleepsOver w) (pid : Nat) (a : WaitRead) :
    NoneSleepsOver (w.look pid a) := by
  unfold RingWaiting.look
  split
  · exact h.readerDone pid _
  · exact h.setReader nofun

/-- The writer goes on, and is not asleep. -/
theorem NoneSleepsOver.setWriter (h : NoneSleepsOver w) {p : Place Unit}
    (hp : ∀ a, p = .asleep a → w.WriteReady → ∃ pid, w.owesWrite pid = true) :
    NoneSleepsOver { w with writer := p } :=
  ⟨h.reader, fun _ a hasleep hready => hp a hasleep hready⟩

theorem NoneSleepsOver.writerDone (h : NoneSleepsOver w) (result : WaitReadResult) :
    NoneSleepsOver (w.writerDone result) := ⟨h.reader, fun _ _ hasleep => nomatch hasleep⟩

theorem NoneSleepsOver.writerLook (h : NoneSleepsOver w) : NoneSleepsOver w.writerLook := by
  unfold RingWaiting.writerLook
  split
  · exact h.writerDone _
  · exact h.setWriter nofun

theorem NoneSleepsOver.broadcastRead (hover : NoneSleepsOver w) (h : Base N r w) :
    NoneSleepsOver w.broadcastRead := by
  unfold RingWaiting.broadcastRead
  split
  · have hlevel : w.mReadWaitLevel ≤ w.ring.mBufferLevel := by
      rw [h.level]
      exact Nat.zero_le _
    rw [if_pos hlevel]
    exact ⟨noneOver_wake, hover.writer⟩
  · exact hover

theorem NoneSleepsOver.broadcastWrite (hover : NoneSleepsOver w) (pid : Nat) :
    NoneSleepsOver (w.broadcastWrite pid) := by
  unfold RingWaiting.broadcastWrite
  split
  · refine ⟨hover.reader, ?_⟩
    by_cases hready : w.WriteReady
    · dsimp only
      rw [if_pos hready]
      exact noneOver_wake
    · exact noneOver_of_not_ready fun _ _ _ hholds => hready hholds
  · exact hover

theorem NoneSleepsOver.waitRead (h : NoneSleepsOver w) (pid numBuffers timeout_ms now : Nat) :
    NoneSleepsOver (w.waitRead pid numBuffers timeout_ms now) := by
  unfold RingWaiting.waitRead
  split
  · split
    · exact h.readerDone pid _
    · rename_i i _
      split
      · exact h.readerDone pid _
      · split
        · exact h
        · have hentered : NoneSleepsOver (w.enterRead pid ⟨i, numBuffers⟩) := ⟨h.reader, h.writer⟩
          exact (hentered.updateReaderAccess i now).look pid _
  · exact h

theorem NoneSleepsOver.readerReturns (h : NoneSleepsOver w) (pid : Nat)
    (result : Option CondResult) (now : Nat) : NoneSleepsOver (w.readerReturns pid result now) := by
  unfold RingWaiting.readerReturns
  split
  · split
    · exact h.setReader nofun
    · exact h.setReader nofun
    · exact h.setReader nofun
    · exact (h.updateReaderAccess _ now).readerDone pid _
  · exact h

theorem NoneSleepsOver.readerLooks (h : NoneSleepsOver w) (pid now : Nat) :
    NoneSleepsOver (w.readerLooks pid now) := by
  unfold RingWaiting.readerLooks
  split
  · exact (h.updateReaderAccess _ now).look pid _
  · exact (h.updateReaderAccess _ now).readerDone pid _
  · exact h

theorem NoneSleepsOver.waitWrite (h : NoneSleepsOver w) (numBuffers timeout_ms : Nat) :
    NoneSleepsOver (w.waitWrite numBuffers timeout_ms) := by
  unfold RingWaiting.waitWrite
  split
  · rename_i hidle
    split
    · exact h.writerDone _
    · have hentered : NoneSleepsOver (w.enterWrite numBuffers) := by
        refine ⟨h.reader, fun _ a hasleep => ?_⟩
        have hp : w.writer = .asleep a := hasleep
        rw [hidle.1] at hp
        cases hp
      exact hentered.writerLook
  · exact h

theorem NoneSleepsOver.writerReturns (h : NoneSleepsOver w) (result : Option CondResult) :
    NoneSleepsOver (w.writerReturns result) := by
  unfold RingWaiting.writerReturns
  split
  · split
    · exact h.setWriter nofun
    · exact h.setWriter nofun
    · exact h.setWriter nofun
    · exact h.writerDone _
  · exact h

theorem NoneSleepsOver.writerLooks (h : NoneSleepsOver w) : NoneSleepsOver w.writerLooks := by
  unfold RingWaiting.writerLooks
  split
  · exact h.writerLook
  · exact h.writerDone _
  · exact h

theorem NoneSleepsOver.step (hover : NoneSleepsOver w) (h : Inv N False w) (hN : N < 4294967296)
    {e : WaitEvent} (hok : w.UsedWell e) (hsleeps : w.SleepsInTime e) :
    NoneSleepsOver (w.step e) := by
  refine NoneSleepsOver.note ?_
  cases e with
  | access s =>
      show NoneSleepsOver (if w.Free s then w.access s else w)
      split
      · rename_i hfree
        obtain ⟨hstep, hstay⟩ := hok hfree
        exact hover.access h.toBase hN hfree hstep hstay
      · exact hover
  | broadcastRead => exact hover.broadcastRead h.toBase
  | broadcastWrite pid => exact hover.broadcastWrite pid
  | waitRead pid n timeout_ms now => exact hover.waitRead pid n timeout_ms now
  | readerSleeps pid =>
      show NoneSleepsOver (w.readerSleeps pid)
      unfold RingWaiting.readerSleeps
      split
      · rename_i a hp
        refine hover.setReader ?_
        rintro b ⟨⟩ hready
        exact hsleeps a hp hready
      · exact hover
  | readerReturns pid result now => exact hover.readerReturns pid result now
  | readerLooks pid now => exact hover.readerLooks pid now
  | waitWrite n timeout_ms => exact hover.waitWrite n timeout_ms
  | writerSleeps =>
      show NoneSleepsOver w.writerSleeps
      unfold RingWaiting.writerSleeps
      split
      · rename_i a hp
        exact hover.setWriter fun b _ hready => hsleeps a hp hready
      · exact hover
  | writerReturns result => exact hover.writerReturns result
  | writerLooks => exact hover.writerLooks

/-- Who falls asleep over its level sleeps over it. -/
theorem not_noneSleepsOver_of_not {e : WaitEvent} (hsleeps : ¬ w.SleepsInTime e) :
    ¬ NoneSleepsOver (w.step e) := by
  intro hover
  apply hsleeps
  cases e with
  | readerSleeps pid =>
      intro a hp hready
      have hstep : w.perform (.readerSleeps pid) = w.setReader pid (.asleep a) := by
        show w.readerSleeps pid = _
        unfold RingWaiting.readerSleeps
        rw [hp]
      have hreader := hover.reader
      unfold RingWaiting.step at hreader
      rw [hstep] at hreader
      exact NoneOver.of_update hreader hready
  | writerSleeps =>
      intro a hp hready
      have hstep : w.perform .writerSleeps = { w with writer := .asleep a } := by
        show w.writerSleeps = _
        unfold RingWaiting.writerSleeps
        rw [hp]
      have hwriter := hover.writer
      unfold RingWaiting.step at hwriter
      rw [hstep] at hwriter
      exact hwriter () a rfl hready
  | access | broadcastRead | broadcastWrite | waitRead | readerReturns | readerLooks | waitWrite
  | writerReturns | writerLooks => trivial

/-- **Lost wake-ups.** Nobody sleeps over the ring exactly as long as nobody falls asleep over its
level in the gap between the look and the sleep. -/
theorem noneSleepsOver_iff (N : Nat) (hpos : 0 < N) (hN : N < 4294967296) {es : List WaitEvent}
    (hused : Always RingWaiting.step UsedWell (init N) es) :
    (∀ pre, pre <+: es → NoneSleepsOver (exec RingWaiting.step (init N) pre)) ↔
      Always RingWaiting.step SleepsInTime (init N) es := by
  have hstep : ∀ (w : RingWaiting) (e : WaitEvent), Inv N False w ∧ NoneSleepsOver w →
      w.UsedWell e → w.SleepsInTime e → Inv N False (w.step e) ∧ NoneSleepsOver (w.step e) :=
    fun w e h hok hsleeps => ⟨h.1.step hN hok False.elim, h.2.step h.1 hN hok hsleeps⟩
  exact good_iff_always_of_promised (fun _ h => h.2) hstep
    (fun _ _ _ _ hsleeps => not_noneSleepsOver_of_not hsleeps)
    ⟨inv_init hpos, noneSleepsOver_init N⟩ hused

/-! ## Honest results -/

/-- What has been returned so far was right. -/
structure Told (w : RingWaiting) : Prop where
  ok : ∀ o ∈ w.outcomes, o.result = .eIasRingBuffOk → o.seen = true
  timedOut : ∀ o ∈ w.outcomes, o.result = .eIasRingBuffTimeOut → o.seen = false

/-- **With room in the ring the results are honest.** -/
theorem Inv.honest (h : Inv N True w) (hN : N < 4294967296) (htold : Told w) : Honest w where
  reader pid a hwaits hseen :=
    (h.readReady_iff hN hwaits).mpr
      ⟨h.readerSeen pid a hwaits hseen, h.room trivial pid a hwaits⟩
  writer := h.writerSeen
  ok := htold.ok
  timedOut := htold.timedOut

theorem Told.of_outcomes {w' : RingWaiting} (h : Told w) (hsame : w'.outcomes = w.outcomes) :
    Told w' := ⟨hsame ▸ h.ok, hsame ▸ h.timedOut⟩

theorem Told.concat {w' : RingWaiting} (h : Told w) {o : WaitOutcome}
    (hmore : w'.outcomes = w.outcomes ++ [o]) (hok : o.result = .eIasRingBuffOk → o.seen = true)
    (htimedOut : o.result = .eIasRingBuffTimeOut → o.seen = false) : Told w' := by
  constructor
  · intro o' ho'
    rw [hmore] at ho'
    rcases List.mem_append.mp ho' with hbefore | hnew
    · exact h.ok o' hbefore
    · rw [List.mem_singleton.mp hnew]
      exact hok
  · intro o' ho'
    rw [hmore] at ho'
    rcases List.mem_append.mp ho' with hbefore | hnew
    · exact h.timedOut o' hbefore
    · rw [List.mem_singleton.mp hnew]
      exact htimedOut

/-- The last look, when the time is over. -/
theorem Told.lastLook {w' : RingWaiting} (h : Told w) {reader : Option Nat} {ready : Prop}
    [Decidable ready] {seen : Bool} (hiff : ready ↔ seen = true)
    (hmore : w'.outcomes = w.outcomes
      ++ [⟨reader, if ready then .eIasRingBuffOk else .eIasRingBuffTimeOut, seen⟩]) : Told w' := by
  refine h.concat hmore ?_ ?_
  · intro hresult
    refine hiff.mp ?_
    by_contra hnot
    dsimp only at hresult
    rw [if_neg hnot] at hresult
    cases hresult
  · intro hresult
    refine Bool.eq_false_of_not_eq_true fun hseen => ?_
    dsimp only at hresult
    rw [if_pos (hiff.mpr hseen)] at hresult
    cases hresult

/-- A look that finds its level has been noted before. -/
theorem Told.look (h : Told w) (hnoted : w.ReadReady a → w.readerSeen pid = true) :
    Told (w.look pid a) := by
  unfold RingWaiting.look
  split
  · rename_i hready
    exact h.concat rfl (fun _ => hnoted hready) nofun
  · exact h.of_outcomes rfl

theorem Told.writerLook (h : Told w) (hnoted : w.WriteReady → w.writerSeen = true) :
    Told w.writerLook := by
  unfold RingWaiting.writerLook
  split
  · rename_i hready
    exact h.concat rfl (fun _ => hnoted hready) nofun
  · exact h.of_outcomes rfl

theorem Told.waitRead (htold : Told w) (h : Inv N r w) (hN : N < 4294967296)
    (pid numBuffers timeout_ms now : Nat) :
    Told (w.waitRead pid numBuffers timeout_ms now) := by
  unfold RingWaiting.waitRead
  split
  · split
    · exact htold.concat rfl nofun nofun
    · rename_i i hfound
      split
      · exact htold.concat rfl nofun nofun
      · rename_i hparams
        split
        · exact htold
        · have hentered : Told ((w.enterRead pid ⟨i, numBuffers⟩).updateReaderAccess i now) :=
            htold.of_outcomes rfl
          refine hentered.look fun hready => ?_
          rw [readReady_updateReaderAccess] at hready
          have hthere := (h.ready_iff hN (findReader_registered hfound)
            (Nat.pos_of_ne_zero fun hzero => hparams (.inr (.inl hzero)))).mp hready
          show Function.update w.readerSeen pid (decide (numBuffers ≤ w.unread i)) pid = true
          rw [Function.update_self]
          exact decide_eq_true hthere.1
  · exact htold

theorem Told.readerReturns (h : Told w) (pid : Nat) (result : Option CondResult) (now : Nat) :
    Told (w.readerReturns pid result now) := by
  unfold RingWaiting.readerReturns
  split
  · split
    · exact h.of_outcomes rfl
    · exact h.of_outcomes rfl
    · exact h.of_outcomes rfl
    · exact h.concat rfl nofun nofun
  · exact h

/-- A look after the wait: in the last one it counts that what was there is still there. -/
theorem Told.readerLooks (htold : Told w) (h : Inv N True w) (hN : N < 4294967296)
    (pid now : Nat) : Told (w.readerLooks pid now) := by
  have hiff : ∀ a, (w.reader pid).waits = some a →
      (w.ReadReady a ↔ w.readerSeen pid = true) := by
    intro a hwaits
    rw [h.readReady_iff hN hwaits]
    exact ⟨fun hready => h.readerNoted pid a hwaits hready.1,
      fun hseen => ⟨h.readerSeen pid a hwaits hseen, h.room trivial pid a hwaits⟩⟩
  unfold RingWaiting.readerLooks
  split
  · rename_i a hp
    have htouched : Told (w.updateReaderAccess a.place now) := htold.of_outcomes rfl
    refine htouched.look fun hready => ?_
    rw [readReady_updateReaderAccess] at hready
    exact (hiff a (by rw [hp]; rfl)).mp hready
  · rename_i a hp
    have hready := readReady_updateReaderAccess w a.place now a
    exact htold.lastLook (hready.trans (hiff a (by rw [hp]; rfl))) rfl
  · exact htold

theorem Told.waitWrite (h : Told w) (numBuffers timeout_ms : Nat) :
    Told (w.waitWrite numBuffers timeout_ms) := by
  unfold RingWaiting.waitWrite
  split
  · split
    · exact h.concat rfl nofun nofun
    · have hentered : Told (w.enterWrite numBuffers) := h.of_outcomes rfl
      exact hentered.writerLook decide_eq_true
  · exact h

theorem Told.writerReturns (h : Told w) (result : Option CondResult) :
    Told (w.writerReturns result) := by
  unfold RingWaiting.writerReturns
  split
  · split
    · exact h.of_outcomes rfl
    · exact h.of_outcomes rfl
    · exact h.of_outcomes rfl
    · exact h.concat rfl nofun nofun
  · exact h

theorem Told.writerLooks (htold : Told w) (h : Inv N r w) : Told w.writerLooks := by
  have hiff : w.writer ≠ .idle → (w.WriteReady ↔ w.writerSeen = true) := fun hwriter =>
    ⟨h.writerNoted hwriter, h.writerSeen hwriter⟩
  unfold RingWaiting.writerLooks
  split
  · rename_i hp
    exact htold.writerLook (hiff (by rw [hp]; exact nofun)).mp
  · rename_i hp
    exact htold.lastLook (hiff (by rw [hp]; exact nofun)) rfl
  · exact htold

theorem Told.step (htold : Told w) (h : Inv N True w) (hN : N < 4294967296) (e : WaitEvent) :
    Told (w.step e) := by
  have hperform : Told (w.perform e) := by
    cases e with
    | access s =>
        show Told (if w.Free s then w.access s else w)
        split
        · exact htold.of_outcomes rfl
        · exact htold
    | broadcastRead =>
        show Told w.broadcastRead
        unfold RingWaiting.broadcastRead
        split
        · exact htold.of_outcomes rfl
        · exact htold
    | broadcastWrite pid =>
        show Told (w.broadcastWrite pid)
        unfold RingWaiting.broadcastWrite
        split
        · exact htold.of_outcomes rfl
        · exact htold
    | waitRead pid n timeout_ms now => exact htold.waitRead h hN pid n timeout_ms now
    | readerSleeps pid =>
        show Told (w.readerSleeps pid)
        unfold RingWaiting.readerSleeps
        split
        · exact htold.of_outcomes rfl
        · exact htold
    | readerReturns pid result now => exact htold.readerReturns pid result now
    | readerLooks pid now => exact htold.readerLooks h hN pid now
    | waitWrite n timeout_ms => exact htold.waitWrite n timeout_ms
    | writerSleeps =>
        show Told w.writerSleeps
        unfold RingWaiting.writerSleeps
        split
        · exact htold.of_outcomes rfl
        · exact htold
    | writerReturns result => exact htold.writerReturns result
    | writerLooks => exact htold.writerLooks h
  exact hperform.of_outcomes rfl

/-- A whole ring that a waiting reader has not read is not there for it. -/
theorem Inv.not_honest (h : Inv N r w) (hN : N < 4294967296)
    (hwaits : (w.reader pid).waits = some a) (hfull : w.unread a.place = N) : ¬ Honest w := by
  intro hhonest
  have hthere : a.numBuffers ≤ w.unread a.place := hfull ▸ (h.place pid a hwaits).1.2
  have hready := hhonest.reader pid a hwaits (h.readerNoted pid a hwaits hthere)
  exact ((h.readReady_iff hN hwaits).mp hready).2 hfull

/-- Who starts to wait with a whole ring before it finds nothing. -/
theorem Inv.starts_full (h : Inv N r w) (hN : N < 4294967296) {numBuffers timeout_ms : Nat}
    (now : Nat) (hstarts : w.Starts pid numBuffers timeout_ms)
    {i : Fin cIasVideoRingBufferShmMaxReaders} (hfound : w.ring.findReader pid = some i)
    (hfull : w.unread i = N) :
    ((w.step (.waitRead pid numBuffers timeout_ms now)).reader pid).waits = some ⟨i, numBuffers⟩
      ∧ (w.step (.waitRead pid numBuffers timeout_ms now)).unread i = N := by
  obtain ⟨hidle, hparams, hpurging⟩ := hstarts
  have hnot : ¬ ((w.enterRead pid ⟨i, numBuffers⟩).updateReaderAccess i now).ReadReady
      ⟨i, numBuffers⟩ := by
    rw [readReady_updateReaderAccess]
    intro hready
    have hready : w.ReadReady ⟨i, numBuffers⟩ := hready
    exact ((h.ready_iff hN (findReader_registered hfound)
      (Nat.pos_of_ne_zero fun hzero => hparams (.inr (.inl hzero)))).mp hready).2 hfull
  have hperform : w.perform (.waitRead pid numBuffers timeout_ms now)
      = ((w.enterRead pid ⟨i, numBuffers⟩).updateReaderAccess i now).setReader pid
        (.checked ⟨i, numBuffers⟩) := by
    show w.waitRead pid numBuffers timeout_ms now = _
    unfold RingWaiting.waitRead
    rw [if_pos hidle, hfound]
    dsimp only
    rw [if_neg hparams, if_neg (by rw [hpurging]; exact Bool.false_ne_true)]
    unfold RingWaiting.look
    rw [if_neg hnot]
  constructor
  · show ((w.perform _).reader pid).waits = _
    rw [hperform]
    simp only [RingWaiting.setReader, Function.update_self]
    rfl
  · show (w.perform _).unread i = N
    rw [hperform]
    show ((w.enterRead pid ⟨i, numBuffers⟩).updateReaderAccess i now).unread i = N
    rw [unread_updateReaderAccess]
    exact hfull

/-- **Filling the ring up to a reader that waits** makes its level zero. -/
theorem Inv.not_honest_step (h : Inv N True w) (hN : N < 4294967296) {e : WaitEvent}
    (hok : w.UsedWell e) (hroom : ¬ w.LeavesRoom e) : ¬ Honest (w.step e) := by
  have hforget : Inv N False w :=
    ⟨⟨h.world, h.level, h.place, h.readerSeen, h.writerSeen, False.elim⟩, h.readerNoted,
      h.writerNoted⟩
  have hafter := hforget.step hN hok False.elim
  cases e with
  | access s =>
      cases s with
      | commit n =>
          simp only [LeavesRoom, not_forall] at hroom
          obtain ⟨hcommit, pid, a, hwaits, hfull⟩ := hroom
          obtain ⟨hstep, hstay⟩ := hok hcommit.1
          have hperform : w.perform (.access (.commit n)) = w.access (.commit n) :=
            if_pos hcommit.1
          have hstill : ((w.step (.access (.commit n))).reader pid).waits = some a := by
            show ((w.perform _).reader pid).waits = some a
            rw [hperform]
            exact hwaits
          refine hafter.not_honest hN hstill ?_
          show (w.perform _).unread a.place = N
          rw [hperform, h.unread_commit hN hcommit hstep hstay hwaits]
          exact (not_not.mp hfull).trans h.numBuffers
      | beginWrite | purge | beginRead | advance | compute | apply | addReader | removeReader =>
          exact absurd trivial hroom
  | waitRead pid n timeout_ms now =>
      simp only [LeavesRoom, not_forall] at hroom
      obtain ⟨hstarts, i, hfound, hfull⟩ := hroom
      obtain ⟨hwaits, hunread⟩ := h.starts_full hN now hstarts hfound
        ((not_not.mp hfull).trans h.numBuffers)
      exact hafter.not_honest hN hwaits hunread
  | broadcastRead | broadcastWrite | readerSleeps | readerReturns | readerLooks | waitWrite
  | writerSleeps | writerReturns | writerLooks => exact absurd trivial hroom

theorem told_init (N : Nat) : Told (init N) := ⟨nofun, nofun⟩

/-- **What the waits return.** Whether or not wake-ups are lost: a level that was there is still
there when its waiter looks, and no wait for it ends with a timeout, exactly as long as the ring is
not filled up to a reader that waits. -/
theorem honest_iff (N : Nat) (hpos : 0 < N) (hN : N < 4294967296) {es : List WaitEvent}
    (hused : Always RingWaiting.step UsedWell (init N) es) :
    (∀ pre, pre <+: es → Honest (exec RingWaiting.step (init N) pre)) ↔
      Always RingWaiting.step LeavesRoom (init N) es := by
  have hstep : ∀ (w : RingWaiting) (e : WaitEvent), Inv N True w ∧ Told w → w.UsedWell e →
      w.LeavesRoom e → Inv N True (w.step e) ∧ Told (w.step e) :=
    fun w e h hok hroom => ⟨h.1.step hN hok fun _ => hroom, h.2.step h.1 hN e⟩
  exact good_iff_always_of_promised (fun _ h => h.1.honest hN h.2) hstep
    (fun _ _ h hok hroom => h.1.not_honest_step hN hok hroom)
    ⟨inv_init hpos, told_init N⟩ hused

/-! ## A wake-up that is lost -/

/-- The reader an event belongs to. -/
def readerOf : WaitEvent → Option Nat
  | .waitRead pid _ _ _ => some pid
  | .readerSleeps pid => some pid
  | .readerReturns pid _ _ => some pid
  | .readerLooks pid _ => some pid
  | _ => none

section

variable {p : Nat}

theorem idle_setReader (hidle : w.reader p = .idle) (hpid : pid ≠ p) (place : Place WaitRead) :
    (w.setReader pid place).reader p = .idle := by
  unfold setReader
  dsimp only
  rw [Function.update_of_ne hpid.symm]
  exact hidle

theorem idle_look (hidle : w.reader p = .idle) (hpid : pid ≠ p) (b : WaitRead) :
    (w.look pid b).reader p = .idle := by
  unfold look
  split
  · exact idle_setReader hidle hpid _
  · exact idle_setReader hidle hpid _

theorem idle_broadcastRead (hidle : w.reader p = .idle) : w.broadcastRead.reader p = .idle := by
  unfold broadcastRead
  split
  · dsimp only
    split
    · -- a reader that does not wait is not woken either
      show (w.reader p).wake = .idle
      rw [hidle]
      rfl
    · exact hidle
  · exact hidle

theorem idle_waitRead (hidle : w.reader p = .idle) (hpid : pid ≠ p) (n timeout_ms now : Nat) :
    (w.waitRead pid n timeout_ms now).reader p = .idle := by
  unfold waitRead
  split
  swap
  · exact hidle
  split
  · exact idle_setReader hidle hpid _
  split
  · exact idle_setReader hidle hpid _
  split
  · exact hidle
  · refine idle_look ?_ hpid _
    exact hidle

theorem idle_readerReturns (hidle : w.reader p = .idle) (hpid : pid ≠ p)
    (result : Option CondResult) (now : Nat) :
    (w.readerReturns pid result now).reader p = .idle := by
  unfold readerReturns
  split
  · split <;> exact idle_setReader hidle hpid _
  · exact hidle

theorem idle_readerLooks (hidle : w.reader p = .idle) (hpid : pid ≠ p) (now : Nat) :
    (w.readerLooks pid now).reader p = .idle := by
  unfold readerLooks
  split
  · refine idle_look ?_ hpid _
    exact hidle
  · refine idle_setReader ?_ hpid _
    exact hidle
  · exact hidle

end

/-! What the writer does leaves the readers where they wait. -/

section

variable (w)

theorem reader_broadcastWrite (pid : Nat) : (w.broadcastWrite pid).reader = w.reader := by
  unfold broadcastWrite
  split <;> rfl

theorem reader_writerLook : w.writerLook.reader = w.reader := by
  unfold writerLook
  split <;> rfl

theorem reader_waitWrite (n timeout_ms : Nat) : (w.waitWrite n timeout_ms).reader = w.reader := by
  unfold waitWrite
  split
  · split
    · rfl
    · exact reader_writerLook _
  · rfl

theorem reader_writerSleeps : w.writerSleeps.reader = w.reader := by
  unfold writerSleeps
  split <;> rfl

theorem reader_writerReturns (result : Option CondResult) :
    (w.writerReturns result).reader = w.reader := by
  unfold writerReturns
  split
  · split <;> rfl
  · rfl

theorem reader_writerLooks : w.writerLooks.reader = w.reader := by
  unfold writerLooks
  split
  · exact reader_writerLook w
  · rfl
  · rfl

end

/-- Nobody else starts to wait. -/
theorem idle_step {p : Nat} (hidle : w.reader p = .idle) {e : WaitEvent}
    (he : readerOf e ≠ some p) : (w.step e).reader p = .idle := by
  show (w.perform e).reader p = .idle
  cases e with
  | access s =>
      show (if w.Free s then w.access s else w).reader p = .idle
      split <;> exact hidle
  | broadcastRead => exact idle_broadcastRead hidle
  | broadcastWrite pid => exact (congrFun (reader_broadcastWrite w pid) p).trans hidle
  | waitRead pid n timeout_ms now =>
      exact idle_waitRead hidle (fun heq => he (congrArg some heq)) n timeout_ms now
  | readerSleeps pid =>
      show (w.readerSleeps pid).reader p = .idle
      unfold readerSleeps
      split
      · exact idle_setReader hidle (fun heq => he (congrArg some heq)) _
      · exact hidle
  | readerReturns pid result now =>
      exact idle_readerReturns hidle (fun heq => he (congrArg some heq)) result now
  | readerLooks pid now => exact idle_readerLooks hidle (fun heq => he (congrArg some heq)) now
  | waitWrite n timeout_ms => exact (congrFun (reader_waitWrite w n timeout_ms) p).trans hidle
  | writerSleeps => exact (congrFun (reader_writerSleeps w) p).trans hidle
  | writerReturns result => exact (congrFun (reader_writerReturns w result) p).trans hidle
  | writerLooks => exact (congrFun (reader_writerLooks w) p).trans hidle

/-- Only one reader waits. -/
theorem waits_only {es : List WaitEvent} {p q : Nat}
    (honly : ∀ e ∈ es, readerOf e = none ∨ readerOf e = some q)
    (hwaits : ((exec RingWaiting.step (init N) es).reader p).waits = some a) : p = q := by
  by_contra hp
  have hidle : (exec RingWaiting.step (init N) es).reader p = .idle := by
    refine inv_exec_mem (fun (w : RingWaiting) e (h : w.reader p = .idle)
      (he : readerOf e ≠ some p) => idle_step h he) rfl ?_
    intro e he heq
    rcases honly e he with hnone | hsome
    · rw [hnone] at heq
      cases heq
    · exact hp (Option.some.inj (heq.symm.trans hsome))
  rw [hidle] at hwaits
  cases hwaits

/-- Reader 7 does not find its two packets; they come, and are announced, before it is asleep. -/
def lostWakeUp : List WaitEvent :=
  [.access (.addReader 7 1), .waitRead 7 2 100 2, .access (.beginWrite 3), .access (.commit 3),
    .broadcastRead, .access (.purge 3), .readerSleeps 7, .readerReturns 7 (some .eIasTimeout) 4,
    .readerLooks 7 4]

theorem lostWakeUp_waits {n p : Nat}
    (hwaits : ((exec RingWaiting.step (init 4) (lostWakeUp.take n)).reader p).waits = some a) :
    p = 7 := by
  have hall : ∀ e ∈ lostWakeUp, readerOf e = none ∨ readerOf e = some 7 := by
    simp [lostWakeUp, readerOf]
  exact waits_only (fun e he => hall e (List.mem_of_mem_take he)) hwaits

theorem lostWakeUp_usedWell : Always RingWaiting.step UsedWell (init 4) lostWakeUp := by
  have hstays : ∀ n s, (∀ a ∈ ((exec RingWaiting.step (init 4) (lostWakeUp.take n)).reader 7).waits,
        ((exec RingWaiting.step (init 4) (lostWakeUp.take n)).world.step s).ring.registered
          a.place = true) →
      (exec RingWaiting.step (init 4) (lostWakeUp.take n)).WaitersStay s := by
    intro n s hstay p a hwaits
    obtain rfl := lostWakeUp_waits hwaits
    exact hstay a hwaits
  refine ⟨fun _ => ⟨?_, hstays 0 _ (by decide)⟩, trivial, fun _ => ⟨?_, hstays 2 _ (by decide)⟩,
    fun _ => ⟨trivial, hstays 3 _ (by decide)⟩, trivial, fun _ => ⟨?_, hstays 5 _ (by decide)⟩,
    trivial, trivial, trivial, trivial⟩
  · intro _ _ p i m hp
    cases hp
  · intro _
    decide
  · intro _
    unfold World.LeaveOk
    rw [if_pos (by decide)]
    exact .inl (by decide)

/-- The wake-up is lost, -/
theorem noneSleepsOver_iff_lostWakeUp :
    ¬ ∀ pre, pre <+: lostWakeUp → NoneSleepsOver (exec RingWaiting.step (init 4) pre) := by
  intro hnone
  have hsleeps := (noneSleepsOver_iff 4 (by decide) (by decide) lostWakeUp_usedWell).mp hnone
  have hgap := hsleeps.2.2.2.2.2.2.1 ⟨0, 2⟩ (by decide) (by decide)
  exact absurd hgap (by decide)

/-- and the reader gets its packets all the same. -/
theorem honest_iff_lostWakeUp :
    (∀ pre, pre <+: lostWakeUp → Honest (exec RingWaiting.step (init 4) pre)) ∧
      (exec RingWaiting.step (init 4) lostWakeUp).outcomes
        = [⟨some 7, .eIasRingBuffOk, true⟩] := by
  refine ⟨(honest_iff 4 (by decide) (by decide) lostWakeUp_usedWell).mpr ?_, by decide⟩
  refine ⟨trivial, fun _ => by decide, trivial, ?_, trivial, trivial, trivial, trivial, trivial,
    trivial⟩
  intro _ p a hwaits
  obtain rfl : p = 7 := lostWakeUp_waits (n := 3) hwaits
  have hplace : a = ⟨0, 2⟩ := by
    have hbefore : ((exec RingWaiting.step (init 4) (lostWakeUp.take 3)).reader 7).waits
      = some ⟨0, 2⟩ := by decide
    exact Option.some.inj (hwaits.symm.trans hbefore)
  rw [hplace]
  decide

end RingWaiting

end IasAvbVideoRingBufferShm

end AvbStreamHandler
