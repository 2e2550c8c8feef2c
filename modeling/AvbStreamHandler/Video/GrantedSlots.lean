import AvbStreamHandler.Video.SendHonesty
import AvbStreamHandler.Video.VideoRingReaders

/-!
# When clients of the video ring stay in their slots

A sender compares the payload with the size of a slot, and writes a header in front of it. A
reader is granted no slot if it has read everything, or rests at the end of the ring until the
others have finished the lap; its offset is the number of a slot then that does not exist.

Whatever the ring has been used for, and whatever waiting for it has returned, this is when the
senders write into the slot they were granted and nowhere else, and when the readers look at
slots they were granted and give them back.
-/

namespace AvbStreamHandler

open Kit Kit.Run Kit.Word IasVideoRingBufferResult

/-! ## The bounds of a ring -/

namespace IasAvbVideoRingBufferShm

/-- Offsets stay in the ring, the end included for readers, and so does what was granted. -/
structure Bounded (q : IasAvbVideoRingBufferShm) : Prop where
  write : q.WritePlaced
  read : q.mReadOffset ≤ q.mNumBuffers
  few : q.mNumBuffers < 65536
  readers : ∀ i, (q.mReaders i).offset + (q.mReaders i).allowedToRead ≤ q.mNumBuffers
  free : ∀ i, (q.mReaders i).pid = 0 → (q.mReaders i).allowedToRead = 0

variable {q q' : IasAvbVideoRingBufferShm} {reader : RingBufferReader}
  {i : Fin cIasVideoRingBufferShmMaxReaders} {pid : Nat}

theorem bounded_init {numBuffers : Nat} (hpos : 0 < numBuffers) (hfew : numBuffers < 65536) :
    Bounded { mNumBuffers := numBuffers } :=
  ⟨hpos, Nat.zero_le _, hfew, fun _ => Nat.zero_le _, fun _ _ => rfl⟩

theorem Bounded.level_eq (h : q.Bounded) (hin : reader.offset ≤ q.mNumBuffers) :
    q.calculateReaderBufferLevel reader
      = if reader.offset ≤ q.mWriteOffset then q.mWriteOffset - reader.offset
        else q.mNumBuffers - reader.offset + q.mWriteOffset := by
  have hwrite : q.mWriteOffset < q.mNumBuffers := h.write
  have hfew := h.few
  unfold calculateReaderBufferLevel
  split
  · exact sub32_of_le ‹_› (by omega)
  · rw [sub32_of_le hin (by omega), add32_of_lt (by omega)]

/-- **What is granted to a reader stays in the ring.** -/
theorem Bounded.grantRead_le (h : q.Bounded) (hin : reader.offset ≤ q.mNumBuffers) (n : Nat) :
    reader.offset + q.grantRead reader n ≤ q.mNumBuffers := by
  have hwrite : q.mWriteOffset < q.mNumBuffers := h.write
  have hfew := h.few
  unfold grantRead
  rw [h.level_eq hin]
  dsimp only
  generalize hlevel : (if reader.offset ≤ q.mWriteOffset then q.mWriteOffset - reader.offset
    else q.mNumBuffers - reader.offset + q.mWriteOffset) = level
  have hless : level ≤ 131072 := by
    rw [← hlevel]
    split <;> omega
  generalize hgot : (if level < n then level else n) = got
  have hsmall : got ≤ level := by
    rw [← hgot]
    split <;> omega
  rw [add32_of_lt (by omega), sub32_of_le hin (by omega)]
  split <;> omega

/-- There is something to be read, and not only behind the end of the lap. -/
def Readable (q : IasAvbVideoRingBufferShm) (reader : RingBufferReader) : Prop :=
  reader.offset ≠ q.mWriteOffset ∧ reader.offset ≠ q.mNumBuffers

instance (q : IasAvbVideoRingBufferShm) (reader : RingBufferReader) :
    Decidable (q.Readable reader) := inferInstanceAs (Decidable (_ ∧ _))

/-- **Who asks for one slot gets it exactly if there is something to be read.** -/
theorem Bounded.grantRead_one (h : q.Bounded) (hin : reader.offset ≤ q.mNumBuffers) :
    q.grantRead reader 1 = if q.Readable reader then 1 else 0 := by
  have hwrite : q.mWriteOffset < q.mNumBuffers := h.write
  have hfew := h.few
  unfold grantRead
  rw [h.level_eq hin]
  dsimp only
  generalize hlevel : (if reader.offset ≤ q.mWriteOffset then q.mWriteOffset - reader.offset
    else q.mNumBuffers - reader.offset + q.mWriteOffset) = level
  have hnone : level = 0 ↔ reader.offset = q.mWriteOffset
      ∨ (reader.offset = q.mNumBuffers ∧ q.mWriteOffset = 0) := by
    rw [← hlevel]
    split <;> omega
  generalize hgot : (if level < 1 then level else 1) = got
  have hone : got ≤ 1 ∧ (got = 0 ↔ level = 0) := by
    rw [← hgot]
    split <;> omega
  rw [add32_of_lt (by omega), sub32_of_le hin (by omega)]
  by_cases hread : q.Readable reader
  · have hsome : reader.offset ≠ q.mWriteOffset := hread.1
    have hlap : reader.offset ≠ q.mNumBuffers := hread.2
    rw [if_pos hread]
    split <;> omega
  · have hnot : reader.offset = q.mWriteOffset ∨ reader.offset = q.mNumBuffers := by
      by_contra hne
      exact hread ⟨fun heq => hne (Or.inl heq), fun heq => hne (Or.inr heq)⟩
    rw [if_neg hread]
    split <;> omega

/-! ## Every call keeps the bounds -/

theorem Bounded.setReader (h : q.Bounded) (i : Fin cIasVideoRingBufferShmMaxReaders)
    (hin : reader.offset + reader.allowedToRead ≤ q.mNumBuffers)
    (hfree : reader.pid = 0 → reader.allowedToRead = 0) : (q.setReader i reader).Bounded := by
  refine ⟨h.write, h.read, h.few, ?_, ?_⟩
  · intro j
    by_cases hji : j = i
    · subst hji
      rw [mReaders_setReader_self]
      exact hin
    · rw [mReaders_setReader_ne hji]
      exact h.readers j
  · intro j
    by_cases hji : j = i
    · subst hji
      rw [mReaders_setReader_self]
      exact hfree
    · rw [mReaders_setReader_ne hji]
      exact h.free j

theorem Bounded.updateReaderAccess (h : q.Bounded) (i : Fin cIasVideoRingBufferShmMaxReaders)
    (now : Nat) : (q.updateReaderAccess i now).Bounded :=
  h.setReader i (h.readers i) (h.free i)

theorem Bounded.removeReaders (h : q.Bounded) (leaves : RingBufferReader → Bool) :
    (q.removeReaders leaves).Bounded := by
  refine ⟨h.write, h.read, h.few, fun i => ?_, fun i => ?_⟩
  · show (if leaves (q.mReaders i) = true then _ else _ : RingBufferReader).offset
      + (if leaves (q.mReaders i) = true then _ else _ : RingBufferReader).allowedToRead ≤ _
    split
    · exact Nat.zero_le _
    · exact h.readers i
  · show (if leaves (q.mReaders i) = true then _ else _ : RingBufferReader).pid = 0 →
      (if leaves (q.mReaders i) = true then _ else _ : RingBufferReader).allowedToRead = 0
    split
    · exact fun _ => rfl
    · exact h.free i

theorem findReader_pid (h : q.findReader pid = some i) :
    (q.mReaders i).pid = pid ∧ pid ≠ 0 := by
  unfold findReader at h
  split at h
  · rename_i hpos
    have hfound := List.find?_some h
    exact ⟨of_decide_eq_true hfound, Nat.ne_of_gt hpos⟩
  · exact nomatch h

theorem Bounded.beginAccessRead (h : q.Bounded) (pid n now : Nat) :
    (q.beginAccessRead pid n now).2.Bounded := by
  unfold IasAvbVideoRingBufferShm.beginAccessRead
  split
  · exact h
  · rename_i i hfind
    have hin : (q.mReaders i).offset ≤ q.mNumBuffers := by
      have hreader := h.readers i
      omega
    obtain ⟨hpid, hne⟩ := findReader_pid hfind
    refine (h.setReader i (h.grantRead_le hin n) ?_).updateReaderAccess i now
    exact fun hzero => absurd (hpid.symm.trans hzero) hne

theorem Bounded.aggregateReaderOffset (h : q.Bounded) : q.aggregateReaderOffset.Bounded := by
  have hreset : q.resetOffsets.Bounded := by
    refine ⟨h.write, h.read, h.few, fun i => ?_, fun i => ?_⟩
    · have hreader := h.readers i
      show (if q.registered i = true then _ else _ : RingBufferReader).offset
        + (if q.registered i = true then _ else _ : RingBufferReader).allowedToRead ≤ _
      split
      · show 0 + (q.mReaders i).allowedToRead ≤ q.mNumBuffers
        omega
      · exact hreader
    · show (if q.registered i = true then _ else _ : RingBufferReader).pid = 0 →
        (if q.registered i = true then _ else _ : RingBufferReader).allowedToRead = 0
      split
      · exact h.free i
      · exact h.free i
  have happly : ∀ {q' : IasAvbVideoRingBufferShm}, q'.Bounded → ∀ smaller,
      (q'.applySmallerOffset smaller).Bounded := by
    intro q' h' smaller
    refine ⟨h'.write, ?_, h'.few, h'.readers, h'.free⟩
    show (if smaller = q'.mNumBuffers then 0 else if smaller < q'.mNumBuffers then smaller
      else q'.mReadOffset) ≤ q'.mNumBuffers
    have hread := h'.read
    split
    · exact Nat.zero_le _
    · split <;> omega
  refine happly ?_ _
  unfold updateSmallerReaderOffset
  split
  · exact h
  · split
    · exact hreset
    · exact h

theorem Bounded.endAccessRead (h : q.Bounded) (pid n now : Nat) :
    (q.endAccessRead pid n now).2.Bounded := by
  unfold IasAvbVideoRingBufferShm.endAccessRead
  split
  · exact h
  · rename_i i hfind
    split
    · exact h
    · rename_i hallowed
      have hreader := h.readers i
      have hfew := h.few
      refine Bounded.updateReaderAccess ?_ i now
      refine Bounded.aggregateReaderOffset ?_
      refine h.setReader i ?_ fun _ => rfl
      show add32 (q.mReaders i).offset n + 0 ≤ q.mNumBuffers
      rw [add32_of_lt (by omega)]
      omega

theorem Bounded.addReader (h : q.Bounded) (pid now : Nat) : (q.addReader pid now).2.Bounded := by
  unfold IasAvbVideoRingBufferShm.addReader
  split
  · exact h
  · split
    · exact h
    · rename_i hpid i hplace
      unfold freePlace at hplace
      have hfound := List.find?_some hplace
      have hfree : (q.mReaders i).allowedToRead = 0 := h.free i (of_decide_eq_true hfound)
      refine Bounded.updateReaderAccess ?_ i now
      refine h.setReader i ?_ fun _ => hfree
      show q.mReadOffset + (q.mReaders i).allowedToRead ≤ q.mNumBuffers
      have hread := h.read
      omega

/-- The readers are the same, but for those that lost their place. -/
theorem Bounded.ofReaders (h : q.Bounded) (hplaced : q'.WritePlaced)
    (hsize : q'.mNumBuffers = q.mNumBuffers) (hread : q'.mReadOffset = q.mReadOffset)
    (hreaders : ∀ i, q'.mReaders i = q.mReaders i ∨ q'.mReaders i = {}) : q'.Bounded := by
  refine ⟨hplaced, by rw [hread, hsize]; exact h.read, hsize ▸ h.few, fun i => ?_, fun i => ?_⟩
  · rw [hsize]
    rcases hreaders i with heq | heq
    · rw [heq]
      exact h.readers i
    · rw [heq]
      exact Nat.zero_le _
  · rcases hreaders i with heq | heq
    · rw [heq]
      exact h.free i
    · rw [heq]
      exact fun _ => rfl

theorem endAccessWrite_readers (q : IasAvbVideoRingBufferShm) (n now : Nat) :
    (q.endAccessWrite n now).2.mReadOffset = q.mReadOffset
      ∧ ∀ i, (q.endAccessWrite n now).2.mReaders i = q.mReaders i
        ∨ (q.endAccessWrite n now).2.mReaders i = {} := by
  unfold endAccessWrite
  split
  · exact ⟨rfl, fun _ => Or.inl rfl⟩
  · split
    · exact ⟨rfl, fun _ => Or.inl rfl⟩
    · unfold commitWrite
      dsimp only
      by_cases hover : q.mNumBuffers < add32 q.mWriteOffset n
      · rw [if_pos hover]
        exact ⟨rfl, fun _ => Or.inl rfl⟩
      · rw [if_neg hover]
        refine ⟨rfl, fun i => ?_⟩
        show (if unresponsive now (q.mReaders i) = true then {} else q.mReaders i) = q.mReaders i
          ∨ (if unresponsive now (q.mReaders i) = true then {} else q.mReaders i) = {}
        split
        · exact Or.inr rfl
        · exact Or.inl rfl

/-- **Every call keeps the bounds.** -/
theorem Bounded.ringCall (h : q.Bounded) (call : RingCall) : (q.ringCall call).Bounded := by
  cases call with
  | beginWrite n =>
      obtain ⟨hoffset, hsize⟩ := beginAccessWrite_offset q n
      refine h.ofReaders ?_ hsize ?_ fun i => Or.inl ?_
      · show (q.beginAccessWrite n).2.mWriteOffset < (q.beginAccessWrite n).2.mNumBuffers
        rw [hoffset, hsize]
        exact h.write
      · show (q.beginAccessWrite n).2.mReadOffset = _
        unfold beginAccessWrite
        split <;> rfl
      · show (q.beginAccessWrite n).2.mReaders i = _
        unfold beginAccessWrite
        split <;> rfl
  | endWrite n now =>
      obtain ⟨hplaced, hsize⟩ := endAccessWrite_placed h.write n now
      obtain ⟨hread, hreaders⟩ := endAccessWrite_readers q n now
      exact h.ofReaders hplaced hsize hread hreaders
  | reader call =>
      cases call with
      | addReader pid now => exact h.addReader pid now
      | removeReader pid =>
          show (q.removeReader pid).2.Bounded
          unfold removeReader
          split
          · exact h
          · exact h.removeReaders fun reader => decide (reader.pid = pid)
      | beginAccess pid n now => exact h.beginAccessRead pid n now
      | endAccess pid n now => exact h.endAccessRead pid n now

/-- **In every run.** -/
theorem Bounded.run (h : q.Bounded) (calls : List RingCall) :
    (exec IasAvbVideoRingBufferShm.ringCall q calls).Bounded := by
  have hstep : ∀ (q : IasAvbVideoRingBufferShm) (call : RingCall), q.Bounded →
      (q.ringCall call).Bounded := fun _ call hq => hq.ringCall call
  exact inv_exec_of_step hstep h calls

/-! ## Giving a slot back -/

/-- The reader is registered, and at least `n` slots are granted to it. -/
def Lends (q : IasAvbVideoRingBufferShm) (pid n : Nat) : Prop :=
  ∃ i, q.findReader pid = some i ∧ n ≤ (q.mReaders i).allowedToRead

theorem endAccessRead_ok_iff (q : IasAvbVideoRingBufferShm) (pid n now : Nat) :
    (q.endAccessRead pid n now).1 = eIasRingBuffOk ↔ q.Lends pid n := by
  unfold endAccessRead Lends
  cases hfind : q.findReader pid with
  | none => exact ⟨(fun h => nomatch h), (fun ⟨_, h, _⟩ => nomatch h)⟩
  | some i =>
      dsimp only
      split
      · rename_i hallowed
        refine ⟨(fun h => nomatch h), ?_⟩
        rintro ⟨j, hj, hless⟩
        obtain rfl := Option.some.inj hj
        omega
      · exact ⟨fun _ => ⟨i, rfl, by omega⟩, fun _ => rfl⟩

theorem beginAccessRead_of_found (h : q.findReader pid = some i) (n now : Nat) :
    q.beginAccessRead pid n now = (.ok ⟨(q.mReaders i).offset, q.grantRead (q.mReaders i) n⟩,
      (q.beginAccessRead pid n now).2) := by
  unfold beginAccessRead
  rw [h]

theorem beginAccessRead_of_missing (h : q.findReader pid = none) (n now : Nat) :
    q.beginAccessRead pid n now = (.error eIasRingBuffInvalidParam, q) := by
  unfold beginAccessRead
  rw [h]

end IasAvbVideoRingBufferShm

/-! ## The readers -/

/-- The slot was granted, and has been given back. -/
structure SlotUse.InGrant (u : SlotUse) : Prop where
  granted : u.granted.offset ≤ u.slot ∧ u.slot < u.granted.offset + u.granted.numBuffers
  released : u.released = true

instance (u : SlotUse) : Decidable u.InGrant :=
  decidable_of_iff ((u.granted.offset ≤ u.slot ∧ u.slot < u.granted.offset + u.granted.numBuffers)
    ∧ u.released = true) ⟨fun h => ⟨h.1, h.2⟩, fun h => ⟨h.granted, h.released⟩⟩

open IasAvbVideoRingBufferShm

section Readers

variable {r : VideoRing} {pid tid now later : Nat} {others : List RingCall}
  {i : Fin cIasVideoRingBufferShmMaxReaders}

/-- What others have made of the ring when the packet is processed. -/
def VideoRing.meanwhile (r : VideoRing) (pid now : Nat) (others : List RingCall) :
    IasAvbVideoRingBufferShm :=
  exec ringCall (r.shm.beginAccessRead pid 1 now).2 others

/-- A reader that begins an access for one packet: the first slot of those granted is one of
them exactly if there is something to be read. -/
theorem grants_first_iff (h : r.shm.Bounded) (i : Fin cIasVideoRingBufferShmMaxReaders) :
    (r.shm.mReaders i).offset
        < (r.shm.mReaders i).offset + r.shm.grantRead (r.shm.mReaders i) 1
      ↔ r.shm.Readable (r.shm.mReaders i) := by
  have hreader := h.readers i
  rw [h.grantRead_one (by omega)]
  split
  · exact iff_of_true (by omega) ‹_›
  · exact iff_of_false (by omega) ‹_›

theorem endRead_released (r : VideoRing) (q : IasAvbVideoRingBufferShm) (n : Nat) :
    decide ((r.endRead q others pid n later).1 = eIasRingBuffOk) = true
      ↔ (exec ringCall q others).Lends pid n :=
  decide_eq_true_iff.trans (endAccessRead_ok_iff ..)

/-- **The local stream** looks at a slot that it was granted and gives it back exactly if there
is something to be read and it is still registered afterwards. -/
theorem IasLocalVideoInStream.round_inGrant_iff (h : r.shm.Bounded) (res : WaitReadResult)
    (mFormat : IasAvbVideoFormat) :
    (∀ u ∈ (round res r mFormat tid now others later).1, u.InGrant)
      ↔ (res ≠ .eIasRingBuffTimeOut → ∀ i, r.shm.findReader tid = some i →
        r.shm.Readable (r.shm.mReaders i) ∧ (r.meanwhile tid now others).Lends tid 1) := by
  unfold round
  by_cases htimeout : res ≠ .eIasRingBuffTimeOut
  · rw [if_pos htimeout]
    unfold copyJob
    cases hfind : r.shm.findReader tid with
    | none =>
        rw [beginAccessRead_of_missing hfind]
        exact iff_of_true (fun u hu => nomatch hu) fun _ _ hi => nomatch hi
    | some i =>
        rw [beginAccessRead_of_found hfind]
        constructor
        · intro hu _ j hj
          obtain rfl := Option.some.inj hj
          have huse := hu _ rfl
          exact ⟨(grants_first_iff h i).mp huse.granted.2, (endRead_released r _ 1).mp huse.released⟩
        · intro hcond u hu
          obtain rfl := Option.some.inj hu
          obtain ⟨hread, hlends⟩ := hcond htimeout i rfl
          exact ⟨⟨Nat.le_refl _, (grants_first_iff h i).mpr hread⟩,
            (endRead_released r _ 1).mpr hlends⟩
  · rw [if_neg htimeout]
    exact iff_of_true (fun u hu => nomatch hu) fun hne => absurd hne htimeout

/-- **The receiver** does so exactly if it is still registered after a packet. -/
theorem IasAvbVideoReceiver.round_inGrant_iff (h : r.shm.Bounded) (vres : WaitReadResult)
    (mFormat : ReceivingFormat) :
    (∀ u ∈ (round vres r mFormat pid now others later).1, u.InGrant)
      ↔ (vres ≠ .eIasRingBuffTimeOut → ∀ i, r.shm.findReader pid = some i →
        r.shm.Readable (r.shm.mReaders i) → (r.meanwhile pid now others).Lends pid 1) := by
  unfold round
  by_cases htimeout : vres = .eIasRingBuffTimeOut
  · rw [if_pos htimeout]
    exact iff_of_true (fun u hu => nomatch hu) fun hne => absurd htimeout hne
  · rw [if_neg htimeout]
    cases hfind : r.shm.findReader pid with
    | none =>
        rw [beginAccessRead_of_missing hfind]
        exact iff_of_true (fun u hu => nomatch hu) fun _ _ hi => nomatch hi
    | some i =>
        have hreader := h.readers i
        have hin : (r.shm.mReaders i).offset ≤ r.shm.mNumBuffers := by omega
        have hgrant := h.grantRead_one hin
        rw [beginAccessRead_of_found hfind, hgrant]
        by_cases hread : r.shm.Readable (r.shm.mReaders i)
        · rw [if_pos hread]
          constructor
          · intro hu _ j hj _
            exact (endRead_released r _ 1).mp (hu _ rfl).released
          · intro hcond u hu
            obtain rfl := Option.some.inj hu
            exact ⟨⟨Nat.le_refl _, Nat.lt_succ_self _⟩,
              (endRead_released r _ 1).mpr (hcond htimeout i rfl hread)⟩
        · rw [if_neg hread]
          refine iff_of_true (fun u hu => nomatch hu) fun _ j hj hread' => ?_
          obtain rfl := Option.some.inj hj
          exact absurd hread' hread

end Readers

/-! ## The senders -/

/-- The push that a call comes to, if it is granted a slot. -/
def SendCall.written (c : SendCall) (r : VideoRing) : List Push :=
  match c.enter r with
  | (.granted packet offset, r') =>
      [{ bufferSize := r.bufferSize, slot := offset, touched := (c.copy r' packet offset).touched }]
  | _ => []

/-- **A call writes inside its slot exactly if its packet fits**, header included. -/
theorem written_inSlot_iff {r : VideoRing} (h : r.shm.Bounded) (hsize : r.bufferSize ≤ 1524)
    {c : SendCall} {fits : IasAvbvideobridgeBuffer → Prop}
    (hput : ∀ k packet, TransferPacket.InSlot r.bufferSize k
      (c.put ⟨r.cell, []⟩ (k * r.bufferSize) packet).touched ↔ fits packet) :
    (∀ p ∈ c.written r, TransferPacket.InSlot p.bufferSize p.slot p.touched)
      ↔ ∀ packet, c.packet = some packet → c.Accepted r → r.shm.mWriteInProgress = false →
        r.shm.HasRoom → fits packet := by
  have hplaced : r.shm.mWriteOffset < r.shm.mNumBuffers := h.write
  have hfew := h.few
  have hroom := grantWrite_ne_zero_iff h.write (by omega)
  have hstart : r.shm.mWriteOffset * r.bufferSize % 4294967296
      = r.shm.mWriteOffset * r.bufferSize := by
    refine Nat.mod_eq_of_lt (Nat.lt_of_le_of_lt (Nat.mul_le_mul ?_ hsize) (?_ : 65535 * 1524 < _))
    · omega
    · decide
  unfold SendCall.written
  rcases SendWorld.enter_cases c r with ⟨result, -, hrefused, heq⟩ | ⟨hbusy, heq⟩
    | ⟨packet, hpacket, haccepted, hfree, heq⟩
  · rw [heq]
    exact iff_of_true (fun p hp => absurd hp List.not_mem_nil)
      fun _ _ haccepted => absurd haccepted hrefused
  · rw [heq]
    refine iff_of_true (fun p hp => absurd hp List.not_mem_nil) fun _ _ _ hfree => ?_
    rw [hbusy] at hfree
    exact nomatch hfree
  · rw [heq]
    by_cases hzero : r.shm.grantWrite 1 = 0
    · rw [if_pos hzero]
      exact iff_of_true (fun p hp => absurd hp List.not_mem_nil)
        fun _ _ _ _ hhas => absurd hzero (hroom.mpr hhas)
    · rw [if_neg hzero]
      show (∀ p ∈ [Push.mk r.bufferSize r.shm.mWriteOffset (c.put ⟨r.cell, []⟩
        (r.shm.mWriteOffset * r.bufferSize % 4294967296) packet).touched], _) ↔ _
      rw [hstart, List.forall_mem_singleton]
      constructor
      · intro hin packet' hpacket' _ _ _
        obtain rfl := Option.some.inj (hpacket.symm.trans hpacket')
        exact (hput _ _).mp hin
      · intro hfits
        exact (hput _ _).mpr (hfits packet hpacket haccepted hfree (hroom.mp hzero))

/-! ## The rings that are used -/

/-- A ring as the local streams of talkers and listeners create it. -/
inductive VideoRing.Created : VideoRing → Prop
  | talker {ipcNameEmpty shmOk : Bool} {maxPacketSize numPackets : Nat} {format : IasAvbVideoFormat}
      {stale : Nat → UInt8} {r : VideoRing} (few : numPackets < 65536)
      (init : IasLocalVideoInStream.init ipcNameEmpty maxPacketSize format numPackets shmOk stale
        = some r) : Created r
  | listener {ipcNameEmpty shmOk : Bool} {maxPacketRate maxPacketSize numPackets : Nat}
      {format : IasAvbVideoFormat} {stale : Nat → UInt8} {o : IasLocalVideoOutStream}
      (few : numPackets < 65536)
      (init : IasLocalVideoOutStream.init ipcNameEmpty maxPacketRate maxPacketSize format numPackets
        shmOk stale = some o) :
      Created { shm := o.ring, bufferSize := o.bufferSize, cell := o.cell }

theorem sizeofTransferPacket_le (format : IasAvbVideoFormat) : sizeofTransferPacket format ≤ 24 := by
  cases format <;> decide

/-- Their slots begin below `2 ^ 32`. -/
theorem VideoRing.Created.bounds {r : VideoRing} (h : r.Created) :
    r.shm.Bounded ∧ r.bufferSize ≤ 1524 := by
  cases h with
  | @talker _ _ maxPacketSize numPackets format _ _ few init =>
      have hsize := sizeofTransferPacket_le format
      unfold IasLocalVideoInStream.init at init
      split at init
      · exact nomatch init
      · split at init
        · exact nomatch init
        · split at init
          · exact nomatch init
          · rename_i hmax hnum
            obtain rfl := Option.some.inj init
            refine ⟨bounded_init (by omega) few, ?_⟩
            show maxPacketSize + sizeofTransferPacket format ≤ 1524
            omega
  | @listener _ _ _ maxPacketSize numPackets format _ _ few init =>
      have hsize := sizeofTransferPacket_le format
      unfold IasLocalVideoOutStream.init at init
      split at init
      · exact nomatch init
      · split at init
        · exact nomatch init
        · split at init
          · exact nomatch init
          · rename_i hmax hnum
            obtain rfl := Option.some.inj init
            refine ⟨bounded_init (by omega) few, ?_⟩
            show maxPacketSize + sizeofTransferPacket format ≤ 1524
            omega

/--
**When the clients of a video ring stay in the slots they were granted.**

For every ring, after any calls, and every packet that a sender accepts: the bytes it writes lie
in the slot it was granted exactly if the header fits in as well. For every result of `waitRead`
and whatever the others do meanwhile: each of the two readers looks at slots that were granted
and gives them back exactly under its condition. Both have to be still registered when they have
processed a packet; the local stream needs something to be read on top of that.
-/
theorem clients_stay_in_slots_iff {r₀ : VideoRing} (hr : r₀.Created) (calls : List RingCall) :
    let r := r₀.setShm (exec ringCall r₀.shm calls)
    (∀ connected packet,
      (∀ p ∈ (sendPacketH264 connected packet).written r,
          TransferPacket.InSlot p.bufferSize p.slot p.touched)
        ↔ ∀ b, packet = some b → (sendPacketH264 connected packet).Accepted r →
          r.shm.mWriteInProgress = false → r.shm.HasRoom → 8 + b.size ≤ r.bufferSize)
    ∧ (∀ connected sph packet,
      (∀ p ∈ (sendPacketMpegTs connected sph packet).written r,
          TransferPacket.InSlot p.bufferSize p.slot p.touched)
        ↔ ∀ b, packet = some b → (sendPacketMpegTs connected sph packet).Accepted r →
          r.shm.mWriteInProgress = false → r.shm.HasRoom → 16 + b.size ≤ r.bufferSize)
    ∧ (∀ res mFormat tid now others later,
      (∀ u ∈ (IasLocalVideoInStream.round res r mFormat tid now others later).1, u.InGrant)
        ↔ (res ≠ .eIasRingBuffTimeOut → ∀ i, r.shm.findReader tid = some i →
          r.shm.Readable (r.shm.mReaders i) ∧ (r.meanwhile tid now others).Lends tid 1))
    ∧ ∀ vres mFormat pid now others later,
      (∀ u ∈ (IasAvbVideoReceiver.round vres r mFormat pid now others later).1, u.InGrant)
        ↔ (vres ≠ .eIasRingBuffTimeOut → ∀ i, r.shm.findReader pid = some i →
          r.shm.Readable (r.shm.mReaders i) → (r.meanwhile pid now others).Lends pid 1) := by
  intro r
  obtain ⟨hbounded, hsize⟩ := hr.bounds
  have hrun : r.shm.Bounded := hbounded.run calls
  refine ⟨?_, ?_, ?_, ?_⟩
  · intro connected packet
    exact written_inSlot_iff hrun hsize fun k b => TransferPacket.putH264_inSlot
  · intro connected sph packet
    exact written_inSlot_iff hrun hsize fun k b => TransferPacket.putMpegTS_inSlot
  · intro res mFormat tid now others later
    exact IasLocalVideoInStream.round_inGrant_iff hrun res mFormat
  · intro vres mFormat pid now others later
    exact IasAvbVideoReceiver.round_inGrant_iff hrun vres mFormat

/-- A talker's ring of four slots, for H.264 packets of 100 bytes. -/
def fourSlots : VideoRing where
  shm := { mNumBuffers := 4 }
  bufferSize := 116
  cell := fun _ => 0

theorem fourSlots_created : fourSlots.Created := by
  have hinit : IasLocalVideoInStream.init false 100 .eIasAvbVideoFormatRtp 4 true (fun _ => 0)
    = some fourSlots := rfl
  exact .talker (by decide) hinit

theorem clients_stay_in_slots_iff_fourSlots :
    ((sendPacketH264 true (some { size := 100, data := fun _ => 7 })).written fourSlots).length = 1
      ∧ ∀ p ∈ (sendPacketH264 true (some { size := 100, data := fun _ => 7 })).written fourSlots,
        TransferPacket.InSlot p.bufferSize p.slot p.touched := by
  refine ⟨by decide +kernel, ?_⟩
  refine ((clients_stay_in_slots_iff fourSlots_created []).1 true _).mpr ?_
  intro b hb _ _ _
  obtain rfl := Option.some.inj hb
  exact (by decide : 8 + 100 ≤ 116)

/-- The readers 7 and 8 have read three packets and reader 7 a fourth one, up to the end of the
ring. The writer has gone on to the next lap. -/
def lapWaiting : List RingCall :=
  [.reader (.addReader 7 1), .reader (.addReader 8 1), .beginWrite 3, .endWrite 3 2,
    .reader (.beginAccess 7 3 3), .reader (.endAccess 7 3 3), .reader (.beginAccess 8 3 4),
    .reader (.endAccess 8 3 4), .beginWrite 1, .endWrite 1 5, .reader (.beginAccess 7 1 6),
    .reader (.endAccess 7 1 6), .beginWrite 1, .endWrite 1 7]

/-- **Clients leave their slots.** A packet of 116 bytes is accepted for a slot of 116 bytes and
written with a header of eight. The reader that waits at the end of the ring has a packet to
read, is granted none, and looks at slot 4 of slots 0 to 3. If waiting fails on an empty ring,
slot 0 is handed on as it is. Neither of them is given back. -/
theorem clients_leave_their_slots :
    let large := sendPacketH264 true (some { size := 116, data := fun _ => 7 })
    let waiting := IasLocalVideoInStream.round .eIasRingBuffOk
      (fourSlots.setShm (exec ringCall fourSlots.shm lapWaiting)) .eIasAvbVideoFormatRtp 7 8 [] 9
    let failed := IasLocalVideoInStream.round .eIasRingBuffCondWaitFailed
      (fourSlots.setShm (exec ringCall fourSlots.shm [.reader (.addReader 7 1)]))
      .eIasAvbVideoFormatRtp 7 8 [] 9
    large.Accepted fourSlots
      ∧ (¬ ∀ p ∈ large.written fourSlots, TransferPacket.InSlot p.bufferSize p.slot p.touched)
      ∧ (¬ ∀ u ∈ waiting.1, u.InGrant) ∧ (¬ ∀ u ∈ failed.1, u.InGrant)
      ∧ waiting.1.map (fun u => (u.slot, u.granted.numBuffers, u.released)) = some (4, 0, false)
      ∧ failed.1.map (fun u => (u.slot, u.granted.numBuffers, u.released)) = some (0, 0, false) := by
  intro large waiting failed
  refine ⟨⟨rfl, _, rfl, by decide⟩, ?_⟩
  decide +kernel

end AvbStreamHandler
