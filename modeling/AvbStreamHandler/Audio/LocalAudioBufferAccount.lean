import AvbStreamHandler.Audio.LocalAudioBufferProof

/-!
# The account of a local audio buffer

`Watched` runs a buffer next to a ledger: what the last reset put in, what the writes
since then reported, what the reads since then delivered. The ledger is a ghost, the
buffer never looks at it.

The claim a user relies on is `Sound`: the fill level is a possible one, the next call
stays in the ring, and once everything was taken out the buffer says so and has room
for a full ring again. `sound_of_safe` proves it for every run of `Safe` calls;
`unsafe_breaks` shows that the first call that is not safe breaks it, so the condition
cannot be weakened (for rings below `2 ^ 31` samples, where `Unambiguous` is free).
-/

namespace AvbStreamHandler.IasLocalAudioBuffer

open Kit Kit.Run Kit.Word Kit.RingIndex

/-- What went in and out since the last reset. -/
structure Ledger where
  /-- The fill the last reset established. -/
  base : Nat := 0
  /-- The samples the write calls reported. -/
  written : Nat := 0
  /-- The samples the read calls delivered. -/
  taken : Nat := 0
deriving DecidableEq, Repr

/-- The entry one call makes. -/
def Ledger.note (l : Ledger) (b : IasLocalAudioBuffer) : Call → Ledger
  | .reset k => { base := k }
  | .write buffer n => { l with written := l.written + (b.write buffer n).2 }
  | .writeStrided buffer n stride =>
      { l with written := l.written + (b.writeStrided buffer n stride).2 }
  | .read n => { l with taken := l.taken + (b.read n).2.length }
  | .readStrided n stride => { l with taken := l.taken + (b.readStrided n stride).2.length }

/-- A buffer and its ledger. -/
structure Watched where
  buf : IasLocalAudioBuffer
  ledger : Ledger := {}

namespace Watched

def step (t : Watched) (c : Call) : Watched :=
  { buf := t.buf.step c, ledger := t.ledger.note t.buf c }

def start (N : Nat) (doAnalysis : Bool) (heap : Nat → AudioData) : Watched :=
  { buf := init N doAnalysis heap }

/-- The calls a user may make on a ring of `N`: a reset keeps one element free. -/
def Admitted (N : Nat) : Call → Prop
  | .reset k => k ≤ N - 1
  | _ => True

instance (N : Nat) : ∀ c, Decidable (Admitted N c)
  | .reset _ => inferInstanceAs (Decidable (_ ≤ _))
  | .write _ _ => inferInstanceAs (Decidable True)
  | .writeStrided _ _ _ => inferInstanceAs (Decidable True)
  | .read _ => inferInstanceAs (Decidable True)
  | .readStrided _ _ => inferInstanceAs (Decidable True)

/-- What a user relies on, in the state before the call `c`. -/
structure Sound (N : Nat) (t : Watched) (c : Call) : Prop where
  /-- The fill level is a possible one. -/
  fill_le : t.buf.getFillLevel ≤ N - 1
  /-- Neither the calls so far nor the next one touch an element outside the ring. -/
  within : (t.buf.step c).mBuffer.Within N
  /-- A drained buffer is empty. -/
  drained : t.ledger.taken = t.ledger.base + t.ledger.written → t.buf.getFillLevel = 0
  /-- A drained buffer takes a full ring again, block-wise and sample-wise. -/
  accepts : t.ledger.taken = t.ledger.base + t.ledger.written → ∀ buffer stride,
    (t.buf.write buffer (N - 1)).2 = N - 1 ∧
      (t.buf.writeStrided buffer (N - 1) stride).2 = N - 1

/-- **The invariant**: the representation is good and the ledger balances. -/
structure Inv (N : Nat) (t : Watched) : Prop where
  /-- The buffer represents a ring of `N`. -/
  rep : Rep N t.buf
  /-- What is stored is what went in less what came out. -/
  balance : stored N t.buf + t.ledger.taken = t.ledger.base + t.ledger.written

variable {N : Nat} {t : Watched} {c : Call}

theorem inv_start (hN : 0 < N) (doAnalysis : Bool) (heap : Nat → AudioData) :
    Inv N (start N doAnalysis heap) where
  rep := rep_init hN doAnalysis heap
  balance := rfl

/-- **A safe call keeps the invariant.** -/
theorem inv_step (hpos : 0 < N) (hN : N < 4294967296) (h : Inv N t) (ha : Admitted N c)
    (hs : t.buf.Safe c) : Inv N (t.step c) := by
  obtain ⟨hu, hc⟩ := hs
  have hbal := h.balance
  cases c with
  | reset k =>
      have hk : k ≤ N - 1 := ha
      have hc' : k ≤ t.buf.mWriteIndex ∨ k - t.buf.mWriteIndex < 4294967296 - N := by
        have hsize := h.rep.size
        rcases hc with hc | hc
        · exact Or.inl hc
        · exact Or.inr (hsize ▸ hc)
      obtain ⟨hr, hl⟩ := reset_spec h.rep hN (by omega) hc'
      exact ⟨hr, hl⟩
  | write buffer n =>
      obtain ⟨hr, hl⟩ := write_spec h.rep hN hu buffer n
      refine ⟨hr, ?_⟩
      show stored N (t.buf.write buffer n).1 + t.ledger.taken = t.ledger.base + (_ + _)
      omega
  | writeStrided buffer n stride =>
      obtain ⟨hr, hl⟩ := writeStrided_spec h.rep hN hu buffer n stride hc
      refine ⟨hr, ?_⟩
      show stored N (t.buf.writeStrided buffer n stride).1 + t.ledger.taken =
        t.ledger.base + (_ + _)
      omega
  | read n =>
      obtain ⟨hr, hl⟩ := read_spec h.rep hN hu n
      refine ⟨hr, ?_⟩
      show stored N (t.buf.read n).1 + (_ + _) = t.ledger.base + t.ledger.written
      omega
  | readStrided n stride =>
      obtain ⟨hr, hl⟩ := readStrided_spec h.rep hN hu n stride hc
      refine ⟨hr, ?_⟩
      show stored N (t.buf.readStrided n stride).1 + (_ + _) =
        t.ledger.base + t.ledger.written
      omega

theorem write_count (b : IasLocalAudioBuffer) (buffer : Nat → AudioData) (n : Nat) :
    (b.write buffer n).2 = min n b.remaining := rfl

/-- The invariant and a safe next call give the user what they rely on. -/
theorem Inv.sound (hpos : 0 < N) (hN : N < 4294967296) (h : Inv N t) (ha : Admitted N c)
    (hs : t.buf.Safe c) : Sound N t c := by
  have hfill := getFillLevel_eq h.rep hN hs.1
  have hlt := h.rep.valid.level_lt
  have hbal := h.balance
  have hdrained : t.ledger.taken = t.ledger.base + t.ledger.written →
      t.buf.getFillLevel = 0 := by
    intro heq
    unfold stored at hbal
    omega
  refine ⟨by omega, (inv_step hpos hN h ha hs).rep.within, hdrained, ?_⟩
  intro heq buffer stride
  have hrem := remaining_eq h.rep hN hs.1
  rw [hdrained heq] at hrem
  rw [write_count, writeStrided_count, hrem]
  omega

/-- The guard of a run on a ring of `N`: admitted calls that are safe where they are
made. -/
def Guard (N : Nat) (t : Watched) (c : Call) : Prop := Admitted N c ∧ t.buf.Safe c

instance (N : Nat) (t : Watched) (c : Call) : Decidable (Guard N t c) :=
  inferInstanceAs (Decidable (_ ∧ _))

/-- **Every run of safe calls is sound**, whatever mix of block and strided calls it
is, in every state it reaches and for the call made there. -/
theorem sound_of_safe (hpos : 2 ≤ N) (hN : N < 4294967296) (doAnalysis : Bool)
    (heap : Nat → AudioData) (calls : List Call) (c : Call)
    (hguard : Always step (Guard N) (start N doAnalysis heap) (calls ++ [c])) :
    Sound N (exec step (start N doAnalysis heap) calls) c := by
  obtain ⟨hrun, hlast⟩ := always_append.mp hguard
  have hinv : Inv N (exec step (start N doAnalysis heap) calls) :=
    inv_exec (fun t c h hg => inv_step (by omega) hN h hg.1 hg.2)
      (inv_start (by omega) doAnalysis heap) hrun
  exact hinv.sound (by omega) hN hlast.1.1 hlast.1.2

/-- A run that crosses the end of the ring with both kinds of calls, safely: the block
write ends at the end only after the reader left it. -/
theorem sound_of_safe_mixed :
    Sound 4 (exec step (start 4 false fun _ => 0)
      [.write (fun _ => 7) 3, .readStrided 2 4, .reset 1, .writeStrided (fun _ => 9) 2 4,
        .read 3]) (.write (fun _ => 7) 3) :=
  sound_of_safe (by decide) (by decide) false _ _ _ (by decide)

/-- **Mixing the calls freely is not sound.** A block write of one sample ends at the
end of a ring of four. A strided write then stores at index four; a strided read that
drains the ring leaves it reading as full. -/
theorem mixed_calls_break :
    ¬ Sound 4 (exec step (start 4 false fun _ => 0)
        [.write (fun _ => 7) 3, .read 3, .write (fun _ => 7) 1])
        (.writeStrided (fun _ => 9) 1 4) ∧
      ¬ Sound 4 (exec step (start 4 false fun _ => 0)
        [.write (fun _ => 7) 3, .read 3, .write (fun _ => 7) 1, .readStrided 1 4])
        (.write (fun _ => 7) 1) := by
  constructor
  · intro h
    exact absurd h.within (by decide)
  · intro h
    exact absurd h.fill_le (by decide)

/-! ## The condition cannot be weakened -/

theorem storeSamples_touched (advance : Nat) :
    ∀ (n : Nat) (b : IasLocalAudioBuffer) (buffer : Nat → AudioData) {i : Nat},
      i ∈ b.mBuffer.touched → i ∈ (storeSamples advance b buffer n).mBuffer.touched
  | 0, _, _, _, h => h
  | n + 1, b, buffer, _, h => by
      have hcells : (b.storeSample (buffer 0)).mBuffer.touched =
          b.mBuffer.touched ++ [b.mWriteIndex] :=
        congrArg (fun r => r.cells.touched) (storeSample_ring (b := b) (buffer 0))
      refine storeSamples_touched advance n _ _ ?_
      rw [hcells]
      exact List.mem_append_left _ h

/-- The first round of a strided write touches the element the index is at. -/
theorem mem_touched_storeSamples (advance n : Nat) (b : IasLocalAudioBuffer)
    (buffer : Nat → AudioData) :
    b.mWriteIndex ∈ (storeSamples advance b buffer (n + 1)).mBuffer.touched := by
  have hcells : (b.storeSample (buffer 0)).mBuffer.touched =
      b.mBuffer.touched ++ [b.mWriteIndex] :=
    congrArg (fun r => r.cells.touched) (storeSample_ring (b := b) (buffer 0))
  refine storeSamples_touched advance n _ _ ?_
  rw [hcells]
  exact List.mem_append_right _ (List.mem_singleton.mpr rfl)

theorem loadSamples_touched :
    ∀ (n : Nat) (b : IasLocalAudioBuffer) {i : Nat},
      i ∈ b.mBuffer.touched → i ∈ (b.loadSamples n).1.mBuffer.touched
  | 0, _, _, h => h
  | n + 1, b, _, h => loadSamples_touched n b.loadSample.1 (List.mem_append_left _ h)

theorem mem_touched_loadSamples (n : Nat) (b : IasLocalAudioBuffer) :
    b.mReadIndex ∈ (b.loadSamples (n + 1)).1.mBuffer.touched :=
  loadSamples_touched n b.loadSample.1
    (List.mem_append_right _ (List.mem_singleton.mpr rfl))

/-- The strided loop moves the read index by `wrapAt` and leaves the rest. -/
theorem loadSamples_index {N : Nat} (hN : N < 4294967296) :
    ∀ (n : Nat) {b : IasLocalAudioBuffer}, b.mTotalSize = N → b.mReadIndex < N →
      b.mReadIndex + n ≤ N →
      (b.loadSamples n).1.mReadIndex = wrapAt N b.mReadIndex n ∧
        (b.loadSamples n).1.mWriteIndex = b.mWriteIndex ∧
        (b.loadSamples n).1.mTotalSize = N
  | 0, b, hs, hr, _ => by
      refine ⟨?_, rfl, hs⟩
      show b.mReadIndex = _
      unfold wrapAt
      rw [if_pos (by omega)]
      rfl
  | n + 1, b, hs, hr, hn => by
      have hi : b.loadSample.1.mReadIndex = wrapAt N b.mReadIndex 1 := by
        rw [← wrapAt_one hr hN, ← hs]
        rfl
      by_cases hlast : n = 0
      · subst hlast
        exact ⟨hi, rfl, hs⟩
      have hnext : wrapAt N b.mReadIndex 1 = b.mReadIndex + 1 := if_pos (by omega)
      rw [hnext] at hi
      obtain ⟨h1, h2, h3⟩ := loadSamples_index hN n (b := b.loadSample.1) hs (by omega)
        (by omega)
      refine ⟨?_, h2, h3⟩
      show (b.loadSample.1.loadSamples n).1.mReadIndex = _
      rw [h1, hi]
      unfold wrapAt
      rw [show b.mReadIndex + 1 + n = b.mReadIndex + (n + 1) by omega]

theorem strided_write_breaks {buffer : Nat → AudioData} {n stride : Nat} (h : Inv N t)
    (hc : ¬ t.buf.Compatible (.writeStrided buffer n stride)) :
    ¬ Sound N t (.writeStrided buffer n stride) := by
  simp only [Compatible, not_or, Nat.not_lt] at hc
  obtain ⟨hs, hn, hrem, hw⟩ := hc
  rw [h.rep.size] at hw
  have hwN : t.buf.mWriteIndex = N := Nat.le_antisymm h.rep.valid.write_le hw
  intro hsound
  have hwithin : ((t.buf.writeStrided buffer n stride).1).mBuffer.Within N := hsound.within
  rw [writeStrided_interleaved buffer n hs] at hwithin
  obtain ⟨m, hm⟩ := Nat.exists_eq_succ_of_ne_zero (show min n t.buf.remaining ≠ 0 by omega)
  have hmem := mem_touched_storeSamples (stride / 2) m (t.buf.noteOverrun n) buffer
  rw [writeIndex_congr (ring_noteOverrun n), hwN] at hmem
  rw [hm] at hwithin
  have hcells := buffer_congr (ring_noteWritten (b := storeSamples (stride / 2)
    (t.buf.noteOverrun n) buffer (m + 1)) (m + 1))
  rw [hcells] at hwithin
  exact Nat.lt_irrefl N (hwithin N hmem)

theorem strided_read_breaks {n stride : Nat} (hN : N < 4294967296) (h : Inv N t)
    (hu : t.buf.Unambiguous) (hc : ¬ t.buf.Compatible (.readStrided n stride)) :
    ¬ Sound N t (.readStrided n stride) ∨ ∀ c', ¬ Sound N (t.step (.readStrided n stride)) c' := by
  have hfill : t.buf.getFillLevel = stored N t.buf := getFillLevel_eq h.rep hN hu
  simp only [Compatible, not_or, not_and, Nat.not_lt] at hc
  obtain ⟨hs, hn, hf, hrest⟩ := hc
  rw [h.rep.size] at hrest
  have hr := h.rep.valid.read_le
  have hw := h.rep.valid.write_le
  obtain ⟨m, hm⟩ := Nat.exists_eq_succ_of_ne_zero (show min n t.buf.getFillLevel ≠ 0 by omega)
  have hring : (t.buf.readStrided n stride).1.ring = (t.buf.loadSamples (m + 1)).1.ring := by
    rw [readStrided_interleaved n hs, hm]
    exact ring_noteRead _
  by_cases hin : t.buf.mReadIndex < N
  · -- the reader catches up with a writer that rests at the end
    right
    intro c' hsound
    have hrest' := hrest hin
    have hwN : t.buf.mWriteIndex = N := by omega
    have hle : t.buf.getFillLevel ≤ n := by omega
    have hlevel : stored N t.buf = N - t.buf.mReadIndex := by
      unfold stored level
      rw [hwN, if_pos hr]
    obtain ⟨h1, h2, h3⟩ := loadSamples_index hN (m + 1) h.rep.size hin (by omega)
    have hzero : wrapAt N t.buf.mReadIndex (m + 1) = 0 := by
      unfold wrapAt
      rw [if_neg (by omega)]
      omega
    have hfull : (t.step (.readStrided n stride)).buf.getFillLevel = N := by
      have : (t.step (.readStrided n stride)).buf.getFillLevel =
        (t.buf.loadSamples (m + 1)).1.getFillLevel := getFillLevel_congr hring
      rw [this]
      unfold getFillLevel
      rw [h1, h2, h3, hzero, hwN, sub32_of_le (Nat.zero_le _) hN, if_neg (by omega)]
      rfl
    have := hsound.fill_le
    omega
  · -- the reader starts at the end
    left
    intro hsound
    have hrN : t.buf.mReadIndex = N := by omega
    have hmem := mem_touched_loadSamples m t.buf
    rw [hrN] at hmem
    have hwithin : ((t.buf.readStrided n stride).1).mBuffer.Within N := hsound.within
    rw [buffer_congr hring] at hwithin
    exact Nat.lt_irrefl N (hwithin N hmem)

/-- **The first call that is not safe breaks the buffer**, at once or for every call
after it. -/
theorem unsafe_breaks (hN : N < 2147483648) (h : Inv N t) (ha : Admitted N c)
    (hs : ¬ t.buf.Safe c) : ¬ Sound N t c ∨ ∀ c', ¬ Sound N (t.step c) c' := by
  have hu := h.rep.unambiguous hN
  have hc : ¬ t.buf.Compatible c := fun hc => hs ⟨hu, hc⟩
  cases c with
  | reset k =>
      have hk : k ≤ N - 1 := ha
      refine absurd (Or.inr ?_) hc
      rw [h.rep.size]
      omega
  | write buffer n => exact absurd trivial hc
  | writeStrided buffer n stride => exact Or.inl (strided_write_breaks h hc)
  | read n => exact absurd trivial hc
  | readStrided n stride => exact strided_read_breaks (by omega) h hu hc

end Watched

end AvbStreamHandler.IasLocalAudioBuffer
