import AvbStreamHandler.Audio.LocalAudioBuffer
import AvbStreamHandler.Kit.RingIndex

/-!
# What a local audio buffer owes its callers

A ring buffer is used by people who count: what I put in, less what I took out, is
what is in there. This module proves that count for every mix of calls that respects
one rule, and shows that the rule cannot be dropped.

The rule is about the end of the ring. A block call may leave an index *at* the end;
a strided call then stores one element past the ring, reads one past it, or — when it
drains a buffer whose writer rests at the end — wraps the reader to zero and makes an
empty ring read as a full one. `Compatible` is exactly the absence of these three
steps. `Unambiguous` is about rings of `2 ^ 31` samples and more, where the difference
of two registers can no longer be told from its complement; below that size it always
holds.

The argument is one invariant, `Rep`, over the part of the buffer the indices live in.
Each call moves one index by `RingIndex.restAt` or `RingIndex.wrapAt`, and the lemmas
of `Kit/RingIndex.lean` do the rest.
-/

namespace AvbStreamHandler.IasLocalAudioBuffer

open Kit Kit.Word Kit.RingIndex

variable {b : IasLocalAudioBuffer}

/-! ## The ring and the bookkeeping around it -/

/-- The part of the buffer that decides where samples go. -/
structure Ring where
  size : Nat
  read : Nat
  write : Nat
  cells : Memory AudioData

def ring (b : IasLocalAudioBuffer) : Ring :=
  ⟨b.mTotalSize, b.mReadIndex, b.mWriteIndex, b.mBuffer⟩

@[simp] theorem ring_noteOverrun (n : Nat) : (b.noteOverrun n).ring = b.ring := by
  unfold noteOverrun; split <;> rfl

@[simp] theorem ring_noteReference : b.noteReference.ring = b.ring := by
  unfold noteReference; split <;> rfl

@[simp] theorem ring_noteWritten (n : Nat) : (b.noteWritten n).ring = b.ring := by
  unfold noteWritten; dsimp only; split <;> rfl

@[simp] theorem ring_noteRead (n : Nat) : (b.noteRead n).ring = b.ring := by
  unfold noteRead; dsimp only; split <;> rfl

/-- The fill level only looks at the ring. -/
theorem getFillLevel_congr {c : IasLocalAudioBuffer} (h : b.ring = c.ring) :
    b.getFillLevel = c.getFillLevel := by
  simp only [ring, Ring.mk.injEq] at h
  unfold getFillLevel
  rw [h.1, h.2.1, h.2.2.1]

theorem writeIndex_congr {c : IasLocalAudioBuffer} (h : b.ring = c.ring) :
    b.mWriteIndex = c.mWriteIndex := by
  simp only [ring, Ring.mk.injEq] at h
  exact h.2.2.1

theorem buffer_congr {c : IasLocalAudioBuffer} (h : b.ring = c.ring) :
    b.mBuffer = c.mBuffer := by
  simp only [ring, Ring.mk.injEq] at h
  exact h.2.2.2

/-- **The representation invariant** of a ring of `N` samples. -/
structure Rep (N : Nat) (b : IasLocalAudioBuffer) : Prop where
  /-- The size is the one given to `init`. -/
  size : b.mTotalSize = N
  /-- The indices are in the ring or at its end, and are not read as full. -/
  valid : Valid N b.mReadIndex b.mWriteIndex
  /-- No access left the ring so far. -/
  within : b.mBuffer.Within N

theorem Rep.congr {N : Nat} {c : IasLocalAudioBuffer} (h : b.ring = c.ring) (hb : Rep N b) :
    Rep N c := by
  simp only [ring, Ring.mk.injEq] at h
  obtain ⟨h1, h2, h3, h4⟩ := h
  exact ⟨h1 ▸ hb.size, h2 ▸ h3 ▸ hb.valid, h4 ▸ hb.within⟩

theorem rep_init {N : Nat} (hN : 0 < N) (doAnalysis : Bool) (heap : Nat → AudioData) :
    Rep N (init N doAnalysis heap) where
  size := rfl
  valid := ⟨Nat.zero_le _, Nat.zero_le _, by simpa [level, init] using hN⟩
  within := by intro i hi; simp [init] at hi

/-! ## Reading the fill level -/

/-- A wrapped pair of registers differs by less than the ring leaves of `2 ^ 32`. -/
def Unambiguous (b : IasLocalAudioBuffer) : Prop :=
  b.mWriteIndex < b.mReadIndex → b.mReadIndex - b.mWriteIndex < 4294967296 - b.mTotalSize

instance (b : IasLocalAudioBuffer) : Decidable b.Unambiguous :=
  inferInstanceAs (Decidable (_ → _))

/-- Below `2 ^ 31` samples every pair of indices is unambiguous. -/
theorem Rep.unambiguous {N : Nat} (hb : Rep N b) (hN : N < 2147483648) : b.Unambiguous := by
  intro _
  have := hb.valid.read_le
  rw [hb.size]
  omega

/-- **The fill level is the level of the ring.** -/
theorem getFillLevel_eq {N : Nat} (hb : Rep N b) (hN : N < 4294967296)
    (hu : b.Unambiguous) : b.getFillLevel = level N b.mReadIndex b.mWriteIndex := by
  have hr := hb.valid.read_le
  have hw := hb.valid.write_le
  unfold Unambiguous at hu
  unfold getFillLevel level
  rw [hb.size] at hu ⊢
  by_cases h : b.mReadIndex ≤ b.mWriteIndex
  · have hs := sub32_of_le h (by omega)
    rw [if_pos h, hs, if_neg (by omega)]
  · have hs := sub32_of_lt (Nat.lt_of_not_le h) (by omega)
    rw [if_neg h, hs, if_pos (by omega)]
    unfold add32
    omega

theorem remaining_eq {N : Nat} (hb : Rep N b) (hN : N < 4294967296) (hu : b.Unambiguous) :
    b.remaining = N - 1 - b.getFillLevel := by
  have hl := hb.valid.level_lt
  rw [← getFillLevel_eq hb hN hu] at hl
  unfold remaining
  rw [hb.size, sub32_of_le (by omega) hN, sub32_of_le (by omega) (by omega)]
  omega

/-! ## What each copy does to the ring -/

variable {N : Nat} {n : Nat}

/-- The samples between the two indices. -/
def stored (N : Nat) (b : IasLocalAudioBuffer) : Nat := level N b.mReadIndex b.mWriteIndex

theorem stored_congr {c : IasLocalAudioBuffer} (h : b.ring = c.ring) :
    stored N b = stored N c := by
  simp only [ring, Ring.mk.injEq] at h
  unfold stored
  rw [h.2.1, h.2.2.1]

theorem copyInBlock_spec (hb : Rep N b) (hN : N < 4294967296) (buffer : Nat → AudioData)
    (hn : stored N b + n < N) :
    Rep N (b.copyInBlock buffer n) ∧ stored N (b.copyInBlock buffer n) = stored N b + n := by
  have hw := hb.valid.write_le
  have hsub : sub32 b.mTotalSize b.mWriteIndex = N - b.mWriteIndex := by
    rw [hb.size, sub32_of_le hw hN]
  obtain ⟨hv, hl⟩ := restAt_write hb.valid hn
  unfold copyInBlock
  rw [hsub]
  by_cases h : n > N - b.mWriteIndex
  · have hi : restAt N b.mWriteIndex n = n - (N - b.mWriteIndex) := if_pos h
    rw [hi] at hv hl
    rw [if_pos h]
    refine ⟨⟨hb.size, hv, ?_⟩, hl⟩
    exact Memory.within_copyIn (Memory.within_copyIn hb.within (by omega)) (by omega)
  · have hi : restAt N b.mWriteIndex n = b.mWriteIndex + n := if_neg h
    rw [hi] at hv hl
    rw [if_neg h, add32_of_lt (by omega)]
    exact ⟨⟨hb.size, hv, Memory.within_copyIn hb.within (by omega)⟩, hl⟩

theorem copyOutBlock_spec (hb : Rep N b) (hN : N < 4294967296) (hn : n ≤ stored N b) :
    Rep N (b.copyOutBlock n).1 ∧ stored N (b.copyOutBlock n).1 = stored N b - n ∧
      (b.copyOutBlock n).2.length = n := by
  have hr := hb.valid.read_le
  have hsub : sub32 b.mTotalSize b.mReadIndex = N - b.mReadIndex := by
    rw [hb.size, sub32_of_le hr hN]
  obtain ⟨hv, hl⟩ := restAt_read hb.valid hn
  have hlt : stored N b < N := hb.valid.level_lt
  unfold copyOutBlock
  rw [hsub]
  by_cases h : n > N - b.mReadIndex
  · have hi : restAt N b.mReadIndex n = n - (N - b.mReadIndex) := if_pos h
    rw [hi] at hv hl
    rw [if_pos h]
    refine ⟨⟨hb.size, hv, ?_⟩, hl, ?_⟩
    · exact Memory.within_copyOut (Memory.within_copyOut hb.within (by omega)) (by omega)
    · simp only [Memory.copyOut, List.length_append, List.length_map, List.length_range']
      omega
  · have hi : restAt N b.mReadIndex n = b.mReadIndex + n := if_neg h
    rw [hi] at hv hl
    rw [if_neg h, add32_of_lt (by omega)]
    refine ⟨⟨hb.size, hv, Memory.within_copyOut hb.within (by omega)⟩, hl, ?_⟩
    simp [Memory.copyOut]

/-- The register form of a step of one with an immediate wrap. -/
theorem wrapAt_one {i : Nat} (hi : i < N) (hN : N < 4294967296) :
    (if sub32 N i = 1 then 0 else add32 i 1) = wrapAt N i 1 := by
  rw [sub32_of_le (by omega) hN]
  unfold add32 wrapAt
  split <;> split <;> omega

theorem storeSample_ring (sample : AudioData) :
    (b.storeSample sample).ring =
      { b.ring with
        write := if sub32 b.mTotalSize b.mWriteIndex = 1 then 0 else add32 b.mWriteIndex 1
        cells := b.mBuffer.copyIn b.mWriteIndex (fun _ => sample) 1 } := by
  unfold storeSample
  rw [ring_noteReference]
  split <;> rfl

theorem storeSample_spec (hb : Rep N b) (hN : N < 4294967296) (sample : AudioData)
    (hin : b.mWriteIndex < N) (hn : stored N b + 1 < N) :
    Rep N (b.storeSample sample) ∧ (b.storeSample sample).mWriteIndex < N ∧
      stored N (b.storeSample sample) = stored N b + 1 := by
  have hring := storeSample_ring (b := b) sample
  rw [hb.size, wrapAt_one hin hN] at hring
  simp only [ring, Ring.mk.injEq] at hring
  obtain ⟨hsize, hread, hwrite, hcells⟩ := hring
  obtain ⟨hv, hl⟩ := wrapAt_write hb.valid hn hin
  refine ⟨⟨hsize.trans hb.size, by rw [hread, hwrite]; exact hv, ?_⟩, ?_, ?_⟩
  · rw [hcells]
    exact Memory.within_copyIn hb.within (by omega)
  · rw [hwrite]
    unfold wrapAt
    split <;> omega
  · unfold stored
    rw [hread, hwrite]
    exact hl

theorem storeSamples_spec (hN : N < 4294967296) (advance : Nat) :
    ∀ (n : Nat) {b : IasLocalAudioBuffer} (buffer : Nat → AudioData), Rep N b →
      (n = 0 ∨ b.mWriteIndex < N) → stored N b + n < N →
      Rep N (storeSamples advance b buffer n) ∧
        stored N (storeSamples advance b buffer n) = stored N b + n
  | 0, _, _, hb, _, _ => ⟨hb, rfl⟩
  | n + 1, b, buffer, hb, hin, hn => by
      have hin' : b.mWriteIndex < N := by omega
      obtain ⟨hb', hin'', hl⟩ := storeSample_spec hb hN (buffer 0) hin' (by omega)
      have ih := storeSamples_spec hN advance n (fun i => buffer (advance + i)) hb'
        (Or.inr hin'') (by omega)
      refine ⟨ih.1, ?_⟩
      rw [storeSamples, ih.2, hl]
      omega

theorem loadSample_spec (hb : Rep N b) (hN : N < 4294967296) (hin : b.mReadIndex < N)
    (hn : 1 ≤ stored N b) (hrest : b.mWriteIndex < N ∨ 1 < stored N b) :
    Rep N b.loadSample.1 ∧ b.loadSample.1.mReadIndex < N ∧
      b.loadSample.1.mWriteIndex = b.mWriteIndex ∧
      stored N b.loadSample.1 = stored N b - 1 ∧ b.loadSample.2.length = 1 := by
  have hi : b.loadSample.1.mReadIndex = wrapAt N b.mReadIndex 1 := by
    rw [← wrapAt_one hin hN, ← hb.size]
    rfl
  obtain ⟨hv, hl⟩ := wrapAt_read hb.valid hn hin hrest
  rw [← hi] at hv hl
  refine ⟨⟨hb.size, hv, ?_⟩, ?_, rfl, hl, by simp [loadSample, Memory.copyOut]⟩
  · exact Memory.within_copyOut hb.within (by omega)
  · rw [hi]
    unfold wrapAt
    split <;> omega

/-- The loop drains the ring only if the writer does not rest at the end. -/
theorem loadSamples_spec (hN : N < 4294967296) :
    ∀ (n : Nat) {b : IasLocalAudioBuffer}, Rep N b → (n = 0 ∨ b.mReadIndex < N) →
      n ≤ stored N b → (n = 0 ∨ b.mWriteIndex < N ∨ n < stored N b) →
      Rep N (b.loadSamples n).1 ∧ stored N (b.loadSamples n).1 = stored N b - n ∧
        (b.loadSamples n).2.length = n
  | 0, _, hb, _, _, _ => ⟨hb, rfl, rfl⟩
  | n + 1, b, hb, hin, hn, hrest => by
      have hin' : b.mReadIndex < N := by omega
      obtain ⟨hb', hin'', hw, hl, hlen⟩ := loadSample_spec hb hN hin' (by omega) (by omega)
      obtain ⟨hb'', hl', hlen'⟩ := loadSamples_spec hN n hb' (Or.inr hin'') (by omega)
        (by rw [hw]; omega)
      refine ⟨hb'', ?_, ?_⟩
      · show stored N (b.loadSample.1.loadSamples n).1 = _
        rw [hl', hl]
        omega
      · show (b.loadSample.2 ++ (b.loadSample.1.loadSamples n).2).length = _
        rw [List.length_append, hlen, hlen']
        omega

/-! ## What each call does -/

/-- What a call must find for the two ways of wrapping to agree. A reset must not ask
for a fill whose distance past the wrap a register cannot hold; a strided write must
not start at the end of the ring; a strided read must not start there either, nor
catch up with a writer that rests there. -/
def Compatible (b : IasLocalAudioBuffer) : Call → Prop
  | .reset k => k ≤ b.mWriteIndex ∨ k - b.mWriteIndex < 4294967296 - b.mTotalSize
  | .write _ _ => True
  | .writeStrided _ n stride =>
      stride = 2 ∨ n = 0 ∨ b.remaining = 0 ∨ b.mWriteIndex < b.mTotalSize
  | .read _ => True
  | .readStrided n stride =>
      stride = 2 ∨ n = 0 ∨ b.getFillLevel = 0 ∨
        b.mReadIndex < b.mTotalSize ∧ (b.mWriteIndex < b.mTotalSize ∨ n < b.getFillLevel)

instance (b : IasLocalAudioBuffer) : ∀ c, Decidable (b.Compatible c)
  | .reset _ => inferInstanceAs (Decidable (_ ∨ _))
  | .write _ _ => inferInstanceAs (Decidable True)
  | .writeStrided _ _ _ => inferInstanceAs (Decidable (_ ∨ _))
  | .read _ => inferInstanceAs (Decidable True)
  | .readStrided _ _ => inferInstanceAs (Decidable (_ ∨ _))

/-- The condition on one call, in the state it is made in. -/
def Safe (b : IasLocalAudioBuffer) (c : Call) : Prop := b.Unambiguous ∧ b.Compatible c

instance (b : IasLocalAudioBuffer) (c : Call) : Decidable (b.Safe c) :=
  inferInstanceAs (Decidable (_ ∧ _))

theorem newReadIndex_eq (hb : Rep N b) (hN : N < 4294967296) {k : Nat} (hk : k < N)
    (hc : k ≤ b.mWriteIndex ∨ k - b.mWriteIndex < 4294967296 - N) :
    b.newReadIndex k = if k ≤ b.mWriteIndex then b.mWriteIndex - k
      else N - (k - b.mWriteIndex) := by
  have hw := hb.valid.write_le
  unfold newReadIndex
  rw [hb.size]
  by_cases h : k ≤ b.mWriteIndex
  · have hs := sub32_of_le h (by omega)
    rw [if_pos h, hs, if_neg (by omega)]
  · have hs := sub32_of_lt (Nat.lt_of_not_le h) (by omega)
    rw [if_neg h, hs, if_pos (by omega)]
    unfold add32
    omega

theorem padWithZeros_within (hb : Rep N b) (hN : N < 4294967296) {k : Nat}
    (hi : b.newReadIndex k ≤ N) : (b.padWithZeros k).mBuffer.Within N := by
  have hr := hb.valid.read_le
  unfold padWithZeros
  dsimp only
  split
  · split
    · exact Memory.within_copyIn hb.within (by omega)
    · refine Memory.within_copyIn (Memory.within_copyIn hb.within ?_) (by omega)
      rw [hb.size, sub32_of_le hi hN]
      omega
  · exact hb.within

theorem padWithZeros_size (k : Nat) : (b.padWithZeros k).mTotalSize = b.mTotalSize := by
  unfold padWithZeros
  dsimp only
  split
  · split <;> rfl
  · rfl

theorem padWithZeros_write (k : Nat) : (b.padWithZeros k).mWriteIndex = b.mWriteIndex := by
  unfold padWithZeros
  dsimp only
  split
  · split <;> rfl
  · rfl

theorem reset_spec (hb : Rep N b) (hN : N < 4294967296) {k : Nat} (hk : k < N)
    (hc : k ≤ b.mWriteIndex ∨ k - b.mWriteIndex < 4294967296 - N) :
    Rep N (b.reset k) ∧ stored N (b.reset k) = k := by
  obtain ⟨hv, hl⟩ := rewind (n := k) hb.valid.write_le hk
  have hi := newReadIndex_eq hb hN hk hc
  rw [← hi] at hv hl
  have hw : (b.reset k).mWriteIndex = b.mWriteIndex := padWithZeros_write k
  have hs : (b.reset k).mTotalSize = b.mTotalSize := padWithZeros_size k
  refine ⟨⟨hs.trans hb.size, ?_, padWithZeros_within hb hN hv.read_le⟩, ?_⟩
  · rw [hw]
    exact hv
  · unfold stored
    rw [hw]
    exact hl

/-- What a write call takes fits. -/
theorem room_for_write (hb : Rep N b) (hN : N < 4294967296) (hu : b.Unambiguous) (n : Nat) :
    stored N (b.noteOverrun n) + min n b.remaining < N := by
  have hrem := remaining_eq hb hN hu
  have hlt : stored N b < N := hb.valid.level_lt
  rw [getFillLevel_eq hb hN hu] at hrem
  rw [stored_congr (ring_noteOverrun n), hrem]
  unfold stored at hlt ⊢
  omega

/-- A write call adds what it reports. -/
theorem write_spec (hb : Rep N b) (hN : N < 4294967296) (hu : b.Unambiguous)
    (buffer : Nat → AudioData) (n : Nat) :
    Rep N (b.write buffer n).1 ∧
      stored N (b.write buffer n).1 = stored N b + (b.write buffer n).2 := by
  have hov : (b.noteOverrun n).ring = b.ring := ring_noteOverrun n
  obtain ⟨hb', hl⟩ := copyInBlock_spec (hb.congr hov.symm) hN buffer
    (room_for_write hb hN hu n)
  rw [stored_congr hov] at hl
  unfold write
  dsimp only
  refine ⟨hb'.congr (by simp), ?_⟩
  rw [stored_congr (ring_noteWritten _), stored_congr ring_noteReference]
  exact hl

theorem writeStrided_two (buffer : Nat → AudioData) (n : Nat) :
    b.writeStrided buffer n 2 = b.write buffer n := rfl

theorem writeStrided_interleaved (buffer : Nat → AudioData) (n : Nat) {stride : Nat}
    (hs : stride ≠ 2) : (b.writeStrided buffer n stride).1 =
      (storeSamples (stride / 2) (b.noteOverrun n) buffer (min n b.remaining)).noteWritten
        (min n b.remaining) := by
  simp only [writeStrided, if_neg hs]

theorem writeStrided_count (buffer : Nat → AudioData) (n stride : Nat) :
    (b.writeStrided buffer n stride).2 = min n b.remaining := by
  unfold writeStrided
  dsimp only
  split <;> rfl

theorem writeStrided_spec (hb : Rep N b) (hN : N < 4294967296) (hu : b.Unambiguous)
    (buffer : Nat → AudioData) (n stride : Nat)
    (hc : b.Compatible (.writeStrided buffer n stride)) :
    Rep N (b.writeStrided buffer n stride).1 ∧
      stored N (b.writeStrided buffer n stride).1 =
        stored N b + (b.writeStrided buffer n stride).2 := by
  by_cases hs : stride = 2
  · subst hs
    rw [writeStrided_two]
    exact write_spec hb hN hu buffer n
  rw [writeStrided_interleaved buffer n hs, writeStrided_count]
  have hov : (b.noteOverrun n).ring = b.ring := ring_noteOverrun n
  have hwi := writeIndex_congr hov
  have hin : min n b.remaining = 0 ∨ (b.noteOverrun n).mWriteIndex < N := by
    rw [hwi]
    rcases hc with h | h | h | h
    · exact absurd h hs
    · exact Or.inl (by omega)
    · exact Or.inl (by omega)
    · exact Or.inr (hb.size ▸ h)
  obtain ⟨hb', hl⟩ := storeSamples_spec hN (stride / 2) (min n b.remaining) buffer
    (hb.congr hov.symm) hin (room_for_write hb hN hu n)
  rw [stored_congr hov] at hl
  refine ⟨hb'.congr (ring_noteWritten _).symm, ?_⟩
  rw [stored_congr (ring_noteWritten _)]
  exact hl

/-- A read call removes what it delivers. -/
theorem read_spec (hb : Rep N b) (hN : N < 4294967296) (hu : b.Unambiguous) (n : Nat) :
    Rep N (b.read n).1 ∧
      stored N (b.read n).1 + (b.read n).2.length = stored N b := by
  have hfill : b.getFillLevel = stored N b := getFillLevel_eq hb hN hu
  obtain ⟨hb', hl, hlen⟩ := copyOutBlock_spec (n := min n b.getFillLevel) hb hN (by omega)
  unfold read
  dsimp only
  refine ⟨hb'.congr (by simp), ?_⟩
  rw [stored_congr (ring_noteRead _), hl, hlen]
  omega

theorem readStrided_two (n : Nat) : b.readStrided n 2 = b.read n := rfl

theorem readStrided_interleaved (n : Nat) {stride : Nat} (hs : stride ≠ 2) :
    b.readStrided n stride =
      ((b.loadSamples (min n b.getFillLevel)).1.noteRead (min n b.getFillLevel),
        (b.loadSamples (min n b.getFillLevel)).2) := by
  simp only [readStrided, if_neg hs]

theorem readStrided_spec (hb : Rep N b) (hN : N < 4294967296) (hu : b.Unambiguous)
    (n stride : Nat) (hc : b.Compatible (.readStrided n stride)) :
    Rep N (b.readStrided n stride).1 ∧
      stored N (b.readStrided n stride).1 + (b.readStrided n stride).2.length =
        stored N b := by
  by_cases hs : stride = 2
  · subst hs
    rw [readStrided_two]
    exact read_spec hb hN hu n
  rw [readStrided_interleaved n hs]
  dsimp only
  have hfill : b.getFillLevel = stored N b := getFillLevel_eq hb hN hu
  have hc' : n = 0 ∨ b.getFillLevel = 0 ∨
      b.mReadIndex < N ∧ (b.mWriteIndex < N ∨ n < b.getFillLevel) := by
    rcases hc with h | h
    · exact absurd h hs
    · rwa [hb.size] at h
  obtain ⟨hb', hl, hlen⟩ := loadSamples_spec hN (min n b.getFillLevel) hb (by omega)
    (by omega) (by omega)
  refine ⟨hb'.congr (ring_noteRead _).symm, ?_⟩
  rw [stored_congr (ring_noteRead _), hl, hlen]
  omega

end AvbStreamHandler.IasLocalAudioBuffer
