import AvbStreamHandler.Audio.LocalAudioBufferControl
import AvbStreamHandler.Audio.LocalAudioBufferProof
import AvbStreamHandler.Kit.RestingQueue

/-!
# The local audio buffer is a queue

Whoever does not stride sees a first-in-first-out queue of at most `N - 1` samples: a
write appends what fits, a read takes from the front, and a reset cuts the queue to its
youngest samples or fills it up with silence in front. `Fifo` is that queue, and
`fifo_refined` says that a buffer driven by block calls can not be told from it.

The two monotonic indices tell how much is buffered, with one reservation. Every reset
puts both to zero, the samples it leaves in the buffer notwithstanding. Their difference
is the fill level less what the last reset left, and the fill level only if that was
nothing.
-/

namespace AvbStreamHandler.IasLocalAudioBuffer

open Kit Kit.Run Kit.Word Kit.RingIndex Kit.RestingQueue
open Kit.RingQueue (slot)

/-! ## The queue -/

/-- A queue of samples. -/
structure Fifo where
  /-- The oldest first. -/
  samples : List AudioData := []
  /-- What the last reset left. -/
  base : Nat := 0

/-- The calls of a user who does not stride. -/
inductive BlockCall
  | reset (optimalFillLevel : Nat)
  | write (buffer : Nat → AudioData) (nrSamples : Nat)
  | read (nrSamples : Nat)

def BlockCall.toCall : BlockCall → Call
  | .reset k => .reset k
  | .write buffer n => .write buffer n
  | .read n => .read n

def blockStep (b : IasLocalAudioBuffer) (c : BlockCall) : IasLocalAudioBuffer :=
  b.step c.toCall

/-- A reset keeps one element free. -/
def BlockCall.Admitted (N : Nat) : BlockCall → Prop
  | .reset k => k ≤ N - 1
  | .write _ _ => True
  | .read _ => True

namespace Fifo

/-- What a queue in a ring of `N` takes of `n` samples. -/
def taken (N : Nat) (f : Fifo) (n : Nat) : Nat := min n (N - 1 - f.samples.length)

/-- The youngest `k` samples, with silence in front if there are fewer. -/
def youngest (f : Fifo) (k : Nat) : List AudioData :=
  List.replicate (k - f.samples.length) 0 ++ f.samples.drop (f.samples.length - k)

def step (N : Nat) (f : Fifo) : BlockCall → Fifo
  | .reset k => { samples := f.youngest k, base := k }
  | .write buffer n =>
      { f with samples := f.samples ++ (List.range (f.taken N n)).map buffer }
  | .read n => { f with samples := f.samples.drop n }

theorem length_youngest (f : Fifo) (k : Nat) : (f.youngest k).length = k := by
  unfold youngest
  rw [List.length_append, List.length_replicate, List.length_drop]
  omega

end Fifo

/-- **A buffer that can not be told from the queue.** -/
structure Behaves (N : Nat) (b : IasLocalAudioBuffer) (f : Fifo) : Prop where
  /-- As much is buffered as is in the queue. -/
  fill : b.getFillLevel = f.samples.length
  /-- A write takes what fits. -/
  accepts : ∀ buffer n, (b.write buffer n).2 = min n (N - 1 - f.samples.length)
  /-- A read delivers the oldest samples, in order. -/
  delivers : ∀ n, (b.read n).2 = f.samples.take n
  /-- The monotonic indices are apart by what is buffered, less what the last reset left. -/
  monotonic : add64 (sub64 b.mMonotonicWriteIndex b.mMonotonicReadIndex) f.base
    = f.samples.length

/-! ## The samples behind the indices -/

variable {b : IasLocalAudioBuffer} {N n : Nat} {f : Fifo}

/-- The block copy writes behind the writer. -/
theorem copyInBlock_cells (hb : Rep N b) (hN : N < 4294967296) (buffer : Nat → AudioData)
    (hn : stored N b + n < N) :
    (b.copyInBlock buffer n).mWriteIndex = restAt N b.mWriteIndex n ∧
      Overwritten N b.mWriteIndex n buffer b.mBuffer.cell
        (b.copyInBlock buffer n).mBuffer.cell := by
  have hw := hb.valid.write_le
  have hsub : sub32 b.mTotalSize b.mWriteIndex = N - b.mWriteIndex := by
    rw [hb.size, sub32_of_le hw hN]
  unfold copyInBlock restAt
  rw [hsub]
  by_cases h : n > N - b.mWriteIndex
  · rw [if_pos h, if_pos h]
    exact ⟨rfl, overwritten_copyIn_split b.mBuffer hw (by omega) (by omega)⟩
  · rw [if_neg h, if_neg h]
    exact ⟨add32_of_lt (by omega), overwritten_copyIn b.mBuffer (by omega)⟩

/-- The block copy delivers the samples behind the reader. -/
theorem copyOutBlock_cells (hb : Rep N b) (hN : N < 4294967296) :
    (b.copyOutBlock n).1.mReadIndex = restAt N b.mReadIndex n ∧
      (b.copyOutBlock n).1.mBuffer.cell = b.mBuffer.cell ∧
      (b.copyOutBlock n).2 =
        (List.range n).map fun i => b.mBuffer.cell (slot N b.mReadIndex i) := by
  have hr := hb.valid.read_le
  have hsub : sub32 b.mTotalSize b.mReadIndex = N - b.mReadIndex := by
    rw [hb.size, sub32_of_le hr hN]
  unfold copyOutBlock restAt
  rw [hsub]
  by_cases h : n > N - b.mReadIndex
  · rw [if_pos h, if_pos h]
    exact ⟨rfl, rfl, copyOut_split_slots b.mBuffer hr (by omega)⟩
  · rw [if_neg h, if_neg h]
    exact ⟨add32_of_lt (by omega), rfl, copyOut_slots b.mBuffer (by omega)⟩

/-- A write puts its block behind the writer. -/
theorem write_cells (hb : Rep N b) (hN : N < 4294967296) (hu : b.Unambiguous)
    (buffer : Nat → AudioData) (n : Nat) :
    (b.write buffer n).1.mReadIndex = b.mReadIndex ∧
      (b.write buffer n).1.mWriteIndex = restAt N b.mWriteIndex (min n b.remaining) ∧
      Overwritten N b.mWriteIndex (min n b.remaining) buffer b.mBuffer.cell
        (b.write buffer n).1.mBuffer.cell := by
  have hov : (b.noteOverrun n).ring = b.ring := ring_noteOverrun n
  have hwi := writeIndex_congr hov
  have hmem := buffer_congr hov
  obtain ⟨hw, hcells⟩ := copyInBlock_cells (hb.congr hov.symm) hN buffer
    (room_for_write hb hN hu n)
  have hring : (b.write buffer n).1.ring =
      ((b.noteOverrun n).copyInBlock buffer (min n b.remaining)).ring := by
    unfold write
    simp
  have hread : (b.write buffer n).1.control.mReadIndex = b.mReadIndex := by
    rw [control_write]
    rfl
  rw [writeIndex_congr hring, buffer_congr hring]
  rw [hwi] at hw hcells
  rw [hmem] at hcells
  exact ⟨hread, hw, hcells⟩

/-- A read leaves the samples where they are. -/
theorem read_cells (hb : Rep N b) (hN : N < 4294967296) (n : Nat) :
    (b.read n).1.mWriteIndex = b.mWriteIndex ∧
      (b.read n).1.mReadIndex = restAt N b.mReadIndex (min n b.getFillLevel) ∧
      (b.read n).1.mBuffer.cell = b.mBuffer.cell ∧
      (b.read n).2 = (List.range (min n b.getFillLevel)).map fun i =>
        b.mBuffer.cell (slot N b.mReadIndex i) := by
  obtain ⟨hr, hcell, hlist⟩ := copyOutBlock_cells (n := min n b.getFillLevel) hb hN
  have hring : (b.read n).1.ring = (b.copyOutBlock (min n b.getFillLevel)).1.ring := by
    unfold read
    simp
  have hwrite : (b.read n).1.control.mWriteIndex = b.mWriteIndex := by
    rw [control_read]
    rfl
  simp only [ring, Ring.mk.injEq] at hring
  rw [hring.2.1, hring.2.2.2]
  exact ⟨hwrite, hr, hcell, hlist⟩

/-- What a reset that needs silence fills: the slots between the new place of the reader
and the old one. -/
theorem padWithZeros_cells (hb : Rep N b) (hN : N < 4294967296) (hu : b.Unambiguous) {k : Nat}
    (hk : k < N) (hi : b.newReadIndex k = behind N b.mWriteIndex k) (hfew : stored N b < k) :
    Overwritten N (behind N b.mWriteIndex k) (k - stored N b) (fun _ => 0) b.mBuffer.cell
      (b.padWithZeros k).mBuffer.cell := by
  have hfill : b.getFillLevel = stored N b := getFillLevel_eq hb hN hu
  have hle : behind N b.mWriteIndex k ≤ N := behind_le hb.valid.write_le
  have hr := hb.valid.read_le
  have hgap : k - stored N b = _ := gap_eq hb.valid hfew hk
  unfold padWithZeros
  dsimp only
  rw [hfill, if_pos hfew, hi]
  by_cases h : behind N b.mWriteIndex k < b.mReadIndex
  · rw [if_pos h] at hgap ⊢
    rw [← hgap]
    exact overwritten_copyIn b.mBuffer (by omega)
  · rw [if_neg h] at hgap ⊢
    have hrest : b.mReadIndex = k - stored N b - (N - behind N b.mWriteIndex k) := by omega
    have hsplit := @overwritten_copyIn_split AudioData _ (k - stored N b) _ (fun _ => 0) b.mBuffer
      hle (by omega) (by omega)
    rw [← hrest] at hsplit
    rw [hb.size, sub32_of_le hle hN]
    exact hsplit

/-! ## The refinement -/

/-- The ring holds the queue, and the monotonic indices are as far apart as they say. -/
structure Refines (N : Nat) (b : IasLocalAudioBuffer) (f : Fifo) : Prop where
  rep : Rep N b
  holds : Holds N b.mReadIndex b.mWriteIndex b.mBuffer.cell f.samples
  monotonic : (b.mMonotonicWriteIndex + f.base) % 18446744073709551616
    = (b.mMonotonicReadIndex + f.samples.length) % 18446744073709551616

theorem refines_init (hN : 0 < N) (doAnalysis : Bool) (heap : Nat → AudioData) :
    Refines N (init N doAnalysis heap) {} where
  rep := rep_init hN doAnalysis heap
  holds := holds_nil hN (Nat.zero_le N)
  monotonic := rfl

section Small

variable (hN : N < 2147483648)
include hN

theorem Refines.fill (h : Refines N b f) : b.getFillLevel = f.samples.length := by
  rw [getFillLevel_eq h.rep (by omega) (h.rep.unambiguous hN), h.holds.length]

theorem Refines.remaining (h : Refines N b f) : b.remaining = N - 1 - f.samples.length := by
  rw [remaining_eq h.rep (by omega) (h.rep.unambiguous hN), h.fill hN]

/-- **A write appends what fits.** -/
theorem Refines.write (h : Refines N b f) (buffer : Nat → AudioData) (n : Nat) :
    Refines N (b.write buffer n).1 (f.step N (.write buffer n)) := by
  have hu := h.rep.unambiguous hN
  have hlt := h.rep.valid.level_lt
  have hlen := h.holds.length
  obtain ⟨hread, hwrite, hcells⟩ := write_cells h.rep (by omega) hu buffer n
  have hmono : (b.write buffer n).1.control.mMonotonicWriteIndex
      = add64 b.mMonotonicWriteIndex (min n b.remaining) := by
    rw [control_write]
    rfl
  have hmonoRead : (b.write buffer n).1.control.mMonotonicReadIndex = b.mMonotonicReadIndex := by
    rw [control_write]
    rfl
  have hn : min n b.remaining = f.taken N n := by
    unfold Fifo.taken
    rw [h.remaining hN]
  rw [hn] at hwrite hcells hmono
  have hroom : f.samples.length + f.taken N n < N := by
    unfold Fifo.taken
    omega
  refine ⟨(write_spec h.rep (by omega) hu buffer n).1, ?_, ?_⟩
  · rw [hread, hwrite]
    exact h.holds.push hroom hcells
  · have hm := h.monotonic
    dsimp only [control] at hmono hmonoRead
    rw [hmono, hmonoRead]
    dsimp only [Fifo.step]
    rw [List.length_append, List.length_map, List.length_range]
    unfold add64
    omega

/-- **A read takes the front away.** -/
theorem Refines.read (h : Refines N b f) (n : Nat) :
    Refines N (b.read n).1 (f.step N (.read n)) ∧ (b.read n).2 = f.samples.take n := by
  have hu := h.rep.unambiguous hN
  obtain ⟨hwrite, hread, hcells, hlist⟩ := read_cells h.rep (by omega) n
  have hmono : (b.read n).1.control.mMonotonicReadIndex
      = add64 b.mMonotonicReadIndex (min n b.getFillLevel) := by
    rw [control_read]
    rfl
  have hmonoWrite : (b.read n).1.control.mMonotonicWriteIndex = b.mMonotonicWriteIndex := by
    rw [control_read]
    rfl
  rw [h.fill hN] at hread hlist hmono
  have hmin : min n f.samples.length ≤ f.samples.length := Nat.min_le_right _ _
  have hdrop : f.samples.drop (min n f.samples.length) = f.samples.drop n := by
    rcases Nat.le_total n f.samples.length with hle | hle
    · rw [Nat.min_eq_left hle]
    · rw [Nat.min_eq_right hle, List.drop_length, List.drop_eq_nil_of_le hle]
  refine ⟨⟨(read_spec h.rep (by omega) hu n).1, ?_, ?_⟩, ?_⟩
  · rw [hread, hwrite, hcells]
    dsimp only [Fifo.step]
    rw [← hdrop]
    exact h.holds.pop hmin
  · have hm := h.monotonic
    dsimp only [control] at hmono hmonoWrite
    rw [hmono, hmonoWrite]
    dsimp only [Fifo.step]
    rw [List.length_drop]
    unfold add64
    omega
  · rw [hlist, h.holds.front hmin]
    simp

/-- **A reset keeps the youngest samples** and puts silence in front. -/
theorem Refines.reset (h : Refines N b f) {k : Nat} (hk : k ≤ N - 1) (hpos : 0 < N) :
    Refines N (b.reset k) (f.step N (.reset k)) := by
  have hu := h.rep.unambiguous hN
  have hw := h.rep.valid.write_le
  have hlen : f.samples.length = stored N b := h.holds.length
  have hc : k ≤ b.mWriteIndex ∨ k - b.mWriteIndex < 4294967296 - N := by omega
  have hi : b.newReadIndex k = behind N b.mWriteIndex k :=
    newReadIndex_eq h.rep (by omega) (by omega) hc
  have hwrite : (b.reset k).mWriteIndex = b.mWriteIndex := padWithZeros_write k
  have hread : (b.reset k).mReadIndex = behind N b.mWriteIndex k := hi
  refine ⟨(reset_spec h.rep (by omega) (by omega) hc).1, ?_, ?_⟩
  · rw [hread, hwrite]
    show Holds N _ _ (b.padWithZeros k).mBuffer.cell (f.youngest k)
    unfold Fifo.youngest
    rcases Nat.lt_or_ge (stored N b) k with hfew | henough
    · have hcells := padWithZeros_cells h.rep (by omega) hu (by omega) hi hfew
      rw [← hlen] at hcells
      rw [show f.samples.length - k = 0 by omega, List.drop_zero]
      exact h.holds.rewind_gt (by omega) (by omega) hcells
    · have hfill : b.getFillLevel = stored N b := getFillLevel_eq h.rep (by omega) hu
      have hsame : b.padWithZeros k = b := if_neg (by omega)
      rw [hsame, show k - f.samples.length = 0 by omega, List.replicate_zero, List.nil_append]
      exact h.holds.rewind_le (by omega)
  · show (0 + k) % _ = (0 + (f.youngest k).length) % _
    rw [Fifo.length_youngest]

/-- **A block call keeps the refinement.** -/
theorem Refines.step (h : Refines N b f) (hpos : 0 < N) {c : BlockCall} (hc : c.Admitted N) :
    Refines N (b.blockStep c) (f.step N c) := by
  cases c with
  | reset k => exact h.reset hN hc hpos
  | write buffer n => exact h.write hN buffer n
  | read n => exact (h.read hN n).1

theorem Refines.run (hpos : 0 < N) : ∀ (cs : List BlockCall) {b : IasLocalAudioBuffer} {f : Fifo},
    Refines N b f → (∀ c ∈ cs, c.Admitted N) →
      Refines N (exec blockStep b cs) (exec (Fifo.step N) f cs)
  | [], _, _, h, _ => h
  | c :: cs, _, _, h, hc => by
      rw [exec_cons, exec_cons]
      exact Refines.run hpos cs (h.step hN hpos (hc c List.mem_cons_self))
        fun c' hc' => hc c' (List.mem_cons_of_mem c hc')

/-- **A buffer that holds the queue can not be told from it.** -/
theorem Refines.behaves (h : Refines N b f) (hpos : 0 < N) : Behaves N b f where
  fill := h.fill hN
  accepts buffer n := by
    rw [← h.remaining hN]
    rfl
  delivers n := (h.read hN n).2
  monotonic := by
    have hm := h.monotonic
    have hlen := h.holds.length
    have hlt := h.rep.valid.level_lt
    unfold add64 sub64
    omega

end Small

/-- **The local audio buffer is a bounded queue**: after every run of block calls on a ring
of less than `2 ^ 31` samples it behaves as the queue those calls make. -/
theorem fifo_refined (hpos : 0 < N) (hN : N < 2147483648) (doAnalysis : Bool)
    (heap : Nat → AudioData) (cs : List BlockCall) (hc : ∀ c ∈ cs, c.Admitted N) :
    Behaves N (exec blockStep (init N doAnalysis heap) cs)
      (exec (Fifo.step N) {} cs) :=
  (Refines.run hN hpos cs (refines_init hpos doAnalysis heap) hc).behaves hN hpos

/-- Three samples into a ring of five, a reset that keeps two, and a read that asks for
four. -/
theorem fifo_refined_short :
    Behaves 5
      (exec blockStep (init 5 false fun _ => 0)
        [.write (fun i => BitVec.ofNat 16 i) 3, .reset 2, .read 4])
      (exec (Fifo.step 5) {} [.write (fun i => BitVec.ofNat 16 i) 3, .reset 2, .read 4]) :=
  fifo_refined (by omega) (by omega) false _ _ (by simp [BlockCall.Admitted])

/-- **Where the buffer is told from a queue of which the monotonic indices tell the fill.**
A reset that keeps two of three samples sets the indices to an equal value. And in a ring of
`2 ^ 31` samples, a reset to one sample and the reading of that sample leave a buffer that
says it holds `2 ^ 31`. -/
theorem monotonic_lost :
    (let b := exec blockStep (init 5 false fun _ => 0)
        [.write (fun i => BitVec.ofNat 16 i) 3, .reset 2]
     b.getFillLevel = 2 ∧ sub64 b.mMonotonicWriteIndex b.mMonotonicReadIndex = 0) ∧
    (let b := exec blockStep (init 2147483648 false fun _ => 0) [.reset 1, .read 1]
     (exec (Fifo.step 2147483648) {} [.reset 1, .read 1]).samples = [] ∧
        b.getFillLevel = 2147483648) := by
  refine ⟨⟨by rfl, by rfl⟩, by rfl, ?_⟩
  rw [← control_fill, exec_cons, exec_cons, exec_nil]
  show (IasLocalAudioBuffer.read (reset _ 1) 1).1.control.getFillLevel = _
  rw [control_read, control_reset]
  rfl

end AvbStreamHandler.IasLocalAudioBuffer
