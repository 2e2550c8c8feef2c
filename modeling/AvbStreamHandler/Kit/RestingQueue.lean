import AvbStreamHandler.Kit.Memory
import AvbStreamHandler.Kit.RingQueue

/-!
# A queue between indices that may rest at the end

The ring of `Kit/RingIndex.lean` moved in blocks: an index that arrives at the end of the
ring stays there, where it names the same slot as zero does. The slots between the two
indices still hold a queue. A block goes in behind it, a block comes out of its front, and
the reader may be placed anew, any number of elements behind the writer: further back
than the queue reaches, in front of it lies whatever those slots were filled with.
-/

namespace Kit.RestingQueue

open Kit.RingIndex Kit.RingQueue

variable {α : Type}

/-- The ring holds the queue `q`. -/
structure Holds (N r w : Nat) (ring : Nat → α) (q : List α) : Prop where
  valid : Valid N r w
  length : q.length = level N r w
  elems : ∀ k (h : k < q.length), ring (slot N r k) = q[k]

/-- The read index `k` elements behind the writer. -/
def behind (N w k : Nat) : Nat := if k ≤ w then w - k else N - (k - w)

/-- `ring'` is `ring` with the `n` slots from `s` on overwritten from `src`. -/
structure Overwritten (N s n : Nat) (src ring ring' : Nat → α) : Prop where
  new : ∀ i < n, ring' (slot N s i) = src i
  old : ∀ j, (∀ i < n, j ≠ slot N s i) → ring' j = ring j

variable {N r w n k s : Nat} {ring ring' src : Nat → α} {q : List α}

/-! ## Writing a block -/

/-- A block that ends before the ring does. -/
theorem overwritten_copyIn (m : Memory α) (h : s + n ≤ N) :
    Overwritten N s n src m.cell (m.copyIn s src n).cell where
  new i hi := by
    have hslot : slot N s i = s + i := if_pos (by omega)
    dsimp only [Memory.copyIn]
    rw [hslot, if_pos (by omega)]
    congr 1
    omega
  old j hj := by
    refine if_neg fun hin => hj (j - s) (by omega) ?_
    unfold slot
    rw [if_pos (by omega)]
    omega

/-- A block that goes on at the beginning of the ring. -/
theorem overwritten_copyIn_split (m : Memory α) (hs : s ≤ N) (hn : N - s ≤ n) (hN : n ≤ N) :
    Overwritten N s n src m.cell
      ((m.copyIn s src (N - s)).copyIn 0 (fun i => src (N - s + i)) (n - (N - s))).cell where
  new i hi := by
    dsimp only [Memory.copyIn]
    unfold slot
    by_cases hfirst : s + i < N
    · rw [if_pos hfirst, if_neg (by omega), if_pos (by omega)]
      congr 1
      omega
    · rw [if_neg hfirst, if_pos (by omega)]
      congr 1
      omega
  old j hj := by
    dsimp only [Memory.copyIn]
    rw [if_neg, if_neg]
    · intro hin
      refine hj (j - s) (by omega) ?_
      unfold slot
      rw [if_pos (by omega)]
      omega
    · intro hin
      refine hj (N - s + j) (by omega) ?_
      unfold slot
      rw [if_neg (by omega)]
      omega

/-! ## Reading a block -/

/-- A block that ends before the ring does. -/
theorem copyOut_slots (m : Memory α) (h : s + n ≤ N) :
    (m.copyOut s n).1 = (List.range n).map fun i => m.cell (slot N s i) := by
  refine List.ext_getElem (by simp [Memory.copyOut]) fun i _ hi => ?_
  rw [List.length_map, List.length_range] at hi
  have hslot : slot N s i = s + i := if_pos (by omega)
  simp [Memory.copyOut, hslot]

/-- A block that goes on at the beginning of the ring. -/
theorem copyOut_split_slots (m : Memory α) (hs : s ≤ N) (hn : N - s ≤ n) :
    (m.copyOut s (N - s)).1 ++ (m.copyOut 0 (n - (N - s))).1
      = (List.range n).map fun i => m.cell (slot N s i) := by
  refine List.ext_getElem (by simp [Memory.copyOut]; omega) fun i _ hi => ?_
  rw [List.length_map, List.length_range] at hi
  rw [List.getElem_map, List.getElem_range]
  unfold slot
  by_cases hfirst : s + i < N
  · rw [if_pos hfirst, List.getElem_append_left (by simp [Memory.copyOut]; omega)]
    simp [Memory.copyOut]
  · rw [if_neg hfirst, List.getElem_append_right (by simp [Memory.copyOut]; omega)]
    simp only [Memory.copyOut, List.getElem_map, List.getElem_range', List.length_map,
      List.length_range']
    congr 1
    omega

/-! ## One slot under two names -/

/-- The slots behind the queue are those in front of the writer. -/
theorem slot_write (hv : Valid N r w) {i : Nat} (hi : level N r w + i < N) :
    slot N w i = slot N r (level N r w + i) := by
  obtain ⟨hr, hw, _⟩ := hv
  unfold level at hi ⊢
  unfold slot
  split_ifs at hi ⊢ <;> omega

theorem slot_restAt (hr : r ≤ N) {i : Nat} (hi : n + i < N) :
    slot N (restAt N r n) i = slot N r (n + i) := by
  unfold slot restAt
  split_ifs <;> omega

/-- Placed inside the queue, the reader skips its front. -/
theorem slot_behind_le (hv : Valid N r w) (hk : k ≤ level N r w) {i : Nat} (hi : i < k) :
    slot N (behind N w k) i = slot N r (level N r w - k + i) := by
  obtain ⟨hr, hw, hl⟩ := hv
  unfold level at hk hl ⊢
  unfold slot behind
  split_ifs at hk hl ⊢ <;> omega

/-- Placed in front of the queue, the reader finds it behind the gap. -/
theorem slot_behind_gt (hv : Valid N r w) (hk : level N r w < k) (hkN : k < N) {i : Nat}
    (hi : i < level N r w) : slot N (behind N w k) (k - level N r w + i) = slot N r i := by
  obtain ⟨hr, hw, hl⟩ := hv
  unfold level at hk hl hi ⊢
  unfold slot behind
  split_ifs at hk hl hi ⊢ <;> omega

/-- The gap ends where the reader was, in front of the end of the ring or behind it. -/
theorem gap_eq (hv : Valid N r w) (hk : level N r w < k) (hkN : k < N) :
    k - level N r w =
      if behind N w k < r then r - behind N w k else N - behind N w k + r := by
  obtain ⟨hr, hw, hl⟩ := hv
  unfold level at hk hl ⊢
  unfold behind
  split_ifs at hk hl ⊢ <;> omega

theorem behind_le (hw : w ≤ N) : behind N w k ≤ N := by
  unfold behind
  split <;> omega

/-- The slots of the gap hold none of the queue. -/
theorem slot_gap_ne (hw : w ≤ N) (hk : k < N) {i j : Nat} (hi : i < k)
    (hj : j < k) (hij : i ≠ j) : slot N (behind N w k) i ≠ slot N (behind N w k) j := by
  unfold slot behind
  split_ifs <;> omega

/-! ## The operations -/

theorem holds_nil (hN : 0 < N) (hr : r ≤ N) : Holds N r r ring ([] : List α) where
  valid := ⟨hr, hr, by unfold level; rw [if_pos (Nat.le_refl r), Nat.sub_self]; exact hN⟩
  length := by unfold level; rw [if_pos (Nat.le_refl r), Nat.sub_self, List.length_nil]
  elems k hk := by simp at hk

/-- **A block goes in** at the writer; the other slots keep what they had. -/
theorem Holds.push (h : Holds N r w ring q) (hroom : q.length + n < N)
    (hw : Overwritten N w n src ring ring') :
    Holds N r (restAt N w n) ring' (q ++ (List.range n).map src) := by
  have hlen := h.length
  rw [hlen] at hroom
  obtain ⟨hv, hl⟩ := restAt_write h.valid hroom
  refine ⟨hv, by simp [hl, hlen], fun k hk => ?_⟩
  rw [List.length_append, List.length_map, List.length_range] at hk
  rcases Nat.lt_or_ge k q.length with hlt | hge
  · rw [List.getElem_append_left hlt, hw.old, h.elems k hlt]
    intro i hi
    rw [slot_write h.valid (by omega)]
    exact slot_ne (by omega) (by omega) (by omega)
  · rw [List.getElem_append_right hge, List.getElem_map, List.getElem_range,
      ← hw.new (k - q.length) (by omega), slot_write h.valid (by omega)]
    congr 2
    omega

/-- **A block comes out** at the reader. -/
theorem Holds.pop (h : Holds N r w ring q) (hn : n ≤ q.length) :
    Holds N (restAt N r n) w ring (q.drop n) := by
  have hlen := h.length
  have hlt := h.valid.level_lt
  rw [hlen] at hn
  obtain ⟨hv, hl⟩ := restAt_read h.valid hn
  refine ⟨hv, by rw [List.length_drop, hl, hlen], fun k hk => ?_⟩
  rw [List.length_drop] at hk
  rw [slot_restAt h.valid.read_le (by omega), h.elems (n + k) (by omega), List.getElem_drop]

/-- The block that comes out is the front of the queue. -/
theorem Holds.front (h : Holds N r w ring q) (hn : n ≤ q.length) :
    ((List.range n).map fun i => ring (slot N r i)) = q.take n := by
  refine List.ext_getElem (by simp [hn]) fun i hi _ => ?_
  rw [List.length_map, List.length_range] at hi
  rw [List.getElem_map, List.getElem_range, List.getElem_take]
  exact h.elems i (by omega)

/-- **The reader is placed inside the queue**: the oldest elements are gone. -/
theorem Holds.rewind_le (h : Holds N r w ring q) (hk : k ≤ q.length) :
    Holds N (behind N w k) w ring (q.drop (q.length - k)) := by
  have hlen := h.length
  have hlt := h.valid.level_lt
  obtain ⟨hv, hl⟩ := RingIndex.rewind (n := k) h.valid.write_le (by omega)
  refine ⟨hv, ?_, fun i hi => ?_⟩
  · rw [List.length_drop]
    unfold behind
    omega
  · rw [List.length_drop] at hi
    rw [slot_behind_le h.valid (by omega) (by omega), ← hlen, h.elems _ (by omega),
      List.getElem_drop]

/-- **The reader is placed in front of the queue**: what the gap was filled with is read
first. -/
theorem Holds.rewind_gt (h : Holds N r w ring q) (hk : q.length < k) (hkN : k < N) {x : α}
    (hw : Overwritten N (behind N w k) (k - q.length) (fun _ => x) ring ring') :
    Holds N (behind N w k) w ring' (List.replicate (k - q.length) x ++ q) := by
  have hlen := h.length
  obtain ⟨hv, hl⟩ := RingIndex.rewind (n := k) h.valid.write_le hkN
  refine ⟨hv, ?_, fun i hi => ?_⟩
  · rw [List.length_append, List.length_replicate]
    unfold behind
    omega
  · rw [List.length_append, List.length_replicate] at hi
    rcases Nat.lt_or_ge i (k - q.length) with hlt | hge
    · rw [List.getElem_append_left (by simpa using hlt), List.getElem_replicate]
      exact hw.new i hlt
    · rw [List.getElem_append_right (by simpa using hge)]
      have hi' : i - (k - q.length) < q.length := by omega
      have hslot := slot_behind_gt h.valid (hlen ▸ hk) hkN (hlen ▸ hi')
      rw [← hlen, show k - q.length + (i - (k - q.length)) = i by omega] at hslot
      rw [hw.old, hslot, h.elems _ hi']
      · simp
      · intro j hj
        exact slot_gap_ne h.valid.write_le hkN (by omega) (by omega) (by omega)

end Kit.RestingQueue
