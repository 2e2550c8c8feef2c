import Mathlib.Tactic.SplitIfs

/-!
# Two indices in one ring

A reader and a writer chase each other around a ring of `N` elements. An index may
*rest at the end*: `N` and `0` then name the same element, and a pair of indices does
not tell on its face how far apart the two parties are. `level` is the reading of the
pair that a subtraction modulo the ring gives.

There are two ways to advance an index. `restAt` moves in one block and only leaves
the end when there is something to move; `wrapAt` returns to zero the moment it gets
there. The lemmas say which moves keep the reading honest.
-/

namespace Kit.RingIndex

/-- How many elements lie between the read index and the write index. -/
def level (N r w : Nat) : Nat := if r ≤ w then w - r else N - (r - w)

/-- Both indices are in the ring or at its end, and the ring is not read as full. -/
structure Valid (N r w : Nat) : Prop where
  /-- The read index did not pass the end. -/
  read_le : r ≤ N
  /-- The write index did not pass the end. -/
  write_le : w ≤ N
  /-- One element stays free. -/
  level_lt : level N r w < N

/-- Advance by a block, staying at the end if the block ends there. -/
def restAt (N i n : Nat) : Nat := if n > N - i then n - (N - i) else i + n

/-- Advance element by element, wrapping at the end at once. -/
def wrapAt (N i n : Nat) : Nat := if i + n < N then i + n else i + n - N

variable {N r w n : Nat}

theorem restAt_write (h : Valid N r w) (hn : level N r w + n < N) :
    Valid N r (restAt N w n) ∧ level N r (restAt N w n) = level N r w + n := by
  obtain ⟨hr, hw, hl⟩ := h
  have key : restAt N w n ≤ N ∧ level N r (restAt N w n) = level N r w + n := by
    unfold level at hl hn ⊢
    unfold restAt
    split_ifs at hl hn ⊢ <;> omega
  refine ⟨⟨hr, key.1, ?_⟩, key.2⟩
  rw [key.2]
  exact hn

theorem restAt_read (h : Valid N r w) (hn : n ≤ level N r w) :
    Valid N (restAt N r n) w ∧ level N (restAt N r n) w = level N r w - n := by
  obtain ⟨hr, hw, hl⟩ := h
  have key : restAt N r n ≤ N ∧ level N (restAt N r n) w = level N r w - n := by
    unfold level at hl hn ⊢
    unfold restAt
    split_ifs at hl hn ⊢ <;> omega
  refine ⟨⟨key.1, hw, ?_⟩, key.2⟩
  omega

/-- A write that wraps at once needs a write index inside the ring. -/
theorem wrapAt_write (h : Valid N r w) (hn : level N r w + n < N) (hin : w < N) :
    Valid N r (wrapAt N w n) ∧ level N r (wrapAt N w n) = level N r w + n := by
  obtain ⟨hr, hw, hl⟩ := h
  have key : wrapAt N w n ≤ N ∧ level N r (wrapAt N w n) = level N r w + n := by
    unfold level at hl hn ⊢
    unfold wrapAt
    split_ifs at hl hn ⊢ <;> omega
  refine ⟨⟨hr, key.1, ?_⟩, key.2⟩
  rw [key.2]
  exact hn

/-- A read that wraps at once must not catch up with a writer that rests at the end:
the two would be the same element and read as a full ring. -/
theorem wrapAt_read (h : Valid N r w) (hn : n ≤ level N r w) (hin : r < N)
    (hrest : w < N ∨ n < level N r w) :
    Valid N (wrapAt N r n) w ∧ level N (wrapAt N r n) w = level N r w - n := by
  obtain ⟨hr, hw, hl⟩ := h
  have key : wrapAt N r n ≤ N ∧ level N (wrapAt N r n) w = level N r w - n := by
    unfold level at hl hn hrest ⊢
    unfold wrapAt
    split_ifs at hl hn hrest ⊢ <;> omega
  refine ⟨⟨key.1, hw, ?_⟩, key.2⟩
  omega

/-- Placing the reader `k` elements behind the writer. -/
theorem rewind (hw : w ≤ N) (hk : n < N) :
    Valid N (if n ≤ w then w - n else N - (n - w)) w ∧
      level N (if n ≤ w then w - n else N - (n - w)) w = n := by
  have key : (if n ≤ w then w - n else N - (n - w)) ≤ N ∧
      level N (if n ≤ w then w - n else N - (n - w)) w = n := by
    unfold level
    split <;> split <;> omega
  refine ⟨⟨key.1, hw, ?_⟩, key.2⟩
  rw [key.2]
  exact hk

end Kit.RingIndex
