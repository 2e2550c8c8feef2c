import AvbStreamHandler.Kit.RingIndex
import Mathlib.Logic.Function.Basic

/-!
# A queue in a ring

A ring of `N` slots with a read index and a write index holds a queue: its elements lie in
the slots from the read index on, wrapping once at most, and the write index names the slot
behind the last. One slot stays free, so that the two indices tell a full ring from an
empty one.

The operations write the slot at the write index, empty the slot at the read index, and
rewrite the slot that was written last.
-/

namespace Kit.RingQueue

open Kit.RingIndex

variable {α : Type}

/-- The slot of the element `k` places behind the reader. -/
def slot (N r k : Nat) : Nat := if r + k < N then r + k else r + k - N

/-- The slot after slot `i`. -/
def next (N i : Nat) : Nat := if i + 1 = N then 0 else i + 1

/-- The ring holds the queue `q`. -/
structure Holds (N r w : Nat) (ring : Nat → α) (q : List α) : Prop where
  read_lt : r < N
  length_lt : q.length < N
  write_eq : w = slot N r q.length
  elems : ∀ k (h : k < q.length), ring (slot N r k) = q[k]

variable {N r w : Nat} {ring : Nat → α} {q : List α} {a : α}

theorem slot_lt (hr : r < N) {k : Nat} (hk : k < N) : slot N r k < N := by
  unfold slot; split <;> omega

theorem slot_ne {j k : Nat} (hj : j < N) (hk : k < N) (hjk : j ≠ k) :
    slot N r j ≠ slot N r k := by
  unfold slot; split <;> split <;> omega

theorem next_slot (hr : r < N) {k : Nat} (hk : k < N) : next N (slot N r k) = slot N r (k + 1) := by
  unfold next slot
  split_ifs <;> omega

theorem slot_next {k : Nat} (hk : k + 1 < N) :
    slot N (next N r) k = slot N r (k + 1) := by
  unfold next slot
  split_ifs <;> omega

theorem Holds.write_lt (h : Holds N r w ring q) : w < N := by
  rw [h.write_eq]
  exact slot_lt h.read_lt h.length_lt

theorem Holds.level (h : Holds N r w ring q) : level N r w = q.length := by
  have hr := h.read_lt
  have hl := h.length_lt
  rw [h.write_eq]
  unfold RingIndex.level slot
  split_ifs <;> omega

theorem holds_nil (hr : r < N) : Holds N r r ring ([] : List α) where
  read_lt := hr
  length_lt := by rw [List.length_nil]; omega
  write_eq := by
    unfold slot
    rw [List.length_nil, Nat.add_zero, if_pos hr]
  elems k hk := by simp at hk

/-- What lies in the free slot at the write index does not matter. -/
theorem Holds.update_write (h : Holds N r w ring q) (x : α) :
    Holds N r w (Function.update ring w x) q := by
  refine ⟨h.read_lt, h.length_lt, h.write_eq, fun k hk => ?_⟩
  have hl := h.length_lt
  rw [Function.update_of_ne, h.elems k hk]
  rw [h.write_eq]
  exact slot_ne (by omega) hl (by omega)

/-- **Push.** -/
theorem Holds.push (h : Holds N r w ring q) (hroom : q.length + 1 < N) (x : α) :
    Holds N r (next N w) (Function.update ring w x) (q ++ [x]) := by
  have hup := h.update_write x
  refine ⟨h.read_lt, by simpa using hroom, ?_, fun k hk => ?_⟩
  · rw [h.write_eq, next_slot h.read_lt h.length_lt, List.length_append]
    rfl
  · rcases Nat.lt_or_ge k q.length with hlt | hge
    · rw [List.getElem_append_left hlt]
      exact hup.elems k hlt
    · have hkq : k = q.length := by
        rw [List.length_append, List.length_singleton] at hk
        omega
      subst hkq
      rw [← h.write_eq, Function.update_self]
      simp

/-- The element at the read index is the oldest. -/
theorem Holds.head (h : Holds N r w ring (a :: q)) : ring r = a := by
  have hzero := h.elems 0 (by simp)
  unfold slot at hzero
  rwa [Nat.add_zero, if_pos h.read_lt, List.getElem_cons_zero] at hzero

/-- **Pop.** The slot may be overwritten. -/
theorem Holds.pop (h : Holds N r w ring (a :: q)) (x : α) :
    Holds N (next N r) w (Function.update ring r x) q := by
  have hr := h.read_lt
  have hl := h.length_lt
  rw [List.length_cons] at hl
  refine ⟨?_, by omega, ?_, fun k hk => ?_⟩
  · unfold next; split <;> omega
  · rw [h.write_eq, slot_next hl, List.length_cons]
  · rw [slot_next (by omega)]
    have hzero : r = slot N r 0 := by
      unfold slot
      rw [Nat.add_zero, if_pos hr]
    rw [Function.update_of_ne]
    · have helem := h.elems (k + 1) (by simpa using hk)
      rwa [List.getElem_cons_succ] at helem
    · conv => rhs; rw [hzero]
      exact slot_ne (by omega) (by omega) (by omega)

/-- A write index that has not just wrapped lies one behind the youngest element. -/
theorem Holds.last_slot (h : Holds N r w ring (q ++ [a])) (hw : 0 < w) :
    w - 1 = slot N r q.length := by
  have hr := h.read_lt
  have hl := h.length_lt
  have hweq := h.write_eq
  rw [List.length_append, List.length_singleton] at hl hweq
  unfold slot at hweq ⊢
  split_ifs at hweq ⊢ <;> omega

theorem Holds.last (h : Holds N r w ring (q ++ [a])) (hw : 0 < w) : ring (w - 1) = a := by
  rw [h.last_slot hw, h.elems q.length (by simp)]
  simp

/-- **The youngest element is rewritten.** -/
theorem Holds.update_last (h : Holds N r w ring (q ++ [a])) (hw : 0 < w) (x : α) :
    Holds N r w (Function.update ring (w - 1) x) (q ++ [x]) := by
  have hl := h.length_lt
  have hweq := h.write_eq
  rw [List.length_append, List.length_singleton] at hl hweq
  refine ⟨h.read_lt, by simpa using hl, by simpa using hweq, fun k hk => ?_⟩
  rw [List.length_append, List.length_singleton] at hk
  rcases Nat.lt_or_ge k q.length with hlt | hge
  · rw [Function.update_of_ne, h.elems k (by simp; omega), List.getElem_append_left hlt,
      List.getElem_append_left hlt]
    rw [h.last_slot hw]
    exact slot_ne (by omega) (by omega) (by omega)
  · have hkq : k = q.length := by omega
    subst hkq
    rw [← h.last_slot hw, Function.update_self]
    simp

/-! ## What the ring holds, read off the slots -/

/-- The elements from the read index on. -/
def contents (N r w : Nat) (ring : Nat → α) : List α :=
  (List.range (level N r w)).map fun k => ring (slot N r k)

theorem Holds.contents_eq (h : Holds N r w ring q) : contents N r w ring = q := by
  unfold contents
  rw [h.level]
  refine List.ext_getElem (by simp) fun k _ hk => ?_
  rw [List.getElem_map, List.getElem_range]
  exact h.elems k hk

/-! ## The slots in between -/

/-- Slot `i` lies between the read index and the write index. -/
def Between (r w i : Nat) : Prop := if r ≤ w then r ≤ i ∧ i < w else r ≤ i ∨ i < w

instance (r w i : Nat) : Decidable (Between r w i) := by
  unfold Between
  infer_instance

theorem not_between_self (r i : Nat) : ¬ Between r r i := by
  unfold Between
  rw [if_pos (Nat.le_refl r)]
  omega

theorem not_between_write (r w : Nat) : ¬ Between r w w := by
  unfold Between
  split <;> omega

theorem between_read (hlevel : 0 < level N r w) : Between r w r := by
  unfold RingIndex.level at hlevel
  unfold Between
  split_ifs at hlevel ⊢ <;> omega

/-- The writer brings one slot in. -/
theorem between_next_write (hr : r < N) (hroom : level N r w + 1 < N) {i : Nat}
    (hi : i < N) : Between r (next N w) i ↔ Between r w i ∨ i = w := by
  unfold RingIndex.level at hroom
  unfold Between next
  split_ifs at hroom ⊢ <;> omega

/-- The reader leaves one behind. -/
theorem between_next_read (hw : w < N) (hlevel : 0 < level N r w) {i : Nat}
    (hi : i < N) : Between (next N r) w i ↔ Between r w i ∧ i ≠ r := by
  unfold RingIndex.level at hlevel
  unfold Between next
  split_ifs at hlevel ⊢ <;> omega

theorem next_lt (hi : w < N) : next N w < N := by
  unfold next
  split <;> omega

end Kit.RingQueue
