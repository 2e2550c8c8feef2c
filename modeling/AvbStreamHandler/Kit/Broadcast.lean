import Mathlib.Data.List.Range
import Mathlib.Tactic.Linarith

/-!
# A log in a circle of slots

One writer appends to a log and several readers go through it, each from a place of its
own. The log itself is unbounded; what is stored of it is the last part, position `k` in
slot `k % N`.

A reader that has gone through a prefix of what follows its place and takes the next few
entries has gone through a longer prefix. A run of slots that does not cross the end of
the circle is a run of the log.
-/

namespace Kit.Broadcast

variable {α : Type} {N : Nat}

/-- The log from position `floor` on is stored. -/
def Holds (N : Nat) (slot : Nat → α) (log : List α) (floor : Nat) : Prop :=
  ∀ k, floor ≤ k → ∀ h : k < log.length, slot (k % N) = log[k]

/-- The contents of `n` slots from `offset` on. -/
def readSlots (slot : Nat → α) (offset n : Nat) : List α :=
  (List.range n).map fun k => slot (offset + k)

variable {slot : Nat → α} {log : List α} {floor : Nat}

@[simp] theorem length_readSlots (slot : Nat → α) (offset n : Nat) :
    (readSlots slot offset n).length = n := by
  unfold readSlots
  rw [List.length_map, List.length_range]

@[simp] theorem getElem_readSlots (slot : Nat → α) (offset n k : Nat)
    (h : k < (readSlots slot offset n).length) :
    (readSlots slot offset n)[k] = slot (offset + k) := by
  simp [readSlots]

theorem Holds.mono {floor' : Nat} (h : Holds N slot log floor) (hle : floor ≤ floor') :
    Holds N slot log floor' := fun k hk hlt => h k (le_trans hle hk) hlt

/-- A position a little further on that stays in the lap. -/
theorem mod_add {p k : Nat} (h : p % N + k < N) : (p + k) % N = p % N + k := by
  rw [Nat.add_mod, Nat.mod_eq_of_lt (a := k) (by omega), Nat.mod_eq_of_lt h]

/-- **Reading.** Slots that do not cross the end are the log from their position on. -/
theorem Holds.readSlots_eq (h : Holds N slot log floor) {p n : Nat} (hfloor : floor ≤ p)
    (hlen : p + n ≤ log.length) (hlap : p % N + n ≤ N) :
    readSlots slot (p % N) n = (log.drop p).take n := by
  refine List.ext_getElem ?_ ?_
  · rw [length_readSlots, List.length_take, List.length_drop]
    omega
  · intro k hk hk'
    rw [length_readSlots] at hk
    rw [getElem_readSlots, List.getElem_take, List.getElem_drop, ← mod_add (by omega)]
    exact h (p + k) (by omega) (by omega)

/-- **Appending.** What stands in the next slots becomes the end of the log. -/
theorem Holds.append (h : Holds N slot log floor) {n : Nat} (hlap : log.length % N + n ≤ N) :
    Holds N slot (log ++ readSlots slot (log.length % N) n) floor := by
  intro k hfloor hk
  by_cases hold : k < log.length
  · rw [List.getElem_append_left hold]
    exact h k hfloor hold
  · rw [List.length_append, length_readSlots] at hk
    rw [List.getElem_append_right (by omega), getElem_readSlots, ← mod_add (by omega)]
    congr 1
    congr 1
    omega

/-- Two positions less than a lap apart lie in different slots. -/
theorem mod_ne {p q : Nat} (hlt : p < q) (hlap : q < p + N) : p % N ≠ q % N := by
  intro h
  have hsub : (q - p) % N = 0 := Nat.sub_mod_eq_zero_of_mod_eq h.symm
  rw [Nat.mod_eq_of_lt (by omega)] at hsub
  omega

/-- **Storing.** A slot that no stored position lies in is free. -/
theorem Holds.store (h : Holds N slot log floor) {k : Nat} (hlap : log.length + k < floor + N)
    (a : α) : Holds N (Function.update slot ((log.length + k) % N) a) log floor := by
  intro j hfloor hj
  rw [Function.update_of_ne (mod_ne (by omega) (by omega))]
  exact h j hfloor hj

/-! ## What a reader has gone through -/

/-- Appending to the log does not change what a reader has gone through. -/
theorem prefix_append {got : List α} {start : Nat} (h : got <+: log.drop start)
    (hstart : start ≤ log.length) (ext : List α) : got <+: (log ++ ext).drop start := by
  rw [List.drop_append_of_le_length hstart]
  exact h.trans (List.prefix_append _ _)

/-- **Taking** the next `n` entries. -/
theorem prefix_take {got : List α} {start : Nat} (h : got <+: log.drop start) (n : Nat) :
    got ++ (log.drop (start + got.length)).take n <+: log.drop start := by
  obtain ⟨rest, hrest⟩ := h
  have hdrop : log.drop (start + got.length) = rest := by
    rw [← List.drop_drop, ← hrest, List.drop_left]
  rw [hdrop, ← hrest]
  exact (List.prefix_append_right_inj got).mpr (List.take_prefix n rest)

end Kit.Broadcast
