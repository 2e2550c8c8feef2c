import Mathlib.Data.List.Basic

/-!
# The greatest value of a set, kept up to date

A register that holds the greatest value of a changing set, and zero for the empty one.
An element that comes in needs one comparison. An element that goes needs none as long as
it is below the register; only when it may have been the greatest the set has to be gone
through again.
-/

namespace Kit

variable {ι : Type} {P Q : ι → Prop} {f : ι → Nat} {m n : Nat} {i : ι}

/-- `m` is the greatest `f i` over the `i` in `P`, and `0` if there are none. -/
structure Greatest (P : ι → Prop) (f : ι → Nat) (m : Nat) : Prop where
  bound : ∀ i, P i → f i ≤ m
  attained : m = 0 ∨ ∃ i, P i ∧ f i = m

theorem Greatest.unique (h : Greatest P f m) (h' : Greatest P f n) : m = n := by
  have key : ∀ {a b : Nat}, Greatest P f a → Greatest P f b → a ≤ b := by
    intro a b ha hb
    rcases ha.attained with h0 | ⟨i, hi, hfi⟩
    · omega
    · exact hfi ▸ hb.bound i hi
  exact Nat.le_antisymm (key h h') (key h' h)

theorem Greatest.congr (h : Greatest P f m) (hPQ : ∀ i, P i ↔ Q i) : Greatest Q f m := by
  refine ⟨fun i hi => h.bound i ((hPQ i).mpr hi), ?_⟩
  rcases h.attained with h0 | ⟨i, hi, hfi⟩
  · exact Or.inl h0
  · exact Or.inr ⟨i, (hPQ i).mp hi, hfi⟩

/-- Zero is the greatest value exactly if no other occurs. -/
theorem greatest_zero_iff : Greatest P f 0 ↔ ∀ i, P i → f i = 0 :=
  ⟨fun h i hi => Nat.le_zero.mp (h.bound i hi), fun h => ⟨fun i hi => Nat.le_of_eq (h i hi), Or.inl rfl⟩⟩

/-- An element comes in. -/
theorem Greatest.insert (h : Greatest P f m) (i : ι) (hQ : ∀ j, Q j ↔ j = i ∨ P j) :
    Greatest Q f (if m < f i then f i else m) := by
  constructor
  · intro j hj
    rcases (hQ j).mp hj with rfl | hj
    · split <;> omega
    · have hle := h.bound j hj
      split <;> omega
  · split
    · exact Or.inr ⟨i, (hQ i).mpr (Or.inl rfl), rfl⟩
    · rcases h.attained with h0 | ⟨j, hj, hfj⟩
      · exact Or.inl h0
      · exact Or.inr ⟨j, (hQ j).mpr (Or.inr hj), hfj⟩

/-- An element below the greatest value goes. -/
theorem Greatest.erase_of_lt (h : Greatest P f m) (hi : f i < m)
    (hQ : ∀ j, Q j ↔ j ≠ i ∧ P j) : Greatest Q f m := by
  refine ⟨fun j hj => h.bound j ((hQ j).mp hj).2, ?_⟩
  rcases h.attained with h0 | ⟨j, hj, hfj⟩
  · exact Or.inl h0
  · refine Or.inr ⟨j, (hQ j).mpr ⟨?_, hj⟩, hfj⟩
    rintro rfl
    omega

/-- The loop that goes through the whole set. -/
def greatest (f : ι → Nat) (l : List ι) : Nat :=
  l.foldl (fun m i => if m < f i then f i else m) 0

theorem greatest_foldl (l : List ι) (h : Greatest P f m) :
    Greatest (fun i => i ∈ l ∨ P i) f (l.foldl (fun m i => if m < f i then f i else m) m) := by
  induction l generalizing P m with
  | nil => exact h.congr fun i => by simp
  | cons j l ih =>
      have hj := h.insert (Q := fun i => i = j ∨ P i) j fun i => Iff.rfl
      refine (ih hj).congr ?_
      intro i
      rw [List.mem_cons]
      tauto

/-- **The loop finds the greatest value.** -/
theorem greatest_spec (f : ι → Nat) (l : List ι) : Greatest (· ∈ l) f (greatest f l) := by
  have hnone : Greatest (fun _ : ι => False) f 0 := greatest_zero_iff.mpr fun _ h => h.elim
  exact (greatest_foldl l hnone).congr fun i => by simp

end Kit
