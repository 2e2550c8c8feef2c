import AvbStreamHandler.Kit.Cycle
import Mathlib.Data.List.DropRight
import Mathlib.Data.List.Rotate

/-!
# A circle in order

Where a circle begins is a matter of the cursor: what the cursor sees is the list rotated to
it. An element that is moved back behind the last one in front of it goes to the same place
of the circle wherever the list begins, and a circle that was in order before is in order
after that.
-/

namespace Kit.Cycle

variable {α : Type}

/-! ## What the cursor sees -/

theorem exists_at {l : List α} {c : Nat} {x : α} (h : l[c]? = some x) :
    ∃ X Y, l = X ++ x :: Y ∧ X.length = c := by
  obtain ⟨hc, hx⟩ := List.getElem?_eq_some_iff.mp h
  refine ⟨l.take c, l.drop (c + 1), ?_, List.length_take_of_le (Nat.le_of_lt hc)⟩
  rw [← hx, List.getElem_cons_drop, List.take_append_drop]

theorem rotate_at (X Y : List α) (x : α) :
    (X ++ x :: Y).rotate X.length = x :: (Y ++ X) :=
  List.rotate_append_length_eq X (x :: Y)

/-- One step further, what was in front is behind. -/
theorem rotate_next (X Y : List α) (x : α) :
    (X ++ x :: Y).rotate (next (X ++ x :: Y).length X.length) = Y ++ (X ++ [x]) := by
  unfold next
  rw [List.length_append, List.length_cons]
  split
  · rename_i hlast
    have hY : Y = [] := List.length_eq_zero_iff.mp (by omega)
    rw [hY, List.rotate_zero, List.nil_append]
  · have hsplit : X ++ x :: Y = (X ++ [x]) ++ Y := by
      rw [List.append_assoc, List.singleton_append]
    have hlen : X.length + 1 = (X ++ [x]).length := by
      rw [List.length_append, List.length_singleton]
    rw [hsplit, hlen]
    exact List.rotate_append_length_eq ..

theorem head?_rotate {l : List α} {c : Nat} {x : α} (h : l[c]? = some x) :
    ∃ rest, l.rotate c = x :: rest := by
  obtain ⟨X, Y, rfl, rfl⟩ := exists_at h
  exact ⟨_, rotate_at X Y x⟩

/-! ## Moving an element -/

theorem insertIdx_length_append (X Y : List α) (x : α) :
    (X ++ Y).insertIdx X.length x = X ++ x :: Y := by
  induction X with
  | nil => rfl
  | cons a X ih => rw [List.cons_append, List.length_cons, List.insertIdx_succ_cons, ih]; rfl

theorem eraseIdx_length_append (X Y : List α) (x : α) :
    (X ++ x :: Y).eraseIdx X.length = X ++ Y := by
  rw [List.eraseIdx_append_of_length_le (Nat.le_refl _), Nat.sub_self]
  rfl

/-- To the left of where it was. -/
theorem moveBefore_left (X₁ X₂ Y : List α) (x : α) :
    moveBefore (X₁ ++ X₂ ++ x :: Y) (X₁ ++ X₂).length X₁.length x = X₁ ++ x :: (X₂ ++ Y) := by
  unfold moveBefore
  rw [if_pos (by rw [List.length_append]; omega)]
  have hins : (X₁ ++ X₂ ++ x :: Y).insertIdx X₁.length x = (X₁ ++ x :: X₂) ++ x :: Y := by
    rw [List.append_assoc, insertIdx_length_append, List.append_assoc, List.cons_append]
  have hlen : (X₁ ++ X₂).length + 1 = (X₁ ++ x :: X₂).length := by
    rw [List.length_append, List.length_append, List.length_cons]
    omega
  rw [hins, hlen, eraseIdx_length_append, List.append_assoc, List.cons_append]

/-- To the right of where it was. -/
theorem moveBefore_right (X Y₁ Y₂ : List α) (x : α) :
    moveBefore (X ++ x :: (Y₁ ++ Y₂)) X.length (X ++ x :: Y₁).length x
      = X ++ (Y₁ ++ x :: Y₂) := by
  unfold moveBefore
  rw [if_neg (by rw [List.length_append, List.length_cons]; omega)]
  have hsplit : X ++ x :: (Y₁ ++ Y₂) = (X ++ x :: Y₁) ++ Y₂ := by
    rw [List.append_assoc, List.cons_append]
  rw [hsplit, insertIdx_length_append, List.append_assoc, List.cons_append,
    eraseIdx_length_append]

/-! ## Order -/

/-- A list, cut behind the last element with a property. -/
theorem exists_split_last (p : α → Bool) (l : List α) :
    ∃ A B, l = A ++ B ∧ (∀ b ∈ B, p b = false) ∧ (A = [] ∨ ∃ A' a, A = A' ++ [a] ∧ p a = true) := by
  refine ⟨l.rdropWhile fun b => !p b, l.rtakeWhile fun b => !p b, ?_, ?_, ?_⟩
  · exact List.rdropWhile_append_rtakeWhile.symm
  · intro b hb
    simpa using List.mem_rtakeWhile_imp hb
  · by_cases hA : (l.rdropWhile fun b => !p b) = []
    · exact Or.inl hA
    · refine Or.inr ⟨_, _, (List.dropLast_append_getLast hA).symm, ?_⟩
      simpa using List.rdropWhile_last_not _ _ hA

/-- **An element at its place.** -/
theorem pairwise_insert {r : α → α → Prop} {A B : List α} {x : α}
    (h : (A ++ B).Pairwise r) (hA : ∀ a ∈ A, r a x) (hB : ∀ b ∈ B, r x b) :
    (A ++ x :: B).Pairwise r := by
  obtain ⟨hAA, hBB, hAB⟩ := List.pairwise_append.mp h
  refine List.pairwise_append.mpr ⟨hAA, List.pairwise_cons.mpr ⟨hB, hBB⟩, ?_⟩
  intro a ha b hb
  rcases List.mem_cons.mp hb with rfl | hb
  · exact hA a ha
  · exact hAB a ha b hb

/-- In a list in order, nothing comes behind the last element. -/
theorem le_of_last {key : α → Nat} {A B : List α} {a b : α}
    (h : ((A ++ [a]) ++ B).Pairwise fun x y => key x ≤ key y) (hb : b ∈ A ++ [a]) :
    key b ≤ key a := by
  have hfront := (List.pairwise_append.mp h).1
  rcases List.mem_append.mp hb with hb | hb
  · exact (List.pairwise_append.mp hfront).2.2 b hb a (List.mem_singleton_self a)
  · rw [List.mem_singleton.mp hb]

end Kit.Cycle
