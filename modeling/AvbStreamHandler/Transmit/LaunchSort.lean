import AvbStreamHandler.Kit.CycleOrder
import AvbStreamHandler.Transmit.Reconciliation

/-!
# The order of the sequence

The sequence is a circle with a cursor. A visit moves the entry under the cursor back behind
the entries that are due before it, or leaves it behind as done, and then skips the entries
that are done already. Wherever the list begins, what the cursor sees is the list rotated to
it, and what the visits do to that is simple: the entry in front goes to its place among the
others, or away.
-/

namespace AvbStreamHandler.TxWorld

open Kit Kit.Word Kit.Run Kit.Cycle

/-! ## `sortByLaunchTime`, as the cursor sees it -/

/-- The entry is to be served before `launchTime`; one without a launch time is passed over. -/
def Earlier (launchTime : Nat) (e : StreamData) : Prop :=
  e.launchTime ≠ 0 ∧ launchTime > e.launchTime

instance (launchTime : Nat) : DecidablePred (Earlier launchTime) := fun _ =>
  inferInstanceAs (Decidable (_ ∧ _))

/-- The search does not stop at entries that are not earlier. -/
theorem searchBackward_walk {P S R : List StreamData} {c launchTime fuel : Nat}
    (hS : ∀ e ∈ S, ¬ Earlier launchTime e) (hc : c < P.length ∨ (P ++ S).length ≤ c) :
    searchBackward (P ++ S ++ R) c launchTime (fuel + S.length) (P ++ S).length
      = searchBackward (P ++ S ++ R) c launchTime fuel P.length := by
  induction S using List.reverseRecOn generalizing R with
  | nil => rw [List.append_nil, List.length_nil, Nat.add_zero]
  | append_singleton S s ih =>
      have hs : ¬ Earlier launchTime s := hS s (by simp)
      have hlen : (P ++ (S ++ [s])).length = (P ++ S).length + 1 := by
        simp only [List.length_append, List.length_singleton]
        omega
      have hat : (P ++ (S ++ [s]) ++ R)[(P ++ S).length]? = some s := by
        rw [← List.append_assoc, List.append_assoc _ [s], List.getElem?_append_right (Nat.le_refl _),
          Nat.sub_self]
        rfl
      have hprev : prev (P ++ (S ++ [s]) ++ R).length (P ++ (S ++ [s])).length
          = (P ++ S).length := by
        unfold prev
        rw [hlen, if_neg (by omega)]
        rfl
      have hne : ¬ (P ++ S).length = c := by
        rw [hlen] at hc
        rw [List.length_append] at hc ⊢
        omega
      rw [List.length_append, List.length_singleton, ← Nat.add_assoc, searchBackward]
      rw [hprev, hat]
      dsimp only
      refine (if_neg hs).trans ?_
      rw [if_neg hne]
      have hih := @ih (s :: R) (fun e he => hS e (List.mem_append_left _ he)) (by omega)
      have hsame : P ++ (S ++ [s]) ++ R = P ++ S ++ s :: R := by
        rw [← List.append_assoc, List.append_assoc _ [s], List.singleton_append]
      rw [hsame]
      exact hih

/-- It stops at one that is. -/
theorem searchBackward_stop {P R : List StreamData} {a : StreamData} {c launchTime fuel : Nat}
    (ha : Earlier launchTime a) :
    searchBackward (P ++ [a] ++ R) c launchTime (fuel + 1) (P ++ [a]).length = P.length := by
  have hat : (P ++ [a] ++ R)[P.length]? = some a := by
    rw [List.append_assoc, List.getElem?_append_right (Nat.le_refl _), Nat.sub_self]
    rfl
  have hprev : prev (P ++ [a] ++ R).length (P ++ [a]).length = P.length := by
    unfold prev
    rw [List.length_append, List.length_singleton, if_neg (by omega)]
    rfl
  rw [searchBackward]
  rw [hprev, hat]
  exact if_pos ha

/-- In front of the first entry comes the last. -/
theorem searchBackward_wrap {l : List StreamData} (hl : l ≠ []) (c launchTime fuel : Nat) :
    searchBackward l c launchTime (fuel + 1) 0
      = searchBackward l c launchTime (fuel + 1) l.length := by
  have hpos : l.length ≠ 0 := fun h => hl (List.length_eq_zero_iff.mp h)
  have hprev : prev l.length 0 = prev l.length l.length := by
    unfold prev
    rw [if_pos rfl, if_neg hpos]
  rw [searchBackward, searchBackward, hprev]

/-- Once around, it is back at the entry itself. -/
theorem searchBackward_self {X Y : List StreamData} {cur : StreamData} {fuel : Nat} :
    searchBackward (X ++ cur :: Y) X.length cur.launchTime (fuel + 1) (X ++ [cur]).length
      = X.length := by
  have hat : (X ++ cur :: Y)[X.length]? = some cur := by
    rw [List.getElem?_append_right (Nat.le_refl _), Nat.sub_self]
    rfl
  have hprev : prev (X ++ cur :: Y).length (X ++ [cur]).length = X.length := by
    unfold prev
    rw [List.length_append, List.length_singleton, if_neg (by omega)]
    rfl
  have hself : ¬ Earlier cur.launchTime cur := fun h => Nat.lt_irrefl _ h.2
  rw [searchBackward]
  rw [hprev, hat]
  dsimp only
  refine (if_neg hself).trans ?_
  rw [if_pos rfl]

/-- The entry to go behind stands to the left. -/
theorem searchBackward_left {P S Y : List StreamData} {a cur : StreamData}
    (hS : ∀ e ∈ S, ¬ Earlier cur.launchTime e) (ha : Earlier cur.launchTime a) :
    searchBackward (P ++ [a] ++ S ++ cur :: Y) (P ++ [a] ++ S).length cur.launchTime
      (P ++ [a] ++ S ++ cur :: Y).length (P ++ [a] ++ S).length = P.length := by
  have hfuel : (P ++ [a] ++ S ++ cur :: Y).length
      = P.length + (cur :: Y).length + 1 + S.length := by
    simp only [List.length_append, List.length_singleton]
    omega
  rw [hfuel, searchBackward_walk hS (Or.inr (Nat.le_refl _)), List.append_assoc _ S]
  exact searchBackward_stop ha

/-- It stands to the right: the search goes around the end of the list. -/
theorem searchBackward_right {X P S : List StreamData} {a cur : StreamData}
    (hX : ∀ e ∈ X, ¬ Earlier cur.launchTime e) (hS : ∀ e ∈ S, ¬ Earlier cur.launchTime e)
    (ha : Earlier cur.launchTime a) :
    searchBackward (X ++ cur :: (P ++ [a] ++ S)) X.length cur.launchTime
      (X ++ cur :: (P ++ [a] ++ S)).length X.length = (X ++ cur :: P).length := by
  have hfuel : (X ++ cur :: (P ++ [a] ++ S)).length = P.length + 1 + S.length + 1 + X.length := by
    simp only [List.length_append, List.length_cons, List.length_nil]
    omega
  have hfront := @searchBackward_walk [] X (cur :: (P ++ [a] ++ S)) X.length cur.launchTime
    (P.length + 1 + S.length + 1) hX (Or.inr (Nat.le_refl _))
  rw [List.nil_append, List.length_nil] at hfront
  have hne : X ++ cur :: (P ++ [a] ++ S) ≠ [] := by
    simp
  have hlist : X ++ cur :: (P ++ [a] ++ S) = (X ++ cur :: P) ++ [a] ++ S ++ [] := by
    simp
  rw [hfuel, hfront, searchBackward_wrap hne, hlist, List.append_nil]
  have hback := @searchBackward_walk (X ++ cur :: P ++ [a]) S [] X.length cur.launchTime
    (P.length + 1 + 1) hS (Or.inl (by simp only [List.length_append, List.length_cons]; omega))
  rw [List.append_nil] at hback
  have hrounds : P.length + 1 + S.length + 1 = P.length + 1 + 1 + S.length := by omega
  rw [hrounds, hback]
  exact searchBackward_stop ha

/-- It is not there: the search comes back. -/
theorem searchBackward_none {X S : List StreamData} {cur : StreamData}
    (hX : ∀ e ∈ X, ¬ Earlier cur.launchTime e) (hS : ∀ e ∈ S, ¬ Earlier cur.launchTime e) :
    searchBackward (X ++ cur :: S) X.length cur.launchTime (X ++ cur :: S).length X.length
      = X.length := by
  have hfuel : (X ++ cur :: S).length = S.length + 1 + X.length := by
    simp only [List.length_append, List.length_cons]
    omega
  have hfront := @searchBackward_walk [] X (cur :: S) X.length cur.launchTime
    (S.length + 1) hX (Or.inr (Nat.le_refl _))
  rw [List.nil_append, List.length_nil] at hfront
  have hlist : X ++ cur :: S = (X ++ [cur]) ++ S := by
    rw [List.append_assoc, List.singleton_append]
  rw [hfuel, hfront, searchBackward_wrap (by simp), hlist]
  have hback := @searchBackward_walk (X ++ [cur]) S [] X.length cur.launchTime
    1 hS (Or.inl (by simp only [List.length_append, List.length_singleton]; omega))
  rw [List.append_nil] at hback
  rw [Nat.add_comm S.length 1, hback, ← hlist]
  exact searchBackward_self

/-- What the cursor sees. -/
def ahead (w : TxWorld) : List StreamData := w.mSequence.rotate w.nextStreamToService

section Moves

variable {w : TxWorld} {cur : StreamData} {back : Nat}
  (hcur : w.mSequence[w.nextStreamToService]? = some cur)
  (hback : searchBackward w.mSequence w.nextStreamToService cur.launchTime w.mSequence.length
    w.nextStreamToService = back)

include hcur hback

theorem sort_stay (hstay : back = w.nextStreamToService) : w.sortByLaunchTime = w := by
  unfold sortByLaunchTime
  dsimp only
  rw [hcur]
  dsimp only
  rw [hback, if_pos hstay]

theorem sort_skip (hmoves : back ≠ w.nextStreamToService)
    (hpos : next w.mSequence.length back = w.nextStreamToService) :
    w.sortByLaunchTime.mSequence = w.mSequence
      ∧ w.sortByLaunchTime.nextStreamToService
        = next w.mSequence.length w.nextStreamToService := by
  unfold sortByLaunchTime
  dsimp only
  rw [hcur]
  dsimp only
  rw [hback, if_neg hmoves, if_pos hpos]
  exact ⟨rfl, rfl⟩

theorem sort_move (hmoves : back ≠ w.nextStreamToService)
    (hpos : next w.mSequence.length back ≠ w.nextStreamToService) :
    w.sortByLaunchTime.mSequence
        = moveBefore w.mSequence w.nextStreamToService (next w.mSequence.length back) cur
      ∧ w.sortByLaunchTime.nextStreamToService
        = let after := if next w.mSequence.length back ≤ w.nextStreamToService
            then w.nextStreamToService + 1 else w.nextStreamToService
          if after = w.mSequence.length then 0 else after := by
  unfold sortByLaunchTime
  dsimp only
  rw [hcur]
  dsimp only
  rw [hback, if_neg hmoves, if_neg hpos]
  exact ⟨rfl, rfl⟩

end Moves

section Place

variable {w : TxWorld} {cur a : StreamData} {X Y P S : List StreamData}

/-- The entry to go behind stands to the left. -/
theorem ahead_sort_left (hl : w.mSequence = P ++ [a] ++ S ++ cur :: Y)
    (hc : w.nextStreamToService = (P ++ [a] ++ S).length)
    (hS : ∀ e ∈ S, ¬ Earlier cur.launchTime e) (ha : Earlier cur.launchTime a) :
    w.sortByLaunchTime.ahead = Y ++ (P ++ [a]) ++ cur :: S := by
  have hcur : w.mSequence[w.nextStreamToService]? = some cur := by
    rw [hl, hc, List.getElem?_append_right (Nat.le_refl _), Nat.sub_self]
    rfl
  have hback : searchBackward w.mSequence w.nextStreamToService cur.launchTime w.mSequence.length
      w.nextStreamToService = P.length := by
    rw [hl, hc]
    exact searchBackward_left hS ha
  have hmoves : P.length ≠ w.nextStreamToService := by
    rw [hc]
    simp only [List.length_append, List.length_singleton]
    omega
  have hnext : next w.mSequence.length P.length = (P ++ [a]).length := by
    unfold next
    rw [hl, if_neg (by simp only [List.length_append, List.length_cons]; omega),
      List.length_append, List.length_singleton]
  unfold ahead
  -- with nothing in between the entry stays where it is
  by_cases hS' : S = []
  · subst hS'
    have hpos : next w.mSequence.length P.length = w.nextStreamToService := by
      rw [hnext, hc, List.append_nil]
    obtain ⟨hseq, hcursor⟩ := sort_skip hcur hback hmoves hpos
    rw [hseq, hcursor, hl, hc, rotate_next, List.append_nil, ← List.append_assoc]
  · have hlen : S.length ≠ 0 := fun h => hS' (List.length_eq_zero_iff.mp h)
    have hpos : next w.mSequence.length P.length ≠ w.nextStreamToService := by
      rw [hnext, hc]
      simp only [List.length_append]
      omega
    obtain ⟨hseq, hcursor⟩ := sort_move hcur hback hmoves hpos
    have hleft : next w.mSequence.length P.length ≤ w.nextStreamToService := by
      rw [hnext, hc]
      simp only [List.length_append]
      omega
    rw [hseq, hcursor]
    dsimp only
    rw [if_pos hleft, hnext, hc, hl, moveBefore_left]
    -- is the moved entry the last of the sequence?
    by_cases hY : Y = []
    · subst hY
      rw [if_pos (by simp only [List.length_append, List.length_singleton]),
        List.rotate_zero, List.append_nil, List.nil_append]
    · have hlenY : Y.length ≠ 0 := fun h => hY (List.length_eq_zero_iff.mp h)
      have hfront : P ++ [a] ++ cur :: (S ++ Y) = (P ++ [a] ++ cur :: S) ++ Y := by
        rw [List.append_assoc (P ++ [a]), List.cons_append]
      have hat : (P ++ [a] ++ S).length + 1 = (P ++ [a] ++ cur :: S).length := by
        simp only [List.length_append, List.length_cons]
        omega
      rw [if_neg (by simp only [List.length_append, List.length_cons]; omega), hfront, hat,
        List.rotate_append_length_eq, List.append_assoc Y]

/-- It stands to the right, behind the end of the list. -/
theorem ahead_sort_right (hl : w.mSequence = X ++ cur :: (P ++ [a] ++ S))
    (hc : w.nextStreamToService = X.length) (hX : ∀ e ∈ X, ¬ Earlier cur.launchTime e)
    (hS : ∀ e ∈ S, ¬ Earlier cur.launchTime e) (ha : Earlier cur.launchTime a) :
    w.sortByLaunchTime.ahead = (P ++ [a]) ++ cur :: (S ++ X) := by
  have hcur : w.mSequence[w.nextStreamToService]? = some cur := by
    rw [hl, hc, List.getElem?_append_right (Nat.le_refl _), Nat.sub_self]
    rfl
  have hback : searchBackward w.mSequence w.nextStreamToService cur.launchTime w.mSequence.length
      w.nextStreamToService = (X ++ cur :: P).length := by
    rw [hl, hc]
    exact searchBackward_right hX hS ha
  have hmoves : (X ++ cur :: P).length ≠ w.nextStreamToService := by
    rw [hc]
    simp only [List.length_append, List.length_cons]
    omega
  have hsize : w.mSequence.length = X.length + P.length + S.length + 2 := by
    rw [hl]
    simp only [List.length_append, List.length_cons, List.length_nil]
    omega
  have hsizeP : (X ++ cur :: P).length = X.length + P.length + 1 := by
    simp only [List.length_append, List.length_cons]
    omega
  unfold ahead
  by_cases hS' : S = []
  · -- the last entry of the list: the place behind it is the front
    subst hS'
    rw [List.length_nil] at hsize
    have hnext : next w.mSequence.length (X ++ cur :: P).length = 0 := by
      unfold next
      rw [if_pos (by omega)]
    by_cases hX' : X = []
    · subst hX'
      obtain ⟨hseq, hcursor⟩ := sort_skip hcur hback hmoves (hnext.trans hc.symm)
      rw [hseq, hcursor, hl, hc, rotate_next]
      simp
    · have hlenX : X.length ≠ 0 := fun h => hX' (List.length_eq_zero_iff.mp h)
      obtain ⟨hseq, hcursor⟩ := sort_move hcur hback hmoves (by rw [hnext, hc]; omega)
      have hmoved := moveBefore_left [] X (P ++ [a]) cur
      rw [List.nil_append, List.length_nil, List.nil_append] at hmoved
      rw [hseq, hcursor, hnext]
      dsimp only
      rw [if_pos (Nat.zero_le _), if_neg (by omega), hl, hc, List.append_nil, hmoved,
        ← List.length_cons (a := cur), ← List.cons_append, List.rotate_append_length_eq,
        List.nil_append]
  · have hlenS : S.length ≠ 0 := fun h => hS' (List.length_eq_zero_iff.mp h)
    have hnext : next w.mSequence.length (X ++ cur :: P).length = (X ++ cur :: (P ++ [a])).length := by
      unfold next
      rw [if_neg (by omega)]
      simp only [List.length_append, List.length_cons, List.length_nil]
      omega
    have hsizeA : (X ++ cur :: (P ++ [a])).length = X.length + P.length + 2 := by
      simp only [List.length_append, List.length_cons, List.length_nil]
      omega
    obtain ⟨hseq, hcursor⟩ := sort_move hcur hback hmoves (by omega)
    have hright : ¬ next w.mSequence.length (X ++ cur :: P).length ≤ w.nextStreamToService := by
      omega
    rw [hseq, hcursor]
    dsimp only
    rw [if_neg hright, if_neg (by omega), hnext, hl, hc, moveBefore_right,
      List.rotate_append_length_eq, List.append_assoc, List.cons_append]

/-- It is not there. -/
theorem ahead_sort_none (hl : w.mSequence = X ++ cur :: S)
    (hc : w.nextStreamToService = X.length) (hX : ∀ e ∈ X, ¬ Earlier cur.launchTime e)
    (hS : ∀ e ∈ S, ¬ Earlier cur.launchTime e) :
    w.sortByLaunchTime.ahead = cur :: (S ++ X) := by
  have hcur : w.mSequence[w.nextStreamToService]? = some cur := by
    rw [hl, hc, List.getElem?_append_right (Nat.le_refl _), Nat.sub_self]
    rfl
  have hback : searchBackward w.mSequence w.nextStreamToService cur.launchTime w.mSequence.length
      w.nextStreamToService = X.length := by
    rw [hl, hc]
    exact searchBackward_none hX hS
  rw [sort_stay hcur hback hc.symm]
  unfold ahead
  rw [hl, hc, rotate_at]

/-- **`sortByLaunchTime`, as the cursor sees it.** The entry under the cursor goes behind the
last one that is to be served before it, and the cursor goes to the front. If there is none,
everything stays as it is. -/
theorem ahead_sortByLaunchTime (hcur : w.mSequence[w.nextStreamToService]? = some cur) :
    ∃ A B, w.ahead = cur :: (A ++ B)
      ∧ (∀ b ∈ B, ¬ Earlier cur.launchTime b)
      ∧ (A = [] ∨ ∃ A' a, A = A' ++ [a] ∧ Earlier cur.launchTime a)
      ∧ w.sortByLaunchTime.ahead = A ++ cur :: B := by
  obtain ⟨X, Y, hl, hc⟩ := exists_at hcur
  obtain ⟨A, B, hsplit, hB, hA⟩ :=
    exists_split_last (fun e => decide (Earlier cur.launchTime e)) (Y ++ X)
  have hB : ∀ b ∈ B, ¬ Earlier cur.launchTime b := fun b hb => of_decide_eq_false (hB b hb)
  have hA : A = [] ∨ ∃ A' a, A = A' ++ [a] ∧ Earlier cur.launchTime a :=
    hA.imp_right fun ⟨A', a, h, ha⟩ => ⟨A', a, h, of_decide_eq_true ha⟩
  refine ⟨A, B, ?_, hB, hA, ?_⟩
  · unfold ahead
    rw [hl, ← hc, rotate_at, hsplit]
  rcases hA with rfl | ⟨P, a, rfl, ha⟩
  · rw [List.nil_append] at hsplit
    subst hsplit
    rw [List.nil_append]
    exact ahead_sort_none hl hc.symm (fun e he => hB e (List.mem_append_right _ he))
      fun e he => hB e (List.mem_append_left _ he)
  · rcases List.append_eq_append_iff.mp hsplit with ⟨Z, hZ, rfl⟩ | ⟨Z, rfl, rfl⟩
    · rcases List.eq_nil_or_concat' Z with rfl | ⟨Q, b, rfl⟩
      · rw [List.append_nil] at hZ
        have hl' : w.mSequence = B ++ cur :: (P ++ [a] ++ []) := by
          rw [hl, hZ, List.nil_append, List.append_nil]
        have h := ahead_sort_right hl' (by rw [← hc, List.nil_append]) hB
          (fun e he => absurd he List.not_mem_nil) ha
        rwa [List.nil_append] at h
      · rw [← List.append_assoc] at hZ
        obtain ⟨hP, hab⟩ := List.append_inj' hZ rfl
        obtain rfl := List.singleton_inj.mp hab
        rw [ahead_sort_left hl hc.symm hB ha, hP, List.append_assoc Y Q]
    · have hX : ∀ e ∈ X, ¬ Earlier cur.launchTime e := fun e he =>
        hB e (List.mem_append_right _ he)
      have hS : ∀ e ∈ Z, ¬ Earlier cur.launchTime e := fun e he =>
        hB e (List.mem_append_left _ he)
      exact ahead_sort_right hl hc.symm hX hS ha

end Place

/-! ## The next stream -/

/-- The entries that are still to be serviced, in the order the cursor comes to them. -/
def todo (w : TxWorld) : List StreamData := w.ahead.filter fun e => e.done = .eNotDone

/-- The cursor does not rest on an entry that is done, unless all of them are. -/
def Pointed (w : TxWorld) : Prop :=
  w.todo = [] ∨ ∃ e, w.mSequence[w.nextStreamToService]? = some e ∧ e.done = .eNotDone

theorem next_eq_mod {n c : Nat} (hc : c < n) : next n c = (c + 1) % n := by
  unfold next
  split
  · rename_i h
    rw [h, Nat.mod_self]
  · rw [Nat.mod_eq_of_lt (by omega)]

/-- The skipping goes around once at most, and over nothing that is to be serviced. -/
theorem skipDone_from {l : List StreamData} {start : Nat} (hstart : start < l.length) :
    ∀ (fuel k : Nat), k + fuel = l.length →
      (∀ e ∈ (l.rotate start).take k, e.done ≠ .eNotDone) →
      ∃ m, m ≤ l.length
        ∧ l.rotate (skipDone l start fuel ((start + k) % l.length)).1 = (l.rotate start).rotate m
        ∧ (∀ e ∈ (l.rotate start).take m, e.done ≠ .eNotDone)
        ∧ (m = l.length ∨ ∃ e, l[(skipDone l start fuel ((start + k) % l.length)).1]? = some e
          ∧ e.done = .eNotDone)
  | 0, k, hk, hdone => by
      -- once around: nothing is left to be serviced
      refine ⟨l.length, Nat.le_refl _, ?_, ?_, Or.inl rfl⟩
      · rw [skipDone, List.rotate_mod, List.rotate_rotate, ← hk, Nat.add_zero]
      · rw [← hk, Nat.add_zero]
        exact hdone
  | fuel + 1, k, hk, hdone => by
      have hlt : (start + k) % l.length < l.length := Nat.mod_lt _ (by omega)
      rw [skipDone, List.getElem?_eq_getElem hlt]
      dsimp only
      split
      · rename_i hnot
        refine ⟨k, by omega, ?_, hdone, Or.inr ⟨_, List.getElem?_eq_getElem hlt, hnot⟩⟩
        rw [List.rotate_mod, List.rotate_rotate]
      · rename_i hyes
        -- the entry is done, so one more of them is behind
        have hnext : next l.length ((start + k) % l.length) = (start + (k + 1)) % l.length := by
          rw [next_eq_mod hlt, Nat.mod_add_mod, Nat.add_assoc]
        have hdone' : ∀ e ∈ (l.rotate start).take (k + 1), e.done ≠ .eNotDone := by
          intro e he
          rw [List.take_add_one, List.mem_append] at he
          rcases he with he | he
          · exact hdone e he
          · rw [List.getElem?_rotate (by omega), Nat.add_comm k,
              List.getElem?_eq_getElem hlt] at he
            obtain rfl := Option.some.inj (Option.mem_toList.mp he)
            exact hyes
        rw [hnext]
        split
        · rename_i hback
          -- the start again, which ends the skipping
          have hall : k + 1 = l.length := by
            rcases Nat.lt_or_ge (start + (k + 1)) l.length with hless | hmore
            · rw [Nat.mod_eq_of_lt hless] at hback
              omega
            · rw [Nat.mod_eq_sub_mod hmore, Nat.mod_eq_of_lt (by omega)] at hback
              omega
          refine ⟨l.length, Nat.le_refl _, ?_, ?_, Or.inl rfl⟩
          · show l.rotate ((start + (k + 1)) % l.length) = _
            rw [List.rotate_mod, List.rotate_rotate, hall]
          · rw [← hall]
            exact hdone'
        · exact skipDone_from hstart fuel (k + 1) (by omega) hdone'

/-- **Skipping changes nothing in what is to be serviced.** -/
theorem todo_skip {w w' : TxWorld} (hlt : w.nextStreamToService < w.mSequence.length)
    (hseq : w'.mSequence = w.mSequence)
    (hcursor : w'.nextStreamToService = (skipDone w.mSequence w.nextStreamToService
      w.mSequence.length w.nextStreamToService).1) :
    w'.todo = w.todo ∧ w'.Pointed ∧ w'.nextStreamToService < w'.mSequence.length := by
  have hskip := skipDone_from hlt w.mSequence.length 0 (Nat.zero_add _)
    (fun e he => absurd he List.not_mem_nil)
  rw [Nat.add_zero, Nat.mod_eq_of_lt hlt, ← hcursor] at hskip
  obtain ⟨m, hm, hrot, hdone, hend⟩ := hskip
  have hsize : (w.mSequence.rotate w.nextStreamToService).length = w.mSequence.length :=
    List.length_rotate ..
  have hfront : (w.ahead.take m).filter (fun e => e.done = .eNotDone) = [] := by
    rw [List.filter_eq_nil_iff]
    intro e he hnot
    exact hdone e he (of_decide_eq_true hnot)
  have htodo : w'.todo = w.todo := by
    unfold todo
    show (List.rotate w'.mSequence w'.nextStreamToService).filter _ = _
    rw [hseq, hrot, List.rotate_eq_drop_append_take (by omega), List.filter_append]
    show (w.ahead.drop m).filter _ ++ (w.ahead.take m).filter _ = w.ahead.filter _
    rw [hfront, List.append_nil]
    conv_rhs => rw [← List.take_append_drop m w.ahead, List.filter_append, hfront,
      List.nil_append]
  refine ⟨htodo, ?_, ?_⟩
  · rcases hend with rfl | ⟨e, hat, hnot⟩
    · refine Or.inl ?_
      rw [htodo]
      have hall : w.ahead.take w.mSequence.length = w.ahead :=
        List.take_of_length_le (Nat.le_of_eq hsize)
      rwa [hall] at hfront
    · exact Or.inr ⟨e, by rw [hseq]; exact hat, hnot⟩
  · rw [hcursor, hseq]
    exact skipDone_lt _ hlt

/-- What is to be serviced begins with the entry under the cursor. -/
theorem todo_of_pointed {w : TxWorld} (h : w.Pointed) {e : StreamData} {rest : List StreamData}
    (htodo : w.todo = e :: rest) :
    w.mSequence[w.nextStreamToService]? = some e ∧ e.done = .eNotDone
      ∧ ∃ behind, w.ahead = e :: behind ∧ rest = behind.filter fun e => e.done = .eNotDone := by
  rcases h with hnil | ⟨e', hat, hnot⟩
  · rw [hnil] at htodo
    exact nomatch htodo
  · obtain ⟨behind, hahead⟩ := head?_rotate hat
    have hahead : w.ahead = e' :: behind := hahead
    unfold todo at htodo
    rw [hahead, List.filter_cons_of_pos (by simpa using hnot)] at htodo
    injection htodo with he hrest
    subst he
    exact ⟨hat, hnot, behind, hahead, hrest.symm⟩

section Settle

variable {w : TxWorld} {cur cur' : StreamData} {behind : List StreamData}
  (hcur : w.mSequence[w.nextStreamToService]? = some cur) (hahead : w.ahead = cur :: behind)

include hcur hahead

theorem ahead_set : (w.mSequence.set w.nextStreamToService cur').rotate w.nextStreamToService
    = cur' :: behind := by
  obtain ⟨X, Y, hl, hc⟩ := exists_at hcur
  unfold ahead at hahead
  rw [hl, ← hc, rotate_at] at hahead
  injection hahead with _ hbehind
  rw [hl, ← hc, List.set_append_right _ _ (Nat.le_refl _), Nat.sub_self, List.set_cons_zero,
    rotate_at, hbehind]

/-- **The visited entry is done** for this window. -/
theorem todo_settle_next (hdone : cur'.done ≠ .eNotDone) :
    (w.settle cur' .next).todo = behind.filter (fun e => e.done = .eNotDone)
      ∧ (w.settle cur' .next).Pointed
      ∧ (w.settle cur' .next).nextStreamToService < (w.settle cur' .next).mSequence.length := by
  obtain ⟨X, Y, hl, hc⟩ := exists_at hcur
  have hset : w.mSequence.set w.nextStreamToService cur' = X ++ cur' :: Y := by
    rw [hl, ← hc, List.set_append_right _ _ (Nat.le_refl _), Nat.sub_self, List.set_cons_zero]
  have hbehind : behind = Y ++ X := by
    unfold ahead at hahead
    rw [hl, ← hc, rotate_at] at hahead
    injection hahead with _ h
    exact h.symm
  let w₁ : TxWorld := { w with
    mSequence := w.mSequence.set w.nextStreamToService cur'
    nextStreamToService :=
      next (w.mSequence.set w.nextStreamToService cur').length w.nextStreamToService }
  have hlt : w₁.nextStreamToService < w₁.mSequence.length := by
    refine next_lt ?_
    rw [List.length_set]
    exact (List.getElem?_eq_some_iff.mp hcur).1
  have hahead₁ : w₁.ahead = behind ++ [cur'] := by
    show (w.mSequence.set w.nextStreamToService cur').rotate
      (next (w.mSequence.set w.nextStreamToService cur').length w.nextStreamToService) = _
    rw [hset, ← hc, rotate_next, hbehind, List.append_assoc]
  obtain ⟨htodo, hpointed, hcursor⟩ := @todo_skip w₁ (w.settle cur' .next) hlt rfl rfl
  refine ⟨?_, hpointed, hcursor⟩
  rw [htodo]
  unfold todo
  rw [hahead₁, List.filter_append, List.filter_cons_of_neg (by simpa using hdone),
    List.filter_nil, List.append_nil]

/-- **The visited entry has its next packet**, and goes behind those that come before it. -/
theorem todo_settle_sort (hnot : cur'.done = .eNotDone) :
    ∃ A B, behind = A ++ B
      ∧ (∀ b ∈ B, ¬ Earlier cur'.launchTime b)
      ∧ (A = [] ∨ ∃ A' a, A = A' ++ [a] ∧ Earlier cur'.launchTime a)
      ∧ (w.settle cur' .sortByLaunchTime).todo
        = A.filter (fun e => e.done = .eNotDone) ++ cur' :: B.filter (fun e => e.done = .eNotDone)
      ∧ (w.settle cur' .sortByLaunchTime).Pointed
      ∧ (w.settle cur' .sortByLaunchTime).nextStreamToService
        < (w.settle cur' .sortByLaunchTime).mSequence.length := by
  let w₀ : TxWorld := { w with mSequence := w.mSequence.set w.nextStreamToService cur' }
  have hlt : w.nextStreamToService < w.mSequence.length := (List.getElem?_eq_some_iff.mp hcur).1
  have hlt₀ : w₀.nextStreamToService < w₀.mSequence.length := by
    show w.nextStreamToService < (w.mSequence.set w.nextStreamToService cur').length
    rwa [List.length_set]
  have hcur₀ : w₀.mSequence[w₀.nextStreamToService]? = some cur' := by
    show (w.mSequence.set w.nextStreamToService cur')[w.nextStreamToService]? = some cur'
    rw [List.getElem?_set_self hlt]
  have hahead₀ : w₀.ahead = cur' :: behind := ahead_set hcur hahead
  obtain ⟨A, B, hsplit, hB, hA, hsorted⟩ := ahead_sortByLaunchTime hcur₀
  rw [hahead₀] at hsplit
  injection hsplit with _ hbehind
  obtain ⟨htodo, hpointed, hcursor⟩ :=
    @todo_skip w₀.sortByLaunchTime (w.settle cur' .sortByLaunchTime)
      (sortByLaunchTime_cursor hlt₀) rfl rfl
  refine ⟨A, B, hbehind, hB, hA, ?_, hpointed, hcursor⟩
  rw [htodo]
  unfold todo
  rw [hsorted, List.filter_append, List.filter_cons_of_pos (by simpa using hnot)]

end Settle

end AvbStreamHandler.TxWorld
