import Mathlib.Data.List.AList

/-!
# Bindings on top of each other

A store is filled by bindings that come one after the other, and a later one covers an earlier
one with the same key. What the store holds then does not depend on how it was filled: under a
key there is what the last binding of that key says, and what was there before if none does.
-/

namespace Kit.Overlay

variable {κ ν : Type} [DecidableEq κ]

/-- What the bindings say about a key. -/
def latest (k : κ) : List (κ × ν) → Option ν
  | [] => none
  | b :: bs => (latest k bs).or (if b.1 = k then some b.2 else none)

/-- The bindings are put into the store in their order. -/
def put (m : AList fun _ : κ => ν) (bs : List (κ × ν)) : AList fun _ : κ => ν :=
  bs.foldl (fun m b => m.insert b.1 b.2) m

/-- The keys that are named are taken out, one after the other. -/
def drop (m : AList fun _ : κ => ν) (ks : List κ) : AList fun _ : κ => ν :=
  ks.foldl (fun m k => m.erase k) m

variable {k : κ} {m : AList fun _ : κ => ν} {bs bs' : List (κ × ν)}

theorem latest_append : latest k (bs ++ bs') = (latest k bs').or (latest k bs) := by
  induction bs with
  | nil =>
      rw [List.nil_append]
      exact (Option.or_none).symm
  | cons b bs ih =>
      show (latest k (bs ++ bs')).or _ = (latest k bs').or ((latest k bs).or _)
      rw [ih, Option.or_assoc]

/-- **What the store holds** after the bindings. -/
theorem lookup_put : (put m bs).lookup k = (latest k bs).or (m.lookup k) := by
  induction bs generalizing m with
  | nil => rfl
  | cons b bs ih =>
      show (put (m.insert b.1 b.2) bs).lookup k = ((latest k bs).or _).or _
      rw [ih, Option.or_assoc]
      congr 1
      by_cases hb : b.1 = k
      · rw [← hb, AList.lookup_insert, if_pos rfl, Option.some_or]
      · rw [AList.lookup_insert_ne (Ne.symm hb), if_neg hb, Option.none_or]

theorem put_append : put m (bs ++ bs') = put (put m bs) bs' := List.foldl_append

/-- **What is left** in the store. -/
theorem lookup_drop {ks : List κ} :
    (drop m ks).lookup k = if k ∈ ks then none else m.lookup k := by
  induction ks generalizing m with
  | nil => rfl
  | cons k' ks ih =>
      show (drop (m.erase k') ks).lookup k = _
      rw [ih]
      by_cases hks : k ∈ ks
      · rw [if_pos hks, if_pos (List.mem_cons_of_mem _ hks)]
      · rw [if_neg hks]
        by_cases hk : k = k'
        · rw [hk, AList.lookup_erase, if_pos (List.mem_cons_self)]
        · rw [AList.lookup_erase_ne hk, if_neg]
          exact fun hmem => (List.mem_cons.mp hmem).elim hk hks

/-- Taking out all keys of a kind leaves nothing of that kind. -/
theorem lookup_drop_filter (p : κ → Bool) :
    (drop m (m.keys.filter p)).lookup k = if p k then none else m.lookup k := by
  rw [lookup_drop]
  by_cases hp : p k = true
  · rw [if_pos hp]
    by_cases hk : k ∈ m.keys
    · rw [if_pos (List.mem_filter.mpr ⟨hk, hp⟩)]
    · rw [if_neg fun hmem => hk (List.mem_filter.mp hmem).1]
      exact AList.lookup_eq_none.mpr fun hmem => hk (AList.mem_keys.mp hmem)
  · rw [if_neg hp, if_neg fun hmem => hp (List.mem_filter.mp hmem).2]

end Kit.Overlay
