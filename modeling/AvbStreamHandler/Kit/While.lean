import Mathlib.Tactic.Basic

/-!
# While loops

A loop whose end is not in sight is run for a number of rounds. If it is through by then, the
result does not depend on how many rounds it was given. The two rules are the ones for
loops: an invariant holds behind the loop, and a measure that every round lowers brings it to
an end. A state that a round leaves as it is keeps the loop going forever.
-/

namespace Kit.While

variable {σ : Type} {cond : σ → Bool} {body : σ → σ} {inv : σ → Prop} {s s' : σ} {fuel : Nat}

/-- `while (cond) body`, for less than `fuel` rounds. -/
def loop (cond : σ → Bool) (body : σ → σ) : Nat → σ → Option σ
  | 0, _ => none
  | fuel + 1, s => if cond s then loop cond body fuel (body s) else some s

theorem loop_succ (h : loop cond body fuel s = some s') :
    loop cond body (fuel + 1) s = some s' := by
  induction fuel generalizing s with
  | zero => exact nomatch h
  | succ fuel ih =>
      rw [loop] at h ⊢
      split at h
      · rename_i hcond
        rw [if_pos hcond]
        exact ih h
      · rename_i hcond
        rw [if_neg hcond]
        exact h

/-- More rounds do no harm. -/
theorem loop_mono {more : Nat} (hle : fuel ≤ more) (h : loop cond body fuel s = some s') :
    loop cond body more s = some s' := by
  induction hle with
  | refl => exact h
  | step _ ih => exact loop_succ ih

/-- **The measure rule.** If every round keeps the invariant and lowers the measure, the loop
ends, with the invariant and without its condition. -/
theorem loop_ends (measure : σ → Nat)
    (hstep : ∀ s, inv s → cond s = true → inv (body s) ∧ measure (body s) < measure s)
    (hs : inv s) (hfuel : measure s < fuel) :
    ∃ s', loop cond body fuel s = some s' ∧ inv s' ∧ cond s' = false := by
  induction fuel generalizing s with
  | zero => exact absurd hfuel (Nat.not_lt_zero _)
  | succ fuel ih =>
      rw [loop]
      cases hcond : cond s with
      | true =>
          obtain ⟨hinv, hless⟩ := hstep s hs hcond
          rw [if_pos rfl]
          exact ih hinv (by omega)
      | false =>
          rw [if_neg Bool.false_ne_true]
          exact ⟨s, rfl, hs, hcond⟩

/-- **The invariant rule.** -/
theorem loop_inv (hstep : ∀ s, inv s → cond s = true → inv (body s)) (hs : inv s)
    (h : loop cond body fuel s = some s') : inv s' ∧ cond s' = false := by
  induction fuel generalizing s with
  | zero => exact nomatch h
  | succ fuel ih =>
      rw [loop] at h
      cases hcond : cond s with
      | true =>
          rw [hcond, if_pos rfl] at h
          exact ih (hstep s hs hcond) h
      | false =>
          rw [hcond, if_neg Bool.false_ne_true] at h
          obtain rfl := Option.some.inj h
          exact ⟨hs, hcond⟩

/-- A round that changes nothing is repeated forever. -/
theorem loop_stuck (hcond : cond s = true) (hbody : body s = s) (fuel : Nat) :
    loop cond body fuel s = none := by
  induction fuel with
  | zero => rfl
  | succ fuel ih => rw [loop, if_pos hcond, hbody, ih]

/-- If every round keeps the invariant, and lowers the measure or leads to a state it repeats
from then on, then a loop that is not through after `measure s` rounds never is. -/
theorem loop_none (measure : σ → Nat)
    (hstep : ∀ s, inv s → cond s = true →
      inv (body s) ∧ measure (body s) < measure s
        ∨ cond (body s) = true ∧ body (body s) = body s)
    (hs : inv s) (hfuel : measure s < fuel) (h : loop cond body fuel s = none) (more : Nat) :
    loop cond body more s = none := by
  induction fuel generalizing s more with
  | zero => exact absurd hfuel (Nat.not_lt_zero _)
  | succ fuel ih =>
      rw [loop] at h
      cases hcond : cond s with
      | false =>
          rw [hcond, if_neg Bool.false_ne_true] at h
          exact nomatch h
      | true =>
          rw [hcond, if_pos rfl] at h
          cases more with
          | zero => rfl
          | succ more =>
              rw [loop, hcond, if_pos rfl]
              rcases hstep s hs hcond with ⟨hinv, hless⟩ | ⟨hcond', hbody⟩
              · exact ih hinv (by omega) h more
              · exact loop_stuck hcond' hbody more

end Kit.While
