import AvbStreamHandler.Kit.Run

/-!
# What an event finds behind it

A machine whose state sums up the events it has taken. Then everything about a run can be said
of the events alone: each one is looked at together with those before it, its past. A machine
that stops at the first event it cannot take does so exactly at the first one that its past
rules out.
-/

namespace Kit.Past

open Kit.Run

variable {σ ε : Type}

/-- Every event of a list with what comes before it; `past` comes before all of them. -/
def withPast (past : List ε) : List ε → List (List ε × ε)
  | [] => []
  | e :: es => (past, e) :: withPast (past ++ [e]) es

variable {step : σ → ε → σ} {ok : List ε → ε → Prop} {past es : List ε} {e : ε} {s : σ}

theorem withPast_append_singleton :
    withPast past (es ++ [e]) = withPast past es ++ [(past ++ es, e)] := by
  induction es generalizing past with
  | nil => rw [List.append_nil]; rfl
  | cons e' es ih =>
      show (past, e') :: withPast (past ++ [e']) (es ++ [e]) = _
      rw [ih, List.append_assoc]
      rfl

/-- The pasts are the beginnings of the list. -/
theorem mem_withPast {p : List ε × ε} :
    p ∈ withPast past es ↔ ∃ before after, es = before ++ p.2 :: after ∧ p.1 = past ++ before := by
  induction es generalizing past with
  | nil =>
      refine iff_of_false List.not_mem_nil ?_
      rintro ⟨before, after, h, -⟩
      exact List.cons_ne_nil _ _ (List.append_eq_nil_iff.mp h.symm).2
  | cons e es ih =>
      show p ∈ (past, e) :: withPast (past ++ [e]) es ↔ _
      rw [List.mem_cons, ih]
      constructor
      · rintro (rfl | ⟨before, after, rfl, hp⟩)
        · exact ⟨[], es, rfl, (List.append_nil past).symm⟩
        · exact ⟨e :: before, after, rfl, by rw [hp, List.append_assoc]; rfl⟩
      · rintro ⟨before, after, h, hp⟩
        cases before with
        | nil =>
            left
            rw [List.append_nil] at hp
            exact Prod.ext hp (List.cons.inj h).1.symm
        | cons e' before =>
            obtain ⟨rfl, rfl⟩ := List.cons.inj h
            exact .inr ⟨before, after, rfl, by rw [hp, List.append_assoc]; rfl⟩

section Summary

variable (inv : List ε → σ → Prop)

/-- **The state sums up the past**, as long as every event is one that its past allows. -/
theorem inv_exec_from (hs : inv past s)
    (hstep : ∀ past s e, inv past s → ok past e → inv (past ++ [e]) (step s e))
    (hok : ∀ p ∈ withPast past es, ok p.1 p.2) : inv (past ++ es) (exec step s es) := by
  induction es generalizing past s with
  | nil => rw [List.append_nil]; exact hs
  | cons e es ih =>
      have hnext := ih (hstep past s e hs (hok (past, e) List.mem_cons_self))
        fun p hp => hok p (List.mem_cons_of_mem _ hp)
      rw [List.append_assoc] at hnext
      exact hnext

theorem inv_exec (hs : inv [] s)
    (hstep : ∀ past s e, inv past s → ok past e → inv (past ++ [e]) (step s e))
    (hok : ∀ p ∈ withPast [] es, ok p.1 p.2) : inv es (exec step s es) :=
  inv_exec_from inv hs hstep hok

/-- A machine that has failed stays where it is. -/
theorem failed_exec {failed : σ → Prop} (hfailed : failed s)
    (hstay : ∀ s e, failed s → step s e = s) (es : List ε) : exec step s es = s := by
  induction es with
  | nil => rfl
  | cons e es ih => rw [exec_cons, hstay s e hfailed, ih]

/-- **The machine goes through** exactly if every event is one that its past allows. -/
theorem not_failed_iff (failed : σ → Prop) (hs : inv past s)
    (hgoes : ∀ past s, inv past s → ¬ failed s)
    (hstep : ∀ past s e, inv past s → ok past e → inv (past ++ [e]) (step s e))
    (hfails : ∀ past s e, inv past s → ¬ ok past e → failed (step s e))
    (hstay : ∀ s e, failed s → step s e = s) :
    ¬ failed (exec step s es) ↔ ∀ p ∈ withPast past es, ok p.1 p.2 := by
  constructor
  · intro hnot
    induction es generalizing past s with
    | nil => exact nofun
    | cons e es ih =>
        by_cases hok : ok past e
        · intro p hp
          rcases List.mem_cons.mp hp with rfl | hp
          · exact hok
          · exact ih (hstep past s e hs hok) hnot p hp
        · have hfailed := hfails past s e hs hok
          rw [exec_cons, failed_exec hfailed hstay] at hnot
          exact absurd hfailed hnot
  · intro hok
    exact hgoes _ _ (inv_exec_from inv hs hstep hok)

end Summary

end Kit.Past
