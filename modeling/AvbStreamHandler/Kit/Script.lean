import Mathlib.Data.List.Basic

/-!
# Scripts

A client goes through a script of calls, one after the other, and stops at the first that fails.
What it has made then is a beginning of the script with its answers, and only the last of these
can be a failure; the script is through exactly if none is. Scripts that follow each other are one
script.
-/

namespace Kit.Script

variable {κ ρ : Type}

/-- What was made of a script, with the answers, and whether it is through. -/
inductive Made (good : ρ → Prop) : List κ → List (κ × ρ) → Bool → Prop
  | through : Made good [] [] true
  | fails {r : ρ} (c : κ) (cs : List κ) (hr : ¬ good r) : Made good (c :: cs) [(c, r)] false
  | next {r : ρ} {c : κ} {cs : List κ} {made : List (κ × ρ)} {ok : Bool} (hr : good r)
      (rest : Made good cs made ok) : Made good (c :: cs) ((c, r) :: made) ok

variable {good : ρ → Prop} {cs cs' : List κ} {made made' : List (κ × ρ)} {ok : Bool}

/-- **A script that is through** is followed by the next one. -/
theorem Made.append (h : Made good cs made true) (h' : Made good cs' made' ok) :
    Made good (cs ++ cs') (made ++ made') ok := by
  generalize hthrough : true = through at h
  induction h with
  | through => exact h'
  | fails => exact nomatch hthrough
  | next hr _ ih => exact .next hr (ih hthrough)

/-- After one that failed nothing follows. -/
theorem Made.append_failed (h : Made good cs made false) (cs' : List κ) :
    Made good (cs ++ cs') made false := by
  generalize hfailed : false = failed at h
  induction h with
  | through => exact nomatch hfailed
  | fails c cs hr => exact .fails c (cs ++ cs') hr
  | next hr _ ih => exact .next hr (ih hfailed)

theorem Made.all_calls (h : Made good cs made true) : made.map Prod.fst = cs := by
  generalize hthrough : true = through at h
  induction h with
  | through => rfl
  | fails => exact nomatch hthrough
  | next hr _ ih => exact congrArg _ (ih hthrough)

/-- **The script is through** if no call has failed, and only then. -/
theorem Made.through_iff (h : Made good cs made ok) : ok = true ↔ ∀ p ∈ made, good p.2 := by
  induction h with
  | through => exact iff_of_true rfl nofun
  | fails c cs hr => exact iff_of_false nofun fun hall => hr (hall _ (List.mem_singleton.mpr rfl))
  | next hr _ ih =>
      rw [ih, List.forall_mem_cons]
      exact (and_iff_right hr).symm

end Kit.Script
