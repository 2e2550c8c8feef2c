import Mathlib.Tactic.ByContra

/-!
# Runs of a deterministic machine

A machine is a step function; everything its environment decides is part of the
event it takes. A run is a list of events, folded from the left.

`Always` guards a run: every event meets a condition in the very state it is
applied to. The two rules are the induction every safety argument needs, with and
without a guard, and the cut at a point of the run.
-/

namespace Kit.Run

variable {σ ε : Type}

/-- The state a run ends in. -/
def exec (step : σ → ε → σ) (s : σ) (es : List ε) : σ := es.foldl step s

/-- Every event of the run meets `ok` in the state it is applied to. -/
def Always (step : σ → ε → σ) (ok : σ → ε → Prop) : σ → List ε → Prop
  | _, [] => True
  | s, e :: es => ok s e ∧ Always step ok (step s e) es

instance decidableAlways (step : σ → ε → σ) (ok : σ → ε → Prop)
    [∀ s e, Decidable (ok s e)] : ∀ s es, Decidable (Always step ok s es)
  | _, [] => inferInstanceAs (Decidable True)
  | s, e :: es =>
      have := decidableAlways step ok (step s e) es
      inferInstanceAs (Decidable (ok s e ∧ Always step ok (step s e) es))

variable {step : σ → ε → σ} {ok : σ → ε → Prop}

@[simp] theorem exec_nil (s : σ) : exec step s [] = s := rfl

@[simp] theorem exec_cons (s : σ) (e : ε) (es : List ε) :
    exec step s (e :: es) = exec step (step s e) es := rfl

theorem exec_append (s : σ) (es fs : List ε) :
    exec step s (es ++ fs) = exec step (exec step s es) fs := List.foldl_append

/-- Cutting a guarded run leaves two guarded runs. -/
theorem always_append {s : σ} {es fs : List ε} :
    Always step ok s (es ++ fs) ↔ Always step ok s es ∧ Always step ok (exec step s es) fs := by
  induction es generalizing s with
  | nil => simp [Always]
  | cons e es ih => simp only [List.cons_append, Always, exec_cons, ih, and_assoc]

/-- A guard that lets everything through. -/
theorem always_of_forall (h : ∀ s e, ok s e) (s : σ) (es : List ε) : Always step ok s es := by
  induction es generalizing s with
  | nil => trivial
  | cons e es ih => exact ⟨h s e, ih (step s e)⟩

/-- **The invariant rule.** What a guarded step preserves, a guarded run preserves. -/
theorem inv_exec {inv : σ → Prop} (hstep : ∀ s e, inv s → ok s e → inv (step s e))
    {s : σ} {es : List ε} (hs : inv s) (hok : Always step ok s es) : inv (exec step s es) := by
  induction es generalizing s with
  | nil => exact hs
  | cons e es ih => exact ih (hstep s e hs hok.1) hok.2

/-- The same without a guard. -/
theorem inv_exec_of_step {inv : σ → Prop} (hstep : ∀ s e, inv s → inv (step s e)) {s : σ}
    (hs : inv s) (es : List ε) : inv (exec step s es) := by
  induction es generalizing s with
  | nil => exact hs
  | cons e es ih => exact ih (hstep s e hs)

/-- The same with a guard that looks at the events alone. -/
theorem inv_exec_mem {inv : σ → Prop} {P : ε → Prop}
    (hstep : ∀ s e, inv s → P e → inv (step s e)) {s : σ} {es : List ε} (hs : inv s)
    (hP : ∀ e ∈ es, P e) : inv (exec step s es) := by
  induction es generalizing s with
  | nil => exact hs
  | cons e es ih =>
      exact ih (hstep s e hs (hP e List.mem_cons_self))
        fun e' he' => hP e' (List.mem_cons_of_mem e he')

/-- The rule of the counted loop. -/
theorem foldl_range_inv {f : σ → Nat → σ} {P : Nat → σ → Prop} {n : Nat} {s : σ} (hs : P 0 s)
    (hstep : ∀ i, i < n → ∀ s, P i s → P (i + 1) (f s i)) : P n ((List.range n).foldl f s) := by
  induction n with
  | zero => exact hs
  | succ n ih =>
      rw [List.range_succ, List.foldl_append]
      exact hstep n (Nat.lt_succ_self n) _
        (ih fun i hi => hstep i (Nat.lt_succ_of_lt hi))

/-- A guard that looks at the events alone. -/
theorem always_and_mem {P : ε → Prop} {s : σ} {es : List ε} (hok : Always step ok s es)
    (hP : ∀ e ∈ es, P e) : Always step (fun s e => ok s e ∧ P e) s es := by
  induction es generalizing s with
  | nil => trivial
  | cons e es ih =>
      exact ⟨⟨hok.1, hP e List.mem_cons_self⟩,
        ih hok.2 fun e' he' => hP e' (List.mem_cons_of_mem e he')⟩

/-- A guard that follows from another as long as an invariant holds. -/
theorem always_imp {inv : σ → Prop} {good : σ → ε → Prop}
    (himp : ∀ s e, inv s → ok s e → good s e)
    (hstep : ∀ s e, inv s → ok s e → inv (step s e)) {s : σ} {es : List ε} (hs : inv s)
    (hok : Always step ok s es) : Always step good s es := by
  induction es generalizing s with
  | nil => trivial
  | cons e es ih => exact ⟨himp s e hs hok.1, ih (hstep s e hs hok.1) hok.2⟩

/-- **The equivalence rule.** Two guards that agree as long as an invariant holds, which
guarded steps keep, let the same runs through. -/
theorem always_congr {inv : σ → Prop} {good : σ → ε → Prop}
    (hiff : ∀ s e, inv s → (ok s e ↔ good s e))
    (hstep : ∀ s e, inv s → ok s e → inv (step s e)) {s : σ} {es : List ε} (hs : inv s) :
    Always step ok s es ↔ Always step good s es :=
  ⟨always_imp (fun s e hs => (hiff s e hs).mp) hstep hs,
    always_imp (fun s e hs => (hiff s e hs).mpr)
      (fun s e hs hgood => hstep s e hs ((hiff s e hs).mpr hgood)) hs⟩

/-- **The exactness rule**, for runs whose events keep a promise. If a guarded step keeps the
invariant, the invariant is good, and an unguarded step out of it is not, then a run is good all
along exactly if it is guarded all along. -/
theorem good_iff_always_of_promised {inv good : σ → Prop} {promised : σ → ε → Prop}
    (hgood : ∀ s, inv s → good s)
    (hstep : ∀ s e, inv s → promised s e → ok s e → inv (step s e))
    (hexact : ∀ s e, inv s → promised s e → ¬ ok s e → ¬ good (step s e)) {s : σ} {es : List ε}
    (hs : inv s) (hrun : Always step promised s es) :
    (∀ pre, pre <+: es → good (exec step s pre)) ↔ Always step ok s es := by
  induction es generalizing s with
  | nil =>
      refine ⟨fun _ => trivial, ?_⟩
      intro _ pre hpre
      rw [List.prefix_nil.mp hpre]
      exact hgood s hs
  | cons e es ih =>
      obtain ⟨hpromised, hrun⟩ := hrun
      constructor
      · intro h
        have hok : ok s e := by
          by_contra hne
          exact hexact s e hs hpromised hne (h [e] (by simp))
        refine ⟨hok, (ih (hstep s e hs hpromised hok) hrun).mp ?_⟩
        intro pre hpre
        exact h (e :: pre) (List.cons_prefix_cons.mpr ⟨rfl, hpre⟩)
      · rintro ⟨hok, hrest⟩ pre hpre
        cases pre with
        | nil => exact hgood s hs
        | cons e' pre =>
            obtain ⟨rfl, hpre'⟩ := List.cons_prefix_cons.mp hpre
            exact (ih (hstep s e' hs hpromised hok) hrun).mpr hrest pre hpre'

/-- The same without a promise. -/
theorem good_iff_always {inv good : σ → Prop} (hgood : ∀ s, inv s → good s)
    (hstep : ∀ s e, inv s → ok s e → inv (step s e))
    (hexact : ∀ s e, inv s → ¬ ok s e → ¬ good (step s e)) {s : σ} {es : List ε}
    (hs : inv s) : (∀ pre, pre <+: es → good (exec step s pre)) ↔ Always step ok s es := by
  have hfree : ∀ (es : List ε) (s : σ), Always step (fun _ _ => True) s es := by
    intro es
    induction es with
    | nil => exact fun _ => trivial
    | cons e es ih => exact fun s => ⟨trivial, ih _⟩
  exact good_iff_always_of_promised hgood (fun s e hs _ => hstep s e hs)
    (fun s e hs _ => hexact s e hs) hs (hfree es s)

end Kit.Run
