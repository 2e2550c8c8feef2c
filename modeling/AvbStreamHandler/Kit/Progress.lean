import AvbStreamHandler.Kit.Run
import Mathlib.Order.Monotone.Basic

/-!
# Endless runs

A run that is fed one event after the other, without an end. Events may stall, and then nothing
comes of them. If a measure never grows while the machine goes on and falls with every event
that does not stall, and if there is always one more of those to come, the machine stops.
-/

namespace Kit.Run

variable {σ ε : Type}

/-- The state behind the first `n` events. -/
def after (step : σ → ε → σ) (s : σ) (events : Nat → ε) (n : Nat) : σ :=
  exec step s ((List.range n).map events)

variable {step : σ → ε → σ} {s : σ} {events : Nat → ε}

@[simp] theorem after_zero : after step s events 0 = s := rfl

@[simp] theorem after_succ (n : Nat) :
    after step s events (n + 1) = step (after step s events n) (events n) := by
  unfold after
  rw [List.range_succ, List.map_append, exec_append]
  rfl

/-- **The progress rule.** -/
theorem ends_of_progress {inv goesOn : σ → Prop} {stalls : σ → ε → Prop} (measure : σ → Nat)
    (hs : inv s)
    (hstep : ∀ n, inv (after step s events n) → goesOn (after step s events n) →
      inv (after step s events (n + 1))
        ∧ measure (after step s events (n + 1)) ≤ measure (after step s events n)
        ∧ (¬ stalls (after step s events n) (events n) →
          measure (after step s events (n + 1)) < measure (after step s events n)))
    (hfair : ∀ n, ∃ m, n ≤ m ∧ ¬ stalls (after step s events m) (events m)) :
    ∃ n, ¬ goesOn (after step s events n) := by
  by_contra hnot
  have hon : ∀ n, goesOn (after step s events n) := by
    intro n
    by_contra hn
    exact hnot ⟨n, hn⟩
  have hinv : ∀ n, inv (after step s events n) := by
    intro n
    induction n with
    | zero => exact hs
    | succ n ih => exact (hstep n ih (hon n)).1
  have hanti : Antitone fun n => measure (after step s events n) :=
    antitone_nat_of_succ_le fun n => (hstep n (hinv n) (hon n)).2.1
  -- there is no least value
  have hnone : ∀ k n, measure (after step s events n) = k → False := by
    intro k
    induction k using Nat.strongRecOn with
    | _ k ih =>
        intro n hk
        obtain ⟨m, hm, hmoves⟩ := hfair n
        have hle : measure (after step s events m) ≤ measure (after step s events n) := hanti hm
        have hlt := (hstep m (hinv m) (hon m)).2.2 hmoves
        exact ih _ (by omega) (m + 1) rfl
  exact hnone _ 0 rfl

end Kit.Run
