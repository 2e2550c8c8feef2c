import AvbStreamHandler.Kit.Word
import Mathlib.Algebra.GroupWithZero.Nat

/-!
# The condition variable of the video ring

`IasAvbVideoCondVar`: a futex whose value never changes, so that a waiter always sleeps and a
broadcast wakes whoever is asleep. What the code itself does is to go on sleeping after an
interruption, for the time that remains. Times are in milliseconds, as the code counts them.

The remaining time is reduced by the time since the wait began, at every interruption. So what
passes before an interruption is taken off once more at each later one: the wait is never too
long, and it is too short exactly if an interruption that is not the last one came late enough to
be seen.
-/

namespace AvbStreamHandler

open Kit Kit.Word

/-- What `futex` returns to a waiter. -/
inductive FutexReturn
  /-- It is woken. -/
  | woken
  /-- `EINTR`, and what `clock_gettime` says, unless it fails. -/
  | interrupted (now : Option Nat)
  | timedOut
  | failed
deriving DecidableEq, Repr

/-- `IasAvbVideoCondVar::IasResult`, as far as `wait` returns it. -/
inductive CondResult
  | eIasOk
  | eIasTimeout
  | eIasClockTimeNotAvailable
  | eIasCondWaitFailed
deriving DecidableEq, Repr

/-- The variables of the loop in `wait`. -/
structure CondWait where
  enter_time : Nat
  time_ms : Nat
  result : CondResult := .eIasOk
deriving DecidableEq, Repr

namespace CondWait

/-- A turn of the loop: it goes on, or it returns. -/
def turn (s : CondWait) : FutexReturn → CondWait ⊕ CondResult
  | .woken => .inr s.result
  | .interrupted none => .inl { s with result := .eIasClockTimeNotAvailable }
  | .interrupted (some now) =>
      if s.time_ms < sub64 now s.enter_time then .inr s.result
      else .inl { s with time_ms := s.time_ms - sub64 now s.enter_time }
  | .timedOut => .inr .eIasTimeout
  | .failed => .inr .eIasCondWaitFailed

/-- The loop, with what `futex` returns. -/
def loop (s : CondWait) : List FutexReturn → CondWait ⊕ CondResult
  | [] => .inl s
  | r :: rs =>
      match s.turn r with
      | .inl s' => s'.loop rs
      | .inr result => .inr result

end CondWait

/-- `wait`; `enter` is what the first `clock_gettime` says. -/
def IasAvbVideoCondVar.wait (time_ms : Nat) (enter : Option Nat) (returns : List FutexReturn) :
    CondWait ⊕ CondResult :=
  match enter with
  | none => .inr .eIasClockTimeNotAvailable
  | some enter_time => ({ enter_time := enter_time, time_ms := time_ms } : CondWait).loop returns

namespace CondWait

/-- What the futex returns if its sleeps are interrupted after `lasts`, from `now` on. -/
def interruptions (now : Nat) : List Nat → List FutexReturn
  | [] => []
  | d :: lasts => .interrupted (some (now + d)) :: interruptions (now + d) lasts

/-- The times since the wait began, at the interruptions. -/
def elapsed (since : Nat) : List Nat → List Nat
  | [] => []
  | d :: lasts => (since + d) :: elapsed (since + d) lasts

theorem loop_append (s : CondWait) (rs rs' : List FutexReturn) :
    s.loop (rs ++ rs') = match s.loop rs with
      | .inl s' => s'.loop rs'
      | .inr result => .inr result := by
  induction rs generalizing s with
  | nil => rfl
  | cons r rs ih =>
      simp only [List.cons_append, loop]
      cases s.turn r with
      | inl s' => exact ih s'
      | inr result => rfl

/-- **What remains** is the time less all that had passed at the interruptions. -/
theorem remaining {s s' : CondWait} {since : Nat} {lasts : List Nat}
    (hrange : s.enter_time + since + lasts.sum < 18446744073709551616)
    (h : s.loop (interruptions (s.enter_time + since) lasts) = .inl s') :
    s'.time_ms + (elapsed since lasts).sum = s.time_ms := by
  induction lasts generalizing s since with
  | nil =>
      cases h
      rfl
  | cons d lasts ih =>
      rw [List.sum_cons] at hrange
      have hpassed : sub64 (s.enter_time + since + d) s.enter_time = since + d := by
        unfold sub64
        omega
      simp only [interruptions, loop, turn, hpassed] at h
      by_cases hover : s.time_ms < since + d
      · rw [if_pos hover] at h
        cases h
      · rw [if_neg hover] at h
        have hrest := @ih { s with time_ms := s.time_ms - (since + d) } (since + d)
          (by
            show s.enter_time + (since + d) + lasts.sum < _
            omega)
          (by rw [← Nat.add_assoc]; exact h)
        simp only [elapsed, List.sum_cons]
        dsimp only at hrest
        omega

theorem getLast?_elapsed (since : Nat) (lasts : List Nat) :
    (elapsed since lasts).getLast?.getD since = since + lasts.sum := by
  induction lasts generalizing since with
  | nil => rfl
  | cons d lasts ih =>
      have hrest := ih (since + d)
      simp only [elapsed, List.sum_cons]
      rw [List.getLast?_cons, Option.getD_some, hrest]
      omega

/-- All but the last, and the last. -/
theorem sum_elapsed (lasts : List Nat) :
    (elapsed 0 lasts).sum = (elapsed 0 lasts).dropLast.sum + lasts.sum := by
  have hlast := getLast?_elapsed 0 lasts
  rw [Nat.zero_add] at hlast
  rw [← hlast]
  rcases List.eq_nil_or_concat (elapsed 0 lasts) with hnil | ⟨init, last, hconcat⟩
  · rw [hnil]
    rfl
  · rw [hconcat, List.concat_eq_append, List.dropLast_concat, List.getLast?_concat,
      List.sum_append]
    simp

end CondWait

open CondWait

/-- **A wait is never too long.** If it times out after interruptions, it has lasted the time it
was given less what had passed at all interruptions but the last; so it has lasted as long as it
was asked to exactly if these came at once. -/
theorem IasAvbVideoCondVar.wait_lasts {time_ms enter_time : Nat} {lasts : List Nat} {s : CondWait}
    (hrange : enter_time + lasts.sum < 18446744073709551616)
    (h : wait time_ms (some enter_time) (interruptions enter_time lasts) = .inl s) :
    wait time_ms (some enter_time) (interruptions enter_time lasts ++ [.timedOut])
        = .inr .eIasTimeout
      ∧ lasts.sum + s.time_ms + (elapsed 0 lasts).dropLast.sum = time_ms
      ∧ (lasts.sum + s.time_ms = time_ms ↔ ∀ t ∈ (elapsed 0 lasts).dropLast, t = 0) := by
  have hremaining : s.time_ms + (elapsed 0 lasts).sum = time_ms :=
    @remaining { enter_time := enter_time, time_ms := time_ms } s 0 lasts (by simpa using hrange) h
  rw [sum_elapsed] at hremaining
  have htotal : lasts.sum + s.time_ms + (elapsed 0 lasts).dropLast.sum = time_ms := by omega
  refine ⟨?_, htotal, ?_⟩
  · unfold wait at h ⊢
    dsimp only at h ⊢
    rw [loop_append, h]
    rfl
  · rw [← List.sum_eq_zero_iff_forall_eq_nat]
    omega

/-- Interrupted after 40 and 50 of 200 milliseconds, it times out after 160. -/
theorem IasAvbVideoCondVar.wait_lasts_twice :
    wait 200 (some 1000) (interruptions 1000 [40, 50] ++ [.timedOut]) = .inr .eIasTimeout
      ∧ [40, 50].sum + 70 + (elapsed 0 [40, 50]).dropLast.sum = 200
      ∧ ([40, 50].sum + 70 = 200 ↔ ∀ t ∈ (elapsed 0 [40, 50]).dropLast, t = 0) :=
  wait_lasts (s := { enter_time := 1000, time_ms := 70 }) (by decide) (by decide)

end AvbStreamHandler
