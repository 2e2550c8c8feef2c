import Mathlib.Logic.Function.Basic

/-!
# Waiting on a condition variable

A thread that waits looks for its condition, sleeps if it does not hold, and looks again when it
is woken. Between the look and the sleep there is a gap; what becomes true in the gap is not
announced to a thread that is not asleep yet.

`NoneOver` says that nobody sleeps over a condition that holds, unless somebody still owes the
announcement. Whoever makes a condition true has to owe it, and the announcement wakes all; then
the gap is the only thing that can break it, and a thread that falls asleep in spite of its
condition does break it.
-/

namespace Kit.Waiting

/-- Where a thread is in a wait for `α`. -/
inductive Place (α : Type)
  | idle
  /-- It did not find its condition and is about to sleep. -/
  | checked (a : α)
  | asleep (a : α)
  /-- It is awake and about to look again. -/
  | woken (a : α)
  /-- Its time is over, and it is about to look for the last time. -/
  | timedOut (a : α)
deriving DecidableEq, Repr

variable {ι α : Type}

namespace Place

/-- What a thread waits for. -/
def waits : Place α → Option α
  | .idle => none
  | .checked a => some a
  | .asleep a => some a
  | .woken a => some a
  | .timedOut a => some a

/-- An announcement. -/
def wake : Place α → Place α
  | .asleep a => .woken a
  | p => p

@[simp] theorem waits_wake (p : Place α) : p.wake.waits = p.waits := by
  cases p <;> rfl

theorem wake_ne_asleep (p : Place α) (a : α) : p.wake ≠ .asleep a := by
  cases p <;> exact nofun

end Place

/-- **Nobody sleeps over a condition that holds**, unless the announcement is owed. -/
def NoneOver (ready : ι → α → Prop) (owed : Prop) (places : ι → Place α) : Prop :=
  ∀ i a, places i = .asleep a → ready i a → owed

variable {ready ready' : ι → α → Prop} {owed owed' : Prop} {places : ι → Place α}

theorem noneOver_idle : NoneOver ready owed fun _ => Place.idle := fun _ _ h _ => nomatch h

/-- **The rule of the announcer.** Who makes a condition of a sleeper true owes it. -/
theorem NoneOver.announce (h : NoneOver ready owed places) (howed : owed → owed')
    (hready : ∀ i a, places i = .asleep a → ready' i a → ready i a ∨ owed') :
    NoneOver ready' owed' places := by
  intro i a hasleep hholds
  rcases hready i a hasleep hholds with hbefore | hnow
  · exact howed (h i a hasleep hbefore)
  · exact hnow

/-- An announcement leaves nobody asleep. -/
theorem noneOver_wake : NoneOver ready owed fun i => (places i).wake :=
  fun i a hasleep _ => absurd hasleep ((places i).wake_ne_asleep a)

/-- A debt is done with if no condition of a sleeper holds. -/
theorem noneOver_of_not_ready (h : ∀ i a, places i = .asleep a → ¬ ready i a) :
    NoneOver ready owed places := fun i a hasleep hholds => absurd hholds (h i a hasleep)

variable [DecidableEq ι] {i : ι} {p : Place α}

/-- **The rule of the waiter.** It is the only one that moves, and it falls asleep only if its
condition does not hold or is still to be announced. -/
theorem NoneOver.update (h : NoneOver ready owed places)
    (hp : ∀ a, p = .asleep a → ready i a → owed) :
    NoneOver ready owed (Function.update places i p) := by
  intro j a hasleep hholds
  by_cases hji : j = i
  · subst hji
    rw [Function.update_self] at hasleep
    exact hp a hasleep hholds
  · rw [Function.update_of_ne hji] at hasleep
    exact h j a hasleep hholds

/-- There is no other way. -/
theorem NoneOver.of_update {a : α} (h : NoneOver ready owed (Function.update places i (.asleep a)))
    (hready : ready i a) : owed := h i a (Function.update_self ..) hready

end Kit.Waiting
