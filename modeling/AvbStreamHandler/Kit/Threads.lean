import Mathlib.Logic.Function.Basic

/-!
# Threads that share a state

Each thread stands at a place of its program. A step moves one thread and may change the
shared state; in what order the threads step is left open.

A proof outline says what is always true of the shared state, what a thread may rely on at
its place, and which places two threads are never at together. It is kept by a step that
keeps it for the thread that moves and does not interfere with the others. That last part is
the whole argument of most proofs about threads, and `Outline.Holds.move` asks for it once,
for an arbitrary other thread.
-/

namespace Kit.Threads

structure World (ι σ π : Type) where
  shared : σ
  place : ι → π

structure Outline (σ π : Type) where
  /-- What is always true of the shared state. -/
  inv : σ → Prop
  /-- What a thread relies on at a place. -/
  here : π → σ → Prop
  /-- Two threads may be at these places together. -/
  apart : π → π → Prop
  apart_comm : ∀ {p q}, apart p q → apart q p

variable {ι σ π : Type}

/-- **The outline holds** of a world. -/
structure Outline.Holds (o : Outline σ π) (w : World ι σ π) : Prop where
  inv : o.inv w.shared
  here : ∀ t, o.here (w.place t) w.shared
  apart : ∀ t u, t ≠ u → o.apart (w.place t) (w.place u)

/-- A thread at `q` is not disturbed when another goes from `p` to `p'` and the shared state
from `s` to `s'`. -/
def Outline.Undisturbed (o : Outline σ π) (s s' : σ) (p p' q : π) : Prop :=
  o.here q s → o.apart p q → o.here q s' ∧ o.apart p' q

namespace World

variable [DecidableEq ι] (w : World ι σ π) (t : ι) (s : σ) (p : π)

/-- One thread goes to a place and leaves a shared state. -/
def move : World ι σ π := { shared := s, place := Function.update w.place t p }

@[simp] theorem shared_move : (w.move t s p).shared = s := rfl

@[simp] theorem place_move_self : (w.move t s p).place t = p := Function.update_self ..

variable {t} in
theorem place_move_ne {u : ι} (h : u ≠ t) : (w.move t s p).place u = w.place u :=
  Function.update_of_ne h ..

@[simp] theorem move_self : w.move t w.shared (w.place t) = w := by
  simp [move]

end World

variable {o : Outline σ π} {w : World ι σ π}

/-- **The rule for the step of a thread.** -/
theorem Outline.Holds.move [DecidableEq ι] (h : o.Holds w) (t : ι) {s : σ} {p : π}
    (hinv : o.inv s) (hhere : o.here p s)
    (hothers : ∀ u, u ≠ t → o.Undisturbed w.shared s (w.place t) p (w.place u)) :
    o.Holds (w.move t s p) where
  inv := hinv
  here u := by
    by_cases hu : u = t
    · subst hu
      rw [World.place_move_self]
      exact hhere
    · rw [World.place_move_ne w s p hu]
      exact (hothers u hu (h.here u) (h.apart t u (Ne.symm hu))).1
  apart u v huv := by
    have hother : ∀ x, x ≠ t → o.apart p (w.place x) := fun x hx =>
      (hothers x hx (h.here x) (h.apart t x (Ne.symm hx))).2
    by_cases hu : u = t
    · subst hu
      rw [World.place_move_self, World.place_move_ne w s p (Ne.symm huv)]
      exact hother v (Ne.symm huv)
    · rw [World.place_move_ne w s p hu]
      by_cases hv : v = t
      · subst hv
        rw [World.place_move_self]
        exact o.apart_comm (hother u hu)
      · rw [World.place_move_ne w s p hv]
        exact h.apart u v huv

/-- **The rule for what is done outside the threads.** -/
theorem Outline.Holds.share (h : o.Holds w) {s : σ} (hinv : o.inv s)
    (hothers : ∀ u, o.here (w.place u) w.shared → o.here (w.place u) s) :
    o.Holds { w with shared := s } :=
  ⟨hinv, fun u => hothers u (h.here u), h.apart⟩

end Kit.Threads
