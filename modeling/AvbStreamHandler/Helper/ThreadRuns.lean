import Mathlib.Data.List.Chain
import AvbStreamHandler.Helper.Thread

/-!
# One thread at a time

Whatever order its callers and its threads step in, `IasThread` has at most one thread that
is not joined, calls its runnable object from one thread after the other, and keeps its
assertions, as long as nobody changes `mThreadState` in the window `stop` leaves open: it
gives its flag back, asserts that the byte is zero, and then stores a zero.

`outline` says what a caller relies on at each place. The flags are locks: who has
`cTHREAD_STATE_IS_STARTING_FLAG` set has no other starter beside it, and who has won
`cTHREAD_STATE_IS_STOPPING_FLAG` has neither a starter nor another stopper. A `stop` that
loses against a starter holds its flag for a moment too, beside the starter.
-/

namespace AvbStreamHandler

open Kit Kit.Threads Kit.Run

namespace IasThread

variable {ρ : Type}

/-- There is a thread to join. -/
def alive (s : IasThread ρ) : Prop := ∃ i, (s.worker i).alive = true

/-! ## The calls of the runnable object -/

/-- The second call may come directly after the first. -/
def Follows : Nat × Callback → Nat × Callback → Prop
  | (i, .beforeRun), (j, c) => j = i ∧ c ≠ .beforeRun ∨ i < j ∧ c = .beforeRun
  | (i, .run), (j, c) => j = i ∧ c = .afterRun
  | (i, .afterRun), (j, c) => i < j ∧ c = .beforeRun

/-- The threads call the runnable object one after the other, each `beforeRun`, at most one
`run`, `afterRun`, or `beforeRun` alone. -/
def Disciplined (calls : List (Nat × Callback)) : Prop :=
  (∀ x ∈ calls.head?, x.2 = .beforeRun) ∧ calls.IsChain Follows

/-- What the last call was when the newest thread `n` is at a place. -/
def LastCall (n : Nat) (last : Option (Nat × Callback)) : WorkerPlace → Prop
  | .unborn | .entered | .atBarrier | .beforeRun => ∀ x ∈ last, x.1 < n ∧ x.2 ≠ .run
  | .deciding | .leaving false => last = some (n, .beforeRun)
  | .inRun => last = some (n, .run)
  | .leaving true | .afterRun => ∃ c, c ≠ .afterRun ∧ last = some (n, c)
  | .clearing | .ended | .joined => ∀ x ∈ last, x.1 ≤ n ∧ x.2 ≠ .run

/-! ## The outline -/

/-- What is always true of the object. -/
structure Inv (s : IasThread ρ) : Prop where
  born : ∀ i, s.worker i = .unborn ↔ s.created ≤ i
  past : ∀ i, i + 1 < s.created → s.worker i = .joined
  threadId : ∀ n, s.created = n + 1 → s.mThreadId = some n
  runnable : 0 < s.created → s.mRunnableObject.isSome = true
  running : s.mThreadState.running = true ↔ ∃ i, (s.worker i).runs = true
  started : s.alive → s.mThreadState.started = true
  covered : s.mThreadState.started = true →
    s.alive ∨ s.mThreadState.isStarting = true ∨ s.mThreadState.isStopping = true
  asserts : s.assertFailed = false
  disciplined : Disciplined s.calls
  fresh : s.created = 0 → s.calls = []
  lastCall : ∀ n, s.created = n + 1 → LastCall n s.calls.getLast? (s.worker n)
  barrier : ∀ i, s.worker i = .atBarrier → s.mStartThreadResult = .cOk

end IasThread

namespace Caller

variable {ρ : Type}

/-- In `start`, with `cTHREAD_STATE_IS_STARTING_FLAG` set. -/
def starts : Caller ρ → Bool
  | .prepare .. | .markStarted _ | .create _ | .unmarkStarted _ | .awaitWorker _ | .finish ..
  | .release _ | .stop (.failed _) => true
  | _ => false

/-- In `stop`, with `cTHREAD_STATE_IS_STOPPING_FLAG` set by this call and nobody starting. -/
def wins : Caller ρ → Bool
  | .shutDown .. | .join _ | .unstart _ | .unstop .. => true
  | _ => false

/-- In `stop`, with `cTHREAD_STATE_IS_STOPPING_FLAG` set by this call. -/
def holds : Caller ρ → Bool
  | .unmark _ => true
  | p => p.wins

/-- In `stop`, between the release of its flag and the last store. -/
def resets : Caller ρ → Bool
  | .confirm _ | .reset _ => true
  | _ => false

/-- The next step of the caller may set a flag that it does not have yet. -/
def grabs : Caller ρ → Bool
  | .claim .. | .mark _ => true
  | _ => false

/-- Two callers may be at these places together. -/
structure Apart (p q : Caller ρ) : Prop where
  starts : p.starts = true → q.starts = false ∧ q.wins = false ∧ q.resets = false
  holds : p.holds = true → q.holds = false ∧ q.resets = false
  wins : p.wins = true → q.starts = false
  resets : p.resets = true → q.starts = false ∧ q.holds = false ∧ q.resets = false

/-- The caller relies on nothing. -/
structure Free (p : Caller ρ) : Prop where
  starts : p.starts = false
  holds : p.holds = false
  resets : p.resets = false

variable {p p' q : Caller ρ}

theorem holds_of_wins (h : p.wins = true) : p.holds = true := by
  cases p <;> first | exact h | rfl

theorem Free.wins (h : p.Free) : p.wins = false := by
  cases hw : p.wins with
  | false => rfl
  | true => exact absurd (h.holds.symm.trans (holds_of_wins hw)) Bool.false_ne_true

/-- Beside a starter a caller has no lock, or has lost. -/
theorem Apart.free_or_unmark (h : Apart p q) (hp : p.starts = true) :
    q.Free ∨ ∃ back, q = .unmark back := by
  obtain ⟨hs, hw, hr⟩ := h.starts hp
  cases q with
  | unmark back => exact .inr ⟨back, rfl⟩
  | _ => exact .inl ⟨hs, hw, hr⟩

theorem Apart.comm (h : Apart p q) : Apart q p := by
  obtain ⟨hs, hh, hw, hr⟩ := h
  constructor <;> grind

theorem Free.apart (h : q.Free) : Apart p q where
  starts _ := ⟨h.starts, h.wins, h.resets⟩
  holds _ := ⟨h.holds, h.resets⟩
  wins _ := h.starts
  resets _ := ⟨h.starts, h.holds, h.resets⟩

/-- A place with no more locks has no more enemies. -/
theorem Apart.mono (h : Apart p q) (hs : p'.starts = true → p.starts = true)
    (hh : p'.holds = true → p.holds = true) (hw : p'.wins = true → p.wins = true)
    (hr : p'.resets = true → p.resets = true) : Apart p' q where
  starts hp := h.starts (hs hp)
  holds hp := h.holds (hh hp)
  wins hp := h.wins (hw hp)
  resets hp := h.resets (hr hp)

/-- Beside a stopper that has won there is nobody to disturb. -/
theorem Apart.free_of_wins (h : Apart p q) (hp : p.wins = true) : q.Free :=
  ⟨h.wins hp, (h.holds (holds_of_wins hp)).1, (h.holds (holds_of_wins hp)).2⟩

end Caller

/-- `stop` has been called by `start` on its way out. -/
def Back.fails {ρ : Type} : Back ρ → Bool
  | .failed _ => true
  | _ => false

namespace IasThread

variable {ρ : Type}

/-- What a caller relies on at a place. -/
def Here : Caller ρ → IasThread ρ → Prop
  | .idle _, _ | .start .., _ | .claim .., _ => True
  | .prepare .., s =>
      s.mThreadState.isStarting = true ∧ s.mThreadState.started = false
  | .markStarted _, s =>
      s.mThreadState.isStarting = true ∧ s.mThreadState.started = false ∧
        s.mRunnableObject.isSome = true
  | .create _, s =>
      s.mThreadState.isStarting = true ∧ s.mThreadState.started = true ∧ ¬ s.alive ∧
        s.mRunnableObject.isSome = true
  | .unmarkStarted _, s => s.mThreadState.isStarting = true ∧ ¬ s.alive
  | .awaitWorker _, s => s.mThreadState.isStarting = true ∧ s.alive
  | .finish result _ _, s =>
      s.mThreadState.isStarting = true ∧ (s.mThreadState.started = true → s.alive) ∧
        (result = .cOk → s.alive)
  | .release result, s =>
      s.mThreadState.isStarting = true ∧ (s.mThreadState.started = true → s.alive) ∧
        (result = .cOk → s.alive)
  | .stop (.failed result), s =>
      s.mThreadState.isStarting = true ∧ (s.mThreadState.started = true → s.alive) ∧
        result ≠ .cOk
  | .stop _, _ => True
  | .mark back, _ => back.fails = false
  | .unmark back, s =>
      back.fails = false ∧ s.mThreadState.isStopping = true ∧
        (s.mThreadState.started = true → s.alive ∨ s.mThreadState.isStarting = true)
  | .shutDown started back, s =>
      back.fails = false ∧ s.mThreadState.isStopping = true ∧
        s.mThreadState.isStarting = false ∧ started = s.mThreadState.started ∧
        (started = true → s.alive)
  | .join back, s =>
      back.fails = false ∧ s.mThreadState.isStopping = true ∧
        s.mThreadState.isStarting = false ∧ s.alive
  | .unstart back, s =>
      back.fails = false ∧ s.mThreadState.isStopping = true ∧
        s.mThreadState.isStarting = false ∧ ¬ s.alive
  | .unstop result back, s =>
      back.fails = false ∧ s.mThreadState.isStopping = true ∧
        (s.mThreadState.started = true → s.alive) ∧
        (result = .cOk → s.mThreadState = { isStopping := true })
  | .confirm back, s | .reset back, s =>
      back.fails = false ∧ s.mThreadState = cTHREAD_STATE_INVALID

def outline (ρ : Type) : Outline (IasThread ρ) (Caller ρ) where
  inv := Inv
  here := Here
  apart := Caller.Apart
  apart_comm := Caller.Apart.comm

/-! ## What disturbs whom -/

variable {s s' : IasThread ρ} {p p' q : Caller ρ}

theorem here_free (hq : q.Free) (h : Here q s) : Here q s' := by
  cases q with
  | idle r => trivial
  | start a r => trivial
  | claim a r => trivial
  | stop back =>
      cases back with
      | failed r => exact Bool.noConfusion hq.starts
      | caller => trivial
      | restart a r => trivial
  | mark back => exact h
  | confirm back => exact Bool.noConfusion hq.resets
  | reset back => exact Bool.noConfusion hq.resets
  | unmark back => exact Bool.noConfusion hq.holds
  | shutDown b back => exact Bool.noConfusion hq.holds
  | join back => exact Bool.noConfusion hq.holds
  | unstart back => exact Bool.noConfusion hq.holds
  | unstop r back => exact Bool.noConfusion hq.holds
  | prepare a r => exact Bool.noConfusion hq.starts
  | markStarted d => exact Bool.noConfusion hq.starts
  | create d => exact Bool.noConfusion hq.starts
  | unmarkStarted d => exact Bool.noConfusion hq.starts
  | awaitWorker c => exact Bool.noConfusion hq.starts
  | finish r c d => exact Bool.noConfusion hq.starts
  | release r => exact Bool.noConfusion hq.starts

/-- A starter does not look at the flag of `stop`. -/
theorem here_of_starts (hq : q.starts = true)
    (hstarting : s'.mThreadState.isStarting = s.mThreadState.isStarting)
    (hstarted : s'.mThreadState.started = s.mThreadState.started)
    (hworker : s'.worker = s.worker) (hobject : s'.mRunnableObject = s.mRunnableObject)
    (h : Here q s) : Here q s' := by
  have halive : s'.alive = s.alive := by rw [alive, alive, hworker]
  cases q with
  | prepare | markStarted | create | unmarkStarted | awaitWorker | finish | release =>
      simp only [Here, hstarting, hstarted, hobject, halive] at h ⊢
      exact h
  | stop back =>
      cases back with
      | failed r =>
          simp only [Here, hstarting, hstarted, halive] at h ⊢
          exact h
      | caller | restart => exact Bool.noConfusion hq
  | _ => exact Bool.noConfusion hq

section Steps

variable {w : Threads ρ} {c : Nat}

/-- A caller that nobody is beside may do what it likes. -/
theorem holds_move_of_free (h : (outline ρ).Holds w) (hinv : Inv s') (hhere : Here p' s')
    (hfree : ∀ d, d ≠ c → (w.place d).Free) : (outline ρ).Holds (w.move c s' p') :=
  h.move c hinv hhere fun d hd hq _ => ⟨here_free (hfree d hd) hq, (hfree d hd).apart⟩

theorem free_of_wins (h : (outline ρ).Holds w) (hc : (w.place c).wins = true) :
    ∀ d, d ≠ c → (w.place d).Free :=
  fun d hd => (h.apart c d (Ne.symm hd)).free_of_wins hc

theorem free_of_resets (h : (outline ρ).Holds w) (hc : (w.place c).resets = true) :
    ∀ d, d ≠ c → (w.place d).Free := fun d hd =>
  have happart := (h.apart c d (Ne.symm hd)).resets hc
  ⟨happart.1, happart.2.1, happart.2.2⟩

/-- Who starts has the flag. -/
theorem isStarting_of_starts (hp : p.starts = true) (h : Here p s) :
    s.mThreadState.isStarting = true := by
  cases p with
  | prepare | markStarted | create | unmarkStarted | awaitWorker | finish | release => exact h.1
  | stop back =>
      cases back with
      | failed r => exact h.1
      | caller | restart => exact Bool.noConfusion hp
  | _ => exact Bool.noConfusion hp

theorem isStopping_of_holds (hp : p.holds = true) (h : Here p s) :
    s.mThreadState.isStopping = true := by
  cases p with
  | unmark | shutDown | join | unstart | unstop => exact h.2.1
  | _ => exact Bool.noConfusion hp

theorem invalid_of_resets (hp : p.resets = true) (h : Here p s) :
    s.mThreadState = cTHREAD_STATE_INVALID := by
  cases p with
  | confirm | reset => exact h.2
  | _ => exact Bool.noConfusion hp

/-- If both locks are open and nobody is in the window, there is nobody to disturb. -/
theorem free_of_open (h : (outline ρ).Holds w)
    (hstarting : w.shared.mThreadState.isStarting = false)
    (hstopping : w.shared.mThreadState.isStopping = false)
    (hwindow : ∀ d, d ≠ c → (w.place d).resets = false) : ∀ d, d ≠ c → (w.place d).Free := by
  intro d hd
  refine ⟨?_, ?_, hwindow d hd⟩
  · rw [Bool.eq_false_iff]
    intro hs
    rw [isStarting_of_starts hs (h.here d)] at hstarting
    exact Bool.noConfusion hstarting
  · rw [Bool.eq_false_iff]
    intro hs
    rw [isStopping_of_holds hs (h.here d)] at hstopping
    exact Bool.noConfusion hstopping

/-- Beside a starter there is at most a `stop` that has lost against it. -/
theorem holds_move_of_starts (h : (outline ρ).Holds w) (hc : (w.place c).starts = true)
    (hinv : Inv s') (hhere : Here p' s') (hholds : p'.holds = false)
    (hresets : p'.resets = false)
    (hstopping : s'.mThreadState.isStopping = w.shared.mThreadState.isStopping)
    (hstarted : s'.mThreadState.started = true →
      s'.alive ∨ s'.mThreadState.isStarting = true) : (outline ρ).Holds (w.move c s' p') := by
  refine h.move c hinv hhere ?_
  intro d hd hq happart
  refine ⟨?_, Caller.Apart.mono happart (fun _ => hc) ?_ ?_ ?_⟩
  · rcases Caller.Apart.free_or_unmark happart hc with hfree | ⟨back, hback⟩
    · exact here_free hfree hq
    · rw [hback] at hq ⊢
      exact ⟨hq.1, hstopping.trans hq.2.1, hstarted⟩
  · intro hp
    exact absurd (hholds.symm.trans hp) Bool.false_ne_true
  · intro hp
    exact absurd (hholds.symm.trans (Caller.holds_of_wins hp)) Bool.false_ne_true
  · intro hp
    exact absurd (hresets.symm.trans hp) Bool.false_ne_true

end Steps

/-! ## The object -/

theorem Inv.withState (h : Inv s) {t : ThreadState}
    (hrunning : t.running = s.mThreadState.running) (hstarted : s.alive → t.started = true)
    (hcovered : t.started = true →
      s.alive ∨ t.isStarting = true ∨ t.isStopping = true) :
    Inv { s with mThreadState := t } :=
  { h with
    running := by
      rw [hrunning]
      exact h.running
    started := hstarted
    covered := hcovered }

/-- The newest thread is the only one that may not be joined. -/
theorem Inv.newest (h : Inv s) {i : Nat} (hi : (s.worker i).alive = true) :
    s.created = i + 1 := by
  have hborn : i < s.created := by
    by_contra hge
    rw [(h.born i).mpr (by omega)] at hi
    exact Bool.noConfusion hi
  have hlast : ¬ i + 1 < s.created := by
    intro hlt
    rw [h.past i hlt] at hi
    exact Bool.noConfusion hi
  omega

theorem alive_of_runs {p : WorkerPlace} (h : p.runs = true) : p.alive = true := by
  cases p <;> first | rfl | exact h

theorem Disciplined.concat {calls : List (Nat × Callback)} {x : Nat × Callback}
    (h : Disciplined calls) (hfirst : calls = [] → x.2 = .beforeRun)
    (hnext : ∀ y ∈ calls.getLast?, Follows y x) : Disciplined (calls ++ [x]) := by
  refine ⟨?_, List.isChain_append.mpr ⟨h.2, List.isChain_singleton x, ?_⟩⟩
  · cases calls with
    | nil =>
        intro y hy
        cases hy
        exact hfirst rfl
    | cons z zs => exact h.1
  · intro y hy z hz
    cases hz
    exact hnext y hy

/-- A thread that has called nothing yet begins. -/
theorem Disciplined.beforeRun {calls : List (Nat × Callback)} {i : Nat} (h : Disciplined calls)
    (hlast : LastCall i calls.getLast? .beforeRun) : Disciplined (calls ++ [(i, .beforeRun)]) := by
  refine h.concat (fun _ => rfl) ?_
  rintro ⟨j, c⟩ hy
  obtain ⟨hlt, hne⟩ := hlast _ hy
  cases c with
  | beforeRun => exact .inr ⟨hlt, rfl⟩
  | run => exact absurd rfl hne
  | afterRun => exact ⟨hlt, rfl⟩

theorem Disciplined.run {calls : List (Nat × Callback)} {i : Nat} (h : Disciplined calls)
    (hlast : LastCall i calls.getLast? .deciding) : Disciplined (calls ++ [(i, .run)]) := by
  have hlast : calls.getLast? = some (i, .beforeRun) := hlast
  refine h.concat ?_ ?_
  · intro hnil
    rw [hnil] at hlast
    cases hlast
  · intro y hy
    rw [hlast] at hy
    cases hy
    exact .inl ⟨rfl, Callback.noConfusion⟩

theorem Disciplined.afterRun {calls : List (Nat × Callback)} {i : Nat} (h : Disciplined calls)
    (hlast : LastCall i calls.getLast? .afterRun) : Disciplined (calls ++ [(i, .afterRun)]) := by
  obtain ⟨c, hc, hlast⟩ := hlast
  refine h.concat ?_ ?_
  · intro hnil
    rw [hnil] at hlast
    cases hlast
  · intro y hy
    rw [hlast] at hy
    cases hy
    cases c with
    | beforeRun => exact .inl ⟨rfl, Callback.noConfusion⟩
    | run => exact ⟨rfl, rfl⟩
    | afterRun => exact absurd rfl hc

/-- What a step of a thread does: it goes on, and no flag changes but
`cTHREAD_STATE_RUNNING_FLAG`. -/
structure Advances (s s' : IasThread ρ) (i : Nat) (p' : WorkerPlace) : Prop where
  worker : s'.worker = Function.update s.worker i p'
  born : p' ≠ .unborn
  created : s'.created = s.created
  threadId : s'.mThreadId = s.mThreadId
  runnable : s'.mRunnableObject = s.mRunnableObject
  state : s'.mThreadState = { s.mThreadState with running := p'.runs }
  asserts : s'.assertFailed = s.assertFailed
  disciplined : Disciplined s'.calls
  lastCall : LastCall i s'.calls.getLast? p'
  barrier : p' = .atBarrier → s'.mStartThreadResult = .cOk

/-- **The rule for the thread.** Only the newest thread may step; the others are joined. -/
theorem Inv.advance (h : Inv s) {i : Nat} (hi : (s.worker i).alive = true) {p' : WorkerPlace}
    (hadv : Advances s s' i p')
    (hjoined : p'.alive = true ∨ s.mThreadState.isStopping = true) : Inv s' := by
  obtain ⟨hworker, hborn, hcreated, hid, hrunnable, hstate, hasserts, hcalls, hlast, hbarrier⟩ :=
    hadv
  have hnew := h.newest hi
  have hself : s'.worker i = p' := by rw [hworker, Function.update_self]
  have hother : ∀ j, j ≠ i → s'.worker j = s.worker j := by
    intro j hj
    rw [hworker, Function.update_of_ne hj]
  have hdead : ∀ j, j ≠ i → (s'.worker j).alive = false := by
    intro j hj
    rw [hother j hj, Bool.eq_false_iff]
    intro hj'
    exact hj (by have := h.newest hj'; omega)
  have halive : s'.alive → s.alive := fun _ => ⟨i, hi⟩
  refine ⟨?_, ?_, ?_, ?_, ?_, ?_, ?_, hasserts.trans h.asserts, hcalls, ?_, ?_, ?_⟩
  · intro j
    by_cases hj : j = i
    · subst hj
      rw [hself, hcreated, hnew]
      exact ⟨fun hp => absurd hp hborn, fun hle => absurd hle (by omega)⟩
    · rw [hother j hj, hcreated]
      exact h.born j
  · intro j hj
    rw [hcreated] at hj
    rw [hother j (by omega)]
    exact h.past j hj
  · intro n hn
    rw [hid]
    exact h.threadId n (hcreated.symm.trans hn)
  · intro hpos
    rw [hrunnable]
    exact h.runnable (by omega)
  · rw [hstate]
    constructor
    · intro hruns
      exact ⟨i, hself ▸ hruns⟩
    · rintro ⟨j, hj⟩
      by_cases hji : j = i
      · subst hji
        rw [hself] at hj
        exact hj
      · have := alive_of_runs hj
        rw [hdead j hji] at this
        exact Bool.noConfusion this
  · intro ha
    rw [hstate]
    exact h.started (halive ha)
  · rw [hstate]
    intro hst
    rcases hjoined with ha | hstop
    · exact .inl ⟨i, hself ▸ ha⟩
    · exact .inr (.inr hstop)
  · intro h0
    omega
  · intro n hn
    obtain rfl : n = i := by omega
    rw [hself]
    exact hlast
  · intro j hj
    by_cases hji : j = i
    · subst hji
      exact hbarrier (hself.symm.trans hj)
    · have := hdead j hji
      rw [hj] at this
      exact Bool.noConfusion this

/-- A new thread, when there is none. -/
theorem Inv.create (h : Inv s) (hnone : ¬ s.alive)
    (hstarted : s.mThreadState.started = true) (hrunnable : s.mRunnableObject.isSome = true)
    (hs' : s' = { s with
      mThreadId := some s.created
      created := s.created + 1
      worker := Function.update s.worker s.created .entered }) : Inv s' := by
  have hdead : ∀ j, (s.worker j).alive = false := by
    intro j
    rw [Bool.eq_false_iff]
    exact fun hj => hnone ⟨j, hj⟩
  have hjoined : ∀ j, j < s.created → s.worker j = .joined := by
    intro j hj
    have hd := hdead j
    cases hp : s.worker j with
    | unborn => exact absurd ((h.born j).mp hp) (by omega)
    | joined => rfl
    | _ =>
        rw [hp] at hd
        exact Bool.noConfusion hd
  have hworker : s'.worker = Function.update s.worker s.created .entered := by rw [hs']
  have hself : s'.worker s.created = .entered := by rw [hworker, Function.update_self]
  have hother : ∀ j, j ≠ s.created → s'.worker j = s.worker j := by
    intro j hj
    rw [hworker, Function.update_of_ne hj]
  have hcreated : s'.created = s.created + 1 := by rw [hs']
  have hstate : s'.mThreadState = s.mThreadState := by rw [hs']
  have hcalls : s'.calls = s.calls := by rw [hs']
  refine ⟨?_, ?_, ?_, ?_, ?_, ?_, ?_, ?_, ?_, ?_, ?_, ?_⟩
  · intro j
    rw [hcreated]
    by_cases hj : j = s.created
    · subst hj
      rw [hself]
      exact ⟨fun hp => WorkerPlace.noConfusion hp, fun hle => absurd hle (by omega)⟩
    · rw [hother j hj, h.born j]
      omega
  · intro j hj
    rw [hother j (by omega)]
    exact hjoined j (by omega)
  · intro n hn
    rw [hs', show s.created = n by omega]
  · intro _
    rw [hs']
    exact hrunnable
  · rw [hstate, h.running]
    constructor
    · rintro ⟨j, hj⟩
      have := alive_of_runs hj
      rw [hdead j] at this
      exact Bool.noConfusion this
    · rintro ⟨j, hj⟩
      by_cases hjc : j = s.created
      · subst hjc
        rw [hself] at hj
        exact Bool.noConfusion hj
      · rw [hother j hjc] at hj
        exact ⟨j, hj⟩
  · intro _
    rw [hstate]
    exact hstarted
  · intro _
    exact .inl ⟨s.created, by rw [hself]; rfl⟩
  · rw [hs']
    exact h.asserts
  · rw [hcalls]
    exact h.disciplined
  · intro h0
    omega
  · intro n hn
    obtain rfl : s.created = n := by omega
    rw [hself, hcalls]
    -- the last call is of a thread that has been joined
    intro x hx
    cases hc : s.created with
    | zero =>
        rw [h.fresh hc] at hx
        cases hx
    | succ m =>
        have hlast := h.lastCall m hc
        rw [hjoined m (by omega)] at hlast
        have := hlast x hx
        exact ⟨by omega, this.2⟩
  · intro j hj
    by_cases hjc : j = s.created
    · subst hjc
      rw [hself] at hj
      exact WorkerPlace.noConfusion hj
    · rw [hother j hjc] at hj
      have := hdead j
      rw [hj] at this
      exact Bool.noConfusion this

/-! ## The thread -/

theorem Advances.alive_iff {i : Nat} {p' : WorkerPlace} (hadv : Advances s s' i p')
    (hi : (s.worker i).alive = true) (hp' : p'.alive = true) : s'.alive ↔ s.alive :=
  ⟨fun _ => ⟨i, hi⟩, fun _ => ⟨i, by rw [hadv.worker, Function.update_self]; exact hp'⟩⟩

/-- A step of the thread disturbs no caller. Those that know the whole byte know that there is
no thread. -/
theorem Advances.here {i : Nat} {p' : WorkerPlace} (hadv : Advances s s' i p') (hinv : Inv s)
    (hi : (s.worker i).alive = true) (hp' : p'.alive = true) (h : Here q s) : Here q s' := by
  have halive := hadv.alive_iff hi hp'
  have hstarted : s.mThreadState.started = true := hinv.started ⟨i, hi⟩
  have hresets : ¬ (s.mThreadState = cTHREAD_STATE_INVALID) := by
    intro heq
    rw [heq] at hstarted
    exact Bool.noConfusion hstarted
  cases q with
  | confirm back => exact absurd h.2 hresets
  | reset back => exact absurd h.2 hresets
  | unstop r back =>
      simp only [Here, hadv.state, halive] at h ⊢
      refine ⟨h.1, h.2.1, h.2.2.1, ?_⟩
      intro hr
      rw [h.2.2.2 hr] at hstarted
      exact Bool.noConfusion hstarted
  | stop back =>
      cases back <;> simp only [Here, hadv.state, halive] at h ⊢
      exact h
  | idle _ | start _ _ | claim _ _ | mark _ => exact h
  | _ =>
      simp only [Here, hadv.state, halive, hadv.runnable] at h ⊢
      exact h

theorem Inv.running_eq (h : Inv s) {i : Nat} (hi : (s.worker i).alive = true) :
    s.mThreadState.running = (s.worker i).runs := by
  rw [Bool.eq_iff_iff, h.running]
  constructor
  · rintro ⟨j, hj⟩
    have hji : j = i := by
      have := h.newest (alive_of_runs hj)
      have := h.newest hi
      omega
    exact hji ▸ hj
  · exact fun hruns => ⟨i, hruns⟩

theorem running_self {t : ThreadState} {b : Bool} (h : t.running = b) :
    t = { t with running := b } := by
  subst h
  rfl

/-- **The thread.** -/
theorem run_advances (h : Inv s) (i : Nat) (result : IasThreadResult) :
    s.run i result = s ∨ (s.worker i).alive = true ∧
      ∃ p', p'.alive = true ∧ Advances s (s.run i result) i p' := by
  by_cases hi : (s.worker i).alive = true
  · have hrunning := h.running_eq hi
    have hlast := h.lastCall i (h.newest hi)
    have hcalls := h.disciplined
    have hobject : s.mRunnableObject.isNone = false := by
      have := h.newest hi
      rw [Option.isNone_eq_false_iff]
      exact h.runnable (by omega)
    cases hp : s.worker i with
    | unborn | joined =>
        rw [hp] at hi
        exact Bool.noConfusion hi
    | atBarrier | ended =>
        refine .inl ?_
        simp only [run, hp]
    | entered =>
        rw [hp] at hlast
        refine .inr ⟨rfl, if s.mAssureRunning = true then .atBarrier else .beforeRun, ?_⟩
        simp only [run, hp, hobject, Bool.false_eq_true, if_false]
        split <;> exact ⟨rfl, rfl, nofun, rfl, rfl, rfl, rfl, rfl, hcalls, hlast, fun _ => rfl⟩
    | beforeRun =>
        rw [hp] at hlast hrunning
        have hcalls' := hcalls.beforeRun hlast
        refine .inr ⟨rfl, if result = IasThreadResult.cOk then .deciding else .leaving false, ?_⟩
        simp only [run, hp]
        split
        all_goals
          exact ⟨rfl, rfl, nofun, rfl, rfl, rfl, running_self hrunning, rfl, hcalls',
            by simp [LastCall, call, workerAt], nofun⟩
    | deciding =>
        rw [hp] at hlast hrunning
        simp only [run, hp]
        split
        · have hcalls' := hcalls.run hlast
          exact .inr ⟨rfl, .inRun, rfl, rfl, nofun, rfl, rfl, rfl, running_self hrunning, rfl,
            hcalls', by simp [LastCall, call, workerAt], nofun⟩
        · exact .inr ⟨rfl, .leaving true, rfl, rfl, nofun, rfl, rfl, rfl, running_self hrunning,
            rfl, hcalls, ⟨_, Callback.noConfusion, hlast⟩, nofun⟩
    | inRun =>
        rw [hp] at hlast hrunning
        simp only [run, hp]
        exact .inr ⟨rfl, .leaving true, rfl, rfl, nofun, rfl, rfl, rfl, running_self hrunning,
          rfl, hcalls, ⟨_, Callback.noConfusion, hlast⟩, nofun⟩
    | leaving runWasCalled =>
        rw [hp] at hlast
        simp only [run, hp]
        cases runWasCalled with
        | true =>
            exact .inr ⟨rfl, .afterRun, rfl, rfl, nofun, rfl, rfl, rfl, rfl, rfl, hcalls, hlast,
              nofun⟩
        | false =>
            refine .inr ⟨rfl, .clearing, rfl, rfl, nofun, rfl, rfl, rfl, rfl, rfl, hcalls, ?_,
              nofun⟩
            intro x (hx : x ∈ s.calls.getLast?)
            rw [show s.calls.getLast? = some (i, .beforeRun) from hlast] at hx
            cases hx
            exact ⟨le_refl i, Callback.noConfusion⟩
    | afterRun =>
        rw [hp] at hlast hrunning
        have hcalls' := hcalls.afterRun hlast
        simp only [run, hp]
        exact .inr ⟨rfl, .clearing, rfl, rfl, nofun, rfl, rfl, rfl, running_self hrunning, rfl,
          hcalls', by simp [LastCall, call, workerAt], nofun⟩
    | clearing =>
        rw [hp] at hlast
        simp only [run, hp]
        exact .inr ⟨rfl, .ended, rfl, rfl, nofun, rfl, rfl, rfl, rfl, rfl, hcalls, hlast, nofun⟩
  · refine .inl ?_
    cases hp : s.worker i with
    | unborn | joined => simp only [run, hp]
    | _ =>
        rw [hp] at hi
        exact absurd rfl hi

theorem meet_advances (h : Inv s) {i : Nat} (hi : s.worker i = .atBarrier) :
    Advances s (s.meet i) i .beforeRun := by
  have halive : (s.worker i).alive = true := by
    rw [hi]
    rfl
  have hrunning := h.running_eq halive
  have hlast := h.lastCall i (h.newest halive)
  rw [hi] at hrunning hlast
  refine ⟨?_, nofun, rfl, rfl, rfl, running_self hrunning, rfl, h.disciplined, hlast, nofun⟩
  simp only [meet, workerAt, h.barrier i hi, if_true]

/-! ## The callers -/

theorem running_eq_false (h : Inv s) (hnone : ¬ s.alive) : s.mThreadState.running = false := by
  rw [Bool.eq_false_iff, ne_eq, h.running]
  rintro ⟨i, hi⟩
  exact hnone ⟨i, alive_of_runs hi⟩

theorem started_eq_false (h : Inv s) (hst : s.mThreadState.started = false) : ¬ s.alive := by
  intro ha
  rw [h.started ha] at hst
  exact Bool.noConfusion hst

theorem stopReturns_free {back : Back ρ} (hback : back.fails = false) (r : IasThreadResult) :
    (stopReturns r back).Free ∧ Here (stopReturns r back) s := by
  cases back with
  | failed r => exact Bool.noConfusion hback
  | caller => exact ⟨⟨rfl, rfl, rfl⟩, trivial⟩
  | restart a ro =>
      simp only [stopReturns]
      split <;> exact ⟨⟨rfl, rfl, rfl⟩, trivial⟩

section Callers

variable {w : Threads ρ} {c : Nat}

/-- A caller without locks that changes nothing. -/
theorem holds_move_free (h : (outline ρ).Holds w) (hp' : p'.Free) (hhere : Here p' w.shared) :
    (outline ρ).Holds (w.move c w.shared p') :=
  h.move c h.inv hhere fun _ _ hq _ => ⟨hq, Caller.Apart.comm hp'.apart⟩

theorem holds_claim (h : (outline ρ).Holds w) {a : Bool} {r : Option ρ}
    (hfree : ∀ d, d ≠ c → (w.place d).resets = false) (o : ThreadOutcome) :
    (outline ρ).Holds
      (w.move c (w.shared.next o (.claim a r)).1 (w.shared.next o (.claim a r)).2) := by
  simp only [next]
  split
  · rename_i hinvalid
    refine holds_move_of_free h ?_ ?_ (free_of_open h ?_ ?_ hfree)
    · exact Inv.withState h.inv rfl h.inv.started fun _ => .inr (.inl rfl)
    · exact ⟨rfl, by rw [hinvalid]; rfl⟩
    · rw [hinvalid]
      rfl
    · rw [hinvalid]
      rfl
  · exact holds_move_free h ⟨rfl, rfl, rfl⟩ trivial

theorem holds_prepare (h : (outline ρ).Holds w) {a : Bool} {r : Option ρ}
    (hp : w.place c = .prepare a r) (o : ThreadOutcome) :
    (outline ρ).Holds
      (w.move c (w.shared.next o (.prepare a r)).1 (w.shared.next o (.prepare a r)).2) := by
  have hstarts : (w.place c).starts = true := by
    rw [hp]
    rfl
  have hhere := h.here c
  rw [hp] at hhere
  obtain ⟨hstarting, hstarted⟩ := hhere
  have hobject : ∀ b, Inv { w.shared with
      mRunnableObject := r.or w.shared.mRunnableObject
      mAssureRunning := a
      mThreadStartedBarrierInitialized := b } := by
    intro b
    refine { h.inv with runnable := ?_ }
    intro hpos
    rw [Option.isSome_or, h.inv.runnable hpos, Bool.or_true]
  -- a thread that could be joined would have left the flag
  have hfinish : ∀ result, result ≠ IasThreadResult.cOk →
      w.shared.mThreadState.isStarting = true ∧
        (w.shared.mThreadState.started = true → w.shared.alive) ∧
        (result = .cOk → w.shared.alive) := by
    intro result hresult
    refine ⟨hstarting, ?_, fun hok => absurd hok hresult⟩
    intro hst
    rw [hstarted] at hst
    exact Bool.noConfusion hst
  simp only [next]
  split
  · exact holds_move_of_starts h hstarts (hobject _) (hfinish _ nofun) rfl rfl rfl
      fun _ => .inr hstarting
  split
  · exact holds_move_of_starts h hstarts (hobject _) (hfinish _ nofun) rfl rfl rfl
      fun _ => .inr hstarting
  split
  · exact holds_move_of_starts h hstarts (hobject _) (hfinish _ nofun) rfl rfl rfl
      fun _ => .inr hstarting
  · rename_i hsome _ _
    refine holds_move_of_starts h hstarts ?_ ⟨hstarting, hstarted, ?_⟩ rfl rfl rfl
      fun _ => .inr hstarting
    · exact { hobject true with barrier := fun _ _ => rfl }
    · rwa [Option.isNone_iff_eq_none, ← ne_eq, Option.ne_none_iff_isSome] at hsome

theorem holds_markStarted (h : (outline ρ).Holds w) {d : Bool}
    (hp : w.place c = .markStarted d) (o : ThreadOutcome) :
    (outline ρ).Holds
      (w.move c (w.shared.next o (.markStarted d)).1 (w.shared.next o (.markStarted d)).2) := by
  have hstarts : (w.place c).starts = true := by
    rw [hp]
    rfl
  have hhere := h.here c
  rw [hp] at hhere
  obtain ⟨hstarting, hstarted, hobject⟩ := hhere
  have hnone := started_eq_false h.inv hstarted
  refine holds_move_of_starts h hstarts ?_ ⟨hstarting, rfl, hnone, hobject⟩ rfl rfl rfl
    fun _ => .inr hstarting
  exact Inv.withState h.inv rfl (fun _ => rfl) fun _ => .inr (.inl hstarting)

theorem holds_create (h : (outline ρ).Holds w) {d : Bool} (hp : w.place c = .create d)
    (o : ThreadOutcome) :
    (outline ρ).Holds
      (w.move c (w.shared.next o (.create d)).1 (w.shared.next o (.create d)).2) := by
  have hstarts : (w.place c).starts = true := by
    rw [hp]
    rfl
  have hhere := h.here c
  rw [hp] at hhere
  obtain ⟨hstarting, hstarted, hnone, hobject⟩ := hhere
  have hinv := Inv.create h.inv hnone hstarted hobject rfl
  have halive : ({ w.shared with
      mThreadId := some w.shared.created
      created := w.shared.created + 1
      worker := Function.update w.shared.worker w.shared.created .entered } :
      IasThread ρ).alive := ⟨w.shared.created, by simp [WorkerPlace.alive]⟩
  simp only [next]
  split
  · split
    · exact holds_move_of_starts h hstarts hinv ⟨hstarting, fun _ => halive, fun _ => halive⟩
        rfl rfl rfl fun _ => .inr hstarting
    split
    · exact holds_move_of_starts h hstarts hinv ⟨hstarting, halive⟩ rfl rfl rfl
        fun _ => .inr hstarting
    · exact holds_move_of_starts h hstarts hinv ⟨hstarting, fun _ => halive, fun _ => halive⟩
        rfl rfl rfl fun _ => .inr hstarting
  · exact holds_move_of_starts h hstarts h.inv ⟨hstarting, hnone⟩ rfl rfl rfl
      fun _ => .inr hstarting

theorem holds_unmarkStarted (h : (outline ρ).Holds w) {d : Bool}
    (hp : w.place c = .unmarkStarted d) (o : ThreadOutcome) :
    (outline ρ).Holds (w.move c (w.shared.next o (.unmarkStarted d)).1
      (w.shared.next o (.unmarkStarted d)).2) := by
  have hstarts : (w.place c).starts = true := by
    rw [hp]
    rfl
  have hhere := h.here c
  rw [hp] at hhere
  obtain ⟨hstarting, hnone⟩ := hhere
  refine holds_move_of_starts h hstarts ?_ ⟨hstarting, nofun, ?_⟩ rfl rfl rfl nofun
  · exact Inv.withState h.inv rfl (fun ha => absurd ha hnone) nofun
  · split <;> exact nofun

theorem holds_finish (h : (outline ρ).Holds w) {result commitResult : IasThreadResult}
    {d : Bool} (hp : w.place c = .finish result commitResult d) (o : ThreadOutcome) :
    (outline ρ).Holds (w.move c (w.shared.next o (.finish result commitResult d)).1
      (w.shared.next o (.finish result commitResult d)).2) := by
  have hstarts : (w.place c).starts = true := by
    rw [hp]
    rfl
  have hhere := h.here c
  rw [hp] at hhere
  obtain ⟨hstarting, hstarted, hok⟩ := hhere
  simp only [next]
  split
  · rename_i hresult
    exact holds_move_of_starts h hstarts { h.inv with } ⟨hstarting, hstarted, fun _ => hok hresult⟩
      rfl rfl rfl fun _ => .inr hstarting
  · rename_i hresult
    exact holds_move_of_starts h hstarts { h.inv with } ⟨hstarting, hstarted, hresult⟩
      rfl rfl rfl fun _ => .inr hstarting

theorem holds_release (h : (outline ρ).Holds w) {r : IasThreadResult}
    (hp : w.place c = .release r) (o : ThreadOutcome) :
    (outline ρ).Holds
      (w.move c (w.shared.next o (.release r)).1 (w.shared.next o (.release r)).2) := by
  have hstarts : (w.place c).starts = true := by
    rw [hp]
    rfl
  have hhere := h.here c
  rw [hp] at hhere
  obtain ⟨_, hstarted, _⟩ := hhere
  refine holds_move_of_starts h hstarts ?_ trivial rfl rfl rfl fun hst => .inl (hstarted hst)
  exact Inv.withState h.inv rfl h.inv.started fun hst => .inl (hstarted hst)

theorem holds_stop (h : (outline ρ).Holds w) {back : Back ρ} (hp : w.place c = .stop back)
    (o : ThreadOutcome) :
    (outline ρ).Holds
      (w.move c (w.shared.next o (.stop back)).1 (w.shared.next o (.stop back)).2) := by
  have hhere := h.here c
  rw [hp] at hhere
  cases hback : back.fails with
  | true =>
      -- `start` has its own flag set, so that `stop` turns back here
      cases back with
      | caller | restart => exact Bool.noConfusion hback
      | failed r =>
          obtain ⟨hstarting, hstarted, hresult⟩ := hhere
          have hstarts : (w.place c).starts = true := by
            rw [hp]
            rfl
          have hrelease : (outline ρ).Holds (w.move c w.shared (.release r)) :=
            holds_move_of_starts h hstarts h.inv
              ⟨hstarting, hstarted, fun hok => absurd hok hresult⟩ rfl rfl rfl
              fun _ => .inr hstarting
          simp only [next, hstarting, stopReturns, true_or, or_true, if_true, ite_self]
          exact hrelease
  | false =>
      simp only [next]
      split
      · obtain ⟨hfree, hhere'⟩ := stopReturns_free (s := w.shared) hback .cObjectInvalid
        exact holds_move_free h hfree hhere'
      split
      · obtain ⟨hfree, hhere'⟩ := stopReturns_free (s := w.shared) hback .cThreadNotRunning
        exact holds_move_free h hfree hhere'
      · exact holds_move_free h ⟨rfl, rfl, rfl⟩ hback

theorem holds_mark (h : (outline ρ).Holds w) {back : Back ρ} (hp : w.place c = .mark back)
    (hwindow : ∀ d, d ≠ c → (w.place d).resets = false) (o : ThreadOutcome) :
    (outline ρ).Holds
      (w.move c (w.shared.next o (.mark back)).1 (w.shared.next o (.mark back)).2) := by
  have hback := h.here c
  rw [hp] at hback
  have hinv : Inv { w.shared with
      mThreadState := { w.shared.mThreadState with isStopping := true } } :=
    Inv.withState h.inv rfl h.inv.started fun _ => .inr (.inr rfl)
  simp only [next]
  split
  · -- another `stop` has the flag
    rename_i hstopping
    have hsame : { w.shared.mThreadState with isStopping := true } = w.shared.mThreadState :=
      ThreadState.ext rfl rfl rfl hstopping.symm
    rw [hsame]
    obtain ⟨hfree, hhere⟩ := stopReturns_free (s := w.shared) hback .cThreadNotRunning
    exact holds_move_free h hfree hhere
  rename_i hstopping
  have hopen := Bool.eq_false_iff.mpr hstopping
  split
  · -- `start` has its flag set since `stop` has looked
    rename_i hstarting
    refine h.move c hinv ⟨hback, rfl, fun _ => .inr hstarting⟩ ?_
    intro d hd hq happart
    have hholds : (w.place d).holds = false := by
      rw [Bool.eq_false_iff]
      intro hh
      exact hstopping (isStopping_of_holds hh (h.here d))
    have hwins : (w.place d).wins = false := by
      rw [Bool.eq_false_iff]
      intro hh
      rw [Caller.holds_of_wins hh] at hholds
      exact Bool.noConfusion hholds
    refine ⟨?_, nofun, fun _ => ⟨hholds, hwindow d hd⟩, nofun, nofun⟩
    cases hq' : (w.place d).starts with
    | false => exact here_free ⟨hq', hholds, hwindow d hd⟩ hq
    | true => exact here_of_starts (s := w.shared) hq' rfl rfl rfl rfl hq
  rename_i hstarting
  have hfree := free_of_open h (Bool.eq_false_iff.mpr hstarting) hopen hwindow
  have hstarted : w.shared.mThreadState.started = true → w.shared.alive := by
    intro hst
    rcases h.inv.covered hst with ha | hs | hs
    · exact ha
    · exact absurd hs hstarting
    · exact absurd hs hstopping
  split
  · exact holds_move_of_free h hinv
      ⟨hback, rfl, Bool.eq_false_iff.mpr hstarting, rfl, hstarted⟩ hfree
  rename_i hrunning
  split
  · rename_i hst
    exact holds_move_of_free h hinv
      ⟨hback, rfl, Bool.eq_false_iff.mpr hstarting, hstarted hst⟩ hfree
  · rename_i hst
    refine holds_move_of_free h hinv ⟨hback, rfl, hstarted, fun _ => ?_⟩ hfree
    exact ThreadState.ext (Bool.eq_false_iff.mpr hst) (Bool.eq_false_iff.mpr hrunning)
      (Bool.eq_false_iff.mpr hstarting) rfl

theorem holds_unmark (h : (outline ρ).Holds w) {back : Back ρ} (hp : w.place c = .unmark back)
    (o : ThreadOutcome) :
    (outline ρ).Holds
      (w.move c (w.shared.next o (.unmark back)).1 (w.shared.next o (.unmark back)).2) := by
  have hhere := h.here c
  rw [hp] at hhere
  obtain ⟨hback, -, hstarted⟩ := hhere
  obtain ⟨hfree, hhere'⟩ := stopReturns_free
    (s := (w.shared.next o (.unmark back)).1) hback .cThreadNotRunning
  refine h.move c ?_ hhere' ?_
  · refine Inv.withState h.inv rfl h.inv.started fun hst => ?_
    exact (hstarted hst).imp_right .inl
  · intro d hd hq happart
    rw [hp] at happart
    obtain ⟨hholds, hresets⟩ := happart.holds rfl
    refine ⟨?_, Caller.Apart.comm hfree.apart⟩
    cases hq' : (w.place d).starts with
    | false => exact here_free ⟨hq', hholds, hresets⟩ hq
    | true => exact here_of_starts (s := w.shared) hq' rfl rfl rfl rfl hq

theorem holds_shutDown (h : (outline ρ).Holds w) {started : Bool} {back : Back ρ}
    (hp : w.place c = .shutDown started back) (o : ThreadOutcome) :
    (outline ρ).Holds (w.move c (w.shared.next o (.shutDown started back)).1
      (w.shared.next o (.shutDown started back)).2) := by
  have hfree := free_of_wins h (c := c) (by rw [hp]; rfl)
  have hhere := h.here c
  rw [hp] at hhere
  obtain ⟨hback, hstopping, hstarting, hst, halive⟩ := hhere
  have hstarted : w.shared.mThreadState.started = true → w.shared.alive :=
    fun hs => halive (hst.trans hs)
  simp only [next]
  split
  · rename_i hfailed
    exact holds_move_of_free h h.inv
      ⟨hback, hstopping, hstarted, fun hok => absurd hok hfailed⟩ hfree
  split
  · rename_i hs
    exact holds_move_of_free h h.inv ⟨hback, hstopping, hstarting, halive hs⟩ hfree
  · rename_i hs
    have hs' : w.shared.mThreadState.started = false := hst ▸ Bool.eq_false_iff.mpr hs
    refine holds_move_of_free h h.inv ⟨hback, hstopping, hstarted, fun _ => ?_⟩ hfree
    exact ThreadState.ext hs' (running_eq_false h.inv (started_eq_false h.inv hs')) hstarting
      hstopping

theorem holds_join (h : (outline ρ).Holds w) {back : Back ρ} (hp : w.place c = .join back)
    (o : ThreadOutcome) :
    (outline ρ).Holds
      (w.move c (w.shared.next o (.join back)).1 (w.shared.next o (.join back)).2) := by
  have hfree := free_of_wins h (c := c) (by rw [hp]; rfl)
  have hhere := h.here c
  rw [hp] at hhere
  obtain ⟨hback, hstopping, hstarting, halive⟩ := hhere
  have hfailed : (outline ρ).Holds (w.move c w.shared (.unstop .cJoinThreadFailed back)) :=
    holds_move_of_free h h.inv ⟨hback, hstopping, fun _ => halive, nofun⟩ hfree
  simp only [next]
  split
  · exact hfailed
  rename_i i hid
  split
  · exact hfailed
  split
  · rename_i hended
    have hi : (w.shared.worker i).alive = true := by
      rw [hended]
      rfl
    have hrunning := Inv.running_eq h.inv hi
    have hlast := h.inv.lastCall i (Inv.newest h.inv hi)
    rw [hended] at hrunning hlast
    have hadv : Advances w.shared
        { w.shared with worker := Function.update w.shared.worker i .joined } i .joined :=
      ⟨rfl, nofun, rfl, rfl, rfl, running_self hrunning, rfl, h.inv.disciplined, hlast, nofun⟩
    refine holds_move_of_free h (Inv.advance h.inv hi hadv (.inr hstopping))
      ⟨hback, hstopping, hstarting, ?_⟩ hfree
    -- the thread that was joined was the last one alive
    rintro ⟨j, hj⟩
    by_cases hji : j = i
    · subst hji
      simp only [Function.update_self] at hj
      exact Bool.noConfusion hj
    · simp only [Function.update_of_ne hji] at hj
      have := Inv.newest h.inv hj
      have := Inv.newest h.inv hi
      omega
  · exact holds_move_of_free h h.inv ⟨hback, hstopping, hstarting, halive⟩ hfree

theorem holds_unstart (h : (outline ρ).Holds w) {back : Back ρ}
    (hp : w.place c = .unstart back) (o : ThreadOutcome) :
    (outline ρ).Holds
      (w.move c (w.shared.next o (.unstart back)).1 (w.shared.next o (.unstart back)).2) := by
  have hfree := free_of_wins h (c := c) (by rw [hp]; rfl)
  have hhere := h.here c
  rw [hp] at hhere
  obtain ⟨hback, hstopping, hstarting, hnone⟩ := hhere
  have hrunning := running_eq_false h.inv hnone
  have hinv := Inv.withState h.inv (t := { w.shared.mThreadState with started := false }) rfl
    (fun ha => absurd ha hnone) nofun
  refine holds_move_of_free h { hinv with asserts := ?_ } ⟨hback, hstopping, nofun, fun _ => ?_⟩
    hfree
  · simp only [next, hrunning, Bool.or_false]
    exact h.inv.asserts
  · exact ThreadState.ext rfl hrunning hstarting hstopping

theorem holds_unstop (h : (outline ρ).Holds w) {r : IasThreadResult} {back : Back ρ}
    (hp : w.place c = .unstop r back) (o : ThreadOutcome) :
    (outline ρ).Holds
      (w.move c (w.shared.next o (.unstop r back)).1 (w.shared.next o (.unstop r back)).2) := by
  have hfree := free_of_wins h (c := c) (by rw [hp]; rfl)
  have hhere := h.here c
  rw [hp] at hhere
  obtain ⟨hback, hstopping, hstarted, hok⟩ := hhere
  have hinv := Inv.withState h.inv (t := { w.shared.mThreadState with isStopping := false }) rfl
    h.inv.started fun hst => .inl (hstarted hst)
  simp only [next]
  split
  · rename_i hr
    refine holds_move_of_free h hinv ⟨hback, ?_⟩ hfree
    rw [hok hr]
    rfl
  · exact holds_move_of_free h hinv (stopReturns_free hback r).2 hfree

theorem holds_confirm (h : (outline ρ).Holds w) {back : Back ρ}
    (hp : w.place c = .confirm back) (o : ThreadOutcome) :
    (outline ρ).Holds
      (w.move c (w.shared.next o (.confirm back)).1 (w.shared.next o (.confirm back)).2) := by
  have hfree := free_of_resets h (c := c) (by rw [hp]; rfl)
  have hhere := h.here c
  rw [hp] at hhere
  obtain ⟨hback, hinvalid⟩ := hhere
  refine holds_move_of_free h { h.inv with asserts := ?_ } ⟨hback, hinvalid⟩ hfree
  simp only [next, hinvalid, ne_eq, not_true_eq_false, decide_false, Bool.or_false]
  exact h.inv.asserts

theorem holds_reset (h : (outline ρ).Holds w) {back : Back ρ} (hp : w.place c = .reset back)
    (o : ThreadOutcome) :
    (outline ρ).Holds
      (w.move c (w.shared.next o (.reset back)).1 (w.shared.next o (.reset back)).2) := by
  have hhere := h.here c
  rw [hp] at hhere
  obtain ⟨hback, hinvalid⟩ := hhere
  obtain ⟨hfree, hhere'⟩ := stopReturns_free (s := w.shared) hback .cOk
  simp only [next, ← hinvalid]
  exact holds_move_free h hfree hhere'

/-- **The callers.** A step keeps the outline unless it sets a flag in the window. -/
theorem holds_next (h : (outline ρ).Holds w) (o : ThreadOutcome)
    (hok : (w.place c).grabs = true → ∀ d, d ≠ c → (w.place d).resets = false) :
    (outline ρ).Holds
      (w.move c (w.shared.next o (w.place c)).1 (w.shared.next o (w.place c)).2) := by
  cases hp : w.place c with
  | idle r => exact holds_move_free h ⟨rfl, rfl, rfl⟩ trivial
  | start a r =>
      simp only [next]
      split <;> exact holds_move_free h ⟨rfl, rfl, rfl⟩ trivial
  | claim a r =>
      rw [hp] at hok
      exact holds_claim h (hok rfl) o
  | prepare a r => exact holds_prepare h hp o
  | markStarted d => exact holds_markStarted h hp o
  | create d => exact holds_create h hp o
  | unmarkStarted d => exact holds_unmarkStarted h hp o
  | awaitWorker r =>
      simp only [next]
      rw [← hp, World.move_self]
      exact h
  | finish r r' d => exact holds_finish h hp o
  | release r => exact holds_release h hp o
  | stop back => exact holds_stop h hp o
  | mark back =>
      rw [hp] at hok
      exact holds_mark h hp (hok rfl) o
  | unmark back => exact holds_unmark h hp o
  | shutDown b back => exact holds_shutDown h hp o
  | join back => exact holds_join h hp o
  | unstart back => exact holds_unstart h hp o
  | unstop r back => exact holds_unstop h hp o
  | confirm back => exact holds_confirm h hp o
  | reset back => exact holds_reset h hp o

end Callers

/-! ## Runs -/

/-- Nobody sets a flag while another is between the release of its own flag and the last store
of `stop`. -/
def StepOk (w : Threads ρ) : Event ρ → Prop
  | .step c _ => (w.place c).grabs = true → ∀ d, d ≠ c → (w.place d).resets = false
  | _ => True

/-- What the owner of the object relies on. -/
structure Sound (w : Threads ρ) : Prop where
  oneThread : ∀ i j, (w.shared.worker i).alive = true → (w.shared.worker j).alive = true → i = j
  disciplined : Disciplined w.shared.calls
  asserts : w.shared.assertFailed = false
  oneStarter : ∀ c d, d ≠ c → (w.place c).starts = true →
    (w.place d).starts = false ∧ (w.place d).wins = false
  oneStopper : ∀ c d, d ≠ c → (w.place c).wins = true → (w.place d).wins = false
  joins : ∀ c back, w.place c = .join back →
    ∃ i, w.shared.mThreadId = some i ∧ (w.shared.worker i).alive = true
  succeeds : ∀ c, w.place c = .release .cOk → w.shared.alive
  /-- The last store of `stop` stores what is there. -/
  resets : ∀ c, (w.place c).resets = true → w.shared.mThreadState = cTHREAD_STATE_INVALID

variable {w : Threads ρ}

theorem Disciplined.nil : Disciplined [] := ⟨nofun, List.isChain_nil⟩

theorem holds_init (r : Option ρ) : (outline ρ).Holds (init r) where
  inv :=
    { born := fun _ => ⟨fun _ => Nat.zero_le _, fun _ => rfl⟩
      past := fun _ _ => by contradiction
      threadId := nofun
      runnable := nofun
      running := ⟨nofun, fun ⟨_, hi⟩ => Bool.noConfusion hi⟩
      started := fun ⟨_, hi⟩ => Bool.noConfusion hi
      covered := nofun
      asserts := rfl
      disciplined := Disciplined.nil
      fresh := fun _ => rfl
      lastCall := nofun
      barrier := nofun }
  here _ := trivial
  apart _ _ _ := ⟨nofun, nofun, nofun, nofun⟩

theorem holds_step (h : (outline ρ).Holds w) (e : Event ρ) (hok : StepOk w e) :
    (outline ρ).Holds (step w e) := by
  cases e with
  | start c a r =>
      simp only [step]
      split
      · exact holds_move_free h ⟨rfl, rfl, rfl⟩ trivial
      · exact h
  | stop c =>
      simp only [step]
      split
      · exact holds_move_free h ⟨rfl, rfl, rfl⟩ trivial
      · exact h
  | step c o => exact holds_next h o hok
  | worker i result =>
      simp only [step]
      rcases run_advances h.inv i result with hsame | ⟨hi, p', hp', hadv⟩
      · rw [hsame]
        exact h
      · exact h.share (Inv.advance h.inv hi hadv (.inl hp'))
          fun d hd => hadv.here h.inv hi hp' hd
  | meet c i =>
      simp only [step]
      split
      · rename_i r hp hi
        have hhere := h.here c
        rw [hp] at hhere
        obtain ⟨hstarting, halive⟩ := hhere
        have hadv := meet_advances h.inv hi
        have hi' : (w.shared.worker i).alive = true := by
          rw [hi]
          rfl
        have halive' := (hadv.alive_iff hi' rfl).mpr halive
        refine holds_move_of_starts h (by rw [hp]; rfl) (Inv.advance h.inv hi' hadv (.inl rfl))
          ⟨?_, fun _ => halive', fun _ => halive'⟩ rfl rfl ?_ fun _ => .inl halive'
        · rw [hadv.state]
          exact hstarting
        · rw [hadv.state]
      · exact h

theorem Sound.of_holds (h : (outline ρ).Holds w) : Sound w where
  oneThread i j hi hj := by
    have := Inv.newest h.inv hi
    have := Inv.newest h.inv hj
    omega
  disciplined := h.inv.disciplined
  asserts := h.inv.asserts
  oneStarter c d hd hc :=
    have happart := (h.apart c d (Ne.symm hd)).starts hc
    ⟨happart.1, happart.2.1⟩
  oneStopper c d hd hc := (free_of_wins h hc d hd).wins
  joins c back hp := by
    have hhere := h.here c
    rw [hp] at hhere
    obtain ⟨-, -, -, i, hi⟩ := hhere
    exact ⟨i, h.inv.threadId i (Inv.newest h.inv hi), hi⟩
  succeeds c hp := by
    have hhere := h.here c
    rw [hp] at hhere
    exact hhere.2.2 rfl
  resets c hc := invalid_of_resets hc (h.here c)

/-- Whoever sets a flag in the window has it wiped. -/
theorem not_sound_of_not_ok (h : (outline ρ).Holds w) {e : Event ρ} (hok : ¬ StepOk w e) :
    ¬ Sound (step w e) := by
  cases e with
  | step c o =>
      simp only [StepOk, Classical.not_imp, not_forall, Bool.not_eq_false] at hok
      obtain ⟨hgrabs, d, hd, hresets⟩ := hok
      have hinvalid := invalid_of_resets hresets (h.here d)
      intro hsound
      have hstill := hsound.resets d (by
        simp only [step]
        rwa [World.place_move_ne _ _ _ hd])
      simp only [step, World.shared_move] at hstill
      cases hp : w.place c with
      | claim a r =>
          simp only [hp, next, hinvalid, if_true] at hstill
          exact absurd hstill (by decide)
      | mark back =>
          simp [hp, next, hinvalid, cTHREAD_STATE_INVALID] at hstill
      | _ =>
          rw [hp] at hgrabs
          exact Bool.noConfusion hgrabs
  | start c a r => exact absurd trivial hok
  | stop c => exact absurd trivial hok
  | worker i result => exact absurd trivial hok
  | meet c i => exact absurd trivial hok

/-- **`IasThread` under any interleaving.** -/
theorem threads_sound_iff (r : Option ρ) (es : List (Event ρ)) :
    (∀ pre, pre <+: es → Sound (exec step (init r) pre)) ↔ Always step StepOk (init r) es :=
  good_iff_always (fun w (h : (outline ρ).Holds w) => Sound.of_holds h)
    (fun _ e h => holds_step h e) (fun _ _ h => not_sound_of_not_ok h) (holds_init r)

/-- The window can be reached: one caller has stopped the thread and not stored the zero yet,
another is about to set its flag. -/
theorem window_reached : ∃ es : List (Event Unit), ¬ Always step StepOk (init (some ())) es := by
  refine ⟨[.start 0 false none, .step 0 {}, .step 0 {}, .step 0 {}, .step 0 {}, .step 0 {},
    .step 0 {}, .step 0 {}, .stop 1, .step 1 {}, .step 1 {}, .worker 0 .cOk, .worker 0 .cFailed,
    .worker 0 .cOk, .worker 0 .cOk, .step 1 {}, .step 1 {}, .step 1 {}, .start 0 false none,
    .step 0 {}] ++ [.step 0 {}], ?_⟩
  rw [always_append]
  rintro ⟨-, hok, -⟩
  exact Bool.noConfusion (hok rfl 1 Nat.one_ne_zero)

/-! ## One call at a time -/

/-- A call begins when no other caller is in one. -/
def Serial (w : Threads ρ) : Event ρ → Prop
  | .start c .. | .stop c => ∀ d, d ≠ c → ∃ r, w.place d = .idle r
  | _ => True

/-- At most one caller is in a call. -/
def OneCall (w : Threads ρ) : Prop :=
  ∃ c, ∀ d, d ≠ c → ∃ r, w.place d = .idle r

theorem OneCall.of_move {c : Nat} (s : IasThread ρ) (p : Caller ρ)
    (hc : ∀ d, d ≠ c → ∃ r, w.place d = .idle r) : OneCall (w.move c s p) := by
  refine ⟨c, fun d hd => ?_⟩
  rw [World.place_move_ne w s p hd]
  exact hc d hd

/-- A caller in a call is the one. -/
theorem OneCall.others (h : OneCall w) {c : Nat} (hc : ∀ r, w.place c ≠ .idle r) :
    ∀ d, d ≠ c → ∃ r, w.place d = .idle r := by
  obtain ⟨b, hb⟩ := h
  have hbc : c = b := by
    by_contra hne
    obtain ⟨r, hr⟩ := hb c hne
    exact hc r hr
  rw [hbc]
  exact hb

theorem OneCall.step (h : OneCall w) {e : Event ρ} (hserial : Serial w e) :
    OneCall (step w e) := by
  cases e with
  | start c a r =>
      simp only [IasThread.step]
      split
      · exact OneCall.of_move _ _ hserial
      · exact h
  | stop c =>
      simp only [IasThread.step]
      split
      · exact OneCall.of_move _ _ hserial
      · exact h
  | step c o =>
      simp only [IasThread.step]
      cases hp : w.place c with
      | idle r =>
          simp only [next]
          rw [← hp, World.move_self]
          exact h
      | _ => exact OneCall.of_move _ _ (h.others (by rw [hp]; nofun))
  | worker i result => exact h
  | meet c i =>
      simp only [IasThread.step]
      split
      · rename_i r hp hi
        exact OneCall.of_move _ _ (h.others (by rw [hp]; nofun))
      · exact h

theorem OneCall.ok (h : OneCall w) (e : Event ρ) : StepOk w e := by
  cases e with
  | step c o =>
      intro hgrabs d hd
      have hc : ∀ r, w.place c ≠ .idle r := by
        intro r hr
        rw [hr] at hgrabs
        exact Bool.noConfusion hgrabs
      obtain ⟨r, hr⟩ := h.others hc d hd
      rw [hr]
      rfl
  | start c a r => trivial
  | stop c => trivial
  | worker i result => trivial
  | meet c i => trivial

/-- **One call at a time is enough.** -/
theorem sound_of_serial (r : Option ρ) {es : List (Event ρ)}
    (h : Always step Serial (init r) es) :
    ∀ pre, pre <+: es → Sound (exec step (init r) pre) := by
  refine (threads_sound_iff r es).mpr ?_
  have hone : OneCall (init r) := ⟨0, fun _ _ => ⟨none, rfl⟩⟩
  exact always_imp (fun w e (hw : OneCall w) _ => hw.ok e) (fun _ _ hw => hw.step) hone h

/-- Whose step it is. -/
def Event.caller : Event ρ → Option Nat
  | .start c .. | .stop c | .step c _ | .meet c _ => some c
  | .worker .. => none

/-- A step moves the caller whose step it is. -/
theorem place_step {e : Event ρ} {d : Nat} (h : e.caller ≠ some d) :
    (step w e).place d = w.place d := by
  cases e with
  | start c a r =>
      have hd : d ≠ c := fun heq => h (by rw [heq]; rfl)
      simp only [step]
      split
      · exact World.place_move_ne _ _ _ hd
      · rfl
  | stop c =>
      have hd : d ≠ c := fun heq => h (by rw [heq]; rfl)
      simp only [step]
      split
      · exact World.place_move_ne _ _ _ hd
      · rfl
  | step c o => exact World.place_move_ne _ _ _ fun heq => h (by rw [heq]; rfl)
  | worker i result => rfl
  | meet c i =>
      have hd : d ≠ c := fun heq => h (by rw [heq]; rfl)
      simp only [step]
      split
      · exact World.place_move_ne _ _ _ hd
      · rfl

/-- The calls of one thread come one after the other. -/
theorem always_serial_of_caller {c : Nat} {es : List (Event ρ)}
    (hes : ∀ e ∈ es, ∀ d, d ≠ c → e.caller ≠ some d)
    (hw : ∀ d, d ≠ c → w.place d = .idle none) : Always step Serial w es := by
  induction es generalizing w with
  | nil => trivial
  | cons e es ih =>
      have hidle : ∀ d, d ≠ c → ∃ r, w.place d = .idle r := fun d hd => ⟨none, hw d hd⟩
      have hcaller := hes e List.mem_cons_self
      refine ⟨?_, ih (fun e' he' => hes e' (List.mem_cons_of_mem e he')) ?_⟩
      · cases e with
        | start b a r =>
            obtain rfl : b = c := by
              by_contra hne
              exact hcaller b hne rfl
            exact hidle
        | stop b =>
            obtain rfl : b = c := by
              by_contra hne
              exact hcaller b hne rfl
            exact hidle
        | step b o => trivial
        | worker i result => trivial
        | meet b i => trivial
      · intro d hd
        rw [place_step (hcaller d hd)]
        exact hw d hd

/-- A thread is started, runs, and is stopped. -/
def startedOnce : List (Event Unit) :=
  [.start 0 false none, .step 0 {}, .step 0 {}, .step 0 {}, .step 0 {}, .step 0 {}, .step 0 {},
    .step 0 {}, .worker 0 .cOk, .worker 0 .cOk, .worker 0 .cOk, .stop 0, .step 0 {}, .step 0 {},
    .step 0 {}, .worker 0 .cOk, .worker 0 .cOk, .worker 0 .cOk, .worker 0 .cOk, .step 0 {},
    .step 0 {}, .step 0 {}, .step 0 {}, .step 0 {}]

theorem sound_of_serial_once :
    Sound (exec step (init (some ())) (startedOnce.take 11)) ∧
      Sound (exec step (init (some ())) startedOnce) := by
  have hserial : ∀ pre, pre <+: startedOnce → Sound (exec step (init (some ())) pre) :=
    sound_of_serial (some ()) (always_serial_of_caller (c := 0)
      (by simp [startedOnce, Event.caller, eq_comm]) fun _ _ => rfl)
  exact ⟨hserial _ (List.take_prefix 11 startedOnce), hserial _ List.prefix_rfl⟩

end IasThread

end AvbStreamHandler
