import AvbStreamHandler.Clock.ClockController

/-!
# What the clock controller may do

- The correction given to the clock driver is a number within the limits.
- The controller becomes locked from locking the phase, with a deviation of less than a
  sample, and gets to locking the phase from locking the rate.
- Once a clock domain has told that it lost its lock, the controller is not above unlocked
  until it has seen the master locked again.

Two things can break this. A notification sets the state back while the thread is on its way
from a look at the state to writing one above unlocked: then the notification is lost. And a
slave whose events stand still while its time does not has the rate zero, by which the thread
divides.
-/

namespace AvbStreamHandler

open Kit Kit.Run LockState

namespace IasAvbClockController

variable {c : ClockControllerConfig} {w : IasAvbClockController} {i : ControlRound}

/-- A correction the driver can be given. -/
def WithinLimits (c : ClockControllerConfig) (x : Option ℚ) : Prop :=
  ∃ q, x = some q ∧ c.mLowerLimit ≤ q ∧ q ≤ c.mUpperLimit

/-- What a step is to do. -/
structure Good (c : ClockControllerConfig) (w : IasAvbClockController)
    (e : ClockControlEvent) : Prop where
  given : ∀ x ∈ (step c w e).given, WithinLimits c x
  /-- No unlock is lost. -/
  unlocked : (step c w e).lost = true → (step c w e).mLockState.above = false
  locked : (step c w e).mLockState = eLocked → w.mLockState ≠ eLocked →
    w.mLockState = eLockingPhase ∧ ∃ i, w.at_ = .writing eLocked i ∧ |i.deviation| < 1
  phase : (step c w e).mLockState = eLockingPhase → w.mLockState ≠ eLockingPhase →
    w.mLockState = eLockingRate

/-- The thread will write a state above unlocked without another look at the state. -/
def Committed : ControlStep → Prop
  | .writing s _ => s.above = true
  | .comparing i => 10 < |i.deviation|
  | _ => False

/-- No notification of a lost lock meets a thread that is about to write; and the thread does
not divide by the rate of a slave that stands still, unless the phase is so far off that the
quotient is not used. -/
def StepOk (c : ClockControllerConfig) (w : IasAvbClockController) : ClockControlEvent → Prop
  | .notify d => w.notLocked d = true → ¬ Committed w.at_
  | .thread _ => ∀ i, w.at_ = .correcting i → heldOff c w i = false → i.slaveRate = 0 →
      c.mEngage = true → w.phaseLocking = true ∧ 10 < |i.deviation|
  | .domainState _ _ => True

/-! ## The limits -/

theorem mLowerLimit_le_one (c : ClockControllerConfig) : c.mLowerLimit ≤ 1 := by
  unfold ClockControllerConfig.mLowerLimit
  have hppm : (0 : ℚ) ≤ c.lowerLimitPpm / 1000000 := by positivity
  rw [div_le_one (by linarith)]
  linarith

theorem one_le_mUpperLimit (c : ClockControllerConfig) : 1 ≤ c.mUpperLimit := by
  unfold ClockControllerConfig.mUpperLimit
  have hppm : (0 : ℚ) ≤ c.upperLimitPpm / 1000000 := by positivity
  linarith

theorem limit_within (c : ClockControllerConfig) (x : ℚ) :
    WithinLimits c (some (limit c x)) := by
  have hlow := mLowerLimit_le_one c
  have hup := one_le_mUpperLimit c
  refine ⟨_, rfl, ?_⟩
  unfold limit
  dsimp only
  split_ifs with hover hunder hunder
  · exact ⟨le_rfl, le_trans hlow hup⟩
  · exact ⟨not_lt.mp hunder, le_rfl⟩
  · exact ⟨le_rfl, le_trans hlow hup⟩
  · exact ⟨not_lt.mp hunder, not_lt.mp hover⟩

/-! ## What holds between the steps -/

/-- The correction that will be given is a number. -/
def Usable (c : ClockControllerConfig) (i : ControlRound) : Prop :=
  c.mEngage = true → i.correction0 ≠ none

/-- What is known where the thread is. -/
def AtInv (c : ClockControllerConfig) (s : LockState) (lost : Bool) : ControlStep → Prop
  | .waiting => True
  | .switching i => i.correction0 = some 1
  | .asking i => i.correction0 = some 1
  | .correcting i => i.correction0 = some 1
  | .comparing i =>
      (c.mEngage = true → i.correction0 = none → 10 < |i.deviation|) ∧
        (10 < |i.deviation| → lost = false)
  | .writing eUnlocked i => Usable c i
  | .writing eLockingRate i => Usable c i ∧ lost = false
  | .writing eLockingPhase i => Usable c i ∧ lost = false ∧ s = eLockingRate
  | .writing eLocked i =>
      Usable c i ∧ lost = false ∧ s = eLockingPhase ∧ |i.deviation| < 1
  | .writing _ _ => False
  | .output i => Usable c i

structure Inv (c : ClockControllerConfig) (w : IasAvbClockController) : Prop where
  given : ∀ x ∈ w.given, WithinLimits c x
  unlocked : w.lost = true → w.mLockState.above = false
  at_ : AtInv c w.mLockState w.lost w.at_

theorem Inv.not_lost (h : Inv c w) (habove : w.mLockState.above = true) : w.lost = false := by
  by_contra hlost
  rw [h.unlocked (by simpa using hlost)] at habove
  cases habove

theorem usable_of_one (hi : i.correction0 = some 1) : Usable c i := by
  intro _ hnone
  rw [hi] at hnone
  cases hnone

theorem above_of_phaseLocking (h : w.phaseLocking = true) : w.mLockState.above = true := by
  unfold phaseLocking at h
  revert h
  cases w.mLockState <;> decide

/-- A step that leaves the state and the corrections alone. -/
theorem inv_goto (h : Inv c w) {v : ControlVariables} {p : ControlStep}
    (hp : AtInv c w.mLockState w.lost p) :
    Inv c { w with vars := v, at_ := p } := ⟨h.given, h.unlocked, hp⟩

/-! ## The steps of the thread -/

theorem inv_beginRound (h : Inv c w) (r : ClockReadings) : Inv c (w.beginRound r) := by
  unfold beginRound
  refine ⟨h.given, ?_, rfl⟩
  intro hlost
  dsimp only
  split
  · rfl
  · exact h.unlocked hlost

theorem inv_switchLockState (h : Inv c w) (hi : i.correction0 = some 1) (r : ClockReadings) :
    Inv c (switchLockState c w i r) := by
  unfold switchLockState
  split
  · exact inv_goto h (usable_of_one hi)
  · exact inv_goto h hi
  · rename_i hrate
    have hlost : w.lost = false := h.not_lost (by rw [hrate]; rfl)
    unfold lockingRate
    split
    · split
      · exact inv_goto h ⟨usable_of_one hi, hlost, hrate⟩
      · exact inv_goto h hi
    · exact inv_goto h hi
  · exact inv_goto h hi
  · exact inv_goto h hi
  · exact inv_goto h (usable_of_one hi)

theorem inv_askMaster (h : Inv c w) (hi : i.correction0 = some 1) : Inv c (w.askMaster i) := by
  unfold askMaster
  split
  · exact ⟨h.given, nofun, usable_of_one hi, rfl⟩
  · exact inv_goto h (usable_of_one hi)

/-- The quotient is a number, or will not be used. -/
theorem inv_correct (h : Inv c w) (hi : i.correction0 = some 1)
    (hok : heldOff c w i = false → i.slaveRate = 0 → c.mEngage = true →
      w.phaseLocking = true ∧ 10 < |i.deviation|) : Inv c (correct c w i) := by
  have hnumber : c.mEngage = true →
      (if heldOff c w i then i.correction0 else quotient i.masterRate i.slaveRate) = none →
      w.phaseLocking = true ∧ 10 < |i.deviation| := by
    intro hengage hnone
    split at hnone
    · rw [hi] at hnone
      cases hnone
    · rename_i hheld
      unfold quotient at hnone
      split at hnone
      · exact hok (by simpa using hheld) ‹_› hengage
      · cases hnone
  unfold correct
  dsimp only
  split
  · rename_i hphase
    refine inv_goto h ⟨fun hengage hnone => ?_, fun _ => h.not_lost (above_of_phaseLocking hphase)⟩
    exact (hnumber hengage (Option.map_eq_none_iff.mp hnone)).2
  · rename_i hphase
    refine inv_goto h fun hengage hnone => ?_
    exact hphase (hnumber hengage hnone).1

theorem inv_compare (h : Inv c w) (hi : AtInv c w.mLockState w.lost (.comparing i)) :
    Inv c (w.compare i) := by
  obtain ⟨hnumber, hlost⟩ := hi
  unfold compare
  split
  · rename_i hphase
    refine inv_goto h ⟨fun hengage hnone => ?_, h.not_lost (by rw [hphase.1]; rfl), hphase⟩
    have hfar := hnumber hengage hnone
    linarith [hphase.2]
  · split
    · rename_i hfar
      exact inv_goto h ⟨usable_of_one rfl, hlost hfar⟩
    · rename_i hnear
      exact inv_goto h fun hengage hnone => hnear (hnumber hengage hnone)

theorem inv_write (h : Inv c w) {s : LockState}
    (hi : AtInv c w.mLockState w.lost (.writing s i)) :
    Inv c { w with mLockState := s, at_ := .output i } := by
  cases s with
  | eInit => exact hi.elim
  | eUnlocked => exact ⟨h.given, fun _ => rfl, hi⟩
  | eLockingRate => exact ⟨h.given, fun hlost => by simp [hi.2] at hlost, hi.1⟩
  | eLockingPhase => exact ⟨h.given, fun hlost => by simp [hi.2.1] at hlost, hi.1⟩
  | eLocked => exact ⟨h.given, fun hlost => by simp [hi.2.1] at hlost, hi.1⟩
  | eOff => exact hi.elim

/-- **The driver is given a number within the limits.** -/
theorem inv_endRound (h : Inv c w) (hi : Usable c i) : Inv c (endRound c w i) := by
  unfold endRound
  refine ⟨?_, h.unlocked, trivial⟩
  intro x hx
  dsimp only at hx
  split at hx
  · rename_i hgiven
    rcases List.mem_cons.mp hx with rfl | hold
    · obtain ⟨q, hq⟩ := Option.ne_none_iff_exists'.mp (hi hgiven.1)
      rw [hq]
      exact limit_within c q
    · exact h.given x hold
  · exact h.given x hx

/-- **Kept by every step.** -/
theorem inv_step (w : IasAvbClockController) (e : ClockControlEvent) (h : Inv c w)
    (hok : StepOk c w e) : Inv c (step c w e) := by
  cases e with
  | thread r =>
      have hat := h.at_
      show Inv c (threadStep c w r)
      unfold threadStep
      cases hw : w.at_ with
      | waiting => exact inv_beginRound h r
      | switching i => exact inv_switchLockState h (by rw [hw] at hat; exact hat) r
      | asking i => exact inv_askMaster h (by rw [hw] at hat; exact hat)
      | correcting i => exact inv_correct h (by rw [hw] at hat; exact hat) (hok i hw)
      | comparing i => exact inv_compare h (by rw [hw] at hat; exact hat)
      | writing s i => exact inv_write h (by rw [hw] at hat; exact hat)
      | output i =>
          refine inv_endRound h ?_
          rw [hw] at hat
          exact hat
  | domainState d s => cases d <;> exact ⟨h.given, h.unlocked, h.at_⟩
  | notify d =>
      show Inv c (w.notifyUpdateLockState d)
      unfold notifyUpdateLockState
      split
      swap
      · exact h
      rename_i hlocked
      have hfree := hok hlocked
      refine ⟨h.given, fun _ => ?_, ?_⟩
      · dsimp only
        split
        · rfl
        · rename_i habove
          simpa using habove
      · have hat := h.at_
        show AtInv c _ true w.at_
        cases hw : w.at_ with
        | writing s i =>
            rw [hw] at hat hfree
            -- only `eUnlocked` can still be on its way
            cases s with
            | eUnlocked => exact hat
            | eInit => exact hat.elim
            | eOff => exact hat.elim
            | _ => exact absurd rfl hfree
        | comparing i =>
            rw [hw] at hat hfree
            exact ⟨hat.1, fun hfar => absurd hfar hfree⟩
        | waiting => trivial
        | switching i => rw [hw] at hat; exact hat
        | asking i => rw [hw] at hat; exact hat
        | correcting i => rw [hw] at hat; exact hat
        | output i => rw [hw] at hat; exact hat

/-! ## What a step may do -/

/-- Only a write raises the state. -/
theorem mLockState_step {e : ClockControlEvent} (habove : (step c w e).mLockState.above = true) :
    (step c w e).mLockState = w.mLockState ∨
      ∃ i, w.at_ = .writing (step c w e).mLockState i := by
  cases e with
  | thread r =>
      have hstep : step c w (.thread r) = threadStep c w r := rfl
      rw [hstep] at habove ⊢
      unfold threadStep at habove ⊢
      cases hw : w.at_ with
      | waiting =>
          rw [hw] at habove
          dsimp only at habove ⊢
          unfold beginRound at habove ⊢
          dsimp only at habove ⊢
          -- only a round in which a clock stands still sets the state, and not to one above
          split
          · rename_i hstill
            rw [if_pos hstill] at habove
            cases habove
          · exact Or.inl rfl
      | switching i =>
          left
          dsimp only
          have hrate : (lockingRate c w i r).mLockState = w.mLockState := by
            unfold lockingRate
            split
            · split <;> rfl
            · rfl
          unfold switchLockState
          split <;> first | exact hrate | rfl
      | asking i =>
          left
          dsimp only
          unfold askMaster
          split <;> rfl
      | correcting i =>
          left
          dsimp only
          unfold correct
          dsimp only
          split <;> rfl
      | comparing i =>
          left
          dsimp only
          unfold compare
          split
          · rfl
          · split <;> rfl
      | writing s i => exact Or.inr ⟨i, rfl⟩
      | output i => exact Or.inl rfl
  | domainState d s => cases d <;> exact Or.inl rfl
  | notify d =>
      have hstep : step c w (.notify d) = w.notifyUpdateLockState d := rfl
      rw [hstep] at habove ⊢
      unfold notifyUpdateLockState at habove ⊢
      -- a notification only unlocks, and unlocked is not above
      split
      · rename_i hlocked
        rw [if_pos hlocked] at habove
        dsimp only at habove ⊢
        split
        · rename_i hold
          rw [if_pos hold] at habove
          cases habove
        · exact Or.inl rfl
      · exact Or.inl rfl

theorem good_of_ok (h : Inv c w) {e : ClockControlEvent} (hok : StepOk c w e) : Good c w e := by
  have hnext := inv_step w e h hok
  have hat := h.at_
  refine ⟨hnext.given, hnext.unlocked, ?_, ?_⟩
  · intro hlocked hne
    rcases mLockState_step (c := c) (w := w) (e := e) (by rw [hlocked]; rfl) with hsame | ⟨i, hw⟩
    · exact absurd (hsame.symm.trans hlocked) hne
    · rw [hlocked] at hw
      rw [hw] at hat
      exact ⟨hat.2.2.1, i, hw, hat.2.2.2⟩
  · intro hphase hne
    rcases mLockState_step (c := c) (w := w) (e := e) (by rw [hphase]; rfl) with hsame | ⟨i, hw⟩
    · exact absurd (hsame.symm.trans hphase) hne
    · rw [hphase] at hw
      rw [hw] at hat
      exact hat.2.2

/-! ## Every run -/

theorem inv_new (c : ClockControllerConfig) : Inv c {} := ⟨nofun, nofun, trivial⟩

/-- **As long as no notification comes between a look and a write, and no slave stands still
where its rate divides, the controller does what it may.** -/
theorem controller_good (c : ClockControllerConfig) (es : List ClockControlEvent)
    (hok : Always (step c) (StepOk c) {} es) : Always (step c) (Good c) {} es :=
  always_imp (fun _ _ h hok => good_of_ok h hok) inv_step (inv_new c) hok

/-- The master is locked, and the controller starts to lock the rate. -/
theorem controller_good_locking : Always (step {}) (Good {}) {}
    [.domainState .master .eIasAvbLockStateLocked,
      .thread { masterCount := 48, masterTime := 1, slaveCount := 48, slaveTime := 1 },
      .thread {}, .thread {}, .thread {},
      .thread { masterCount := 96, masterTime := 2, slaveCount := 96, slaveTime := 2 },
      .thread {}, .thread {}, .thread {}] := by
  refine controller_good {} _ ?_
  refine ⟨trivial, ?_, ?_, ?_, ?_, ?_, ?_, ?_, ?_, trivial⟩ <;> exact fun i hw => nomatch hw

/-- The master loses its lock while the controller is about to write that it locks the rate. -/
theorem notification_lost : ¬ Always (step {}) (Good {}) {}
    [.domainState .master .eIasAvbLockStateLocked,
      .thread { masterCount := 48, masterTime := 1, slaveCount := 48, slaveTime := 1 },
      .thread {}, .thread {}, .thread {},
      .thread { masterCount := 96, masterTime := 2, slaveCount := 96, slaveTime := 2 },
      .thread {}, .thread {}, .domainState .master .eIasAvbLockStateUnlocked,
      .notify .master, .thread {}] := by
  rintro ⟨-, -, -, -, -, -, -, -, -, -, hgood, -⟩
  exact absurd (hgood.unlocked rfl) (by decide)

end IasAvbClockController

end AvbStreamHandler
