import AvbStreamHandler.Watchdog.SystemdWatchdogManager

/-!
# Supervision

When systemd is notified, and when it should be: exactly when every registered watchdog has
been reset within its own timeout.

The manager asks for more. It goes through all watchdogs that exist, and a due time of zero
counts against them: so a watchdog that nobody has registered yet, or that was unregistered
because there is nothing to supervise, keeps the notification from being sent. What a timed
out watchdog does is as it should be: `reset` does not bring it back.
-/

namespace AvbStreamHandler

open Kit Kit.Word Kit.Run IasWatchdogResult

namespace IasSystemdWatchdogManager

/-- The watchdog was reset within its timeout. -/
def Fresh (w : IasSystemdWatchdogManager) (k : Nat) : Prop :=
  ∃ t ∈ w.lastReset k, w.now < t + (w.watchdog k).timeoutNs

/-- Its due time is a 64-bit number. -/
def Fits (w : IasSystemdWatchdogManager) (k : Nat) : Prop :=
  ∀ t ∈ w.lastReset k, t + (w.watchdog k).timeoutNs < 18446744073709551616

def Registered (w : IasSystemdWatchdogManager) (k : Nat) : Prop :=
  k ∈ w.mWatchdogInterfaces ∧ (w.watchdog k).isRegistered = true

instance (w : IasSystemdWatchdogManager) (k : Nat) : Decidable (w.Registered k) :=
  inferInstanceAs (Decidable (_ ∧ _))

/-- Every registered watchdog has been reset within its own timeout. -/
def AllFresh (w : IasSystemdWatchdogManager) : Prop := ∀ k, w.Registered k → w.Fresh k

/-- Either every watchdog there is, is registered, or one of those that are is late anyway. -/
def TickOk (w : IasSystemdWatchdogManager) : Prop :=
  (∀ k ∈ w.mWatchdogInterfaces, (w.watchdog k).isRegistered = true ∧ w.Fits k)
    ∨ ∃ k, w.Registered k ∧ ¬ w.Fresh k

/-- The notification is sent exactly when it should be. -/
def NotifiesExactly (w : IasSystemdWatchdogManager) (e : WatchdogEvent) : Prop :=
  e = .tick → (w.allWatchdogInterfacesValid = true ↔ w.AllFresh)

/-! ## What the due time stands for -/

/-- What holds of one watchdog: the due time is that of the last reset, or zero. -/
structure DueInv (d : IasWatchdogInterface) (last : Option Nat) (now : Nat) : Prop where
  idle : d.isRegistered = false → d.mDueResetTime = 0
  fresh : last = none → d.mDueResetTime = 0
  due : ∀ t ∈ last, d.isRegistered = true →
    d.mDueResetTime = add64 t d.timeoutNs ∧ t ≤ now
  armed : d.isRegistered = true → d.mTimeout ≠ 0

/-- What holds of the manager after every step. -/
structure Inv (w : IasSystemdWatchdogManager) : Prop where
  nodup : w.mWatchdogInterfaces.Nodup
  bound : ∀ k ∈ w.mWatchdogInterfaces, k < w.allocated
  clock : w.now < 18446744073709551616
  watchdog : ∀ k ∈ w.mWatchdogInterfaces, DueInv (w.watchdog k) (w.lastReset k) w.now

theorem timeoutNs_lt (d : IasWatchdogInterface) : d.timeoutNs < 18446744073709551616 := by
  have h := d.mTimeout.toNat_lt
  unfold IasWatchdogInterface.timeoutNs
  omega

/-- A watchdog is in order exactly if it is registered and was reset in time. -/
theorem valid_iff {w : IasSystemdWatchdogManager} {k : Nat} (h : Inv w)
    (hk : k ∈ w.mWatchdogInterfaces) :
    w.Valid k ↔ (w.watchdog k).isRegistered = true ∧ w.Fresh k ∧ w.Fits k := by
  have hdue := h.watchdog k hk
  have hclock := h.clock
  have hmax := timeoutNs_lt (w.watchdog k)
  unfold Valid Fresh Fits
  cases hlast : w.lastReset k with
  | none =>
      rw [hdue.fresh hlast]
      refine iff_of_false (fun hv => hv.1 rfl) ?_
      rintro ⟨-, ⟨t, ht, -⟩, -⟩
      cases ht
  | some t =>
      cases hreg : (w.watchdog k).isRegistered with
      | false =>
          rw [hdue.idle hreg]
          exact iff_of_false (fun hv => hv.1 rfl) fun hf => Bool.noConfusion hf.1
      | true =>
          obtain ⟨heq, hle⟩ := hdue.due t hlast hreg
          rw [heq]
          unfold add64
          constructor
          · rintro ⟨-, hlt⟩
            refine ⟨rfl, ⟨t, rfl, by omega⟩, ?_⟩
            rintro t' ⟨⟩
            omega
          · rintro ⟨-, ⟨t', ht', hlt⟩, hfits⟩
            cases ht'
            have := hfits t rfl
            omega

/-- **When a tick is right.** -/
theorem notifiesExactly_iff {w : IasSystemdWatchdogManager} (h : Inv w) (e : WatchdogEvent) :
    w.NotifiesExactly e ↔ (e = .tick → w.TickOk) := by
  have hall : w.allWatchdogInterfacesValid = true ↔ ∀ k ∈ w.mWatchdogInterfaces,
      (w.watchdog k).isRegistered = true ∧ w.Fresh k ∧ w.Fits k := by
    unfold allWatchdogInterfacesValid
    rw [List.all_eq_true]
    exact forall₂_congr fun k hk => decide_eq_true_iff.trans (valid_iff h hk)
  unfold NotifiesExactly
  rw [hall]
  refine imp_congr_right fun _ => ⟨?_, ?_⟩
  · intro hexact
    by_cases hfresh : w.AllFresh
    · exact Or.inl fun k hk => ⟨(hexact.mpr hfresh k hk).1, (hexact.mpr hfresh k hk).2.2⟩
    · unfold AllFresh at hfresh
      push Not at hfresh
      exact Or.inr hfresh
  · rintro (hok | ⟨k, hreg, hlate⟩)
    · exact ⟨fun hv k hk => (hv k hk.1).2.1,
        fun hf k hk => ⟨(hok k hk).1, hf k ⟨hk, (hok k hk).1⟩, (hok k hk).2⟩⟩
    · exact iff_of_false (fun hv => hlate (hv k hreg.1).2.1) fun hf => hlate (hf k hreg)

/-! ## What a call does to its watchdog -/

theorem DueInv.of_idle {d : IasWatchdogInterface} (hreg : d.isRegistered = false)
    (hdue : d.mDueResetTime = 0) (last : Option Nat) (now : Nat) : DueInv d last now where
  idle _ := hdue
  fresh _ := hdue
  due _ _ h := absurd h (by simp [hreg])
  armed h := absurd h (by simp [hreg])

theorem DueInv.later {d : IasWatchdogInterface} {last : Option Nat} {now now' : Nat}
    (h : DueInv d last now) (hle : now ≤ now') : DueInv d last now' where
  idle := h.idle
  fresh := h.fresh
  due t ht hreg := ⟨(h.due t ht hreg).1, Nat.le_trans (h.due t ht hreg).2 hle⟩
  armed := h.armed

theorem timeoutNs_pos {d : IasWatchdogInterface} (h : d.mTimeout ≠ 0) : 0 < d.timeoutNs := by
  have hne : d.mTimeout.toNat ≠ 0 := fun h0 => h (UInt32.toNat_inj.mp h0)
  unfold IasWatchdogInterface.timeoutNs
  omega

/-- A registration succeeds on a watchdog that is not registered, and disarms it. -/
theorem registerWatchdog_spec (d : IasWatchdogInterface) (pid thread : Nat)
    (timeout : UInt32) (watchdogName : String) (now : Nat) :
    ((d.registerWatchdog pid thread timeout watchdogName).2 = cOk ∧ d.isRegistered = false ∧
        DueInv (d.registerWatchdog pid thread timeout watchdogName).1 none now) ∨
      ((d.registerWatchdog pid thread timeout watchdogName).2 ≠ cOk ∧
        (d.registerWatchdog pid thread timeout watchdogName).1 = d) := by
  unfold IasWatchdogInterface.registerWatchdog
  split
  · exact Or.inr ⟨nofun, rfl⟩
  rename_i hargs
  push Not at hargs
  split
  · exact Or.inr ⟨nofun, rfl⟩
  rename_i hreg
  refine Or.inl ⟨rfl, by simpa using hreg, ?_⟩
  refine ⟨fun _ => rfl, fun _ => rfl, ?_, fun _ => hargs.2⟩
  rintro t ⟨⟩

theorem registerPreconfigured_spec (d : IasWatchdogInterface) (pid thread now : Nat) :
    ((d.registerPreconfigured pid thread).2 = cOk ∧ d.isRegistered = false ∧
        DueInv (d.registerPreconfigured pid thread).1 none now) ∨
      ((d.registerPreconfigured pid thread).2 ≠ cOk ∧
        (d.registerPreconfigured pid thread).1 = d) := by
  unfold IasWatchdogInterface.registerPreconfigured
  split
  · exact Or.inr ⟨nofun, rfl⟩
  · exact registerWatchdog_spec d pid thread d.mTimeout d.mName now

theorem unregisterWatchdog_idle (d : IasWatchdogInterface) :
    d.unregisterWatchdog.1.isRegistered = false := by
  unfold IasWatchdogInterface.unregisterWatchdog
  split
  · assumption
  · rfl

theorem unregisterWatchdog_inv {d : IasWatchdogInterface} {last : Option Nat} {now : Nat}
    (h : DueInv d last now) : DueInv d.unregisterWatchdog.1 last now := by
  refine DueInv.of_idle (unregisterWatchdog_idle d) ?_ last now
  unfold IasWatchdogInterface.unregisterWatchdog
  split
  · exact h.idle ‹_›
  · rfl

theorem DueInv.reset {d : IasWatchdogInterface} {last : Option Nat} {now : Nat}
    (h : DueInv d last now) (hreg : d.isRegistered = true) (due : Nat)
    (hdue : due = add64 now d.timeoutNs) :
    DueInv { d with mDueResetTime := due, mTimeoutReported := false } (some now) now where
  idle hidle := absurd hreg (by rw [show d.isRegistered = false from hidle]; simp)
  fresh := nofun
  due t ht _ := by
    cases ht
    exact ⟨hdue, Nat.le_refl _⟩
  armed := h.armed

theorem DueInv.report {d : IasWatchdogInterface} {last : Option Nat} {now : Nat}
    (h : DueInv d last now) : DueInv { d with mTimeoutReported := true } last now where
  idle := h.idle
  fresh := h.fresh
  due := h.due
  armed := h.armed

/-- A reset sets the due time, or leaves the watchdog as it is up to the note that it was
reported. -/
theorem reset_spec {d : IasWatchdogInterface} {last : Option Nat} {now : Nat}
    (h : DueInv d last now) (thread : Nat) :
    ((d.reset thread now).2 = cOk ∧ DueInv (d.reset thread now).1 (some now) now) ∨
      ((d.reset thread now).2 ≠ cOk ∧ DueInv (d.reset thread now).1 last now) := by
  unfold IasWatchdogInterface.reset
  split
  · exact Or.inr ⟨nofun, h⟩
  rename_i hreg
  split
  · exact Or.inr ⟨nofun, h⟩
  split
  · exact Or.inl ⟨rfl, h.reset (by simpa using hreg) _ rfl⟩
  · exact Or.inr ⟨nofun, h.report⟩

/-! ## Every run -/

theorem inv_start (pid : { n : Nat // n ≠ 0 }) (now : UInt64) : Inv (start pid now) :=
  ⟨List.nodup_nil, nofun, now.toNat_lt, nofun⟩

/-- A new watchdog is not registered. -/
theorem inv_create {w : IasSystemdWatchdogManager} (h : Inv w) {d : IasWatchdogInterface}
    (hreg : d.isRegistered = false) (hdue : d.mDueResetTime = 0) : Inv (w.create d) := by
  have hnew : w.allocated ∉ w.mWatchdogInterfaces :=
    fun hmem => Nat.lt_irrefl _ (h.bound _ hmem)
  refine ⟨?_, ?_, h.clock, ?_⟩
  · exact List.nodup_append.mpr ⟨h.nodup, by simp, fun a ha b hb hab =>
      hnew (List.mem_singleton.mp hb ▸ hab ▸ ha)⟩
  · intro k hk
    rcases List.mem_append.mp hk with hold | hlast
    · exact Nat.lt_trans (h.bound k hold) (Nat.lt_succ_self _)
    · exact List.mem_singleton.mp hlast ▸ Nat.lt_succ_self _
  · intro k hk
    rcases List.mem_append.mp hk with hold | hlast
    · have hne : k ≠ w.allocated := fun heq => hnew (heq ▸ hold)
      simpa [create, hne] using h.watchdog k hold
    · rw [List.mem_singleton.mp hlast]
      simpa [create] using DueInv.of_idle hreg hdue none w.now

/-- One watchdog changes, and the time of its last reset with it. -/
theorem inv_update {w : IasSystemdWatchdogManager} (h : Inv w) {k : Nat}
    {d : IasWatchdogInterface} {last : Option Nat} (hd : DueInv d last w.now) :
    Inv ((w.setWatchdog k d).setLastReset k last) := by
  refine ⟨h.nodup, h.bound, h.clock, ?_⟩
  intro j hj
  by_cases hjk : j = k
  · subst hjk
    simpa [setWatchdog, setLastReset] using hd
  · simpa [setWatchdog, setLastReset, hjk] using h.watchdog j hj

/-- One watchdog changes, the time of its last reset does not. -/
theorem inv_setWatchdog {w : IasSystemdWatchdogManager} (h : Inv w) {k : Nat}
    {d : IasWatchdogInterface} (hd : DueInv d (w.lastReset k) w.now) :
    Inv (w.setWatchdog k d) := by
  refine ⟨h.nodup, h.bound, h.clock, ?_⟩
  intro j hj
  by_cases hjk : j = k
  · subst hjk
    simpa [setWatchdog] using hd
  · simpa [setWatchdog, hjk] using h.watchdog j hj

theorem inv_register {w : IasSystemdWatchdogManager} (h : Inv w) {k : Nat}
    (hk : k ∈ w.mWatchdogInterfaces) {r : IasWatchdogInterface × IasWatchdogResult}
    (hr : (r.2 = cOk ∧ (w.watchdog k).isRegistered = false ∧ DueInv r.1 none w.now) ∨
      (r.2 ≠ cOk ∧ r.1 = w.watchdog k)) : Inv (w.register k r) := by
  unfold register
  rcases hr with ⟨hok, -, hd⟩ | ⟨hfail, hsame⟩
  · rw [if_pos hok]
    exact inv_update h hd
  · rw [if_neg hfail, hsame]
    exact inv_setWatchdog h (h.watchdog k hk)

/-- **Kept by every call, and by the clock.** -/
theorem inv_step (w : IasSystemdWatchdogManager) (e : WatchdogEvent) (h : Inv w) :
    Inv (w.step e) := by
  cases e with
  | createWatchdog => exact inv_create h rfl rfl
  | createPreconfigured timeout watchdogName =>
      dsimp only [step]
      split
      · exact h
      · exact inv_create h rfl rfl
  | registerWatchdog k thread timeout watchdogName =>
      dsimp only [step]
      split
      · exact inv_register h ‹_› (registerWatchdog_spec _ _ _ _ _ _)
      · exact h
  | registerPreconfigured k thread =>
      dsimp only [step]
      split
      · exact inv_register h ‹_› (registerPreconfigured_spec _ _ _ _)
      · exact h
  | unregisterWatchdog k =>
      dsimp only [step]
      split
      · exact inv_setWatchdog h (unregisterWatchdog_inv (h.watchdog k ‹_›))
      · exact h
  | reset k thread =>
      dsimp only [step]
      split
      · rename_i hk
        unfold resetWatchdog
        rcases reset_spec (h.watchdog k hk) thread with ⟨hok, hd⟩ | ⟨hfail, hd⟩
        · rw [if_pos hok]
          exact inv_update h hd
        · rw [if_neg hfail]
          exact inv_setWatchdog h hd
      · exact h
  | destroyWatchdog k =>
      refine ⟨h.nodup.erase k, ?_, h.clock, ?_⟩
      · exact fun j hj => h.bound j (List.mem_of_mem_erase hj)
      · exact fun j hj => h.watchdog j (List.mem_of_mem_erase hj)
  | advance ns =>
      dsimp only [step]
      split
      · exact ⟨h.nodup, h.bound, ‹_›, fun k hk => (h.watchdog k hk).later (Nat.le_add_right _ _)⟩
      · exact h
  | tick => exact h

theorem inv_run (pid : { n : Nat // n ≠ 0 }) (now : UInt64) (es : List WatchdogEvent) :
    Inv (exec step (start pid now) es) := inv_exec_of_step inv_step (inv_start pid now) es

/-! ## Timed out is timed out -/

/-- The watchdog was reset, but not within its timeout. -/
def TimedOut (w : IasSystemdWatchdogManager) (k : Nat) : Prop :=
  ∃ t ∈ w.lastReset k, t + (w.watchdog k).timeoutNs ≤ w.now

/-- The call registers the watchdog `k`. -/
def Registers (k : Nat) (w : IasSystemdWatchdogManager) (e : WatchdogEvent) : Prop :=
  (w.watchdog k).isRegistered = false ∧ ((w.step e).watchdog k).isRegistered = true

/-- Nothing about the watchdog `k` is younger than it was. -/
structure Ages (k : Nat) (w w' : IasSystemdWatchdogManager) : Prop where
  lastReset : w'.lastReset k = w.lastReset k
  timeout : (w'.watchdog k).mTimeout = (w.watchdog k).mTimeout
  now : w.now ≤ w'.now

theorem TimedOut.of_ages {w w' : IasSystemdWatchdogManager} {k : Nat} (h : w.TimedOut k)
    (ha : Ages k w w') : w'.TimedOut k := by
  obtain ⟨t, ht, hlate⟩ := h
  refine ⟨t, ha.lastReset ▸ ht, ?_⟩
  unfold IasWatchdogInterface.timeoutNs at hlate ⊢
  rw [ha.timeout]
  exact Nat.le_trans hlate ha.now

/-- `reset` does not bring back a watchdog that is late. -/
theorem reset_of_timedOut {w : IasSystemdWatchdogManager} {k : Nat} (h : Inv w)
    (hreg : w.Registered k) (hlate : w.TimedOut k) (thread : Nat) :
    ((w.watchdog k).reset thread w.now).2 ≠ cOk ∧
      ((w.watchdog k).reset thread w.now).1.mTimeout = (w.watchdog k).mTimeout := by
  obtain ⟨t, ht, hle⟩ := hlate
  have hclock := h.clock
  have harmed := timeoutNs_pos ((h.watchdog k hreg.1).armed hreg.2)
  obtain ⟨hdue, -⟩ := (h.watchdog k hreg.1).due t ht hreg.2
  have hpast : ¬ (w.now < (w.watchdog k).mDueResetTime ∨ (w.watchdog k).mDueResetTime = 0) := by
    rw [hdue]
    unfold add64
    omega
  unfold IasWatchdogInterface.reset
  rw [if_neg (by simp [hreg.2]), if_neg hpast]
  split <;> exact ⟨nofun, rfl⟩

theorem ages_register {w : IasSystemdWatchdogManager} {k : Nat} (hreg : w.Registered k)
    (j : Nat) {r : IasWatchdogInterface × IasWatchdogResult}
    (hr : (r.2 = cOk ∧ (w.watchdog j).isRegistered = false ∧ DueInv r.1 none w.now) ∨
      (r.2 ≠ cOk ∧ r.1 = w.watchdog j)) : Ages k w (w.register j r) := by
  unfold register
  by_cases hjk : k = j
  · subst hjk
    rcases hr with ⟨-, hidle, -⟩ | ⟨hfail, hsame⟩
    · exact absurd hreg.2 (by simp [hidle])
    · rw [if_neg hfail, hsame]
      exact ⟨rfl, by simp [setWatchdog], Nat.le_refl _⟩
  · split
    · exact ⟨by simp [setWatchdog, setLastReset, hjk],
        by simp [setWatchdog, setLastReset, hjk], Nat.le_refl _⟩
    · exact ⟨rfl, by simp [setWatchdog, hjk], Nat.le_refl _⟩

theorem ages_create {w : IasSystemdWatchdogManager} {k : Nat} (hk : k < w.allocated)
    (d : IasWatchdogInterface) : Ages k w (w.create d) := by
  have hne : k ≠ w.allocated := Nat.ne_of_lt hk
  exact ⟨by simp [create, hne], by simp [create, hne], Nat.le_refl _⟩

/-- A watchdog that is late and stays registered only gets older. -/
theorem ages_step {w : IasSystemdWatchdogManager} {k : Nat} (h : Inv w)
    (hreg : w.Registered k) (hlate : w.TimedOut k) (e : WatchdogEvent)
    (hreg' : ((w.step e).watchdog k).isRegistered = true) : Ages k w (w.step e) := by
  have hrefl : Ages k w w := ⟨rfl, rfl, Nat.le_refl _⟩
  cases e with
  | createWatchdog => exact ages_create (h.bound k hreg.1) _
  | createPreconfigured timeout watchdogName =>
      dsimp only [step]
      split
      · exact hrefl
      · exact ages_create (h.bound k hreg.1) _
  | registerWatchdog j thread timeout watchdogName =>
      dsimp only [step]
      split
      · exact ages_register hreg j (registerWatchdog_spec _ _ _ _ _ _)
      · exact hrefl
  | registerPreconfigured j thread =>
      dsimp only [step]
      split
      · exact ages_register hreg j (registerPreconfigured_spec _ _ _ _)
      · exact hrefl
  | unregisterWatchdog j =>
      dsimp only [step] at hreg' ⊢
      split
      · by_cases hjk : k = j
        · subst hjk
          rw [if_pos hreg.1] at hreg'
          have hidle := unregisterWatchdog_idle (w.watchdog k)
          simp [setWatchdog, hidle] at hreg'
        · exact ⟨rfl, by simp [setWatchdog, hjk], Nat.le_refl _⟩
      · exact hrefl
  | reset j thread =>
      dsimp only [step]
      split
      · unfold resetWatchdog
        by_cases hjk : k = j
        · subst hjk
          obtain ⟨hfail, hsame⟩ := reset_of_timedOut h hreg hlate thread
          rw [if_neg hfail]
          exact ⟨rfl, by simp [setWatchdog, hsame], Nat.le_refl _⟩
        · split
          · exact ⟨by simp [setWatchdog, setLastReset, hjk],
              by simp [setWatchdog, setLastReset, hjk], Nat.le_refl _⟩
          · exact ⟨rfl, by simp [setWatchdog, hjk], Nat.le_refl _⟩
      · exact hrefl
  | destroyWatchdog j => exact ⟨rfl, rfl, Nat.le_refl _⟩
  | advance ns =>
      dsimp only [step]
      split
      · exact ⟨rfl, rfl, Nat.le_add_right _ _⟩
      · exact hrefl
  | tick => exact hrefl

theorem mem_step {w : IasSystemdWatchdogManager} {k : Nat} (hk : k < w.allocated)
    {e : WatchdogEvent} (hmem : k ∈ (w.step e).mWatchdogInterfaces) :
    k ∈ w.mWatchdogInterfaces := by
  have hcreate : ∀ d, k ∈ (w.create d).mWatchdogInterfaces → k ∈ w.mWatchdogInterfaces := by
    intro d hd
    rcases List.mem_append.mp hd with hold | hnew
    · exact hold
    · exact absurd (List.mem_singleton.mp hnew) (Nat.ne_of_lt hk)
  have hregister : ∀ j r, (w.register j r).mWatchdogInterfaces = w.mWatchdogInterfaces := by
    intro j r
    unfold register
    split <;> rfl
  have hreset : ∀ j r, (w.resetWatchdog j r).mWatchdogInterfaces = w.mWatchdogInterfaces := by
    intro j r
    unfold resetWatchdog
    split <;> rfl
  cases e with
  | createWatchdog => exact hcreate _ hmem
  | createPreconfigured timeout watchdogName =>
      dsimp only [step] at hmem
      split at hmem
      · exact hmem
      · exact hcreate _ hmem
  | registerWatchdog j thread timeout watchdogName =>
      dsimp only [step] at hmem
      split at hmem
      · exact hregister j _ ▸ hmem
      · exact hmem
  | registerPreconfigured j thread =>
      dsimp only [step] at hmem
      split at hmem
      · exact hregister j _ ▸ hmem
      · exact hmem
  | unregisterWatchdog j =>
      dsimp only [step] at hmem
      split at hmem <;> exact hmem
  | reset j thread =>
      dsimp only [step] at hmem
      split at hmem
      · exact hreset j _ ▸ hmem
      · exact hmem
  | destroyWatchdog j => exact List.mem_of_mem_erase hmem
  | advance ns =>
      dsimp only [step] at hmem
      split at hmem <;> exact hmem
  | tick => exact hmem

theorem allocated_step (w : IasSystemdWatchdogManager) (e : WatchdogEvent) :
    w.allocated ≤ (w.step e).allocated := by
  cases e <;> dsimp only [step, create, destroy, register, resetWatchdog] <;>
    (try split) <;> (try split) <;>
    first
    | exact Nat.le_refl _
    | exact Nat.le_succ _

/-- What is kept about the watchdog `k` from when it is late. -/
structure Late (k : Nat) (w : IasSystemdWatchdogManager) : Prop where
  inv : Inv w
  old : k < w.allocated
  late : w.Registered k → w.TimedOut k

/-- **Only a registration brings it back.** -/
theorem late_step {k : Nat} (w : IasSystemdWatchdogManager) (e : WatchdogEvent)
    (h : Late k w) (hok : ¬ Registers k w e) : Late k (w.step e) := by
  refine ⟨inv_step w e h.inv, Nat.lt_of_lt_of_le h.old (allocated_step w e), ?_⟩
  rintro ⟨hmem, hreg'⟩
  have hreg : w.Registered k := by
    refine ⟨mem_step h.old hmem, ?_⟩
    by_contra hidle
    exact hok ⟨by simpa using hidle, hreg'⟩
  exact (h.late hreg).of_ages (ages_step h.inv hreg (h.late hreg) e hreg')

/-! ## What a run sends -/

/-- **Every tick of a run is right exactly if no tick meets a watchdog that is not registered
while all those that are were reset in time.** And a registered watchdog that is late stays so
until it is registered again. -/
theorem supervision_iff (pid : { n : Nat // n ≠ 0 }) (now : UInt64) (es : List WatchdogEvent) :
    (Always step NotifiesExactly (start pid now) es ↔
        Always step (fun w e => e = .tick → w.TickOk) (start pid now) es) ∧
      ∀ k fs, (exec step (start pid now) es).Registered k →
        (exec step (start pid now) es).TimedOut k →
        Always step (fun w e => ¬ Registers k w e) (exec step (start pid now) es) fs →
        (exec step (start pid now) (es ++ fs)).Registered k →
        (exec step (start pid now) (es ++ fs)).TimedOut k := by
  constructor
  · exact always_congr (fun _ e h => notifiesExactly_iff h e) (fun w e h _ => inv_step w e h)
      (inv_start pid now)
  · intro k fs hreg hlate hfs
    have hinv := inv_run pid now es
    rw [exec_append]
    exact (inv_exec late_step ⟨hinv, hinv.bound k hreg.1, fun _ => hlate⟩ hfs).late

/-- A watchdog that is reset too late, and reset again. -/
theorem supervision_timed_out :
    (exec step (start ⟨7, by decide⟩ 0) ([.createPreconfigured 1 "rx", .registerPreconfigured 0 3,
      .reset 0 3, .advance 1000000] ++ [.reset 0 3])).TimedOut 0 := by
  refine (supervision_iff ⟨7, by decide⟩ 0 [.createPreconfigured 1 "rx",
    .registerPreconfigured 0 3, .reset 0 3, .advance 1000000]).2 0 [.reset 0 3] ?_ ?_ ?_ ?_
  · decide +kernel
  · exact ⟨0, by decide +kernel, by decide +kernel⟩
  · exact ⟨fun h => absurd h.1 (by decide +kernel), trivial⟩
  · decide +kernel

/-- The transmit thread unregisters its watchdog while the link is down: every watchdog that is
registered was reset in time, and systemd is not notified. -/
theorem unregistered_blocks_notification :
    ¬ Always step NotifiesExactly (start ⟨7, by decide⟩ 0)
      [.createPreconfigured 5000 "rx", .createPreconfigured 5000 "tx",
        .registerPreconfigured 0 3, .registerPreconfigured 1 4, .reset 0 3, .reset 1 4,
        .unregisterWatchdog 1, .tick] := by
  intro h
  obtain ⟨-, -, -, -, -, -, -, htick, -⟩ := h
  have hblocked := (htick rfl).mpr (by
    rintro k ⟨hmem, hreg⟩
    replace hmem : k ∈ [0, 1] := hmem
    simp only [List.mem_cons, List.not_mem_nil, or_false] at hmem
    rcases hmem with rfl | rfl
    · exact ⟨0, rfl, by decide +kernel⟩
    · exact absurd hreg (by decide +kernel))
  exact absurd hblocked (by decide +kernel)

end IasSystemdWatchdogManager

end AvbStreamHandler
