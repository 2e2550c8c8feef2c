import AvbStreamHandler.Alsa.AlsaRegistry
import Mathlib.Algebra.Order.Field.Rat
import Mathlib.Tactic.FieldSimp
import Mathlib.Tactic.Positivity

/-!
# Periods and cycles

A worker thread wakes up once in a base period, and services a stream whose period takes several
of them once in that many cycles. The buffers of a stream with time-aware descriptors are cut into
the pieces that the thread handles in one cycle. How long these are is computed in two more
places, from the base period that is configured, and with a product of 32 bits.
-/

namespace AvbStreamHandler

open IasAvbProcessingResult

namespace IasAlsaWorkerThread

/-- How many periods of the thread the period of a stream takes. -/
def periods (t : IasAlsaWorkerThread) (s : AlsaStream) : Nat :=
  s.periodSize.toNat * t.mSampleFrequency.toNat
    / (t.mAlsaPeriodSize.toNat * s.sampleFrequency.toNat)

/-- What `addAlsaStream` hands to `setCycle`. -/
def cycle (t : IasAlsaWorkerThread) (s : AlsaStream) : UInt32 := UInt32.ofNat (t.periods s)

end IasAlsaWorkerThread

/-- The descriptor period of a stream whose period takes several base periods. The product of the
base period and the sample frequency has 32 bits; nothing comes of a remainder by zero. -/
def descPeriod (periodSize sampleFrequency basePeriod baseFreq : UInt32) : Option UInt32 :=
  let p := periodSize.toNat * baseFreq.toNat
  let q := (basePeriod * sampleFrequency).toNat
  if q = 0 then none
  else if p % q = 0 then
    let cycle := UInt32.ofNat (p / q)
    if cycle ≠ 0 then some (periodSize / cycle) else some periodSize
  else some periodSize

namespace AlsaConfig

/-- `descPeriodSz`, as `IasAlsaEngine::createAlsaStream` computes it. -/
def descPeriodSz (c : AlsaConfig) (s : AlsaStream) : Option UInt32 :=
  descPeriod s.periodSize s.sampleFrequency c.basePeriod c.baseFreq

/-- `mPeriodSz`, as `IasLocalAudioStream::init` computes it. -/
def mPeriodSz (c : AlsaConfig) (alsaPeriodSize sampleFrequency : UInt32) : Option UInt32 :=
  descPeriod alsaPeriodSize sampleFrequency c.basePeriod c.baseFreq

/-- How many base periods the period of a stream takes, or one if it is no multiple of them. -/
def basePeriods (c : AlsaConfig) (s : AlsaStream) : Nat :=
  if IasAlsaWorkerThread.checkParameter s.periodSize s.sampleFrequency c.basePeriod c.baseFreq then
    s.periodSize.toNat * c.baseFreq.toNat / (c.basePeriod.toNat * s.sampleFrequency.toNat)
  else 1

end AlsaConfig

/-- The worker thread that a new stream is assigned to. -/
def IasAlsaEngine.servingThread (c : AlsaConfig) (w : IasAlsaEngine) (r : AlsaRequest) :
    Option IasAlsaWorkerThread :=
  match w.matchingWorker r with
  | some t => some (w.worker t)
  | none => r.clockDomain.map (newWorker c r.stream)

/-! ## One period as a multiple of another -/

/-- The period time `p / f` is a positive multiple of the period time `b / g`. -/
def IsMultiple (p f b g : UInt32) : Prop :=
  0 < (p.toNat / f.toNat : ℚ) ∧ ∃ k : ℕ, (p.toNat / f.toNat : ℚ) = k * (b.toNat / g.toNat)

namespace IasAlsaWorkerThread

variable {t : IasAlsaWorkerThread} {s : AlsaStream} {p f b g : UInt32}

/-- The check in natural numbers. -/
theorem checkParameter_nat : checkParameter p f b g = true ↔
    b.toNat * f.toNat ≠ 0 ∧ 0 < p.toNat * g.toNat
      ∧ ∃ k, p.toNat * g.toNat = b.toNat * f.toNat * k := by
  unfold checkParameter
  simp only [Bool.and_eq_true, bne_iff_ne, ne_eq, decide_eq_true_eq, beq_iff_eq]
  constructor
  · rintro ⟨⟨hq, hone⟩, hwhole⟩
    have hle := Nat.div_mul_le_self (p.toNat * g.toNat) (b.toNat * f.toNat)
    refine ⟨hq, ?_, Nat.dvd_of_mod_eq_zero hwhole⟩
    exact Nat.lt_of_lt_of_le (Nat.mul_pos hone (Nat.pos_of_ne_zero hq)) hle
  · rintro ⟨hq, hp, k, hk⟩
    have hpos := Nat.pos_of_ne_zero hq
    rw [hk] at hp ⊢
    rw [Nat.mul_div_cancel_left k hpos, Nat.mul_mod_right]
    exact ⟨⟨hq, Nat.pos_of_mul_pos_left hp⟩, rfl⟩

theorem ratio_pos {m n : ℕ} : 0 < (m / n : ℚ) ↔ m ≠ 0 ∧ n ≠ 0 := by
  constructor
  · intro h
    refine ⟨fun hm => ?_, fun hn => ?_⟩
    · rw [hm, Nat.cast_zero, zero_div] at h
      exact lt_irrefl _ h
    · rw [hn, Nat.cast_zero, div_zero] at h
      exact lt_irrefl _ h
  · rintro ⟨hm, hn⟩
    exact div_pos (Nat.cast_pos.mpr (Nat.pos_of_ne_zero hm))
      (Nat.cast_pos.mpr (Nat.pos_of_ne_zero hn))

/-- A ratio as a multiple of another, without fractions. -/
theorem ratio_eq_iff {p f b g k : ℕ} (hf : f ≠ 0) (hg : g ≠ 0) :
    (p / f : ℚ) = k * (b / g) ↔ p * g = b * f * k := by
  have hf' : (f : ℚ) ≠ 0 := Nat.cast_ne_zero.mpr hf
  have hg' : (g : ℚ) ≠ 0 := Nat.cast_ne_zero.mpr hg
  rw [mul_div_assoc', div_eq_div_iff hf' hg']
  constructor
  · intro h
    have hnat : p * g = k * b * f := by exact_mod_cast h
    rw [hnat, Nat.mul_comm (b * f), Nat.mul_assoc]
  · intro h
    have hcast : (p * g : ℚ) = b * f * k := by exact_mod_cast h
    rw [hcast, mul_comm (b * f : ℚ), mul_assoc]

/-- **The check** is whether a period time is a positive multiple of another. -/
theorem checkParameter_iff : checkParameter p f b g = true ↔ IsMultiple p f b g := by
  rw [checkParameter_nat]
  unfold IsMultiple
  constructor
  · rintro ⟨hq, hp, k, hk⟩
    have hf : f.toNat ≠ 0 := Nat.ne_zero_of_mul_ne_zero_right hq
    have hg : g.toNat ≠ 0 := Nat.ne_zero_of_mul_ne_zero_right (Nat.ne_of_gt hp)
    have hp' : p.toNat ≠ 0 := Nat.ne_zero_of_mul_ne_zero_left (Nat.ne_of_gt hp)
    exact ⟨ratio_pos.mpr ⟨hp', hf⟩, k, (ratio_eq_iff hf hg).mpr hk⟩
  · rintro ⟨hpos, k, hk⟩
    obtain ⟨hp, hf⟩ := ratio_pos.mp hpos
    -- a positive multiple has a positive base
    have hbase : (b.toNat / g.toNat : ℚ) ≠ 0 := by
      intro hzero
      rw [hk, hzero, mul_zero] at hpos
      exact lt_irrefl _ hpos
    have hb : b.toNat ≠ 0 := fun hb => hbase (by rw [hb, Nat.cast_zero, zero_div])
    have hg : g.toNat ≠ 0 := fun hg => hbase (by rw [hg, Nat.cast_zero, div_zero])
    exact ⟨Nat.mul_ne_zero hb hf, Nat.pos_of_ne_zero (Nat.mul_ne_zero hp hg), k,
      (ratio_eq_iff hf hg).mp hk⟩

/-! ## The cycle of a stream -/

/-- A stream that passes the check takes a positive number of periods of the thread. -/
theorem periods_spec (hcheck : checkParameter s.periodSize s.sampleFrequency t.mAlsaPeriodSize
      t.mSampleFrequency = true) :
    1 ≤ t.periods s ∧ s.periodSize ≠ 0 ∧ s.sampleFrequency ≠ 0
      ∧ (t.periods s : ℚ) = (s.periodSize.toNat / s.sampleFrequency.toNat)
        / (t.mAlsaPeriodSize.toNat / t.mSampleFrequency.toNat) := by
  obtain ⟨hq, hp, k, hk⟩ := checkParameter_nat.mp hcheck
  have hb : t.mAlsaPeriodSize.toNat ≠ 0 := Nat.ne_zero_of_mul_ne_zero_left hq
  have hf : s.sampleFrequency.toNat ≠ 0 := Nat.ne_zero_of_mul_ne_zero_right hq
  have hg : t.mSampleFrequency.toNat ≠ 0 := Nat.ne_zero_of_mul_ne_zero_right (Nat.ne_of_gt hp)
  have hp' : s.periodSize.toNat ≠ 0 := Nat.ne_zero_of_mul_ne_zero_left (Nat.ne_of_gt hp)
  have hperiods : t.periods s = k := by
    unfold periods
    rw [hk, Nat.mul_div_cancel_left k (Nat.pos_of_ne_zero hq)]
  have hbase : (t.mAlsaPeriodSize.toNat / t.mSampleFrequency.toNat : ℚ) ≠ 0 :=
    ne_of_gt (ratio_pos.mpr ⟨hb, hg⟩)
  rw [hk] at hp
  refine ⟨hperiods ▸ Nat.pos_of_mul_pos_left hp, fun h => hp' (by rw [h]; rfl),
    fun h => hf (by rw [h]; rfl), ?_⟩
  rw [hperiods, eq_div_iff hbase]
  exact ((ratio_eq_iff hf hg).mpr hk).symm

theorem cycle_eq (h : t.periods s < 4294967296) : (t.cycle s).toNat = t.periods s :=
  UInt32.toNat_ofNat_of_lt' h

/-- A stream that passes the check is taken, and given the right cycle if it can be counted. -/
theorem addAlsaStream_cycle_iff {clock : Option Nat} {k : Nat}
    (hcheck : t.checkStream clock s = true) (hk : k ∉ t.mAlsaStreams) :
    ((t.addAlsaStream k s).2 = eIasAvbProcOK ∧ 1 ≤ (t.cycle s).toNat
        ∧ ((t.cycle s).toNat : ℚ) = (s.periodSize.toNat / s.sampleFrequency.toNat)
          / (t.mAlsaPeriodSize.toNat / t.mSampleFrequency.toNat))
      ↔ t.periods s < 4294967296 := by
  unfold checkStream at hcheck
  rw [Bool.and_eq_true] at hcheck
  obtain ⟨hone, hperiod, hfreq, hratio⟩ := periods_spec hcheck.2
  have hadd := IasAlsaEngine.addAlsaStream_of_checkStream hperiod hfreq hk hcheck.2
  constructor
  · rintro ⟨-, -, hcycle⟩
    have hsame : (t.cycle s).toNat = t.periods s := by
      rw [← hratio] at hcycle
      exact Nat.cast_injective hcycle
    rw [← hsame]
    exact (t.cycle s).toNat_lt
  · intro hlt
    rw [cycle_eq hlt, hadd]
    exact ⟨rfl, hone, hratio⟩

end IasAlsaWorkerThread

/-! ## The period of the descriptors -/

/-- Both computations come to the same period, which is the part of the period of the stream that
its worker thread handles in one cycle. Nothing is divided by zero, and nothing is cut off. -/
structure PeriodsAgree (c : AlsaConfig) (t : IasAlsaWorkerThread) (s : AlsaStream) : Prop where
  division : c.basePeriod * s.sampleFrequency ≠ 0
  product : (c.basePeriod * s.sampleFrequency).toNat
    = c.basePeriod.toNat * s.sampleFrequency.toNat
  baseCycle : (UInt32.ofNat (c.basePeriods s)).toNat = c.basePeriods s
  cycle : (t.cycle s).toNat = t.periods s
  agree : ∃ d, c.descPeriodSz s = some d ∧ c.mPeriodSz s.periodSize s.sampleFrequency = some d
    ∧ d.toNat = s.periodSize.toNat / (t.cycle s).toNat

/-- The base period is there, the numbers are small enough, and the period of the stream is cut
into the same pieces by the thread as by the base period. -/
structure PeriodsFit (c : AlsaConfig) (t : IasAlsaWorkerThread) (s : AlsaStream) : Prop where
  base : c.basePeriod ≠ 0
  product : c.basePeriod.toNat * s.sampleFrequency.toNat < 4294967296
  baseCycle : c.basePeriods s < 4294967296
  cycle : t.periods s < 4294967296
  same : s.periodSize.toNat / c.basePeriods s = s.periodSize.toNat / t.periods s

section Period

variable {c : AlsaConfig} {t : IasAlsaWorkerThread} {s : AlsaStream}

theorem toNat_ofNat_iff {n : ℕ} : (UInt32.ofNat n).toNat = n ↔ n < 4294967296 := by
  refine ⟨fun h => ?_, fun h => UInt32.toNat_ofNat_of_lt' h⟩
  rw [← h]
  exact (UInt32.ofNat n).toNat_lt

theorem toNat_mul_iff {a b : UInt32} :
    (a * b).toNat = a.toNat * b.toNat ↔ a.toNat * b.toNat < 4294967296 := by
  rw [UInt32.toNat_mul]
  refine ⟨fun h => ?_, fun h => Nat.mod_eq_of_lt h⟩
  rw [← h]
  exact Nat.mod_lt _ (by decide)

/-- **The period of the descriptors**, where nothing is cut off. -/
theorem descPeriodSz_eq (hbase : c.basePeriod ≠ 0) (hfreq : s.sampleFrequency ≠ 0)
    (hproduct : c.basePeriod.toNat * s.sampleFrequency.toNat < 4294967296)
    (hcycle : c.basePeriods s < 4294967296) :
    ∃ d, c.descPeriodSz s = some d ∧ d.toNat = s.periodSize.toNat / c.basePeriods s := by
  have hq : c.basePeriod.toNat * s.sampleFrequency.toNat ≠ 0 :=
    Nat.mul_ne_zero (fun h => hbase (UInt32.toNat_inj.mp h))
      fun h => hfreq (UInt32.toNat_inj.mp h)
  unfold AlsaConfig.descPeriodSz descPeriod
  rw [toNat_mul_iff.mpr hproduct]
  dsimp only
  rw [if_neg hq]
  by_cases hcheck : IasAlsaWorkerThread.checkParameter s.periodSize s.sampleFrequency
      c.basePeriod c.baseFreq = true
  · -- a whole number of base periods, and at least one
    obtain ⟨-, hp, k, hk⟩ := IasAlsaWorkerThread.checkParameter_nat.mp hcheck
    have hperiods : c.basePeriods s = k := by
      unfold AlsaConfig.basePeriods
      rw [if_pos hcheck, hk, Nat.mul_div_cancel_left k (Nat.pos_of_ne_zero hq)]
    rw [hk] at hp
    have hpos : 0 < k := Nat.pos_of_mul_pos_left hp
    rw [hperiods] at hcycle ⊢
    have hsame : (UInt32.ofNat k).toNat = k := toNat_ofNat_iff.mpr hcycle
    have hne : UInt32.ofNat k ≠ 0 := by
      intro hzero
      rw [hzero] at hsame
      exact absurd hsame (Nat.ne_of_lt hpos)
    rw [hk, Nat.mul_mod_right, if_pos rfl, Nat.mul_div_cancel_left k (Nat.pos_of_ne_zero hq),
      if_pos hne]
    refine ⟨_, rfl, ?_⟩
    rw [UInt32.toNat_div, hsame]
  · -- no whole number of them, or none
    have hone : c.basePeriods s = 1 := if_neg hcheck
    rw [hone, Nat.div_one]
    split
    · rename_i hwhole
      have hzero : s.periodSize.toNat * c.baseFreq.toNat = 0 := by
        by_contra hp
        obtain ⟨k, hk⟩ := Nat.dvd_of_mod_eq_zero hwhole
        exact hcheck (IasAlsaWorkerThread.checkParameter_nat.mpr
          ⟨hq, Nat.pos_of_ne_zero hp, k, hk⟩)
      rw [hzero, Nat.zero_div]
      exact ⟨_, if_neg fun h => h rfl, rfl⟩
    · exact ⟨_, rfl, rfl⟩

/-- **The two periods** agree with the cycle if and only if the numbers fit. -/
theorem periodsAgree_iff (hfreq : s.sampleFrequency ≠ 0) :
    PeriodsAgree c t s ↔ PeriodsFit c t s := by
  constructor
  · intro h
    have hbase : c.basePeriod ≠ 0 := by
      intro hzero
      exact h.division (by rw [hzero]; exact UInt32.zero_mul)
    have hproduct := toNat_mul_iff.mp h.product
    have hcycle := toNat_ofNat_iff.mp h.baseCycle
    refine ⟨hbase, hproduct, hcycle, toNat_ofNat_iff.mp h.cycle, ?_⟩
    obtain ⟨d, hd, hvalue⟩ := descPeriodSz_eq hbase hfreq hproduct hcycle
    obtain ⟨d', hd', -, hvalue'⟩ := h.agree
    obtain rfl : d = d' := Option.some.inj (hd.symm.trans hd')
    rw [h.cycle] at hvalue'
    exact hvalue.symm.trans hvalue'
  · intro h
    have hproduct := toNat_mul_iff.mpr h.product
    have hcycle : (t.cycle s).toNat = t.periods s := toNat_ofNat_iff.mpr h.cycle
    have hdivision : c.basePeriod * s.sampleFrequency ≠ 0 := by
      intro hzero
      rw [hzero] at hproduct
      obtain hb | hf := Nat.mul_eq_zero.mp hproduct.symm
      · exact h.base (UInt32.toNat_inj.mp hb)
      · exact hfreq (UInt32.toNat_inj.mp hf)
    obtain ⟨d, hd, hvalue⟩ := descPeriodSz_eq h.base hfreq h.product h.baseCycle
    refine ⟨hdivision, hproduct, toNat_ofNat_iff.mpr h.baseCycle, hcycle, d, hd, hd, ?_⟩
    rw [hcycle, ← h.same]
    exact hvalue

end Period

/-! ## Creating a stream -/

namespace IasAlsaEngine

variable {c : AlsaConfig} {w : IasAlsaEngine} {r : AlsaRequest} {o : AlsaOutcome}

/-- A new worker thread cuts the period of its stream as the base period does. -/
theorem newWorker_periods (hperiod : r.stream.periodSize ≠ 0)
    (hfreq : r.stream.sampleFrequency ≠ 0) (clockDomain : Nat) :
    (newWorker c r.stream clockDomain).periods r.stream = c.basePeriods r.stream := by
  have hpos : 0 < r.stream.periodSize.toNat * r.stream.sampleFrequency.toNat :=
    Nat.mul_pos (Nat.pos_of_ne_zero fun h => hperiod (UInt32.toNat_inj.mp h))
      (Nat.pos_of_ne_zero fun h => hfreq (UInt32.toNat_inj.mp h))
  unfold newWorker AlsaConfig.basePeriods
  split
  · rfl
  · exact Nat.div_self hpos

/-- A stream that is created has a rate, and a worker thread. -/
theorem servingThread_of_accepted (haccepted : (createAlsaStream c w r o).2 = eIasAvbProcOK) :
    r.stream.periodSize ≠ 0 ∧ r.stream.sampleFrequency ≠ 0
      ∧ ∃ t, servingThread c w r = some t := by
  unfold createAlsaStream at haccepted
  split at haccepted
  · cases haccepted
  split at haccepted
  · cases haccepted
  split at haccepted
  · cases haccepted
  split at haccepted
  · cases haccepted
  dsimp only at haccepted
  split at haccepted
  · rename_i hinit
    exact absurd haccepted hinit
  rename_i hinit
  obtain ⟨hperiod, hfreq⟩ := init_eq_ok (not_not.mp hinit)
  refine ⟨hperiod, hfreq, ?_⟩
  unfold servingThread
  cases hmatch : w.matchingWorker r with
  | some t => exact ⟨_, rfl⟩
  | none =>
      have hnone : (w.newStream r.stream).matchingWorker r = none := hmatch
      unfold assignToWorkerThread initWorker at haccepted
      rw [if_neg (by simp [hperiod, hfreq]), hnone] at haccepted
      cases hclock : r.clockDomain with
      | some clockDomain => exact ⟨_, rfl⟩
      | none =>
          rw [hclock] at haccepted
          dsimp only at haccepted
          split at haccepted
          · rename_i hok
            split at hok <;> cases hok
          · rename_i hfails _
            exact (hfails haccepted).elim

/--
**Periods and cycles.**

The check is whether a period time is a positive multiple of another. A stream that passes it is
taken by the worker thread, and given the right cycle if and only if it can be counted. And where
the engine creates a stream, the two periods of the descriptors agree with the cycle, and nothing
is cut off or divided by zero, if and only if the numbers fit.
-/
theorem alsaPeriods_iff (c : AlsaConfig) (w : IasAlsaEngine) (r : AlsaRequest) (o : AlsaOutcome)
    (haccepted : (createAlsaStream c w r o).2 = eIasAvbProcOK) :
    (∀ p f b g, IasAlsaWorkerThread.checkParameter p f b g = true ↔ IsMultiple p f b g)
      ∧ (∀ (t : IasAlsaWorkerThread) (clock : Option Nat) (k : Nat) (s : AlsaStream),
        t.checkStream clock s = true → k ∉ t.mAlsaStreams →
          (((t.addAlsaStream k s).2 = eIasAvbProcOK ∧ 1 ≤ (t.cycle s).toNat
            ∧ ((t.cycle s).toNat : ℚ) = (s.periodSize.toNat / s.sampleFrequency.toNat)
              / (t.mAlsaPeriodSize.toNat / t.mSampleFrequency.toNat))
            ↔ t.periods s < 4294967296))
      ∧ ∃ t, servingThread c w r = some t
        ∧ (PeriodsAgree c t r.stream ↔ PeriodsFit c t r.stream) := by
  obtain ⟨-, hfreq, t, ht⟩ := servingThread_of_accepted haccepted
  exact ⟨fun _ _ _ _ => IasAlsaWorkerThread.checkParameter_iff,
    fun _ _ _ _ hcheck hk => IasAlsaWorkerThread.addAlsaStream_cycle_iff hcheck hk,
    t, ht, periodsAgree_iff hfreq⟩

/-- A virtual device with a given period. -/
def periodRequest (streamId : UInt16) (deviceName : String) (periodSize sampleFrequency : UInt32) :
    AlsaRequest where
  stream :=
    { alsaDeviceType := .eIasAlsaVirtualDevice, direction := .eIasAvbReceiveFromNetwork,
      streamId := streamId, deviceName := deviceName, periodSize := periodSize,
      sampleFrequency := sampleFrequency }
  clockDomain := some 0

/-- An engine without streams. -/
def initialized : IasAlsaEngine := init {} |>.1

/-- A period of 256 samples is cut in two. -/
theorem alsaPeriods_default : ∃ t,
    servingThread {} initialized (periodRequest 1 "stereo_0" 256 48000) = some t
      ∧ PeriodsAgree {} t (periodRequest 1 "stereo_0" 256 48000).stream := by
  obtain ⟨-, -, t, ht, hiff⟩ := alsaPeriods_iff {} initialized
    (periodRequest 1 "stereo_0" 256 48000) {} (by decide +kernel)
  refine ⟨t, ht, hiff.mpr ?_⟩
  obtain rfl : newWorker {} (periodRequest 1 "stereo_0" 256 48000).stream 0 = t :=
    Option.some.inj ht
  exact ⟨by decide, by decide, by decide, by decide, by decide⟩

/-- **Periods that differ.** A base period of 65536 samples at 96000 samples per second, where the
product is cut off: a stream of twice that period is served in two cycles, and its descriptors
have the whole period. A base period of 2^25 samples, where zero is what is left of the product.
And a stream of 200 samples on a worker thread that was made for one of 100. -/
theorem alsa_periods_differ :
    let long : AlsaConfig := { basePeriod := 65536, baseFreq := 96000 }
    let twice := periodRequest 1 "stereo_0" 131072 96000
    let zero : AlsaConfig := { basePeriod := 33554432 }
    let plain := periodRequest 1 "stereo_0" 256 48000
    let first := periodRequest 1 "stereo_0" 100 48000
    let second := periodRequest 2 "stereo_1" 200 48000
    let w := (createAlsaStream {} initialized first {}).1
    ((createAlsaStream long initialized twice {}).2 = eIasAvbProcOK
        ∧ ∃ t, servingThread long initialized twice = some t ∧ t.cycle twice.stream = 2
          ∧ long.descPeriodSz twice.stream = some 131072 ∧ ¬ PeriodsAgree long t twice.stream)
      ∧ ((createAlsaStream zero initialized plain {}).2 = eIasAvbProcOK
        ∧ ∃ t, servingThread zero initialized plain = some t
          ∧ zero.descPeriodSz plain.stream = none ∧ ¬ PeriodsAgree zero t plain.stream)
      ∧ (createAlsaStream {} w second {}).2 = eIasAvbProcOK
        ∧ ∃ t, servingThread {} w second = some t ∧ t.cycle second.stream = 2
          ∧ AlsaConfig.descPeriodSz {} second.stream = some 200
          ∧ ¬ PeriodsAgree {} t second.stream := by
  intro long twice zero plain first second w
  refine ⟨⟨by decide +kernel, _, rfl, by decide +kernel, by decide +kernel, fun h => ?_⟩,
    ⟨by decide +kernel, _, rfl, by decide +kernel, fun h => ?_⟩,
    by decide +kernel, ⟨0, 100, 48000, [0]⟩, by decide +kernel, by decide +kernel,
    by decide +kernel, fun h => ?_⟩
  · exact absurd h.product (by decide +kernel)
  · exact absurd h.division (by decide +kernel)
  · obtain ⟨d, hd, -, hvalue⟩ := h.agree
    have hwhole : AlsaConfig.descPeriodSz {} second.stream = some 200 := by decide +kernel
    obtain rfl : 200 = d := Option.some.inj (hwhole.symm.trans hd)
    exact absurd hvalue (by decide +kernel)

end IasAlsaEngine

end AvbStreamHandler
