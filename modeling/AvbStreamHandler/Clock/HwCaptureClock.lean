import AvbStreamHandler.Clock.AvbClockDomain
import AvbStreamHandler.Kit.Run
import AvbStreamHandler.Kit.Truncate
import Mathlib.Algebra.Order.Archimedean.Basic
import Mathlib.Data.List.Chain
import Mathlib.Data.Rat.Floor

/-!
# The hardware capture clock

`IasAvbHwCaptureClockDomain::run`: a poll that finds a captured edge looks at the time since the
edge the domain was last updated with, rounded to nominal periods. Less than one is taken for a
glitch and passed over. The rate ratio is updated with one period, and the event count with the
events of all of them, cut to an integer.

The reference is moved on by an update alone. So after a step of PTP time backwards nothing is
updated until time has come past the reference again, however far that is, and what is cut from
the events of an edge is lost for good.

Times are nanoseconds, and neither they nor the count of events is limited to a register here:
`mEventCount_lt` says that a count of captured times fits one. Setting up the registers and the
debug output are left out.
-/

namespace AvbStreamHandler

open Kit Kit.Run

structure HwCaptureClock where
  domain : AvbClockDomain
  mNominal : ℚ
  auxstmpLast : ℕ := 0
  mEventCount : ℕ := 0
  mEventTimeStamp : ℕ := 0

/-- What a poll reads from the registers after a change of level. -/
structure Capture where
  auxstmpl : ℕ
  auxstmph : ℕ
  /-- The level is high now: `CTRL_SDP0_DATA`. -/
  rising : Bool

def Capture.auxstmpNow (e : Capture) : ℕ := 1000000000 * e.auxstmph + e.auxstmpl

namespace HwCaptureClock

/-- The nominal frequency is configured in millihertz. -/
def init (domain : AvbClockDomain) (cClockHwCapFrequency : Option ℕ) : HwCaptureClock where
  domain := domain
  mNominal :=
    match cClockHwCapFrequency with
    | none => 375 / 4
    | some val => val * (1 / 1000)

/-- The time since the last edge, in seconds. -/
def periodSdp (c : HwCaptureClock) (auxstmpNow : ℕ) : ℚ :=
  1 / 1000000000 * ((auxstmpNow : ℚ) - c.auxstmpLast)

/-- The number of periods since the last edge. -/
def wrapCount (c : HwCaptureClock) (auxstmpNow : ℕ) : ℤ :=
  nearest (c.mNominal * c.periodSdp auxstmpNow)

def events (c : HwCaptureClock) (auxstmpNow : ℕ) : ℕ :=
  (truncate (c.wrapCount auxstmpNow * 48000 / c.mNominal)).toNat

/-- A rising edge. -/
def edge (c : HwCaptureClock) (auxstmpNow : ℕ) : HwCaptureClock :=
  let wrapCount := c.wrapCount auxstmpNow
  if wrapCount < 1 then c
  else
    let periodSdp := if wrapCount ≠ 1 then c.periodSdp auxstmpNow / wrapCount
      else c.periodSdp auxstmpNow
    let c' :=
      if c.auxstmpLast = 0 then { c with mEventCount := 0, mEventTimeStamp := auxstmpNow }
      else
        { c with
          domain := c.domain.updateRateRatio (c.mNominal * periodSdp)
          mEventCount := c.mEventCount + c.events auxstmpNow
          mEventTimeStamp := auxstmpNow }
    { c' with auxstmpLast := auxstmpNow }

/-- A turn of the loop. -/
def poll (c : HwCaptureClock) (captured : Option Capture) : HwCaptureClock :=
  match captured with
  | none => c
  | some e => if e.rising then c.edge e.auxstmpNow else c

/-- The times of the rising edges that were captured. -/
def risingEdges (polls : List (Option Capture)) : List ℕ :=
  polls.filterMap fun captured => captured.bind fun e =>
    if e.rising then some e.auxstmpNow else none

/-- The loop is about rising edges. -/
theorem exec_poll (c : HwCaptureClock) (polls : List (Option Capture)) :
    exec poll c polls = exec edge c (risingEdges polls) := by
  induction polls generalizing c with
  | nil => rfl
  | cons captured rest ih =>
      rw [exec_cons, ih]
      cases captured with
      | none => rfl
      | some e => cases h : e.rising <;> simp [risingEdges, poll, h]

/-! ## An edge -/

/-- The domain is updated with an edge, which is the reference from then on. -/
def Updates (c : HwCaptureClock) (now : ℕ) : Prop := 1 ≤ c.wrapCount now

instance (c : HwCaptureClock) (now : ℕ) : Decidable (c.Updates now) :=
  inferInstanceAs (Decidable (_ ≤ _))

variable {c : HwCaptureClock} {now : ℕ}

/-- Half a period has to go by. -/
theorem updates_iff : c.Updates now ↔ 500000000 ≤ c.mNominal * ((now : ℚ) - c.auxstmpLast) := by
  rw [Updates, wrapCount, one_le_nearest_iff, periodSdp]
  constructor <;> intro h <;> linarith

theorem edge_of_not_updates (h : ¬ c.Updates now) : c.edge now = c :=
  if_pos (not_le.mp h)

@[simp] theorem edge_mNominal : (c.edge now).mNominal = c.mNominal := by
  unfold edge
  dsimp only
  split
  · rfl
  · split <;> rfl

theorem edge_auxstmpLast (h : c.Updates now) : (c.edge now).auxstmpLast = now := by
  rw [edge, if_neg (not_lt.mpr h)]

theorem edge_mEventCount (h : c.Updates now) (hlast : c.auxstmpLast ≠ 0) :
    (c.edge now).mEventCount = c.mEventCount + c.events now := by
  rw [edge, if_neg (not_lt.mpr h)]
  dsimp only
  rw [if_neg hlast]

theorem edge_mEventCount_first (h : c.Updates now) (hlast : c.auxstmpLast = 0) :
    (c.edge now).mEventCount = 0 := by
  rw [edge, if_neg (not_lt.mpr h)]
  dsimp only
  rw [if_pos hlast]

@[simp] theorem exec_mNominal (es : List ℕ) : (exec edge c es).mNominal = c.mNominal := by
  induction es generalizing c with
  | nil => rfl
  | cons now rest ih => rw [exec_cons, ih, edge_mNominal]

/-- An update lies ahead of the reference. -/
theorem last_lt_of_updates (hf : 0 ≤ c.mNominal) (h : c.Updates now) : c.auxstmpLast < now := by
  have hahead := updates_iff.mp h
  by_contra hle
  have hback : (now : ℚ) - c.auxstmpLast ≤ 0 := sub_nonpos.mpr (by exact_mod_cast not_lt.mp hle)
  linarith [mul_nonpos_of_nonneg_of_nonpos hf hback]

/-- The count is always reported with the time of the reference. -/
theorem exec_mEventTimeStamp (h : c.mEventTimeStamp = c.auxstmpLast) (es : List ℕ) :
    (exec edge c es).mEventTimeStamp = (exec edge c es).auxstmpLast := by
  have hstep : ∀ (d : HwCaptureClock) (now : ℕ), d.mEventTimeStamp = d.auxstmpLast →
      (d.edge now).mEventTimeStamp = (d.edge now).auxstmpLast := by
    intro d now hd
    by_cases hup : d.Updates now
    · rw [edge, if_neg (not_lt.mpr hup)]
      dsimp only
      split <;> rfl
    · rwa [edge_of_not_updates hup]
  exact inv_exec_of_step hstep h es

/-! ## Recovery -/

/-- One of the edges updates the domain. -/
def Resumes (c : HwCaptureClock) (edges : List ℕ) : Prop :=
  ∃ pre now post, edges = pre ++ now :: post ∧ (exec edge c pre).Updates now

/-- Edges are not captured too far behind the reference. -/
def NotBehind (behind : Option ℕ) (c : HwCaptureClock) (now : ℕ) : Prop :=
  ∀ b ∈ behind, c.auxstmpLast ≤ now + b

/-- After any sequence of edges, updates resume within `n` edges in increasing order. -/
def ResumesWithin (c : HwCaptureClock) (behind : Option ℕ) (n : ℕ) : Prop :=
  ∀ es edges : List ℕ, edges.length = n → edges.IsChain (· < ·) →
    Always edge (NotBehind behind) c (es ++ edges) → (exec edge c es).Resumes edges

theorem exec_of_not_updates {edges : List ℕ} (h : ∀ now ∈ edges, ¬ c.Updates now) :
    exec edge c edges = c := by
  induction edges with
  | nil => rfl
  | cons now rest ih =>
      rw [exec_cons, edge_of_not_updates (h now List.mem_cons_self)]
      exact ih fun e he => h e (List.mem_cons_of_mem _ he)

/-- As long as nothing is updated the reference stays, so only one state is to be looked at. -/
theorem resumes_iff {edges : List ℕ} : c.Resumes edges ↔ ∃ now ∈ edges, c.Updates now := by
  constructor
  · rintro ⟨pre, now, post, rfl, hup⟩
    by_contra hnone
    push Not at hnone
    have hstay : exec edge c pre = c :=
      exec_of_not_updates fun e he => hnone e (List.mem_append_left _ he)
    rw [hstay] at hup
    exact hnone now (by simp) hup
  · intro h
    induction edges with
    | nil => simp at h
    | cons now rest ih =>
        by_cases hnow : c.Updates now
        · exact ⟨[], now, rest, rfl, hnow⟩
        · obtain ⟨e, he, hup⟩ := h
          rcases List.mem_cons.mp he with rfl | he
          · exact absurd hup hnow
          · obtain ⟨pre, now', post, rfl, hup⟩ := ih ⟨e, he, hup⟩
            exact ⟨now :: pre, now', post, rfl, by rwa [exec_cons, edge_of_not_updates hnow]⟩

theorem exists_mem_of_increasing {first : ℕ} {rest : List ℕ}
    (h : (first :: rest).IsChain (· < ·)) : ∃ now ∈ first :: rest, first + rest.length ≤ now := by
  induction rest generalizing first with
  | nil => exact ⟨first, by simp⟩
  | cons second rest ih =>
      obtain ⟨hlt, hchain⟩ := List.isChain_cons_cons.mp h
      obtain ⟨now, hmem, hle⟩ := ih hchain
      refine ⟨now, List.mem_cons_of_mem _ hmem, ?_⟩
      rw [List.length_cons]
      omega

/-- Nanoseconds are enough: increasing edges run past the reference, and half a period on. -/
theorem resumesWithin_of_notBehind (hf : 0 < c.mNominal) (b : ℕ) :
    c.ResumesWithin (some b) (b + ⌈500000000 / c.mNominal⌉₊ + 1) := by
  intro es edges hlength hchain halways
  obtain ⟨-, halways⟩ := always_append.mp halways
  have hf' : 0 < (exec edge c es).mNominal := by rwa [exec_mNominal]
  rw [← exec_mNominal es] at hlength
  generalize exec edge c es = d at hf' hlength halways ⊢
  rw [resumes_iff]
  cases edges with
  | nil => simp at hlength
  | cons first rest =>
      have hbehind : d.auxstmpLast ≤ first + b := halways.1 b rfl
      obtain ⟨now, hmem, hle⟩ := exists_mem_of_increasing hchain
      refine ⟨now, hmem, updates_iff.mpr ?_⟩
      rw [List.length_cons] at hlength
      have hfar : d.auxstmpLast + ⌈500000000 / d.mNominal⌉₊ ≤ now := by omega
      have hhalf : 500000000 / d.mNominal ≤ (now : ℚ) - d.auxstmpLast := by
        have hcast : (d.auxstmpLast : ℚ) + ⌈500000000 / d.mNominal⌉₊ ≤ now := by
          exact_mod_cast hfar
        linarith [Nat.le_ceil (500000000 / d.mNominal)]
      rwa [div_le_iff₀' hf'] at hhalf

/-- With nothing known about the way back, updates can stay away for any number of edges. -/
theorem not_resumesWithin (hf : 0 ≤ c.mNominal) (n : ℕ) :
    ¬ c.ResumesWithin none n := by
  intro h
  -- an edge far ahead becomes the reference, and the others are captured before it
  have hrun := h [n + ⌈500000000 / c.mNominal⌉₊] (List.range n) List.length_range
    ((List.isChain_range _ _).mpr fun m _ => Nat.lt_succ_self m)
    (always_of_forall (fun _ _ _ hb => by cases hb) _ _)
  obtain ⟨now, hmem, hup⟩ := resumes_iff.mp hrun
  have hnow := List.mem_range.mp hmem
  have hf' : 0 ≤ (exec edge c [n + ⌈500000000 / c.mNominal⌉₊]).mNominal := by rwa [exec_mNominal]
  have hahead := last_lt_of_updates hf' hup
  rw [exec_cons, exec_nil] at hahead hup
  by_cases hfirst : c.Updates (n + ⌈500000000 / c.mNominal⌉₊)
  · rw [edge_auxstmpLast hfirst] at hahead
    omega
  · rw [edge_of_not_updates hfirst] at hup
    refine hfirst (updates_iff.mpr ?_)
    have hhalf := updates_iff.mp hup
    have hmono : (now : ℚ) - c.auxstmpLast ≤
        ((n + ⌈500000000 / c.mNominal⌉₊ : ℕ) : ℚ) - c.auxstmpLast := by
      push_cast
      have : (now : ℚ) ≤ n := by exact_mod_cast hnow.le
      linarith [(Nat.cast_nonneg ⌈500000000 / c.mNominal⌉₊ : (0 : ℚ) ≤ _)]
    exact hhalf.trans (mul_le_mul_of_nonneg_left hmono hf)

/-- Without a frequency there is no update at all. -/
theorem not_resumesWithin_of_zero (hf : c.mNominal = 0) (hlast : c.auxstmpLast = 0)
    (behind : Option ℕ) (n : ℕ) : ¬ c.ResumesWithin behind n := by
  have hnever : ∀ now, ¬ c.Updates now := by
    intro now hup
    have hhalf := updates_iff.mp hup
    rw [hf, zero_mul] at hhalf
    norm_num at hhalf
  intro h
  have hstay : ∀ es, Always edge (NotBehind behind) c es := by
    intro es
    induction es with
    | nil => trivial
    | cons now rest ih =>
        refine ⟨fun b _ => by rw [hlast]; exact Nat.zero_le _, ?_⟩
        rwa [edge_of_not_updates (hnever now)]
  have hrun := h [] (List.range n) List.length_range
    ((List.isChain_range _ _).mpr fun m _ => Nat.lt_succ_self m) (hstay _)
  obtain ⟨now, -, hup⟩ := resumes_iff.mp hrun
  exact hnever now hup

/-! ## Counting -/

/-- The nominal periods from a reference edge through edges in increasing order, rounded gap by
gap. A glitch does not end a gap. -/
def nominalPeriods (mNominal : ℚ) : ℕ → List ℕ → ℤ
  | _, [] => 0
  | reference, now :: rest =>
      let periods := nearest (mNominal * (((now : ℚ) - reference) / 1000000000))
      if periods < 1 then nominalPeriods mNominal reference rest
      else periods + nominalPeriods mNominal now rest

/-- After an edge that updates the domain, the count keeps up with the nominal periods through any
edges in increasing order. -/
def CountsWithin (c : HwCaptureClock) (error : ℚ) : Prop :=
  ∀ (es : List ℕ) (now : ℕ) (edges : List ℕ), (exec edge c es).Updates now →
    (now :: edges).IsChain (· < ·) →
    |((exec edge c (es ++ now :: edges)).mEventCount : ℚ) -
        (exec edge c (es ++ [now])).mEventCount -
        48000 / c.mNominal * nominalPeriods c.mNominal now edges| ≤ error

theorem wrapCount_eq : c.wrapCount now =
    nearest (c.mNominal * (((now : ℚ) - c.auxstmpLast) / 1000000000)) := by
  rw [wrapCount, periodSdp]
  congr 2
  ring

theorem events_eq (hf : 0 ≤ c.mNominal) (h : c.Updates now) :
    (c.events now : ℤ) = ⌊(c.wrapCount now * 48000 / c.mNominal : ℚ)⌋ := by
  have hone : (1 : ℚ) ≤ c.wrapCount now := by exact_mod_cast h
  have hnonneg : (0 : ℚ) ≤ c.wrapCount now * 48000 / c.mNominal := by positivity
  rw [events, Int.toNat_of_nonneg (truncate_nonneg hnonneg), truncate_of_nonneg hnonneg]

/-- A whole number of events in a period is never cut. -/
theorem mEventCount_of_whole {k : ℕ} (hk : k * c.mNominal = 48000) (hf : 0 < c.mNominal)
    (hlast : c.auxstmpLast ≠ 0) (edges : List ℕ) :
    ((exec edge c edges).mEventCount : ℤ) =
      c.mEventCount + k * nominalPeriods c.mNominal c.auxstmpLast edges := by
  induction edges generalizing c with
  | nil => simp [nominalPeriods]
  | cons now rest ih =>
      rw [exec_cons, nominalPeriods, ← wrapCount_eq]
      by_cases hup : c.Updates now
      · have hnow : now ≠ 0 := by
          have := last_lt_of_updates hf.le hup
          omega
        have hevents : (c.events now : ℤ) = k * c.wrapCount now := by
          have hper : (c.wrapCount now * 48000 / c.mNominal : ℚ) = (k * c.wrapCount now : ℤ) := by
            rw [← hk]
            push_cast
            field_simp
          rw [events_eq hf.le hup, hper, Int.floor_intCast]
        rw [if_neg (not_lt.mpr hup), ih (by rwa [edge_mNominal]) (by rwa [edge_mNominal])
          (by rwa [edge_auxstmpLast hup]), edge_mEventCount hup hlast, edge_mNominal,
          edge_auxstmpLast hup]
        push_cast
        rw [hevents]
        ring
      · rw [if_pos (not_le.mp hup), edge_of_not_updates hup]
        exact ih hk hf hlast

theorem countsWithin_of_whole {k : ℕ} (hk : k * c.mNominal = 48000) (hf : 0 < c.mNominal) :
    c.CountsWithin 0 := by
  intro es now edges hup hchain
  have hf' : 0 < (exec edge c es).mNominal := by rwa [exec_mNominal]
  have hnow : now ≠ 0 := by
    have := last_lt_of_updates hf'.le hup
    omega
  have hlast := edge_auxstmpLast hup
  have hcount := mEventCount_of_whole (c := (exec edge c es).edge now) (k := k)
    (by rwa [edge_mNominal, exec_mNominal]) (by rwa [edge_mNominal]) (by rwa [hlast]) edges
  rw [hlast, edge_mNominal, exec_mNominal] at hcount
  rw [exec_append, exec_append, exec_cons, exec_cons, exec_nil]
  have hrate : (48000 : ℚ) / c.mNominal = k := by
    rw [← hk]
    field_simp
  have hcast : (((exec edge ((exec edge c es).edge now) edges).mEventCount : ℤ) : ℚ) =
      (((exec edge c es).edge now).mEventCount + k * nominalPeriods c.mNominal now edges : ℤ) :=
    congrArg _ hcount
  push_cast at hcast
  rw [hcast, hrate]
  simp

/-- Two events for every one that a period has, at most: a gap is rounded up to twice its length. -/
theorem events_le (hf : 0 < c.mNominal) (h : c.Updates now) :
    (c.events now : ℚ) ≤ 96000 * (((now : ℚ) - c.auxstmpLast) / 1000000000) := by
  have hhalf := updates_iff.mp h
  have hperiods : (c.wrapCount now : ℚ) ≤ c.mNominal * (((now : ℚ) - c.auxstmpLast) / 1000000000)
      + 1 / 2 := by
    rw [wrapCount_eq]
    refine nearest_le ?_
    linarith
  have hcut : (c.events now : ℚ) ≤ c.wrapCount now * 48000 / c.mNominal := by
    have hfloor := Int.floor_le (c.wrapCount now * 48000 / c.mNominal : ℚ)
    rw [← events_eq hf.le h] at hfloor
    exact_mod_cast hfloor
  refine hcut.trans ?_
  rw [div_le_iff₀ hf]
  linarith

/-- The count of a clock that has not seen any time beyond what the registers hold. -/
structure Counted (c : HwCaptureClock) : Prop where
  nominal : 0 < c.mNominal
  last : c.auxstmpLast < 4294967296 * 1000000000 + 4294967296
  count : (c.mEventCount : ℚ) ≤ 96000 * (c.auxstmpLast / 1000000000)

theorem counted_edge (h : c.Counted) (hnow : now < 4294967296 * 1000000000 + 4294967296) :
    (c.edge now).Counted := by
  obtain ⟨hf, hlt, hle⟩ := h
  by_cases hup : c.Updates now
  · refine ⟨by rwa [edge_mNominal], by rwa [edge_auxstmpLast hup], ?_⟩
    rw [edge_auxstmpLast hup]
    by_cases hfirst : c.auxstmpLast = 0
    · rw [edge_mEventCount_first hup hfirst, Nat.cast_zero]
      positivity
    · rw [edge_mEventCount hup hfirst]
      push_cast
      linarith [events_le hf hup]
  · rw [edge_of_not_updates hup]
    exact ⟨hf, hlt, hle⟩

/-- What times of 32 bits of seconds come to fits a register. -/
theorem mEventCount_lt (h : c.Counted) {es : List ℕ}
    (htimes : ∀ now ∈ es, now < 4294967296 * 1000000000 + 4294967296) :
    (exec edge c es).mEventCount < 18446744073709551616 := by
  obtain ⟨-, hlast, hcount⟩ := inv_exec_mem (fun _ _ => counted_edge) h htimes
  have hlast' : ((exec edge c es).auxstmpLast : ℚ) < 4294967296 * 1000000000 + 4294967296 := by
    exact_mod_cast hlast
  have hlt : ((exec edge c es).mEventCount : ℚ) < 18446744073709551616 := by linarith
  exact_mod_cast hlt

/-! ## Drift -/

/-- Edges at even distance. -/
def train (gap : ℕ) : ℕ → ℕ → List ℕ
  | _, 0 => []
  | reference, n + 1 => (reference + gap) :: train gap (reference + gap) n

theorem train_increasing {gap : ℕ} (hgap : 0 < gap) (reference n : ℕ) :
    (reference :: train gap reference n).IsChain (· < ·) := by
  induction n generalizing reference with
  | zero => exact List.isChain_singleton _
  | succ n ih => exact List.isChain_cons_cons.mpr ⟨by omega, ih _⟩

/-- The periods in a gap. -/
def gapPeriods (mNominal : ℚ) (gap : ℕ) : ℤ := nearest (mNominal * ((gap : ℚ) / 1000000000))

theorem wrapCount_of_gap (gap : ℕ) :
    c.wrapCount (c.auxstmpLast + gap) = gapPeriods c.mNominal gap := by
  rw [wrapCount_eq, gapPeriods]
  push_cast
  congr 3
  ring

theorem nominalPeriods_train {f : ℚ} {gap : ℕ} (hgap : 1 ≤ gapPeriods f gap) (reference n : ℕ) :
    nominalPeriods f reference (train gap reference n) = n * gapPeriods f gap := by
  induction n generalizing reference with
  | zero => simp [nominalPeriods, train]
  | succ n ih =>
      have hperiods : nearest (f * ((((reference + gap : ℕ) : ℚ) - reference) / 1000000000)) =
          gapPeriods f gap := by
        rw [gapPeriods]
        push_cast
        congr 3
        ring
      rw [train, nominalPeriods, hperiods, if_neg (not_lt.mpr hgap), ih]
      push_cast
      ring

/-- What each edge of a train adds to the count. -/
def gapEvents (mNominal : ℚ) (gap : ℕ) : ℤ := ⌊(gapPeriods mNominal gap * 48000 / mNominal : ℚ)⌋

theorem mEventCount_train {gap : ℕ} (hf : 0 < c.mNominal) (hlast : c.auxstmpLast ≠ 0)
    (hgap : 1 ≤ gapPeriods c.mNominal gap) (n : ℕ) :
    ((exec edge c (train gap c.auxstmpLast n)).mEventCount : ℤ) =
      c.mEventCount + n * gapEvents c.mNominal gap := by
  induction n generalizing c with
  | zero => simp [train]
  | succ n ih =>
      have hup : c.Updates (c.auxstmpLast + gap) := by rwa [Updates, wrapCount_of_gap]
      have hreference := edge_auxstmpLast hup
      have hrest := ih (c := c.edge (c.auxstmpLast + gap)) (by rwa [edge_mNominal])
        (by rw [hreference]; omega) (by rwa [edge_mNominal])
      rw [hreference, edge_mEventCount hup hlast, edge_mNominal] at hrest
      have hevents : (c.events (c.auxstmpLast + gap) : ℤ) = gapEvents c.mNominal gap := by
        rw [events_eq hf.le hup, wrapCount_of_gap, gapEvents]
      rw [train, exec_cons, hrest]
      push_cast
      rw [hevents]
      ring

/-- Some gap has periods that do not come to whole events. -/
theorem exists_gap {f : ℚ} (hf : 0 < f) (hk : ¬ ∃ k : ℕ, k * f = 48000) :
    ∃ gap, 0 < gap ∧ 1 ≤ gapPeriods f gap
      ∧ 0 < Int.fract (gapPeriods f gap * 48000 / f : ℚ) := by
  rcases lt_or_ge f 1000000000 with hlt | hge
  · -- a gap of one period
    have hceil := Nat.le_ceil (500000000 / f)
    have hceil' := Nat.ceil_lt_add_one (show 0 ≤ 500000000 / f by positivity)
    rw [div_le_iff₀' hf] at hceil
    rw [← sub_lt_iff_lt_add, lt_div_iff₀' hf] at hceil'
    have hone : gapPeriods f ⌈500000000 / f⌉₊ = 1 := by
      rw [gapPeriods, nearest_eq_one_iff]
      constructor <;> linarith
    refine ⟨⌈500000000 / f⌉₊, Nat.ceil_pos.mpr (by positivity), hone.ge, ?_⟩
    rw [hone, Int.fract_pos]
    intro hwhole
    refine hk ⟨⌊((1 : ℤ) * 48000 / f : ℚ)⌋.toNat, ?_⟩
    have hnonneg : 0 ≤ ⌊((1 : ℤ) * 48000 / f : ℚ)⌋ := Int.floor_nonneg.mpr (by positivity)
    have hcast : ((⌊((1 : ℤ) * 48000 / f : ℚ)⌋.toNat : ℤ) : ℚ) =
        (⌊((1 : ℤ) * 48000 / f : ℚ)⌋ : ℚ) := by rw [Int.toNat_of_nonneg hnonneg]
    rw [Int.cast_natCast] at hcast
    rw [hcast, ← hwhole]
    field_simp
    norm_num
  · -- of a nanosecond there is never a whole event
    have hperiods : 1 ≤ gapPeriods f 1 := by
      rw [gapPeriods, one_le_nearest_iff]
      push_cast
      linarith
    have hle : (gapPeriods f 1 : ℚ) ≤ f * ((1 : ℕ) / 1000000000) + 1 / 2 :=
      nearest_le (by positivity)
    have hpos : (1 : ℚ) ≤ gapPeriods f 1 := by exact_mod_cast hperiods
    refine ⟨1, one_pos, hperiods, ?_⟩
    rw [Int.fract_eq_self.mpr]
    · positivity
    · refine ⟨by positivity, ?_⟩
      rw [div_lt_one hf]
      push_cast at hle
      linarith

/-- Each edge of a train loses the same part of an event. -/
theorem train_error {gap : ℕ} (hf : 0 < c.mNominal) (hlast : c.auxstmpLast ≠ 0)
    (hgap : 1 ≤ gapPeriods c.mNominal gap) (n : ℕ) :
    ((exec edge c (train gap c.auxstmpLast n)).mEventCount : ℚ) - c.mEventCount
        - 48000 / c.mNominal * nominalPeriods c.mNominal c.auxstmpLast
          (train gap c.auxstmpLast n) =
      -(n * Int.fract (gapPeriods c.mNominal gap * 48000 / c.mNominal : ℚ)) := by
  have hcount := congrArg (Int.cast : ℤ → ℚ) (mEventCount_train hf hlast hgap n)
  have hcut : (gapPeriods c.mNominal gap * 48000 / c.mNominal : ℚ) - gapEvents c.mNominal gap =
      Int.fract (gapPeriods c.mNominal gap * 48000 / c.mNominal : ℚ) := rfl
  rw [nominalPeriods_train hgap, ← hcut]
  push_cast at hcount ⊢
  rw [hcount]
  ring

theorem exists_updates (hf : 0 < c.mNominal) : ∃ now, c.Updates now := by
  obtain ⟨now, hnow⟩ := exists_nat_gt (500000000 / c.mNominal + c.auxstmpLast)
  refine ⟨now, updates_iff.mpr ?_⟩
  have hfar : 500000000 / c.mNominal ≤ (now : ℚ) - c.auxstmpLast := by linarith
  rwa [div_le_iff₀' hf] at hfar

theorem not_countsWithin (hf : 0 < c.mNominal) (hk : ¬ ∃ k : ℕ, k * c.mNominal = 48000)
    (error : ℚ) : ¬ c.CountsWithin error := by
  intro h
  obtain ⟨gap, hgap, hperiods, hfract⟩ := exists_gap hf hk
  obtain ⟨now, hup⟩ := exists_updates hf
  have hlast : (c.edge now).auxstmpLast = now := edge_auxstmpLast hup
  have hnow : now ≠ 0 := by
    have := last_lt_of_updates hf.le hup
    omega
  -- enough edges, and the parts that were lost come to more than the error
  obtain ⟨n, hn⟩ := exists_nat_gt (error / Int.fract (gapPeriods c.mNominal gap * 48000 /
    c.mNominal : ℚ))
  rw [div_lt_iff₀ hfract] at hn
  have hrun := h [] now (train gap now n) hup (train_increasing hgap now n)
  have hperiods' : 1 ≤ gapPeriods (c.edge now).mNominal gap := by rwa [edge_mNominal]
  have herror := train_error (c := c.edge now) (by rwa [edge_mNominal]) (by rwa [hlast]) hperiods' n
  rw [hlast, edge_mNominal] at herror
  rw [List.nil_append, List.nil_append, exec_cons, exec_cons, exec_nil, herror, abs_neg,
    abs_of_nonneg (by positivity)] at hrun
  linarith

theorem init_mNominal_nonneg (domain : AvbClockDomain) (cClockHwCapFrequency : Option ℕ) :
    0 ≤ (init domain cClockHwCapFrequency).mNominal := by
  cases cClockHwCapFrequency with
  | none => norm_num [init]
  | some val =>
      simp only [init]
      positivity

/-- **The capture clock.** Updates resume within a bounded number of edges, and the count does
not drift, exactly if something bounds how far behind the reference edges are captured, and a
nominal period is a whole number of events. -/
theorem captureClock_iff (domain : AvbClockDomain) (cClockHwCapFrequency behind : Option ℕ) :
    ((∃ n, (init domain cClockHwCapFrequency).ResumesWithin behind n)
        ∧ ∃ error, (init domain cClockHwCapFrequency).CountsWithin error) ↔
      (∃ b, behind = some b)
        ∧ ∃ k : ℕ, k * (init domain cClockHwCapFrequency).mNominal = 48000 := by
  have hlast : (init domain cClockHwCapFrequency).auxstmpLast = 0 := rfl
  have hnonneg := init_mNominal_nonneg domain cClockHwCapFrequency
  generalize init domain cClockHwCapFrequency = c at hlast hnonneg ⊢
  constructor
  · rintro ⟨⟨n, hresumes⟩, error, hcounts⟩
    refine ⟨?_, ?_⟩
    · cases behind with
      | none => exact absurd hresumes (not_resumesWithin hnonneg n)
      | some b => exact ⟨b, rfl⟩
    · rcases hnonneg.eq_or_lt with hzero | hf
      · exact absurd hresumes (not_resumesWithin_of_zero hzero.symm hlast behind n)
      · by_contra hk
        exact not_countsWithin hf hk error hcounts
  · rintro ⟨⟨b, rfl⟩, k, hk⟩
    have hf : 0 < c.mNominal := by
      refine hnonneg.lt_of_ne fun hzero => ?_
      rw [← hzero, mul_zero] at hk
      norm_num at hk
    exact ⟨⟨_, resumesWithin_of_notBehind hf b⟩, 0, countsWithin_of_whole hk hf⟩

/-- At the default frequency a step backwards costs any number of edges, and at 44.1 kHz any
number of events gets lost. -/
theorem capture_clock_gets_lost :
    (¬ ∃ n, (init {} none).ResumesWithin none n) ∧
      ¬ ∃ error, (init {} (some 44100000)).CountsWithin error := by
  refine ⟨fun ⟨n, h⟩ => not_resumesWithin (init_mNominal_nonneg {} none) n h, ?_⟩
  rintro ⟨error, h⟩
  have hf : (init {} (some 44100000)).mNominal = 44100 := by norm_num [init]
  refine not_countsWithin (by rw [hf]; norm_num) ?_ error h
  rintro ⟨k, hk⟩
  rw [hf] at hk
  have hk : k * 44100 = 48000 := by exact_mod_cast hk
  omega

end HwCaptureClock

end AvbStreamHandler
