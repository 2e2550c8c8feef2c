import AvbStreamHandler.AvbTypes
import AvbStreamHandler.Kit.Run
import AvbStreamHandler.Kit.RunningSum
import Mathlib.Data.BitVec

/-!
# The average of the fill level

One transmit stream may be chosen to bend the clock: it averages over the last 64 fill levels
its local stream tells it, and passes a compensation on to the clock domain. The average is
kept as a sum beside the array of the values. An activation and a new local stream start it
over, and clear the sum, the place in the array, and the array. What `new` left in the array
is there until then.

Fill levels and their sum are 32-bit registers. The compensation is the third power of the
average, calculated in floating point and cut to an integer; what this comes to is part of the
call. Whatever it is, it is limited by a number from the registry.
-/

namespace AvbStreamHandler

open Kit Kit.Run Kit.RunningSum IasAvbProcessingResult

/-! ## The clock domain -/

/-- `setDriftCompensation`, in parts per million, with the factor it comes to. -/
def setDriftCompensation (mCompensation : Rat) (val : Int) : Rat × IasAvbProcessingResult :=
  if val ≥ 0 ∧ val ≤ 1000000 then (1 / (1 + val / 1000000), eIasAvbProcOK)
  else if val < 0 ∧ val ≥ -1000000 then (1 + -val / 1000000, eIasAvbProcOK)
  else (mCompensation, eIasAvbProcInvalidParam)

/-- The compensation is accepted. -/
def Accepted (val : BitVec 32) : Prop :=
  ∀ mCompensation, (setDriftCompensation mCompensation val.toInt).2 = eIasAvbProcOK

theorem accepted_iff {val : BitVec 32} :
    Accepted val ↔ -1000000 ≤ val.toInt ∧ val.toInt ≤ 1000000 := by
  unfold Accepted setDriftCompensation
  constructor
  · intro h
    have hzero := h 0
    by_contra hout
    rw [if_neg (by omega), if_neg (by omega)] at hzero
    exact nomatch hzero
  · intro hin c
    by_cases hpos : val.toInt ≥ 0
    · rw [if_pos ⟨hpos, hin.2⟩]
    · rw [if_neg fun h => hpos h.1, if_pos ⟨by omega, hin.1⟩]

/-! ## The stream -/

def cFillLevelFifoSize : Nat := 64

/-- What the registry says about the bending of the clock. -/
structure BendRegistry where
  cBendCtrlStream : Option Nat := none
  cAudioBendRate : Option Nat := none
  cAudioMaxBend : Option Nat := none

/-- `IasAvbAudioStream`, as far as it averages. -/
structure FillLevelAverage where
  mActive : Bool := false
  mLocalStream : Option Nat := none
  /-- In thousandths. -/
  mRatioBendRate : Nat := 0
  mRatioBendLimit : BitVec 32 := 0
  mAccumulatedFillLevel : BitVec 32 := 0
  mFillLevelIndex : Nat := 0
  mFillLevelFifo : Option (List (BitVec 32)) := none

namespace FillLevelAverage

/-- `initTransmit`, when all allocations succeed. Only the stream the registry names has an
array. -/
def initTransmit (streamId : Nat) (registry : BendRegistry) (heap : Nat → BitVec 32) :
    FillLevelAverage :=
  if registry.cBendCtrlStream = some streamId then
    { mRatioBendRate := registry.cAudioBendRate.getD 200
      mRatioBendLimit := BitVec.ofNat 32 (registry.cAudioMaxBend.getD 20)
      mFillLevelFifo := some ((List.range cFillLevelFifoSize).map heap) }
  else {}

/-- Sum, place and array start over. -/
def clear (s : FillLevelAverage) : FillLevelAverage :=
  { s with
    mAccumulatedFillLevel := 0
    mFillLevelIndex := 0
    mFillLevelFifo := s.mFillLevelFifo.map fun _ => List.replicate cFillLevelFifoSize 0 }

def activationChanged (s : FillLevelAverage) (active : Bool) : FillLevelAverage :=
  if active then { s with mActive := true }.clear else { s with mActive := false }

/-- `connectTo`: the old local stream is left in any case, the new one may be refused. -/
def connectTo (s : FillLevelAverage) (localStream : Option Nat) (accepted : Bool) :
    FillLevelAverage :=
  if localStream = s.mLocalStream then s
  else
    match localStream with
    | none => { s with mLocalStream := none }
    | some l =>
        if accepted then { s with mLocalStream := some l }.clear
        else { s with mLocalStream := none }

/-- The oldest value is replaced. -/
def record (s : FillLevelAverage) (fifo : List (BitVec 32)) (relFillLevel : BitVec 32) :
    FillLevelAverage :=
  { s with
    mAccumulatedFillLevel :=
      s.mAccumulatedFillLevel - fifo.getD s.mFillLevelIndex 0 + relFillLevel
    mFillLevelIndex :=
      if s.mFillLevelIndex + 1 = cFillLevelFifoSize then 0 else s.mFillLevelIndex + 1
    mFillLevelFifo := some (fifo.set s.mFillLevelIndex relFillLevel) }

/-- The limits for the compensation. -/
def limitBend (limit bend : BitVec 32) : BitVec 32 :=
  if limit.slt bend then limit else if bend.slt (-limit) then -limit else bend

/-- `updateRelativeFillLevel`, with the compensation it passes on. -/
def updateRelativeFillLevel (s : FillLevelAverage) (clock : Bool) (cubed : BitVec 32 → BitVec 32)
    (relFillLevel : BitVec 32) : FillLevelAverage × Option (BitVec 32) :=
  match s.mFillLevelFifo with
  | none => (s, none)
  | some fifo =>
      if s.mRatioBendRate ≠ 0 ∧ clock = true then
        let s := s.record fifo relFillLevel
        (s, some (limitBend s.mRatioBendLimit (cubed s.mAccumulatedFillLevel)))
      else (s, none)

inductive AverageEvent
  | activationChanged (active : Bool)
  | connectTo (localStream : Option Nat) (accepted : Bool)
  | updateRelativeFillLevel (clock : Bool) (cubed : BitVec 32 → BitVec 32)
      (relFillLevel : BitVec 32)

def step (s : FillLevelAverage) : AverageEvent → FillLevelAverage
  | .activationChanged active => s.activationChanged active
  | .connectTo localStream accepted => s.connectTo localStream accepted
  | .updateRelativeFillLevel clock cubed rel => (s.updateRelativeFillLevel clock cubed rel).1

variable {s : FillLevelAverage}

/-! ## Sum and array -/

/-- What stands in the array. -/
def entries (s : FillLevelAverage) : List (BitVec 32) := s.mFillLevelFifo.getD []

/-- The array, the place, and the sum. -/
def window (s : FillLevelAverage) : Window (BitVec 32) :=
  ⟨s.entries, s.mFillLevelIndex, s.mAccumulatedFillLevel⟩

/-- The array has its size, and the place is one of it. -/
structure Placed (s : FillLevelAverage) : Prop where
  index : s.mFillLevelIndex < cFillLevelFifoSize
  length : ∀ fifo ∈ s.mFillLevelFifo, fifo.length = cFillLevelFifoSize

/-- A sum of registers is the sum, as a register has it. -/
theorem toInt_sum (l : List (BitVec 32)) :
    l.sum.toInt = (l.map BitVec.toInt).sum.bmod 4294967296 := by
  induction l with
  | nil => rfl
  | cons x l ih =>
      rw [List.sum_cons, List.map_cons, List.sum_cons, BitVec.toInt_add, ih]
      exact Int.add_bmod_bmod

theorem placed_initTransmit (streamId : Nat) (registry : BendRegistry) (heap : Nat → BitVec 32) :
    Placed (initTransmit streamId registry heap) := by
  unfold initTransmit
  split
  · refine ⟨Nat.zero_lt_succ 63, fun fifo hfifo => ?_⟩
    obtain rfl := Option.some.inj hfifo
    simp
  · exact ⟨by decide, fun fifo hfifo => nomatch hfifo⟩

theorem placed_clear (s : FillLevelAverage) : Placed s.clear := by
  refine ⟨Nat.zero_lt_succ 63, fun fifo hfifo => ?_⟩
  obtain ⟨_, -, rfl⟩ := Option.map_eq_some_iff.mp hfifo
  exact List.length_replicate

/-- A recorded value is one pushed into the window. -/
theorem window_record (h : Placed s) {fifo : List (BitVec 32)} (hfifo : s.mFillLevelFifo = some fifo)
    (rel : BitVec 32) : (s.record fifo rel).window = s.window.push rel := by
  have hlength := h.length fifo hfifo
  have hentries : s.entries = fifo := by
    unfold entries
    rw [hfifo, Option.getD_some]
  unfold window Window.push
  rw [hentries, hlength]
  rfl

/-- An update does nothing, or takes the value in. -/
theorem update_cases (clock : Bool) (cubed : BitVec 32 → BitVec 32)
    (rel : BitVec 32) :
    (s.updateRelativeFillLevel clock cubed rel).1 = s
      ∨ ∃ fifo, s.mFillLevelFifo = some fifo
        ∧ (s.updateRelativeFillLevel clock cubed rel).1 = s.record fifo rel := by
  unfold updateRelativeFillLevel
  split
  · exact Or.inl rfl
  · split
    · exact Or.inr ⟨_, ‹_›, rfl⟩
    · exact Or.inl rfl

theorem Placed.record (h : Placed s) {fifo : List (BitVec 32)} (hfifo : s.mFillLevelFifo = some fifo)
    (rel : BitVec 32) : Placed (s.record fifo rel) := by
  have hindex := h.index
  refine ⟨?_, fun fifo' hfifo' => ?_⟩
  · unfold FillLevelAverage.record
    dsimp only
    split <;> omega
  · obtain rfl := Option.some.inj hfifo'
    rw [List.length_set]
    exact h.length fifo hfifo

theorem placed_step (h : Placed s) (ev : AverageEvent) : Placed (s.step ev) := by
  cases ev with
  | activationChanged active =>
      cases active with
      | true => exact placed_clear _
      | false => exact ⟨h.index, h.length⟩
  | connectTo localStream accepted =>
      show Placed (s.connectTo localStream accepted)
      unfold connectTo
      split
      · exact h
      · split
        · exact ⟨h.index, h.length⟩
        · split
          · exact placed_clear _
          · exact ⟨h.index, h.length⟩
  | updateRelativeFillLevel clock cubed rel =>
      show Placed (s.updateRelativeFillLevel clock cubed rel).1
      rcases s.update_cases clock cubed rel with hsame | ⟨fifo, hfifo, hrecord⟩
      · rw [hsame]
        exact h
      · rw [hrecord]
        exact h.record hfifo rel

/-- The sum is that of the array. -/
def Summed (s : FillLevelAverage) : Prop := s.mAccumulatedFillLevel = s.entries.sum

theorem summed_clear (s : FillLevelAverage) : Summed s.clear := by
  unfold Summed entries clear
  cases s.mFillLevelFifo <;> simp

theorem Summed.record (h : Summed s) (hp : Placed s) {fifo : List (BitVec 32)}
    (hfifo : s.mFillLevelFifo = some fifo) (rel : BitVec 32) : Summed (s.record fifo rel) := by
  have hentries : s.entries = fifo := by
    unfold entries
    rw [hfifo, Option.getD_some]
  have hbalanced : s.window.Balanced := by
    refine ⟨h, ?_⟩
    show s.mFillLevelIndex < s.entries.length
    rw [hentries, hp.length fifo hfifo]
    exact hp.index
  have hpush := (hbalanced.push rel).total
  rwa [← window_record hp hfifo] at hpush

theorem summed_step (h : Summed s) (hp : Placed s) (ev : AverageEvent) : Summed (s.step ev) := by
  cases ev with
  | activationChanged active =>
      cases active with
      | true => exact summed_clear _
      | false => exact h
  | connectTo localStream accepted =>
      show Summed (s.connectTo localStream accepted)
      unfold connectTo
      split
      · exact h
      · split
        · exact h
        · split
          · exact summed_clear _
          · exact h
  | updateRelativeFillLevel clock cubed rel =>
      show Summed (s.updateRelativeFillLevel clock cubed rel).1
      rcases s.update_cases clock cubed rel with hsame | ⟨fifo, hfifo, hrecord⟩
      · rw [hsame]
        exact h
      · rw [hrecord]
        exact h.record hp hfifo rel

/-- An activation, or a new local stream that is accepted. -/
def Clears (s : FillLevelAverage) : AverageEvent → Prop
  | .activationChanged active => active = true
  | .connectTo localStream accepted =>
      localStream ≠ none ∧ localStream ≠ s.mLocalStream ∧ accepted = true
  | .updateRelativeFillLevel .. => False

theorem summed_of_clears {ev : AverageEvent} (hc : Clears s ev) : Summed (s.step ev) := by
  cases ev with
  | activationChanged active =>
      obtain rfl : active = true := hc
      exact summed_clear _
  | connectTo localStream accepted =>
      obtain ⟨hsome, hnew, rfl⟩ := hc
      obtain ⟨l, rfl⟩ := Option.ne_none_iff_exists'.mp hsome
      show Summed (s.connectTo (some l) true)
      unfold connectTo
      rw [if_neg hnew]
      exact summed_clear _
  | updateRelativeFillLevel clock cubed rel => exact absurd hc id

/-! ## The compensation -/

theorem toInt_neg_of_ne {x : BitVec 32} (h : x.toInt ≠ -2147483648) : (-x).toInt = -x.toInt := by
  have hlt := BitVec.toInt_lt (x := x)
  have hle := BitVec.le_toInt (x := x)
  rw [BitVec.toInt_neg]
  refine Int.bmod_eq_of_le ?_ ?_ <;> omega

/-- A small limit keeps the compensation in the range that is accepted. -/
theorem limitBend_accepted {limit : BitVec 32} (hlow : -1000000 ≤ limit.toInt)
    (hhigh : limit.toInt ≤ 1000000) (bend : BitVec 32) : Accepted (limitBend limit bend) := by
  have hneg : (-limit).toInt = -limit.toInt := toInt_neg_of_ne (by omega)
  rw [accepted_iff]
  unfold limitBend BitVec.slt
  by_cases hover : limit.toInt < bend.toInt
  · rw [if_pos (decide_eq_true hover)]
    exact ⟨hlow, hhigh⟩
  · rw [if_neg (by simpa using hover)]
    by_cases hunder : bend.toInt < (-limit).toInt
    · rw [if_pos (decide_eq_true hunder), hneg]
      omega
    · rw [if_neg (by simpa using hunder)]
      omega

/-! ## Runs -/

/-- The average has been started over at some point of the run. -/
def ClearedIn (s : FillLevelAverage) (es : List AverageEvent) : Prop :=
  ∃ pre ev post, es = pre ++ ev :: post ∧ Clears (exec step s pre) ev

/-- **What holds of the average.** -/
structure Averages (cleared : Prop) (s : FillLevelAverage) : Prop where
  index : s.mFillLevelIndex < cFillLevelFifoSize
  /-- As registers. -/
  sum : cleared → s.mAccumulatedFillLevel = s.entries.sum
  /-- As numbers, if a register can hold their sum. -/
  total : cleared → -2147483648 ≤ (s.entries.map BitVec.toInt).sum →
    (s.entries.map BitVec.toInt).sum < 2147483648 →
      s.mAccumulatedFillLevel.toInt = (s.entries.map BitVec.toInt).sum
  /-- Whatever the next value, and whatever its third power comes to. -/
  accepted : -1000000 ≤ s.mRatioBendLimit.toInt → s.mRatioBendLimit.toInt ≤ 1000000 →
    ∀ clock cubed rel, ∀ bend ∈ (s.updateRelativeFillLevel clock cubed rel).2, Accepted bend

/-- **The average of the fill level**, after any run of activations, connections and values. -/
theorem fill_level_average (streamId : Nat) (registry : BendRegistry) (heap : Nat → BitVec 32)
    (es : List AverageEvent) :
    Averages (ClearedIn (initTransmit streamId registry heap) es)
      (exec step (initTransmit streamId registry heap) es) := by
  have hplaced : ∀ es, Placed (exec step (initTransmit streamId registry heap) es) := fun es =>
    @inv_exec_of_step _ _ _ Placed (fun _ ev h => placed_step h ev) _ (placed_initTransmit ..) es
  have hsum : ClearedIn (initTransmit streamId registry heap) es →
      Summed (exec step (initTransmit streamId registry heap) es) := by
    rintro ⟨pre, ev, post, rfl, hclears⟩
    rw [exec_append, exec_cons]
    have hstep : ∀ s ev, Placed s ∧ Summed s → Placed (step s ev) ∧ Summed (step s ev) :=
      fun s ev h => ⟨placed_step h.1 ev, summed_step h.2 h.1 ev⟩
    exact (inv_exec_of_step hstep ⟨placed_step (hplaced pre) ev, summed_of_clears hclears⟩ post).2
  have hindex := (hplaced es).index
  generalize exec step (initTransmit streamId registry heap) es = s at *
  refine ⟨hindex, hsum, fun hcleared hlow hhigh => ?_, fun hlow hhigh => ?_⟩
  · rw [hsum hcleared, toInt_sum]
    exact Int.bmod_eq_of_le (by omega) (by omega)
  · intro clock cubed rel bend hbend
    unfold updateRelativeFillLevel at hbend
    split at hbend
    · exact nomatch hbend
    · split at hbend
      · obtain rfl := Option.some.inj hbend
        exact limitBend_accepted hlow hhigh _
      · exact nomatch hbend

/-! ## The last values -/

theorem window_clear {fifo : List (BitVec 32)} (hfifo : s.mFillLevelFifo = some fifo) :
    s.clear.window = Window.cleared cFillLevelFifoSize := by
  unfold clear window entries
  rw [hfifo]
  rfl

/-- With a rate and a clock, every value is pushed into the window. -/
theorem window_exec_update (cubed : BitVec 32 → BitVec 32) (hrate : s.mRatioBendRate ≠ 0)
    (h : Placed s) {fifo : List (BitVec 32)} (hfifo : s.mFillLevelFifo = some fifo)
    (rels : List (BitVec 32)) :
    (exec step s (rels.map (.updateRelativeFillLevel true cubed))).window
      = rels.foldl Window.push s.window := by
  induction rels generalizing s fifo with
  | nil => rfl
  | cons rel rels ih =>
      have hrecord : s.step (.updateRelativeFillLevel true cubed rel) = s.record fifo rel := by
        show (s.updateRelativeFillLevel true cubed rel).1 = _
        unfold updateRelativeFillLevel
        rw [hfifo]
        dsimp only
        rw [if_pos ⟨hrate, rfl⟩]
      rw [List.map_cons, exec_cons, hrecord, List.foldl_cons, ← window_record h hfifo]
      exact ih hrate (h.record hfifo rel) rfl

/-- **Started over, the sum is that of the last values**, and there are zeros as long as there
are too few. -/
theorem sum_of_last (cubed : BitVec 32 → BitVec 32) (hrate : s.mRatioBendRate ≠ 0)
    {fifo : List (BitVec 32)} (hfifo : s.mFillLevelFifo = some fifo) (rels : List (BitVec 32)) :
    (exec step s.clear (rels.map (.updateRelativeFillLevel true cubed))).mAccumulatedFillLevel
      = ((List.replicate cFillLevelFifoSize 0 ++ rels).drop rels.length).sum := by
  have hfifo' : s.clear.mFillLevelFifo = some (List.replicate cFillLevelFifoSize 0) := by
    unfold clear
    rw [hfifo]
    rfl
  have hwindow := window_exec_update cubed (s := s.clear) hrate (placed_clear s) hfifo' rels
  rw [window_clear hfifo] at hwindow
  have hbalanced : (Window.cleared cFillLevelFifoSize : Window (BitVec 32)).Balanced :=
    Window.balanced_cleared (Nat.zero_lt_succ 63)
  have hall := Window.balanced_foldl_push hbalanced rels
  have hlast := Window.ordered_foldl_push hbalanced.index rels
  rw [Window.ordered_cleared] at hlast
  rw [← hlast, Window.sum_ordered, ← hall.total, ← hwindow]
  rfl

/-! ## Where it is no average -/

/-- The third power of the average, cut to an integer, without the rounding on the way. -/
def thirdPower (mRatioBendRate : Nat) (mAccumulatedFillLevel : BitVec 32) : BitVec 32 :=
  BitVec.ofInt 32 (((mRatioBendRate * mAccumulatedFillLevel.toInt) ^ 3).tdiv (64000 ^ 3))

/-- The stream has just been set up, and `new` has left ones in its array. A limit of two
million is taken from the registry as it is, and one large value reaches it. Two values of
which each is a register make a sum that is not one. -/
theorem average_astray :
    ((initTransmit 7 { cBendCtrlStream := some 7 } fun _ => 1).entries.map BitVec.toInt).sum
        ≠ (initTransmit 7 { cBendCtrlStream := some 7 } fun _ => 1).mAccumulatedFillLevel.toInt
      ∧ (∃ bend ∈ ((exec step
          (initTransmit 7 ⟨some 7, some 999, some 2000000⟩ fun _ => 0)
          [.activationChanged true]).updateRelativeFillLevel true (thirdPower 999) 12800).2,
        ¬ Accepted bend)
      ∧ ((exec step (initTransmit 7 { cBendCtrlStream := some 7 } fun _ => 0)
          [.activationChanged true, .updateRelativeFillLevel true (thirdPower 200) 2147483647,
            .updateRelativeFillLevel true (thirdPower 200) 2147483647]).entries.map
              BitVec.toInt).sum
        ≠ (exec step (initTransmit 7 { cBendCtrlStream := some 7 } fun _ => 0)
          [.activationChanged true, .updateRelativeFillLevel true (thirdPower 200) 2147483647,
            .updateRelativeFillLevel true (thirdPower 200)
              2147483647]).mAccumulatedFillLevel.toInt := by
  refine ⟨by decide, ⟨2000000, by decide +kernel, ?_⟩, by decide⟩
  rw [accepted_iff]
  decide

end FillLevelAverage

end AvbStreamHandler
