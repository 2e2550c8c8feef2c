import AvbStreamHandler.Audio.ReferencePlane
import AvbStreamHandler.Kit.Run
import Mathlib.Data.List.Chain

/-!
# Runs of the reference plane

As long as the readings are on one line, it does not matter which of them a time is computed
from: the plane is always the line, moved by what was skipped at the last reset. So packets
follow each other at the pace of the line, and the count of the master always grows where a
difference of counts is divided by.

A reset puts the plane down anew. It looks at the next window, and at the last packet only if
there were too many dummy samples, and it counts nominal samples, while the line has its own. So
what is proved of it is when it does not go back.
-/

namespace AvbStreamHandler

open Kit Kit.Run

/-! ## Samples -/

/-- **The samples until a time** are the fewest that reach it. -/
theorem samplesUntil_le_iff {interval start time : ℚ} (hpos : 0 < interval) (n : Nat) :
    samplesUntil interval start time ≤ n ↔ time ≤ start + n * interval := by
  unfold samplesUntil
  split
  · rw [Nat.ceil_le, div_le_iff₀ hpos]
    constructor <;> intro h <;> linarith
  · rename_i hle
    have hreach : 0 ≤ (n : ℚ) * interval := mul_nonneg (Nat.cast_nonneg n) hpos.le
    exact iff_of_true (Nat.zero_le n) (by linarith)

namespace ReferencePlane

variable {c : ReferencePlaneConfig} {line : MasterLine} {s : ReferencePlane}
  {eventRate written : Nat} {r : DomainReading}

theorem mSampleFrequency_pos (c : ReferencePlaneConfig) : (0 : ℚ) < c.mSampleFrequency :=
  Nat.cast_pos.mpr c.mSampleFrequency.pos

theorem mSampleIntervalNs_pos (c : ReferencePlaneConfig) : 0 < c.mSampleIntervalNs :=
  div_pos (by norm_num) (mSampleFrequency_pos c)

theorem slope_pos (line : MasterLine) (c : ReferencePlaneConfig) : 0 < line.slope c :=
  mul_pos (mSampleIntervalNs_pos c) line.rateRatio_pos

/-! ## On the line -/

/-- **The plane is on the line**: the master's time is, and the plane is away from it by the
samples since. -/
structure OnLine (c : ReferencePlaneConfig) (line : MasterLine) (s : ReferencePlane) : Prop where
  master_pos : 0 < s.mMasterTime
  master : s.mMasterTime = line.base + line.slope c * s.mMasterCount
  time : s.mRefPlaneSampleTime = s.mMasterTime
    + line.slope c * (s.mRefPlaneSampleCount - (s.mMasterCount + s.mRefPlaneSampleOffset))
  time_pos : 0 < s.mRefPlaneSampleTime
  last : s.mLastMasterTime = 0 ∨ (s.mLastMasterCount < s.mMasterCount
    ∧ s.mLastMasterTime = line.base + line.slope c * s.mLastMasterCount)

theorem OnLine.not_unset (h : OnLine c line s) : ¬ s.IsUnset := fun hunset => h.time_pos.ne' hunset.2

/-- **The duration of a sample** comes out right, whatever it is computed from. -/
theorem OnLine.sampleDuration (h : OnLine c line s) :
    s.sampleDuration c line.rateRatio = some (line.slope c) := by
  unfold ReferencePlane.sampleDuration
  split
  · unfold MasterLine.slope ReferencePlaneConfig.mSampleIntervalNs
    rw [div_mul_eq_mul_div]
  · rename_i hlast
    obtain ⟨hlt, htime⟩ := h.last.resolve_left hlast
    have hdiff : s.mMasterCount - s.mLastMasterCount ≠ 0 := (sub_pos.mpr hlt).ne'
    rw [if_neg hdiff, htime, h.master]
    congr 1
    field_simp
    ring

/-- Another reading: the line is the same. -/
theorem OnLine.updateMaster (h : OnLine c line s) {count time : ℚ}
    (htime : time ≠ 0 → time = line.base + line.slope c * count) :
    ((s.updateMaster c count time).mMasterTime = 0 ∧ (s.updateMaster c count time).IsUnset)
      ∨ (OnLine c line (s.updateMaster c count time)
        ∧ (s.updateMaster c count time).mRefPlaneSampleTime = s.mRefPlaneSampleTime) := by
  unfold ReferencePlane.updateMaster
  split
  · exact Or.inr ⟨h, rfl⟩
  · split
    · exact Or.inl ⟨rfl, rfl, rfl⟩
    · rename_i hrange
      obtain ⟨hback, hrest⟩ := not_or.mp hrange
      have hcount : s.mMasterCount < count := not_not.mp (not_or.mp hrest).2
      have hpos : 0 < time := h.master_pos.trans_le (not_lt.mp hback)
      split
      · exact Or.inr ⟨h, rfl⟩
      · refine Or.inr ⟨⟨hpos, htime hpos.ne', ?_, h.time_pos, Or.inr ⟨hcount, h.master⟩⟩, rfl⟩
        show s.mRefPlaneSampleTime = time + _ * (_ - (count + _))
        rw [h.time, h.master, htime hpos.ne']
        ring

/-- The plane moves on by the duration of what was written. -/
theorem OnLine.movePlane (h : OnLine c line s) (written : Nat) :
    OnLine c line (s.movePlane written (line.slope c))
      ∧ (s.movePlane written (line.slope c)).mRefPlaneSampleTime
        = s.mRefPlaneSampleTime + line.slope c * written := by
  have htime : (s.movePlane written (line.slope c)).mRefPlaneSampleTime
      = s.mRefPlaneSampleTime + line.slope c * written := by
    show s.mMasterTime + line.slope c * (s.mRefPlaneSampleCount + written - _) = _
    rw [h.time]
    ring
  have hduration : 0 ≤ line.slope c * written :=
    mul_nonneg (slope_pos line c).le (Nat.cast_nonneg written)
  refine ⟨⟨h.master_pos, h.master, rfl, ?_, h.last⟩, htime⟩
  rw [htime]
  linarith [h.time_pos]

/-- **The end of a call**: nothing is divided by zero, and the plane is gone, or it is further by
the duration of what was written. -/
theorem OnLine.advance (h : OnLine c line s) (hr : line.Has c eventRate r)
    (hrate : eventRate ≠ 0) (written : Nat) :
    ∃ s', s.advance c eventRate r written = some s' ∧ (s'.IsUnset ∨ (OnLine c line s'
      ∧ s'.mRefPlaneSampleTime = s.mRefPlaneSampleTime + line.slope c * written)) := by
  unfold ReferencePlane.advance
  rw [if_neg hrate]
  dsimp only
  rcases h.updateMaster (hr.time hrate) with ⟨hzero, hunset⟩ | ⟨honline, hsame⟩
  · rw [if_pos hzero]
    exact ⟨_, rfl, Or.inl hunset⟩
  · rw [if_neg honline.master_pos.ne', hr.rateRatio, honline.sampleDuration]
    obtain ⟨hmoved, htime⟩ := honline.movePlane written
    refine ⟨_, rfl, Or.inr ⟨hmoved, ?_⟩⟩
    rw [htime, hsame]

/-! ## A reset -/

theorem resetTime_failed (hread : masterTime eventRate r = 0) (nextWindowStart : ℚ) :
    s.resetTime c eventRate r nextWindowStart
      = (((s.setMaster c eventRate r).resetFailed nextWindowStart).forgetLast, false) :=
  if_pos hread

theorem resetTime_placed (hread : masterTime eventRate r ≠ 0) (nextWindowStart : ℚ) :
    s.resetTime c eventRate r nextWindowStart
      = (((s.setMaster c eventRate r).placePlane c r.rateRatio nextWindowStart).forgetLast, true) :=
  if_neg hread

/-- **A reset puts the plane on the line**, behind the reading by what is skipped. -/
theorem onLine_placePlane (hread : masterTime eventRate r ≠ 0) (hr : line.Has c eventRate r)
    (nextWindowStart : ℚ) :
    OnLine c line
        ((s.setMaster c eventRate r).placePlane c r.rateRatio nextWindowStart).forgetLast
      ∧ ((s.setMaster c eventRate r).placePlane c r.rateRatio
          nextWindowStart).forgetLast.mRefPlaneSampleTime
        = masterTime eventRate r
          + s.samplesToSkip c (masterTime eventRate r) nextWindowStart * line.slope c := by
  have hrate : eventRate ≠ 0 := by
    intro hzero
    unfold masterTime at hread
    exact hread (if_pos hzero)
  have htime : masterTime eventRate r = r.eventTime := if_neg hrate
  have hcount : (s.setMaster c eventRate r).mMasterCount = c.masterCount eventRate r :=
    if_neg hrate
  have hpos : 0 < masterTime eventRate r :=
    lt_of_le_of_ne (htime ▸ hr.time_nonneg) hread.symm
  have hskip : 0 ≤ (s.samplesToSkip c (masterTime eventRate r) nextWindowStart : ℚ)
      * line.slope c := mul_nonneg (Nat.cast_nonneg _) (slope_pos line c).le
  have hplace : ((s.setMaster c eventRate r).placePlane c r.rateRatio
      nextWindowStart).forgetLast.mRefPlaneSampleTime = masterTime eventRate r
        + s.samplesToSkip c (masterTime eventRate r) nextWindowStart * line.slope c := by
    show masterTime eventRate r + _ * c.mSampleIntervalNs * r.rateRatio = _
    rw [hr.rateRatio, mul_assoc]
    rfl
  refine ⟨⟨hpos, ?_, ?_, ?_, Or.inl rfl⟩, hplace⟩
  · show masterTime eventRate r = _ + _ * (s.setMaster c eventRate r).mMasterCount
    rw [hcount, htime]
    exact hr.time hrate (htime ▸ hread)
  · rw [hplace]
    -- what was counted before and the master's count cancel out
    show _ = masterTime eventRate r + line.slope c
      * (s.mRefPlaneSampleCount + (s.samplesToSkip c (masterTime eventRate r) nextWindowStart : ℚ)
        - ((s.setMaster c eventRate r).mMasterCount
          + (s.mRefPlaneSampleCount - (s.setMaster c eventRate r).mMasterCount)))
    ring
  · rw [hplace]
    linarith

/-! ## A packet -/

/-- The payload does not move the plane. -/
theorem OnLine.payload (h : OnLine c line s) (l : Option LocalAnswers) :
    OnLine c line (s.payload c l).1
      ∧ (s.payload c l).1.mRefPlaneSampleTime = s.mRefPlaneSampleTime := by
  unfold ReferencePlane.payload
  cases l with
  | none => exact ⟨h, rfl⟩
  | some l =>
      have hcompensate : OnLine c line (s.compensate l).1
          ∧ (s.compensate l).1.mRefPlaneSampleTime = s.mRefPlaneSampleTime := by
        unfold compensate
        split
        · dsimp only
          split
          · exact ⟨{ h with }, rfl⟩
          · exact ⟨{ h with }, rfl⟩
        · exact ⟨h, rfl⟩
      dsimp only
      unfold noteSilence
      split
      · exact ⟨{ hcompensate.1 with }, hcompensate.2⟩
      · exact hcompensate

/-- **A packet** has the time of the plane, and the plane moves on from there. -/
theorem OnLine.writePacket (h : OnLine c line s) {call : WriteCall}
    (hr : line.Has c eventRate call.now) (hrate : eventRate ≠ 0) :
    ∃ s' attime written, s.writePacket c eventRate call
        = (s', .packet attime s.mRefPlaneSampleTime written)
      ∧ (s'.IsUnset ∨ (OnLine c line s'
        ∧ s'.mRefPlaneSampleTime = s.mRefPlaneSampleTime + line.slope c * written)) := by
  obtain ⟨hpayload, hsame⟩ := h.payload call.localStream
  obtain ⟨s', hadvance, hplane⟩ := hpayload.advance hr hrate (s.payload c call.localStream).2.2
  unfold ReferencePlane.writePacket
  dsimp only
  rw [hadvance]
  rw [hsame] at hplane
  exact ⟨s', _, _, rfl, hplane⟩

end ReferencePlane

open ReferencePlane

namespace PlaneRun

variable {c : ReferencePlaneConfig} {line : MasterLine} {w : PlaneRun} {call : WriteCall}
  {duration : ℚ}

/-! ## The invariant -/

/-- **The invariant**: the plane is nowhere, or it is on the line and behind the last packet by
its samples. -/
structure Inv (c : ReferencePlaneConfig) (line : MasterLine) (w : PlaneRun) : Prop where
  goesOn : w.GoesOn (line.slope c)
  plane : w.plane.IsUnset ∨ (OnLine c line w.plane ∧ w.eventRate ≠ 0
    ∧ ∃ p ∈ w.packets.getLast?,
      w.plane.mRefPlaneSampleTime = p.time + line.slope c * p.written)

theorem inv_start : Inv c line {} where
  goesOn := ⟨List.IsChain.nil, rfl⟩
  plane := Or.inl ⟨rfl, rfl⟩

/-- Once there is an event rate, there is one. -/
theorem eventRate_ne_zero (r : DomainReading) {before : Nat} (h : before ≠ 0) :
    r.eventRate before ≠ 0 := by
  unfold DomainReading.eventRate
  split
  · rename_i rate _
    exact rate.pos.ne'
  · exact h

theorem isChain_concat {packets : List PlanePacket} {q : PlanePacket}
    (h : packets.IsChain (PlanePacket.Follows duration)) :
    (packets ++ [q]).IsChain (PlanePacket.Follows duration) ↔
      ∀ p ∈ packets.getLast?, p.Follows duration q := by
  rw [List.isChain_append]
  constructor
  · rintro ⟨-, -, hall⟩ p hp
    exact hall p hp q rfl
  · intro hall
    refine ⟨h, List.isChain_singleton q, fun p hp q' hq' => ?_⟩
    rw [← Option.some.inj hq']
    exact hall p hp

/-- A reset that finds a reference clock. -/
structure PutsDown (w : PlaneRun) (call : WriteCall) : Prop where
  active : w.plane.mActive = true
  unset : w.plane.IsUnset
  reference : masterTime (w.rateAtReset call) call.atReset ≠ 0

/-- The time a reset gives the plane. -/
def resetPlane (c : ReferencePlaneConfig) (w : PlaneRun) (call : WriteCall) : ReferencePlane :=
  ((w.plane.setMaster c (w.rateAtReset call) call.atReset).placePlane c call.atReset.rateRatio
    call.nextWindowStart).forgetLast

/-- **A packet from a plane on the line.** -/
theorem plane_of_writePacket {s : ReferencePlane} (h : OnLine c line s)
    (hr : line.Has c (w.rateNow call) call.now) (hrate : w.rateNow call ≠ 0)
    (hwrite : w.plane.writeToAvbPacket c (w.rateAtReset call) (w.rateNow call) call
      = s.writePacket c (w.rateNow call) call) :
    ∃ written,
      (w.write c call).packets
          = w.packets ++ [⟨s.mRefPlaneSampleTime, written, decide w.plane.IsUnset⟩]
        ∧ (w.write c call).trapped = w.trapped
        ∧ ((w.write c call).plane.IsUnset ∨ (OnLine c line (w.write c call).plane
          ∧ (w.write c call).eventRate ≠ 0
          ∧ ∃ p ∈ (w.write c call).packets.getLast?,
            (w.write c call).plane.mRefPlaneSampleTime
              = p.time + line.slope c * p.written)) := by
  obtain ⟨s', attime, written, hpacket, hplane⟩ := h.writePacket hr hrate
  have hresult : w.write c call = { w with
      plane := s'
      eventRate := w.rateNow call
      packets := w.packets ++ [⟨s.mRefPlaneSampleTime, written, decide w.plane.IsUnset⟩] } := by
    unfold write
    rw [hwrite, hpacket]
    rfl
  refine ⟨written, ?_⟩
  rw [hresult]
  refine ⟨rfl, rfl, hplane.imp_right fun ⟨honline, htime⟩ => ⟨honline, hrate, ?_⟩⟩
  exact ⟨⟨s.mRefPlaneSampleTime, written, decide w.plane.IsUnset⟩, List.getLast?_concat, htime⟩

/-- **A call that does not put the plane down anew** keeps the invariant. -/
theorem inv_write_of_not (h : Inv c line w)
    (hreads : line.Reads c w (.writeToAvbPacket call)) (hnot : ¬ w.PutsDown call) :
    Inv c line (w.write c call) := by
  by_cases hactive : w.plane.mActive = true
  · by_cases hunset : w.plane.IsUnset
    · -- no reference clock
      have hread : masterTime (w.rateAtReset call) call.atReset = 0 := by
        by_contra hread
        exact hnot ⟨hactive, hunset, hread⟩
      have hresult : w.write c call = { w with
          plane := ((w.plane.setMaster c (w.rateAtReset call) call.atReset).resetFailed
            call.nextWindowStart).forgetLast
          eventRate := w.rateNow call } := by
        unfold write writeToAvbPacket
        rw [if_pos hactive, if_pos hunset, resetTime_failed hread]
        rfl
      rw [hresult]
      exact ⟨⟨h.goesOn.packets, h.goesOn.defined⟩, Or.inl ⟨rfl, rfl⟩⟩
    · obtain ⟨honline, hrate, p, hp, htime⟩ := h.plane.resolve_left hunset
      have hwrite : w.plane.writeToAvbPacket c (w.rateAtReset call) (w.rateNow call) call
          = w.plane.writePacket c (w.rateNow call) call := by
        unfold writeToAvbPacket
        rw [if_pos hactive, if_neg hunset]
      have hrateNow : w.rateNow call ≠ 0 := eventRate_ne_zero _ (eventRate_ne_zero _ hrate)
      obtain ⟨written, hpackets, htrapped, hplane⟩ :=
        plane_of_writePacket honline hreads.2 hrateNow hwrite
      refine ⟨⟨?_, htrapped.trans h.goesOn.defined⟩, hplane⟩
      rw [hpackets, isChain_concat h.goesOn.packets]
      intro p' hp'
      obtain rfl := Option.some.inj (hp.symm.trans hp')
      have hduration : 0 ≤ line.slope c * p.written :=
        mul_nonneg (slope_pos line c).le (Nat.cast_nonneg _)
      constructor
      · show p.time ≤ w.plane.mRefPlaneSampleTime
        linarith
      · intro _
        show w.plane.mRefPlaneSampleTime - p.time = _
        linarith
  · have hresult : w.write c call = { w with eventRate := w.rateNow call } := by
      unfold write writeToAvbPacket
      rw [if_neg hactive]
      rfl
    rw [hresult]
    refine ⟨⟨h.goesOn.packets, h.goesOn.defined⟩, ?_⟩
    refine h.plane.imp_right fun ⟨honline, hrate, hpacket⟩ => ⟨honline, ?_, hpacket⟩
    exact eventRate_ne_zero _ (eventRate_ne_zero _ hrate)

/-- **A call that does**: only the new packet is in question. -/
theorem inv_write_iff (h : Inv c line w) (hreads : line.Reads c w (.writeToAvbPacket call))
    (hputs : w.PutsDown call) :
    ((w.write c call).GoesOn (line.slope c) ↔ ∀ p ∈ w.packets.getLast?,
        samplesUntil (c.mSampleIntervalNs * call.atReset.rateRatio)
            (masterTime (w.rateAtReset call) call.atReset) p.time
          ≤ w.plane.samplesToSkip c (masterTime (w.rateAtReset call) call.atReset)
            call.nextWindowStart)
      ∧ ((w.write c call).GoesOn (line.slope c) → Inv c line (w.write c call)) := by
  obtain ⟨honline, htime⟩ :=
    onLine_placePlane (s := w.plane) hputs.reference hreads.1 call.nextWindowStart
  have hwrite : w.plane.writeToAvbPacket c (w.rateAtReset call) (w.rateNow call) call
      = (w.resetPlane c call).writePacket c (w.rateNow call) call := by
    unfold writeToAvbPacket
    rw [if_pos hputs.active, if_pos hputs.unset, resetTime_placed hputs.reference]
    rfl
  have hrate : w.rateNow call ≠ 0 := by
    refine eventRate_ne_zero _ fun hzero => hputs.reference ?_
    unfold masterTime
    exact if_pos hzero
  obtain ⟨written, hpackets, htrapped, hplane⟩ :=
    plane_of_writePacket honline hreads.2 hrate hwrite
  refine ⟨?_, fun hgoesOn => ⟨hgoesOn, hplane⟩⟩
  have hchain : (w.write c call).GoesOn (line.slope c) ↔
      (w.write c call).packets.IsChain (PlanePacket.Follows (line.slope c)) :=
    ⟨fun hgoesOn => hgoesOn.packets, fun hchain => ⟨hchain, htrapped.trans h.goesOn.defined⟩⟩
  have hslope : c.mSampleIntervalNs * call.atReset.rateRatio = line.slope c := by
    rw [hreads.1.rateRatio]
    rfl
  rw [hchain, hpackets, isChain_concat h.goesOn.packets, hslope]
  refine forall₂_congr fun p _ => ?_
  rw [samplesUntil_le_iff (slope_pos line c), ← htime]
  -- after a reset only the order counts
  refine and_iff_left fun hreset => absurd hputs.unset (of_decide_eq_false hreset)

/-! ## Whole runs -/

/-- **A reset is late enough**: until the last packet there are no more samples from the
master's time, at the pace of the line, than are skipped. -/
def LateEnough (c : ReferencePlaneConfig) (w : PlaneRun) : PlaneEvent → Prop
  | .writeToAvbPacket call => w.PutsDown call → ∀ p ∈ w.packets.getLast?,
      samplesUntil (c.mSampleIntervalNs * call.atReset.rateRatio)
          (masterTime (w.rateAtReset call) call.atReset) p.time
        ≤ w.plane.samplesToSkip c (masterTime (w.rateAtReset call) call.atReset)
          call.nextWindowStart
  | _ => True

/-- If the samples of the master are not shorter than nominal, it is enough that the last packet
is not behind the next window, or is the one whose time was kept. -/
theorem lateEnough_of_le (hratio : 1 ≤ call.atReset.rateRatio)
    (hle : ∀ p ∈ w.packets.getLast?,
      p.time ≤ call.nextWindowStart ∨ p.time ≤ w.plane.mLastRefPlaneSampleTime) :
    w.LateEnough c (.writeToAvbPacket call) := by
  intro _ p hp
  have hinterval := mSampleIntervalNs_pos c
  have hpace : c.mSampleIntervalNs ≤ c.mSampleIntervalNs * call.atReset.rateRatio :=
    le_mul_of_one_le_right hinterval.le hratio
  have hreach : ∀ time, samplesUntil c.mSampleIntervalNs
      (masterTime (w.rateAtReset call) call.atReset) time
        ≤ w.plane.samplesToSkip c (masterTime (w.rateAtReset call) call.atReset)
          call.nextWindowStart → p.time ≤ time →
      p.time ≤ masterTime (w.rateAtReset call) call.atReset
        + (w.plane.samplesToSkip c (masterTime (w.rateAtReset call) call.atReset)
          call.nextWindowStart) * (c.mSampleIntervalNs * call.atReset.rateRatio) := by
    intro time hskip htime
    have hnominal := (samplesUntil_le_iff hinterval _).mp hskip
    have hlonger := mul_le_mul_of_nonneg_left hpace
      (Nat.cast_nonneg (α := ℚ) (w.plane.samplesToSkip c
        (masterTime (w.rateAtReset call) call.atReset) call.nextWindowStart))
    linarith
  rw [samplesUntil_le_iff (lt_of_lt_of_le hinterval hpace)]
  rcases hle p hp with hwindow | hkept
  · exact hreach _ (le_max_left _ _) hwindow
  · exact hreach _ (le_max_right _ _) hkept

theorem step_of_inv (h : Inv c line w) (ev : PlaneEvent) :
    w.step c ev = match ev with
      | .activationChanged active => w.setPlane (w.plane.activationChanged active)
      | .connectTo => w.setPlane w.plane.connectTo
      | .writeToAvbPacket call => w.write c call := by
  unfold step
  refine (if_neg ?_).trans ?_
  · rw [h.goesOn.defined]
    exact Bool.false_ne_true
  · cases ev <;> rfl

theorem inv_setPlane (h : Inv c line w) {s : ReferencePlane} (hunset : s.IsUnset) :
    Inv c line (w.setPlane s) :=
  ⟨⟨h.goesOn.packets, h.goesOn.defined⟩, Or.inl hunset⟩

theorem inv_activationChanged (h : Inv c line w) (active : Bool) :
    Inv c line (w.setPlane (w.plane.activationChanged active)) := by
  cases active with
  | true => exact inv_setPlane h ⟨rfl, rfl⟩
  | false =>
      refine ⟨⟨h.goesOn.packets, h.goesOn.defined⟩, ?_⟩
      exact h.plane.imp_right fun ⟨honline, hrest⟩ => ⟨{ honline with }, hrest⟩

theorem inv_step (h : Inv c line w) {ev : PlaneEvent} (hreads : line.Reads c w ev)
    (hok : w.LateEnough c ev) : Inv c line (w.step c ev) := by
  rw [step_of_inv h]
  cases ev with
  | activationChanged active => exact inv_activationChanged h active
  | connectTo => exact inv_setPlane h ⟨rfl, rfl⟩
  | writeToAvbPacket call =>
      by_cases hputs : w.PutsDown call
      · obtain ⟨hiff, hinv⟩ := inv_write_iff h hreads hputs
        exact hinv (hiff.mpr (hok hputs))
      · exact inv_write_of_not h hreads hputs

theorem not_goesOn_of_not (h : Inv c line w) {ev : PlaneEvent} (hreads : line.Reads c w ev)
    (hnot : ¬ w.LateEnough c ev) : ¬ (w.step c ev).GoesOn (line.slope c) := by
  rw [step_of_inv h]
  cases ev with
  | activationChanged | connectTo => exact absurd trivial hnot
  | writeToAvbPacket call =>
      obtain ⟨hputs, hlate⟩ := Classical.not_imp.mp hnot
      exact fun hgoesOn => hlate ((inv_write_iff h hreads hputs).1.mp hgoesOn)

/-- **The presentation times go on** exactly if every reset is late enough: they do not go back,
without a reset they follow at the pace of the samples, and nothing is divided by zero. -/
theorem reference_plane_iff (c : ReferencePlaneConfig) (line : MasterLine)
    {es : List PlaneEvent} (hreads : Always (step c) (line.Reads c) {} es) :
    (∀ pre, pre <+: es → (exec (step c) {} pre).GoesOn (line.slope c)) ↔
      Always (step c) (LateEnough c) {} es := by
  have hgood : ∀ w, Inv c line w → w.GoesOn (line.slope c) := fun _ h => h.goesOn
  have hstep : ∀ w ev, Inv c line w → line.Reads c w ev → w.LateEnough c ev →
      Inv c line (w.step c ev) := fun _ _ h hr hok => inv_step h hr hok
  have hexact : ∀ w ev, Inv c line w → line.Reads c w ev → ¬ w.LateEnough c ev →
      ¬ (w.step c ev).GoesOn (line.slope c) := fun _ _ h hr hnot => not_goesOn_of_not h hr hnot
  exact good_iff_always_of_promised hgood hstep hexact inv_start hreads

/-! ## Runs that go on, and runs that go back -/

instance (line : MasterLine) (c : ReferencePlaneConfig) (eventRate : Nat) (r : DomainReading) :
    Decidable (line.Has c eventRate r) :=
  decidable_of_iff (r.rateRatio = line.rateRatio ∧ 0 ≤ r.eventTime ∧ (eventRate ≠ 0 →
      r.eventTime ≠ 0 → r.eventTime = line.base + line.slope c * c.masterCount eventRate r))
    ⟨fun h => ⟨h.1, h.2.1, h.2.2⟩, fun h => ⟨h.rateRatio, h.time_nonneg, h.time⟩⟩

instance (line : MasterLine) (c : ReferencePlaneConfig) (w : PlaneRun) :
    (ev : PlaneEvent) → Decidable (line.Reads c w ev)
  | .activationChanged _ => inferInstanceAs (Decidable True)
  | .connectTo => inferInstanceAs (Decidable True)
  | .writeToAvbPacket _ => inferInstanceAs (Decidable (_ ∧ _))

/-- 8000 packets a second. -/
def eightThousand : ReferencePlaneConfig where
  mSampleFrequency := 48000
  mSamplesPerChannelPerPacket := 6

def nominalLine : MasterLine := ⟨0, 1, one_pos⟩

/-- The reading at ten seconds. -/
def atTenSeconds : DomainReading where
  eventCount := 480000
  eventTime := 10000000000
  rateRatio := 1
  setEventRate := some 48000

/-- The reading two and a half seconds later. -/
def regained : DomainReading where
  eventCount := 600000
  eventTime := 12500000000
  rateRatio := 1

/-- A packet of a talker without a local stream. -/
def packetFor (nextWindowStart : ℚ) (r : DomainReading) : PlaneEvent :=
  .writeToAvbPacket { nextWindowStart := nextWindowStart, atReset := r, now := r }

/-- Two packets in a row, and one after another activation for the next window. -/
def steadyTalker : List PlaneEvent :=
  [.activationChanged true, packetFor 10016000000 atTenSeconds,
    packetFor 10016000000 atTenSeconds, .activationChanged true,
    packetFor 10032000000 atTenSeconds]

theorem reference_plane_iff_steady :
    (exec (step eightThousand) {} steadyTalker).GoesOn (nominalLine.slope eightThousand) := by
  have hreads : Always (step eightThousand) (nominalLine.Reads eightThousand) {} steadyTalker := by
    decide +kernel
  have hlast : (exec (step eightThousand) {} (steadyTalker.take 4)).packets.getLast?
      = some ⟨10016125000, 6, false⟩ := by decide +kernel
  refine (reference_plane_iff eightThousand nominalLine hreads).mpr ?_ steadyTalker List.prefix_rfl
  refine ⟨trivial, ?_, ?_, trivial, ?_, trivial⟩
  · refine lateEnough_of_le (le_refl _) fun p hp => ?_
    cases hp
  · intro hputs
    exact absurd hputs.unset (by decide +kernel)
  · refine lateEnough_of_le (le_refl _) fun p hp => Or.inl ?_
    obtain rfl := Option.some.inj (hlast.symm.trans hp)
    decide +kernel

/-- The reference is missed for two and a half seconds, and back within a window. -/
def regainedReference : List PlaneEvent :=
  [.activationChanged true, packetFor 12516000000 atTenSeconds, packetFor 12516000000 regained,
    packetFor 12516000000 regained]

/-- A master whose samples are shorter than nominal. -/
def fastLine : MasterLine := ⟨1000000, 9999 / 10000, by norm_num⟩

/-- Its reading at ten seconds. -/
def fastReading : DomainReading where
  eventCount := 480000
  eventTime := 10000000000
  rateRatio := 9999 / 10000
  setEventRate := some 48000

/-- A packet of silence, for which samples are dumped. -/
def silentPacket (dumped : Nat) : PlaneEvent :=
  .writeToAvbPacket {
    nextWindowStart := 11016000000
    atReset := fastReading
    now := fastReading
    localStream := some { dumped := dumped, isReadReady := true, firstRead := 0, written := 6 } }

/-- A second after the last reading a talker dumps samples eleven times, and the transmit engine
resets it. -/
def tooManyDumps : List PlaneEvent :=
  .activationChanged true :: silentPacket 0 :: List.replicate 11 (silentPacket 1)
    ++ [.activationChanged false, .activationChanged true, silentPacket 0]

/-- **Where it goes back**: the time of the last packet is not kept when the reference was lost,
and when it is kept it is counted in nominal samples. -/
theorem presentation_time_goes_back :
    (Always (step eightThousand) (nominalLine.Reads eightThousand) {} regainedReference
      ∧ (exec (step eightThousand) {} regainedReference).packets.map PlanePacket.time
        = [12516000000, 12516125000, 12516000000]
      ∧ ¬ (exec (step eightThousand) {} regainedReference).GoesOn
        (nominalLine.slope eightThousand))
    ∧ Always (step eightThousand) (fastLine.Reads eightThousand) {} tooManyDumps
      ∧ ((exec (step eightThousand) {} tooManyDumps).packets.drop 11).map PlanePacket.time
        = [22034546525 / 2, 22034379875 / 2]
      ∧ ¬ (exec (step eightThousand) {} tooManyDumps).GoesOn (fastLine.slope eightThousand) := by
  refine ⟨⟨by decide +kernel, by decide +kernel, fun h => absurd h.packets (by decide +kernel)⟩,
    by decide +kernel, by decide +kernel, fun h => absurd h.packets (by decide +kernel)⟩

end PlaneRun

end AvbStreamHandler
