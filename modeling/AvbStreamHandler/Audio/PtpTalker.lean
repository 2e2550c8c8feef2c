import AvbStreamHandler.Audio.ReferencePlaneRuns
import AvbStreamHandler.Clock.PtpClockDomain

/-!
# A talker that is clocked by the PTP clock domain

The two are put together: the readings of the talker are what the PTP clock domain makes of the
time at which it is asked, by the talker and by others. So there is nothing left to be assumed of
the readings, and what remains is a condition on the times.

If the time goes on and no call comes later than the timeout, the reference plane, once it is put
down, is never lost: there is no reset until somebody asks for one, and the presentation times
follow each other at 48 kHz to the sample, however irregularly the calls come.
-/

namespace AvbStreamHandler

open Kit Kit.Run Kit.Word

/-- `getEventCount`, `getRateRatio` and `getEventRate`, once it was asked. -/
def IasAvbPtpClockDomain.reading (d : IasAvbPtpClockDomain) : DomainReading where
  eventCount := d.mEventCount
  eventTime := d.mEventTimeStamp
  rateRatio := d.clockDomain.mRateRatio
  setEventRate := if h : 0 < d.mEventRate then some ⟨d.mEventRate, h⟩ else none

open IasAvbPtpClockDomain ReferencePlane PlaneRun

structure PtpTalker where
  clock : PtpClock := {}
  talker : PlaneRun := {}

/-- What happens; each look at the time has what `getPtpTime` returns, if there is a proxy. -/
inductive PtpTalkerEvent
  /-- Another user of the clock domain asks for the event count. -/
  | getEventCount (ptpTime : Option Nat)
  | activationChanged (active : Bool)
  | connectTo
  | writeToAvbPacket (nextWindowStart : ℚ) (atReset now : Option Nat)
    (localStream : Option LocalAnswers)

namespace PtpTalker

/-- The talker asks for a time to start from. -/
def AsksAtReset (w : PtpTalker) : Prop :=
  w.talker.plane.mActive = true ∧ w.talker.plane.IsUnset

instance (w : PtpTalker) : Decidable w.AsksAtReset := inferInstanceAs (Decidable (_ ∧ _))

def clockAtReset (w : PtpTalker) (atReset : Option Nat) : PtpClock :=
  if w.AsksAtReset then w.clock.step atReset else w.clock

/-- It asks once more, unless there is no packet or only a dummy packet. -/
def AsksNow (w : PtpTalker) (atReset : Option Nat) : Prop :=
  w.talker.plane.mActive = true ∧
    (w.talker.plane.IsUnset → (w.clockAtReset atReset).domain.mEventTimeStamp ≠ 0)

instance (w : PtpTalker) (atReset : Option Nat) : Decidable (w.AsksNow atReset) :=
  inferInstanceAs (Decidable (_ ∧ _))

def clockNow (w : PtpTalker) (atReset now : Option Nat) : PtpClock :=
  if w.AsksNow atReset then (w.clockAtReset atReset).step now else w.clockAtReset atReset

def call (w : PtpTalker) (nextWindowStart : ℚ) (atReset now : Option Nat)
    (localStream : Option LocalAnswers) : WriteCall where
  nextWindowStart := nextWindowStart
  atReset := (w.clockAtReset atReset).domain.reading
  now := (w.clockNow atReset now).domain.reading
  localStream := localStream

def step (c : ReferencePlaneConfig) (w : PtpTalker) : PtpTalkerEvent → PtpTalker
  | .getEventCount ptpTime => { w with clock := w.clock.step ptpTime }
  | .activationChanged active =>
      { w with talker := w.talker.step c (.activationChanged active) }
  | .connectTo => { w with talker := w.talker.step c .connectTo }
  | .writeToAvbPacket nextWindowStart atReset now localStream =>
      { clock := w.clockNow atReset now
        talker := w.talker.step c
          (.writeToAvbPacket (w.call nextWindowStart atReset now localStream)) }

/-! ## Runs that are on time -/

/-- The time goes on. -/
def LooksOn (clock : PtpClock) : Option Nat → Prop
  | none => True
  | some now => clock.now ≤ now ∧ now < 18446744073709551616

instance (clock : PtpClock) : (ptpTime : Option Nat) → Decidable (LooksOn clock ptpTime)
  | none => inferInstanceAs (Decidable True)
  | some _ => inferInstanceAs (Decidable (_ ∧ _))

/-- The master time the plane is computed from is not too old. -/
def InTime (c : ReferencePlaneConfig) (w : PtpTalker) (now : Option Nat) : Prop :=
  ¬ w.talker.plane.IsUnset →
    ((w.clock.step now).now : ℚ) - w.talker.plane.mMasterTime ≤ c.mMasterTimeout

instance (c : ReferencePlaneConfig) (w : PtpTalker) (now : Option Nat) :
    Decidable (w.InTime c now) := inferInstanceAs (Decidable (_ → _))

/-- **An event is on time**. -/
def OnTime (c : ReferencePlaneConfig) (w : PtpTalker) : PtpTalkerEvent → Prop
  | .getEventCount ptpTime => LooksOn w.clock ptpTime
  | .activationChanged _ => True
  | .connectTo => True
  | .writeToAvbPacket _ atReset now _ =>
      (w.AsksAtReset → LooksOn w.clock atReset) ∧
        (w.AsksNow atReset → LooksOn (w.clockAtReset atReset) now) ∧ w.InTime c now

/-- The line the readings are on. -/
def line (clock : PtpClock) : MasterLine :=
  { nominalLine with base := clock.domain.mStartTime }

/-- The nominal duration of a sample. -/
def Paces (c : ReferencePlaneConfig) (p q : PlanePacket) : Prop :=
  q.afterReset = false → q.time - p.time = c.mSampleIntervalNs * p.written

instance (c : ReferencePlaneConfig) (p q : PlanePacket) : Decidable (Paces c p q) :=
  inferInstanceAs (Decidable (_ → _))

/-- **The clock** is as its readings have to be: steady, on a time that did not go back. -/
structure ClockInv (clock : PtpClock) : Prop where
  inv : clock.Inv
  rateRatio : clock.domain.clockDomain.mRateRatio = 1
  eventRate : clock.domain.mEventRate = 48000
  start_le : clock.domain.mStartTime ≤ clock.now
  stamp_le : clock.domain.mEventTimeStamp ≤ clock.now

variable {c : ReferencePlaneConfig} {w : PtpTalker} {clock : PtpClock}

theorem clockInv_init : ClockInv {} where
  inv := inv_init
  rateRatio := construct_locked.2
  eventRate := rfl
  start_le := le_rfl
  stamp_le := le_rfl

/-- The same clock, later: the reading did not go back, and the start stays where it is once it is
decided. -/
structure Later (before after : PtpClock) : Prop where
  inv : ClockInv after
  stamp_le : before.domain.mEventTimeStamp ≤ after.domain.mEventTimeStamp
  start : before.domain.mStartTime ≠ 0 → after.domain.mStartTime = before.domain.mStartTime

theorem Later.refl (h : ClockInv clock) : Later clock clock := ⟨h, le_rfl, fun _ => rfl⟩

theorem ClockInv.step (h : ClockInv clock) {ptpTime : Option Nat} (hon : LooksOn clock ptpTime) :
    Later clock (clock.step ptpTime) := by
  cases ptpTime with
  | none => exact .refl h
  | some now =>
      obtain ⟨hle, hrange⟩ := hon
      have hinv : (clock.step (some now)).Inv :=
        inv_step h.inv (fun t ht => Option.some.inj ht ▸ hrange)
          fun _ _ => .inl (h.start_le.trans hle)
      have hstamp := h.stamp_le
      have hstart := h.start_le
      have hstartAt : clock.domain.startAt now ≤ now := by
        unfold startAt
        split <;> omega
      have hsame : clock.domain.mStartTime ≠ 0 →
          clock.domain.startAt now = clock.domain.mStartTime := fun hne => if_neg hne
      have hfloor : clock.domain.mEventTimeStamp ≤ now - now % cGranularity := by
        obtain ⟨k, hk⟩ := h.inv.steady.granule
        unfold cGranularity at *
        omega
      unfold PtpClock.step at hinv ⊢
      rw [onGetEventCount_some] at hinv ⊢
      split at hinv
      · rename_i hcount
        rw [if_pos hcount]
        exact ⟨⟨hinv, h.rateRatio, h.eventRate, hstartAt, Nat.sub_le _ _⟩, hfloor, hsame⟩
      · rename_i hcount
        rw [if_neg hcount]
        exact ⟨⟨hinv, h.rateRatio, h.eventRate, hstartAt, hstamp.trans hle⟩, le_rfl, hsame⟩

/-- **What the talker is told** is on the line. -/
theorem ClockInv.has (h : ClockInv clock) :
    (line clock).Has c 48000 clock.domain.reading where
  rateRatio := h.rateRatio
  time_nonneg := Nat.cast_nonneg _
  time := by
    intro _ htime
    have hstamp : clock.domain.mEventTimeStamp ≠ 0 := fun hzero =>
      htime (Nat.cast_eq_zero.mpr hzero)
    have hline := h.inv.steady.line.resolve_left hstamp
    have hfreq := mSampleFrequency_pos c
    have hcast : 3 * ((clock.domain.mEventTimeStamp : ℚ) - clock.domain.mStartTime)
        = 62500 * clock.domain.mEventCount := by
      exact_mod_cast congrArg (Int.cast (R := ℚ)) hline
    show (clock.domain.mEventTimeStamp : ℚ) = clock.domain.mStartTime
      + 1000000000 / c.mSampleFrequency * 1
        * (clock.domain.mEventCount * c.mSampleFrequency / (48000 : Nat))
    have hnominal : (1000000000 : ℚ) / c.mSampleFrequency * 1
        * (clock.domain.mEventCount * c.mSampleFrequency / (48000 : Nat))
        = 62500 / 3 * clock.domain.mEventCount := by
      push_cast
      field_simp
      ring
    rw [hnominal]
    linarith

/-! ## The plane -/

theorem payload_mMasterTime (s : ReferencePlane) (l : Option LocalAnswers) :
    (s.payload c l).1.mMasterTime = s.mMasterTime := by
  cases l with
  | none => rfl
  | some l =>
      have hcompensate : (s.compensate l).1.mMasterTime = s.mMasterTime := by
        unfold compensate
        dsimp only
        split
        · split <;> rfl
        · rfl
      show ((s.compensate l).1.noteSilence c l).mMasterTime = _
      unfold noteSilence
      split <;> exact hcompensate

theorem updateMaster_le {s : ReferencePlane} {count time bound : ℚ} (hs : s.mMasterTime ≤ bound)
    (htime : time ≤ bound) (hbound : 0 ≤ bound) :
    (s.updateMaster c count time).mMasterTime ≤ bound := by
  unfold updateMaster
  split
  · exact hs
  · split
    · exact hbound
    · split
      · exact hs
      · exact htime

theorem advance_le {s s' : ReferencePlane} {eventRate written : Nat} {r : DomainReading}
    {bound : ℚ} (hs : s.mMasterTime ≤ bound) (htime : r.eventTime ≤ bound) (hbound : 0 ≤ bound)
    (hadvance : s.advance c eventRate r written = some s') : s'.mMasterTime ≤ bound := by
  have hmaster : (s.updateMaster c (c.masterCount eventRate r) r.eventTime).mMasterTime ≤ bound :=
    updateMaster_le hs htime hbound
  unfold advance at hadvance
  split at hadvance
  · cases hadvance
  · dsimp only at hadvance
    split at hadvance
    · cases hadvance
      exact hmaster
    · obtain ⟨duration, -, rfl⟩ := Option.map_eq_some_iff.mp hadvance
      exact hmaster

/-- **A reading that is in time does not take the plane away.** -/
theorem not_isUnset_advance {s s' : ReferencePlane} {line : MasterLine} {eventRate written : Nat}
    {r : DomainReading} (h : OnLine c line s) (hr : line.Has c eventRate r) (hrate : eventRate ≠ 0)
    (hafter : s.mMasterTime ≤ r.eventTime)
    (htimeout : r.eventTime - s.mMasterTime ≤ c.mMasterTimeout)
    (hadvance : s.advance c eventRate r written = some s') : ¬ s'.IsUnset := by
  have hmaster : (s.updateMaster c (c.masterCount eventRate r) r.eventTime).mMasterTime ≠ 0 := by
    unfold updateMaster
    split
    · exact h.master_pos.ne'
    · rename_i hne
      have hlt : s.mMasterTime < r.eventTime := lt_of_le_of_ne hafter (Ne.symm hne)
      have hcount : s.mMasterCount < c.masterCount eventRate r := by
        have htime := hr.time hrate (h.master_pos.trans hlt).ne'
        rw [h.master, htime] at hlt
        exact lt_of_mul_lt_mul_left (lt_of_add_lt_add_left hlt) (slope_pos line c).le
      have hrange : ¬ s.OutOfRange c (c.masterCount eventRate r) r.eventTime := by
        rintro (hback | hlong | hnot)
        · exact absurd hafter (not_le.mpr hback)
        · exact absurd htimeout (not_le.mpr hlong)
        · exact hnot hcount
      rw [if_neg hrange]
      split
      · exact h.master_pos.ne'
      · exact (h.master_pos.trans hlt).ne'
  obtain ⟨honline, -⟩ := (h.updateMaster (hr.time hrate)).resolve_left fun hgone => hmaster hgone.1
  unfold advance at hadvance
  rw [if_neg hrate] at hadvance
  dsimp only at hadvance
  rw [if_neg hmaster, hr.rateRatio, honline.sampleDuration] at hadvance
  cases hadvance
  exact (honline.movePlane written).1.not_unset

theorem write_plane (t : PlaneRun) (call : WriteCall) :
    (t.write c call).plane
      = (t.plane.writeToAvbPacket c (t.rateAtReset call) (t.rateNow call) call).1 := by
  unfold write
  dsimp only
  cases (t.plane.writeToAvbPacket c (t.rateAtReset call) (t.rateNow call) call).2 <;> rfl

theorem write_eventRate (t : PlaneRun) (call : WriteCall) :
    (t.write c call).eventRate = t.rateNow call := by
  unfold write
  dsimp only
  cases (t.plane.writeToAvbPacket c (t.rateAtReset call) (t.rateNow call) call).2 <;> rfl

/-- The plane after a packet that leaves from a plane on the line. -/
theorem writePacket_fst {s : ReferencePlane} {line : MasterLine} {eventRate : Nat}
    (call : WriteCall) (h : OnLine c line s) (hr : line.Has c eventRate call.now)
    (hrate : eventRate ≠ 0) :
    (s.payload c call.localStream).1.advance c eventRate call.now
        (s.payload c call.localStream).2.2
      = some (s.writePacket c eventRate call).1 := by
  obtain ⟨hpayload, -⟩ := h.payload call.localStream
  obtain ⟨s', hadvance, -⟩ := hpayload.advance hr hrate (s.payload c call.localStream).2.2
  unfold writePacket
  dsimp only
  rw [hadvance]

/-! ## The invariant -/

/-- **The plane is placed**: it is on the line of the clock, from a reading of that clock, and
behind the last packet by its samples. -/
structure Placed (c : ReferencePlaneConfig) (w : PtpTalker) : Prop where
  started : w.clock.domain.mStartTime ≠ 0
  onLine : OnLine c (line w.clock) w.talker.plane
  eventRate : w.talker.eventRate = 48000
  master_le : w.talker.plane.mMasterTime ≤ w.clock.domain.mEventTimeStamp
  packet : ∃ p ∈ w.talker.packets.getLast?,
    w.talker.plane.mRefPlaneSampleTime = p.time + c.mSampleIntervalNs * p.written

structure Inv (c : ReferencePlaneConfig) (w : PtpTalker) : Prop where
  clock : ClockInv w.clock
  defined : w.talker.trapped = false
  paces : w.talker.packets.IsChain (Paces c)
  plane : w.talker.plane.IsUnset ∨ Placed c w

theorem inv_start : Inv c {} where
  clock := clockInv_init
  defined := rfl
  paces := List.IsChain.nil
  plane := .inl ⟨rfl, rfl⟩

theorem slope_line (c : ReferencePlaneConfig) (clock : PtpClock) :
    (line clock).slope c = c.mSampleIntervalNs := mul_one _

/-- As long as the start is not decided there is no reading. -/
theorem ClockInv.started (h : ClockInv clock) (hstamp : clock.domain.mEventTimeStamp ≠ 0) :
    clock.domain.mStartTime ≠ 0 := fun hzero => hstamp (h.inv.started hzero)

theorem Later.line_eq {before after : PtpClock} (h : Later before after)
    (hstarted : before.domain.mStartTime ≠ 0) : line after = line before := by
  unfold line
  rw [h.start hstarted]

theorem ClockInv.reading_eventRate (h : ClockInv clock) (before : Nat) :
    clock.domain.reading.eventRate before = 48000 := by
  unfold DomainReading.eventRate IasAvbPtpClockDomain.reading
  rw [dif_pos (by rw [h.eventRate]; decide)]
  exact h.eventRate

/-- Another look at the clock, by whoever. -/
theorem Placed.later (h : Placed c w) {after : PtpClock} (hlater : Later w.clock after) :
    Placed c { w with clock := after } where
  started := by
    show after.domain.mStartTime ≠ 0
    rw [hlater.start h.started]
    exact h.started
  onLine := by
    show OnLine c (line after) _
    rw [hlater.line_eq h.started]
    exact h.onLine
  eventRate := h.eventRate
  master_le := h.master_le.trans (Nat.cast_le.mpr hlater.stamp_le)
  packet := h.packet

theorem Inv.getEventCount (h : Inv c w) {ptpTime : Option Nat} (hon : LooksOn w.clock ptpTime) :
    Inv c (w.step c (.getEventCount ptpTime)) :=
  have hlater := h.clock.step hon
  ⟨hlater.inv, h.defined, h.paces, h.plane.imp_right fun hplaced => hplaced.later hlater⟩

theorem Inv.activationChanged (h : Inv c w) (active : Bool) :
    Inv c (w.step c (.activationChanged active)) := by
  have hstep : w.talker.step c (.activationChanged active)
      = w.talker.setPlane (w.talker.plane.activationChanged active) :=
    if_neg (ne_true_of_eq_false h.defined)
  unfold PtpTalker.step
  dsimp only
  rw [hstep]
  cases active with
  | true => exact ⟨h.clock, h.defined, h.paces, .inl ⟨rfl, rfl⟩⟩
  | false =>
      refine ⟨h.clock, h.defined, h.paces, h.plane.imp_right fun hplaced => ?_⟩
      exact ⟨hplaced.started, { hplaced.onLine with }, hplaced.eventRate, hplaced.master_le,
        hplaced.packet⟩

theorem Inv.connectTo (h : Inv c w) : Inv c (w.step c .connectTo) := by
  have hstep : w.talker.step c .connectTo = w.talker.setPlane w.talker.plane.connectTo :=
    if_neg (ne_true_of_eq_false h.defined)
  unfold PtpTalker.step
  dsimp only
  rw [hstep]
  exact ⟨h.clock, h.defined, h.paces, .inl ⟨rfl, rfl⟩⟩

/-! ## A call -/

variable {nextWindowStart : ℚ} {atReset now : Option Nat} {localStream : Option LocalAnswers}

theorem Inv.clockAtReset (h : Inv c w)
    (hon : w.OnTime c (.writeToAvbPacket nextWindowStart atReset now localStream)) :
    Later w.clock (w.clockAtReset atReset) := by
  unfold PtpTalker.clockAtReset
  split
  · rename_i hasks
    exact h.clock.step (hon.1 hasks)
  · exact .refl h.clock

theorem Inv.clockNow (h : Inv c w)
    (hon : w.OnTime c (.writeToAvbPacket nextWindowStart atReset now localStream)) :
    Later (w.clockAtReset atReset) (w.clockNow atReset now) := by
  unfold PtpTalker.clockNow
  split
  · rename_i hasks
    exact (h.clockAtReset hon).inv.step (hon.2.1 hasks)
  · exact .refl (h.clockAtReset hon).inv

theorem Inv.step_write (h : Inv c w) :
    w.step c (.writeToAvbPacket nextWindowStart atReset now localStream)
      = { clock := w.clockNow atReset now
          talker := w.talker.write c (w.call nextWindowStart atReset now localStream) } := by
  have hstep : w.talker.step c
        (.writeToAvbPacket (w.call nextWindowStart atReset now localStream))
      = w.talker.write c (w.call nextWindowStart atReset now localStream) :=
    if_neg (ne_true_of_eq_false h.defined)
  unfold PtpTalker.step
  dsimp only
  rw [hstep]

/-- **A packet that leaves** from a plane on the line, whether it was there or is put down anew. -/
theorem Inv.sends (h : Inv c w)
    (hon : w.OnTime c (.writeToAvbPacket nextWindowStart atReset now localStream))
    {s : ReferencePlane} (hs : OnLine c (line (w.clockNow atReset now)) s)
    (hstarted : (w.clockNow atReset now).domain.mStartTime ≠ 0)
    (hmaster : s.mMasterTime ≤ (w.clockNow atReset now).domain.mEventTimeStamp)
    (hwrite : w.talker.plane.writeToAvbPacket c 48000 48000
        (w.call nextWindowStart atReset now localStream)
      = s.writePacket c 48000 (w.call nextWindowStart atReset now localStream))
    (hpaces : ∀ p ∈ w.talker.packets.getLast?, ¬ w.talker.plane.IsUnset →
      s.mRefPlaneSampleTime - p.time = c.mSampleIntervalNs * p.written) :
    Inv c (w.step c (.writeToAvbPacket nextWindowStart atReset now localStream))
      ∧ ∃ written,
        (w.step c (.writeToAvbPacket nextWindowStart atReset now localStream)).talker.packets
          = w.talker.packets
            ++ [⟨s.mRefPlaneSampleTime, written, decide w.talker.plane.IsUnset⟩] := by
  have hclock := (h.clockNow hon).inv
  have hhas := hclock.has (c := c)
  have hatReset : w.talker.rateAtReset (w.call nextWindowStart atReset now localStream) = 48000 :=
    (h.clockAtReset hon).inv.reading_eventRate _
  have hnow : w.talker.rateNow (w.call nextWindowStart atReset now localStream) = 48000 :=
    hclock.reading_eventRate _
  have hadvance := writePacket_fst (w.call nextWindowStart atReset now localStream) hs
    hhas (by decide)
  have hplaneAfter : (w.talker.write c (w.call nextWindowStart atReset now localStream)).plane
      = (s.writePacket c 48000 (w.call nextWindowStart atReset now localStream)).1 := by
    rw [write_plane, hatReset, hnow, hwrite]
  have hrate : w.talker.rateNow (w.call nextWindowStart atReset now localStream) ≠ 0 := by
    rw [hnow]
    decide
  obtain ⟨written, hpackets, htrapped, hplane⟩ := plane_of_writePacket (w := w.talker) hs
    (by rw [hnow]; exact hhas) hrate (by rw [hatReset, hnow]; exact hwrite)
  rw [h.step_write]
  refine ⟨⟨hclock, htrapped.trans h.defined, ?_, ?_⟩, written, hpackets⟩
  · show (w.talker.write c _).packets.IsChain (Paces c)
    rw [hpackets, List.isChain_append]
    refine ⟨h.paces, List.isChain_singleton _, ?_⟩
    rintro p hp q hq hreset
    obtain rfl := Option.some.inj hq
    exact hpaces p hp (of_decide_eq_false hreset)
  · refine hplane.imp_right fun ⟨honline, _, hpacket⟩ => ?_
    rw [slope_line] at hpacket
    refine ⟨hstarted, honline, ?_, ?_, hpacket⟩
    · exact (write_eventRate w.talker _).trans hnow
    · show (w.talker.write c _).plane.mMasterTime ≤ _
      rw [hplaneAfter]
      refine advance_le ?_ le_rfl (Nat.cast_nonneg _) hadvance
      rw [payload_mMasterTime]
      exact hmaster

/-- **A call with the plane placed** is a packet without a reset, and leaves the plane placed. -/
theorem Inv.write_placed (h : Inv c w)
    (hon : w.OnTime c (.writeToAvbPacket nextWindowStart atReset now localStream))
    (hactive : w.talker.plane.mActive = true) (hset : ¬ w.talker.plane.IsUnset) :
    Inv c (w.step c (.writeToAvbPacket nextWindowStart atReset now localStream))
      ∧ ¬ (w.step c (.writeToAvbPacket nextWindowStart atReset now
        localStream)).talker.plane.IsUnset
      ∧ ∃ p, (w.step c (.writeToAvbPacket nextWindowStart atReset now
          localStream)).talker.packets = w.talker.packets ++ [p] ∧ p.afterReset = false := by
  have hplaced := h.plane.resolve_left hset
  have hsame : w.clockAtReset atReset = w.clock := if_neg fun hasks => hset hasks.2
  have hasks : w.AsksNow atReset := ⟨hactive, fun hunset => absurd hunset hset⟩
  have hlater := h.clockNow hon
  have hreading : w.clockNow atReset now = w.clock.step now := by
    unfold PtpTalker.clockNow
    rw [if_pos hasks, hsame]
  rw [hsame] at hlater
  have honline : OnLine c (line (w.clockNow atReset now)) w.talker.plane := by
    rw [hlater.line_eq hplaced.started]
    exact hplaced.onLine
  have hstarted : (w.clockNow atReset now).domain.mStartTime ≠ 0 := by
    rw [hlater.start hplaced.started]
    exact hplaced.started
  have hmaster : w.talker.plane.mMasterTime ≤ (w.clockNow atReset now).domain.mEventTimeStamp :=
    hplaced.master_le.trans (Nat.cast_le.mpr hlater.stamp_le)
  have hwrite : w.talker.plane.writeToAvbPacket c 48000 48000
        (w.call nextWindowStart atReset now localStream)
      = w.talker.plane.writePacket c 48000
        (w.call nextWindowStart atReset now localStream) := by
    unfold ReferencePlane.writeToAvbPacket
    rw [if_pos hactive, if_neg hset]
  obtain ⟨hinv, written, hpackets⟩ := h.sends hon honline hstarted hmaster hwrite (by
    obtain ⟨p, hp, htime⟩ := hplaced.packet
    intro p' hp' _
    obtain rfl := Option.some.inj (hp.symm.trans hp')
    rw [htime]
    ring)
  refine ⟨hinv, ?_, _, hpackets, decide_eq_false hset⟩
  have hclock := hlater.inv
  have hadvance := writePacket_fst (w.call nextWindowStart atReset now localStream)
    honline hclock.has (by decide)
  have hplane : (w.step c (.writeToAvbPacket nextWindowStart atReset now
        localStream)).talker.plane
      = (w.talker.plane.writePacket c 48000
        (w.call nextWindowStart atReset now localStream)).1 := by
    rw [h.step_write]
    show (w.talker.write c _).plane = _
    have hatReset : w.talker.rateAtReset (w.call nextWindowStart atReset now localStream)
        = 48000 := (h.clockAtReset hon).inv.reading_eventRate _
    have hnow : w.talker.rateNow (w.call nextWindowStart atReset now localStream) = 48000 :=
      hclock.reading_eventRate _
    rw [write_plane, hatReset, hnow, hwrite]
  rw [hplane]
  refine not_isUnset_advance (honline.payload localStream).1 hclock.has (by decide) ?_ ?_ hadvance
  · show (w.talker.plane.payload c localStream).1.mMasterTime ≤ _
    rw [payload_mMasterTime]
    exact hmaster
  · show _ - (w.talker.plane.payload c localStream).1.mMasterTime ≤ _
    rw [payload_mMasterTime]
    have hstamp : ((w.clock.step now).domain.mEventTimeStamp : ℚ) ≤ (w.clock.step now).now :=
      Nat.cast_le.mpr (hreading ▸ hclock.stamp_le)
    have hin := hon.2.2 hset
    show ((w.clockNow atReset now).domain.mEventTimeStamp : ℚ) - _ ≤ _
    rw [hreading]
    linarith

/-- A call without a plane: there is no packet, or the plane is put down for it. -/
theorem Inv.write_unset (h : Inv c w)
    (hon : w.OnTime c (.writeToAvbPacket nextWindowStart atReset now localStream))
    (hactive : w.talker.plane.mActive = true) (hunset : w.talker.plane.IsUnset) :
    Inv c (w.step c (.writeToAvbPacket nextWindowStart atReset now localStream)) := by
  have hlater := h.clockAtReset hon
  have hlaterNow := h.clockNow hon
  by_cases hstamp : (w.clockAtReset atReset).domain.mEventTimeStamp = 0
  · -- no reference clock
    have hread : masterTime (w.talker.rateAtReset (w.call nextWindowStart atReset now localStream))
        (w.call nextWindowStart atReset now localStream).atReset = 0 := by
      unfold masterTime
      split
      · rfl
      · exact Nat.cast_eq_zero.mpr hstamp
    have hresult : w.talker.write c (w.call nextWindowStart atReset now localStream)
        = { w.talker with
            plane := ((w.talker.plane.setMaster c (w.talker.rateAtReset
                (w.call nextWindowStart atReset now localStream))
                (w.call nextWindowStart atReset now localStream).atReset).resetFailed
              nextWindowStart).forgetLast
            eventRate := w.talker.rateNow
              (w.call nextWindowStart atReset now localStream) } := by
      unfold write writeToAvbPacket
      rw [if_pos hactive, if_pos hunset, resetTime_failed hread]
      rfl
    rw [h.step_write, hresult]
    exact ⟨hlaterNow.inv, h.defined, h.paces, .inl ⟨rfl, rfl⟩⟩
  · have hstarted := hlater.inv.started hstamp
    have hread : masterTime 48000 (w.clockAtReset atReset).domain.reading ≠ 0 :=
      Nat.cast_ne_zero.mpr hstamp
    obtain ⟨honline, -⟩ := onLine_placePlane (s := w.talker.plane) hread
      (hlater.inv.has (c := c)) nextWindowStart
    rw [← hlaterNow.line_eq hstarted] at honline
    have hwrite : w.talker.plane.writeToAvbPacket c 48000 48000
          (w.call nextWindowStart atReset now localStream)
        = ((w.talker.plane.setMaster c 48000
              (w.clockAtReset atReset).domain.reading).placePlane c
            (w.clockAtReset atReset).domain.reading.rateRatio
            nextWindowStart).forgetLast.writePacket c 48000
          (w.call nextWindowStart atReset now localStream) := by
      have hreset : w.talker.plane.resetTime c 48000
            (w.call nextWindowStart atReset now localStream).atReset
            (w.call nextWindowStart atReset now localStream).nextWindowStart
          = (((w.talker.plane.setMaster c 48000
                (w.clockAtReset atReset).domain.reading).placePlane c
              (w.clockAtReset atReset).domain.reading.rateRatio nextWindowStart).forgetLast,
            true) := resetTime_placed hread nextWindowStart
      unfold writeToAvbPacket
      rw [if_pos hactive, if_pos hunset, hreset]
    have hstarted' : (w.clockNow atReset now).domain.mStartTime ≠ 0 := by
      rw [hlaterNow.start hstarted]
      exact hstarted
    exact (h.sends hon honline hstarted' (Nat.cast_le.mpr hlaterNow.stamp_le) hwrite
      fun p _ hset => absurd hunset hset).1

/-- A call that is refused. -/
theorem Inv.write_refused (h : Inv c w) (hactive : ¬ w.talker.plane.mActive = true) :
    Inv c (w.step c (.writeToAvbPacket nextWindowStart atReset now localStream))
      ∧ (w.step c (.writeToAvbPacket nextWindowStart atReset now localStream)).talker.plane
        = w.talker.plane
      ∧ (w.step c (.writeToAvbPacket nextWindowStart atReset now localStream)).talker.packets
        = w.talker.packets := by
  have hatReset : w.clockAtReset atReset = w.clock := if_neg fun hasks => hactive hasks.1
  have hnow : w.clockNow atReset now = w.clock := by
    unfold PtpTalker.clockNow
    rw [if_neg fun hasks => hactive hasks.1, hatReset]
  have hresult : w.talker.write c (w.call nextWindowStart atReset now localStream)
      = { w.talker with
          eventRate := w.talker.rateNow (w.call nextWindowStart atReset now localStream) } := by
    unfold write writeToAvbPacket
    rw [if_neg hactive]
    rfl
  rw [h.step_write, hresult, hnow]
  refine ⟨⟨h.clock, h.defined, h.paces, h.plane.imp_right fun hplaced => ?_⟩, rfl, rfl⟩
  have hrate : w.talker.rateNow (w.call nextWindowStart atReset now localStream) = 48000 := by
    unfold PlaneRun.rateNow PtpTalker.call
    rw [hnow]
    exact h.clock.reading_eventRate _
  exact ⟨hplaced.started, hplaced.onLine, hrate, hplaced.master_le, hplaced.packet⟩

theorem Inv.step (h : Inv c w) {ev : PtpTalkerEvent} (hon : w.OnTime c ev) :
    Inv c (w.step c ev) := by
  cases ev with
  | getEventCount ptpTime => exact h.getEventCount hon
  | activationChanged active => exact h.activationChanged active
  | connectTo => exact h.connectTo
  | writeToAvbPacket nextWindowStart atReset now localStream =>
      by_cases hactive : w.talker.plane.mActive = true
      · by_cases hunset : w.talker.plane.IsUnset
        · exact h.write_unset hon hactive hunset
        · exact (h.write_placed hon hactive hunset).1
      · exact (h.write_refused hactive).1

/-! ## Whole runs -/

/-- The event is a packet's, or another user's of the clock. -/
def Undisturbed : PtpTalkerEvent → Prop
  | .getEventCount _ => True
  | .activationChanged _ => False
  | .connectTo => False
  | .writeToAvbPacket .. => True

/-- **What stays, and what is sent, from a state where the plane is set**. -/
structure SentSince (packets : List PlanePacket) (w : PtpTalker) : Prop where
  set : ¬ w.talker.plane.IsUnset
  sent : ∃ sent, w.talker.packets = packets ++ sent ∧ ∀ p ∈ sent, p.afterReset = false

theorem SentSince.step {packets : List PlanePacket} (hsince : SentSince packets w) (h : Inv c w)
    {ev : PtpTalkerEvent} (hon : w.OnTime c ev) (hev : Undisturbed ev) :
    SentSince packets (w.step c ev) := by
  obtain ⟨hset, sent, hpackets, hresets⟩ := hsince
  cases ev with
  | getEventCount ptpTime => exact ⟨hset, sent, hpackets, hresets⟩
  | activationChanged active => exact hev.elim
  | connectTo => exact hev.elim
  | writeToAvbPacket nextWindowStart atReset now localStream =>
      by_cases hactive : w.talker.plane.mActive = true
      · obtain ⟨-, hset', p, hp, hreset⟩ := h.write_placed hon hactive hset
        refine ⟨hset', sent ++ [p], ?_, ?_⟩
        · rw [hp, hpackets, List.append_assoc]
        · intro q hq
          rcases List.mem_append.mp hq with hq | hq
          · exact hresets q hq
          · rw [List.mem_singleton.mp hq]
            exact hreset
      · obtain ⟨-, hplane, hsame⟩ := h.write_refused hactive
        exact ⟨fun hunset => hset (hplane ▸ hunset), sent, hsame.trans hpackets, hresets⟩

theorem inv_exec_onTime {es : List PtpTalkerEvent} (h : Inv c w)
    (hrun : Always (step c) (OnTime c) w es) : Inv c (exec (step c) w es) :=
  inv_exec (fun _ _ h hon => h.step hon) h hrun

instance (c : ReferencePlaneConfig) (w : PtpTalker) :
    (ev : PtpTalkerEvent) → Decidable (w.OnTime c ev)
  | .getEventCount _ => inferInstanceAs (Decidable (LooksOn _ _))
  | .activationChanged _ => inferInstanceAs (Decidable True)
  | .connectTo => inferInstanceAs (Decidable True)
  | .writeToAvbPacket .. => inferInstanceAs (Decidable (_ ∧ _ ∧ _))

/-- The plane is put down at one second. -/
def firstPacket : List PtpTalkerEvent :=
  [.activationChanged true, .writeToAvbPacket 1000100000 (some 1000000000) (some 1000000500) none]

/-- One call comes early, one half a second late. -/
def twoMorePackets : List PtpTalkerEvent :=
  [.writeToAvbPacket 0 none (some 1000001000) none, .getEventCount (some 1400000000),
    .writeToAvbPacket 0 none (some 1500000000) none]

end PtpTalker

end AvbStreamHandler
