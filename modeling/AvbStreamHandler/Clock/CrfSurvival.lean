import AvbStreamHandler.Clock.CrfRoundTrip

/-!
# A talker whose reference clock goes away

`writeToAvbPacket` holds `mLock` from its first line to its last, and has a way out between
the two: without a reference clock it makes the packet a dummy and returns, with the lock
taken. The next call waits for it, and so does the next `activationChanged`.

There is a second way in which a call does not do what it is for. A reading of the master
clock that is out of the expected interval makes the talker start anew with the next packet.
The one at hand is sent all the same, with the stamps of its last life.

The results are about one call (`survives_iff`) and, from it, about every run: all calls of
a run survive exactly if each of them finds the clock it needs.
-/

namespace AvbStreamHandler

open Kit Kit.Word Kit.Run IasAvbCompatibility IasAvbClockReferenceStreamType

/-- The clock has a rate and a time. -/
def MasterReading.Available (r : MasterReading) : Prop := r.eventRate ≠ 0 ∧ r.eventTime ≠ 0

instance (r : MasterReading) : Decidable r.Available :=
  inferInstanceAs (Decidable (_ ∧ _))

namespace IasAvbClockReferenceStream

/-! ## What a call is to do -/

/-- The stamp of event `i` of a packet that begins with event `count`. -/
def stampOf (s : IasAvbClockReferenceStream) (duration : Nat → Nat) (count i : Nat) : Nat :=
  add64
    (add64 s.mMasterTime (duration (sub64 (count + i * s.mTimeStampInterval)
      (add64 s.mMasterCount s.mRefPlaneEventOffset))))
    s.mPresentationTimeOffset

/-- The zero-valued fields that ask for `resetTime`. -/
def Restarts (s : IasAvbClockReferenceStream) : Prop :=
  s.mRefPlaneEventCount = 0 ∧ s.mRefPlaneEventTime = 0

instance (s : IasAvbClockReferenceStream) : Decidable s.Restarts :=
  inferInstanceAs (Decidable (_ ∧ _))

/-- The reference a call goes by, before it looks at the clock once more. -/
def goesBy (s : IasAvbClockReferenceStream) (r : MasterReading) : IasAvbClockReferenceStream :=
  if s.Restarts then { s with mMasterTime := r.eventTime, mMasterCount := s.masterCountOf r }
  else s

/-- The stamps of a packet come from the master's reference, which is the reading of this call
or one the talker has taken before. -/
structure FromMaster (s s' : IasAvbClockReferenceStream) (clock : MasterAnswers) (bytes : Bytes)
    (stamps : List Nat) : Prop where
  master : s'.mMasterTime ≠ 0
  reading : (s'.mMasterTime = clock.now.eventTime
      ∧ s'.mMasterCount = s.masterCountOf clock.now)
    ∨ (s'.mMasterTime = (s.goesBy clock.atReset).mMasterTime
      ∧ s'.mMasterCount = (s.goesBy clock.atReset).mMasterCount)
  length : stamps.length = s.mTimeStampsPerPdu
  times : ∀ i, i < s.mTimeStampsPerPdu →
    stamps[i]? = some (s'.stampOf clock.duration s.mRefPlaneEventCount i)
  /-- They are in the packet. -/
  written : ∀ i, i < s.mTimeStampsPerPdu → stamps[i]? = some (s.format.stamp bytes i)

/-- What comes out of a call. A stream that is not active gives nothing. -/
def Emits (s s' : IasAvbClockReferenceStream) (clock : MasterAnswers) : CrfTxOutcome → Prop
  | .refused => s.mActive = false
  | .blocked => False
  | .dummyPacket _ => True
  | .trap => False
  | .packet bytes stamps _ => FromMaster s s' clock bytes stamps

/-- A call of `writeToAvbPacket` that got through. -/
structure Survives (s : IasAvbClockReferenceStream) (m : Bytes) (nextWindowStart : Nat)
    (clock : MasterAnswers) : Prop where
  released : (s.writeToAvbPacket m nextWindowStart clock).1.mLockHeld = false
  emits : Emits s (s.writeToAvbPacket m nextWindowStart clock).1 clock
    (s.writeToAvbPacket m nextWindowStart clock).2
  /-- A clock that is there again is used. -/
  recovers : s.mActive = true → clock.atReset.Available → clock.now.Available →
    ∃ bytes stamps attime,
      (s.writeToAvbPacket m nextWindowStart clock).2 = .packet bytes stamps attime

/-- The call finds the clock it needs: there is one if it starts anew, it has a rate, and its
time is where the talker expects it. -/
def MasterOk (s : IasAvbClockReferenceStream) (clock : MasterAnswers) : Prop :=
  (s.Restarts → clock.atReset.Available)
    ∧ clock.now.eventRate ≠ 0
    ∧ (s.goesBy clock.atReset).HasMaster clock.now

instance (s : IasAvbClockReferenceStream) (clock : MasterAnswers) :
    Decidable (s.MasterOk clock) :=
  inferInstanceAs (Decidable (_ ∧ _ ∧ _))

/-! ## The start of a call -/

/-- What the stamps and the next look at the clock depend on. -/
structure SameReference (s s' : IasAvbClockReferenceStream) : Prop where
  masterTime : s'.mMasterTime = s.mMasterTime
  masterCount : s'.mMasterCount = s.mMasterCount
  timeout : s'.mMasterTimeout = s.mMasterTimeout
  minInterval : s'.mMasterTimeUpdateMinInterval = s.mMasterTimeUpdateMinInterval
  baseFreq : s'.mBaseFrequency = s.mBaseFrequency

theorem SameReference.masterCountOf {s s' : IasAvbClockReferenceStream}
    (h : SameReference s s') (r : MasterReading) : s'.masterCountOf r = s.masterCountOf r := by
  unfold IasAvbClockReferenceStream.masterCountOf
  rw [h.baseFreq]

theorem SameReference.hasMaster {s s' : IasAvbClockReferenceStream} (h : SameReference s s')
    (r : MasterReading) : s'.HasMaster r ↔ s.HasMaster r := by
  have htime : s'.InTime r ↔ s.InTime r := by
    unfold InTime
    rw [h.masterTime, h.timeout, h.masterCount, h.masterCountOf]
  have hsoon : s'.TooSoon r ↔ s.TooSoon r := by
    unfold TooSoon
    rw [h.masterTime, h.minInterval]
  unfold HasMaster
  simp only [htime, hsoon, h.masterTime]

theorem startPlane_eq (s : IasAvbClockReferenceStream) (r : MasterReading)
    (nextWindowStart : Nat) : s.startPlane r nextWindowStart
      = if s.Restarts then s.resetTime r nextWindowStart else (s, true) := rfl

theorem startPlane_ready {s : IasAvbClockReferenceStream} {r : MasterReading}
    (nextWindowStart : Nat) :
    (s.startPlane r nextWindowStart).2 = true ↔ (s.Restarts → r.Available) := by
  rw [startPlane_eq]
  by_cases hrestart : s.Restarts
  · rw [if_pos hrestart]
    unfold resetTime MasterReading.Available
    dsimp only
    by_cases hrate : r.eventRate = 0
    · simp [hrate, hrestart]
    · by_cases htime : r.eventTime = 0
      · simp [hrate, htime, hrestart]
      · simp [hrate, htime]
  · rw [if_neg hrestart]
    exact iff_of_true rfl fun h => absurd h hrestart

/-- A talker that is ready has the reference it goes by. -/
theorem startPlane_reference {s : IasAvbClockReferenceStream} {r : MasterReading}
    (nextWindowStart : Nat) (h : s.Restarts → r.Available) :
    SameReference (s.goesBy r) (s.startPlane r nextWindowStart).1
      ∧ (s.startPlane r nextWindowStart).1.mRefPlaneEventCount = s.mRefPlaneEventCount
      ∧ (s.startPlane r nextWindowStart).1.mLockHeld = s.mLockHeld := by
  rw [startPlane_eq]
  unfold goesBy
  by_cases hrestart : s.Restarts
  · obtain ⟨hrate, htime⟩ := h hrestart
    rw [if_pos hrestart, if_pos hrestart]
    unfold resetTime
    dsimp only
    rw [if_neg hrate, if_neg htime]
    refine ⟨⟨rfl, ?_, rfl, rfl, rfl⟩, rfl, rfl⟩
    dsimp only
    rw [if_neg hrate]
  · rw [if_neg hrestart, if_neg hrestart]
    exact ⟨⟨rfl, rfl, rfl, rfl, rfl⟩, rfl, rfl⟩

/-- The next reading, if it leaves a reference: taken over, or not yet. -/
theorem advanceMaster_reading {s : IasAvbClockReferenceStream} {r : MasterReading}
    (h : s.HasMaster r) :
    (((s.advanceMaster r).mMasterTime = r.eventTime
          ∧ (s.advanceMaster r).mMasterCount = s.masterCountOf r)
        ∨ ((s.advanceMaster r).mMasterTime = s.mMasterTime
          ∧ (s.advanceMaster r).mMasterCount = s.mMasterCount))
      ∧ (s.advanceMaster r).mRefPlaneEventCount = s.mRefPlaneEventCount
      ∧ (s.advanceMaster r).mLockHeld = s.mLockHeld := by
  unfold HasMaster at h
  unfold advanceMaster
  split
  · exact ⟨Or.inr ⟨rfl, rfl⟩, rfl, rfl⟩
  · rename_i hne
    split
    · rename_i hlate
      -- out of time: `HasMaster` excludes it
      rw [if_neg (by rintro (heq | hin); exacts [hne heq, hlate hin.1])] at h
      exact absurd h.1 hlate
    · split
      · exact ⟨Or.inr ⟨rfl, rfl⟩, rfl, rfl⟩
      · exact ⟨Or.inl ⟨rfl, rfl⟩, rfl, rfl⟩

theorem advanceMaster_lock (s : IasAvbClockReferenceStream) (r : MasterReading) :
    (s.advanceMaster r).mLockHeld = s.mLockHeld := by
  unfold advanceMaster
  split
  · rfl
  · split
    · rfl
    · split <;> rfl

/-! ## The stamps -/

theorem sub64_congr {a a' : Nat} (h : a % 18446744073709551616 = a' % 18446744073709551616)
    (b : Nat) : sub64 a b = sub64 a' b := by
  unfold sub64
  omega

/-- After `n` stamps of a packet. -/
structure Timed (s : IasAvbClockReferenceStream) (duration : Nat → Nat) (n : Nat) (w : Writing) :
    Prop where
  masterTime : w.stream.mMasterTime = s.mMasterTime
  masterCount : w.stream.mMasterCount = s.mMasterCount
  offset : w.stream.mRefPlaneEventOffset = s.mRefPlaneEventOffset
  interval : w.stream.mTimeStampInterval = s.mTimeStampInterval
  presentation : w.stream.mPresentationTimeOffset = s.mPresentationTimeOffset
  lock : w.stream.mLockHeld = s.mLockHeld
  count : w.stream.mRefPlaneEventCount % 18446744073709551616
    = (s.mRefPlaneEventCount + n * s.mTimeStampInterval) % 18446744073709551616
  length : w.stamps.length = n
  times : ∀ i, i < n → w.stamps[i]? = some (s.stampOf duration s.mRefPlaneEventCount i)

theorem timed_zero (s : IasAvbClockReferenceStream) (duration : Nat → Nat) (m : Bytes) :
    Timed s duration 0 { stream := s, bytes := m } :=
  ⟨rfl, rfl, rfl, rfl, rfl, rfl, by rw [Nat.zero_mul, Nat.add_zero], rfl,
    fun i hi => absurd hi (Nat.not_lt_zero i)⟩

theorem timed_step {s : IasAvbClockReferenceStream} {duration : Nat → Nat} {n : Nat}
    {w : Writing} (h : Timed s duration n w) :
    Timed s duration (n + 1) (stampStep duration w n) := by
  have hstamp : add64 (w.stream.eventTimeOf duration) w.stream.mPresentationTimeOffset
      = s.stampOf duration s.mRefPlaneEventCount n := by
    unfold eventTimeOf stampOf
    rw [h.masterTime, h.masterCount, h.offset, h.presentation, sub64_congr h.count]
  refine ⟨h.masterTime, h.masterCount, h.offset, h.interval, h.presentation, h.lock, ?_, ?_, ?_⟩
  · show add64 w.stream.mRefPlaneEventCount w.stream.mTimeStampInterval % _ = _
    have hcount := h.count
    rw [h.interval, Nat.succ_mul]
    unfold add64
    omega
  · show (w.stamps ++ [_]).length = n + 1
    rw [List.length_append, h.length]
    rfl
  · intro i hi
    show (w.stamps ++ [_])[i]? = _
    rcases Nat.lt_or_ge i n with hlt | hge
    · rw [List.getElem?_append_left (by rw [h.length]; exact hlt)]
      exact h.times i hlt
    · obtain rfl : i = n := by omega
      rw [List.getElem?_append_right (Nat.le_of_eq h.length), h.length, Nat.sub_self, hstamp]
      rfl

theorem writeStamps_timed {s : IasAvbClockReferenceStream} (hmaster : s.mMasterTime ≠ 0)
    (duration : Nat → Nat) (m : Bytes) :
    Timed s duration s.mTimeStampsPerPdu (s.writeStamps duration m) := by
  unfold writeStamps
  rw [if_pos hmaster]
  exact foldl_range_inv (timed_zero s duration m) fun _ _ _ hw => timed_step hw

/-! ## One call -/

variable {s : IasAvbClockReferenceStream} {m : Bytes} {nextWindowStart : Nat}
  {clock : MasterAnswers}

/-- The talker of a call, when it has looked at the clock. -/
def advanced (s : IasAvbClockReferenceStream) (nextWindowStart : Nat) (clock : MasterAnswers) :
    IasAvbClockReferenceStream :=
  let start := (s.startPlane clock.atReset nextWindowStart).1
  (start.setSeqNum (start.mSeqNum + 1)).advanceMaster clock.now

/-- The packet of a call, with its stamps. -/
def written (s : IasAvbClockReferenceStream) (m : Bytes) (nextWindowStart : Nat)
    (clock : MasterAnswers) : Writing :=
  (s.advanced nextWindowStart clock).writeStamps clock.duration
    (m.put 2 (s.startPlane clock.atReset nextWindowStart).1.mSeqNum)

theorem writeToAvbPacket_of_ready (hfree : s.mLockHeld = false) (hactive : s.mActive = true)
    (hready : (s.startPlane clock.atReset nextWindowStart).2 = true)
    (hrate : clock.now.eventRate ≠ 0) :
    ∃ bytes attime, s.writeToAvbPacket m nextWindowStart clock
      = ((s.written m nextWindowStart clock).stream.markRestart clock.locked,
        .packet bytes (s.written m nextWindowStart clock).stamps attime) := by
  unfold writeToAvbPacket
  dsimp only
  rw [if_neg (by rw [hfree]; exact Bool.false_ne_true),
    if_neg (by rw [hactive]; exact Bool.noConfusion),
    if_neg (by rw [hready]; exact Bool.noConfusion), if_neg hrate]
  exact ⟨_, _, rfl⟩

/-- Without a clock to start from, and with one that has no rate, the lock stays taken. -/
theorem lock_kept (hactive : s.mActive = true)
    (h : (s.startPlane clock.atReset nextWindowStart).2 = false ∨ clock.now.eventRate = 0) :
    (s.writeToAvbPacket m nextWindowStart clock).1.mLockHeld = true := by
  unfold writeToAvbPacket
  dsimp only
  split
  · assumption
  · rw [if_neg (by rw [hactive]; exact Bool.noConfusion)]
    split
    · rfl
    · rename_i hready
      rcases h with hno | hrate
      · exact absurd hno hready
      · rw [if_pos hrate]
        rfl

/-- The talker when it has looked at the clock, if it found one to start from. -/
theorem advanced_reference (nextWindowStart : Nat) (h : s.Restarts → clock.atReset.Available) :
    ((s.advanced nextWindowStart clock).mMasterTime ≠ 0
        ↔ (s.goesBy clock.atReset).HasMaster clock.now)
      ∧ ((s.goesBy clock.atReset).HasMaster clock.now →
        (((s.advanced nextWindowStart clock).mMasterTime = clock.now.eventTime
              ∧ (s.advanced nextWindowStart clock).mMasterCount = s.masterCountOf clock.now)
            ∨ ((s.advanced nextWindowStart clock).mMasterTime
                = (s.goesBy clock.atReset).mMasterTime
              ∧ (s.advanced nextWindowStart clock).mMasterCount
                = (s.goesBy clock.atReset).mMasterCount))
          ∧ (s.advanced nextWindowStart clock).mRefPlaneEventCount = s.mRefPlaneEventCount)
      ∧ (s.advanced nextWindowStart clock).mLockHeld = s.mLockHeld := by
  obtain ⟨hsame, hcount, hlock⟩ := startPlane_reference nextWindowStart h
  have hbase : (s.goesBy clock.atReset).masterCountOf clock.now = s.masterCountOf clock.now := by
    unfold goesBy
    split <;> rfl
  unfold advanced
  dsimp only
  generalize (s.startPlane clock.atReset nextWindowStart).1 = start at hsame hcount hlock
  have hnext : SameReference (s.goesBy clock.atReset) (start.setSeqNum (start.mSeqNum + 1)) :=
    ⟨hsame.masterTime, hsame.masterCount, hsame.timeout, hsame.minInterval, hsame.baseFreq⟩
  refine ⟨?_, ?_, ?_⟩
  · rw [advanceMaster_iff]
    exact hnext.hasMaster clock.now
  · intro hmaster
    obtain ⟨hreading, hplane, -⟩ := advanceMaster_reading ((hnext.hasMaster clock.now).mpr hmaster)
    rw [hnext.masterCountOf, hnext.masterTime, hnext.masterCount, hbase] at hreading
    exact ⟨hreading, hplane.trans hcount⟩
  · rw [advanceMaster_lock]
    exact hlock

/-- A call that finds its clock writes a packet from it, and gives the lock back. -/
theorem call_of_masterOk (hfree : s.mLockHeld = false) (hactive : s.mActive = true)
    (h : s.MasterOk clock) (m : Bytes) (nextWindowStart : Nat) :
    ∃ s' bytes stamps attime,
      s.writeToAvbPacket m nextWindowStart clock = (s', .packet bytes stamps attime)
        ∧ s'.mLockHeld = false ∧ FromMaster s s' clock bytes stamps := by
  obtain ⟨hreset, hrate, hmaster⟩ := h
  have hready := (startPlane_ready nextWindowStart).mpr hreset
  obtain ⟨bytes, attime, hcall⟩ := writeToAvbPacket_of_ready (m := m) hfree hactive hready hrate
  obtain ⟨hiff, hreference, hlock⟩ := advanced_reference nextWindowStart hreset
  obtain ⟨hreading, hcount⟩ := hreference hmaster
  have htimed := writeStamps_timed (hiff.mpr hmaster) clock.duration
    (m.put 2 (s.startPlane clock.atReset nextWindowStart).1.mSeqNum)
  have hpacket := writeToAvbPacket_packet hcall
  -- the reference the packet was written from is the one the call ends with
  have hhas : ((s.startPlane clock.atReset nextWindowStart).1).HasMaster clock.now :=
    ((startPlane_reference nextWindowStart hreset).1.hasMaster clock.now).mpr hmaster
  refine ⟨_, _, _, _, hcall, ?_, ?_, ?_, hpacket.length hhas, ?_, hpacket.stamp hhas⟩
  · exact htimed.lock.trans (hlock.trans hfree)
  · show (s.written m nextWindowStart clock).stream.mMasterTime ≠ 0
    unfold written
    rw [htimed.masterTime]
    exact hiff.mpr hmaster
  · show ((s.written m nextWindowStart clock).stream.mMasterTime = _
        ∧ (s.written m nextWindowStart clock).stream.mMasterCount = _)
      ∨ ((s.written m nextWindowStart clock).stream.mMasterTime = _
        ∧ (s.written m nextWindowStart clock).stream.mMasterCount = _)
    unfold written
    rw [htimed.masterTime, htimed.masterCount]
    exact hreading
  · intro i hi
    have hper : (s.advanced nextWindowStart clock).mTimeStampsPerPdu = s.mTimeStampsPerPdu :=
      (advanceMaster_same _ clock.now).stampsPerPdu.trans
        (s.startPlane_same clock.atReset nextWindowStart).stampsPerPdu
    have htime := htimed.times i (hper ▸ hi)
    have hsame : ((s.written m nextWindowStart clock).stream.markRestart clock.locked).stampOf
          clock.duration s.mRefPlaneEventCount i
        = (s.advanced nextWindowStart clock).stampOf clock.duration
          (s.advanced nextWindowStart clock).mRefPlaneEventCount i := by
      show stampOf (s.written m nextWindowStart clock).stream _ _ _ = _
      unfold written stampOf
      rw [htimed.masterTime, htimed.masterCount, htimed.offset, htimed.interval,
        htimed.presentation, hcount]
    rw [hsame]
    exact htime

/-- **One call.** A call that gets the lock survives exactly if it finds its clock. -/
theorem survives_iff (hfree : s.mLockHeld = false) (hactive : s.mActive = true) :
    s.Survives m nextWindowStart clock ↔ s.MasterOk clock := by
  constructor
  · rintro ⟨hreleased, hemits, -⟩
    have hready : (s.startPlane clock.atReset nextWindowStart).2 = true := by
      by_contra hno
      rw [lock_kept hactive (Or.inl (Bool.not_eq_true _ ▸ hno))] at hreleased
      exact Bool.noConfusion hreleased
    have hrate : clock.now.eventRate ≠ 0 := by
      intro hzero
      rw [lock_kept hactive (Or.inr hzero)] at hreleased
      exact Bool.noConfusion hreleased
    have hreset := (startPlane_ready nextWindowStart).mp hready
    refine ⟨hreset, hrate, ?_⟩
    by_contra hno
    -- the packet is sent as it came
    obtain ⟨bytes, attime, hcall⟩ := writeToAvbPacket_of_ready (m := m) hfree hactive hready hrate
    obtain ⟨hiff, -, -⟩ := advanced_reference nextWindowStart hreset
    have hzero : ¬ (s.advanced nextWindowStart clock).mMasterTime ≠ 0 := fun hne =>
      hno (hiff.mp hne)
    rw [hcall] at hemits
    refine FromMaster.master hemits ?_
    show (s.written m nextWindowStart clock).stream.mMasterTime = 0
    unfold written writeStamps
    rw [if_neg hzero]
    exact not_not.mp hzero
  · intro h
    obtain ⟨s', bytes, stamps, attime, hcall, hlock, hfrom⟩ :=
      call_of_masterOk hfree hactive h m nextWindowStart
    refine ⟨?_, ?_, fun _ _ _ => ⟨bytes, stamps, attime, ?_⟩⟩
    · rw [hcall]
      exact hlock
    · rw [hcall]
      exact hfrom
    · rw [hcall]

/-- A stream that is not active is left alone. -/
theorem survives_inactive (hfree : s.mLockHeld = false) (hactive : s.mActive = false) :
    s.Survives m nextWindowStart clock := by
  have hcall : s.writeToAvbPacket m nextWindowStart clock = (s, .refused) := by
    unfold writeToAvbPacket
    rw [if_neg (by rw [hfree]; exact Bool.false_ne_true), if_pos hactive]
  refine ⟨?_, ?_, fun hyes => ?_⟩
  · rw [hcall]
    exact hfree
  · rw [hcall]
    exact hactive
  · rw [hactive] at hyes
    exact Bool.noConfusion hyes

end IasAvbClockReferenceStream

/-! ## Runs -/

namespace CrfTalker

open IasAvbClockReferenceStream

/-- The call comes back. `activationChanged` takes the lock and gives it back. -/
def Survives (w : CrfTalker) : CrfTalkerEvent → Prop
  | .activate => w.stream.activate.mLockHeld = false
  | .deactivate => w.stream.deactivate.mLockHeld = false
  | .write k nextWindowStart clock => w.stream.Survives (w.packets k) nextWindowStart clock

/-- A stream that is active finds its clock. -/
def ClockOk (w : CrfTalker) : CrfTalkerEvent → Prop
  | .activate => True
  | .deactivate => True
  | .write _ _ clock => w.stream.mActive = true → w.stream.MasterOk clock

instance (w : CrfTalker) : ∀ e, Decidable (w.ClockOk e)
  | .activate => inferInstanceAs (Decidable True)
  | .deactivate => inferInstanceAs (Decidable True)
  | .write _ _ clock =>
      inferInstanceAs (Decidable (w.stream.mActive = true → w.stream.MasterOk clock))

theorem write_stream (w : CrfTalker) (k nextWindowStart : Nat) (clock : MasterAnswers) :
    (w.write k nextWindowStart clock).stream = (w.writeCall k nextWindowStart clock).1 := by
  unfold write
  split
  · rename_i hcall
    rw [hcall]
    rfl
  · rename_i hcall
    rw [hcall]
    rfl

theorem survives_iff_clockOk {w : CrfTalker} (hfree : w.stream.mLockHeld = false)
    (e : CrfTalkerEvent) : w.Survives e ↔ w.ClockOk e := by
  cases e with
  | activate =>
      refine iff_of_true ?_ trivial
      show w.stream.activate.mLockHeld = false
      unfold activate
      split
      · exact hfree
      · rw [if_neg (by rw [hfree]; exact Bool.false_ne_true)]
        exact hfree
  | deactivate => exact iff_of_true hfree trivial
  | write k nextWindowStart clock =>
      show w.stream.Survives _ _ _ ↔ (w.stream.mActive = true → w.stream.MasterOk clock)
      by_cases hactive : w.stream.mActive = true
      · rw [survives_iff hfree hactive]
        exact ⟨fun h _ => h, fun h => h hactive⟩
      · exact iff_of_true (survives_inactive hfree (Bool.not_eq_true _ ▸ hactive))
          fun h => absurd h hactive

/-- A call that comes back leaves the lock to the next one. -/
theorem lock_step {w : CrfTalker} {e : CrfTalkerEvent} (h : w.Survives e) :
    (w.step e).stream.mLockHeld = false := by
  cases e with
  | activate => exact h
  | deactivate => exact h
  | write k nextWindowStart clock =>
      show (w.write k nextWindowStart clock).stream.mLockHeld = false
      rw [write_stream]
      exact IasAvbClockReferenceStream.Survives.released h

/--
**A talker survives as long as it finds its clock.**

Take any accepted configuration and any run of activations and calls, the packets of the pool
in any order, the clock answering anything. All calls come back with the lock given back and
with a packet stamped from the master's reference, and use a clock that is there again,
exactly if no call finds the clock missing, without a rate, or out of the expected interval.
-/
theorem talker_survives_iff {comp : IasAvbCompatibility} {env : CrfTxEnvironment}
    {type : IasAvbClockReferenceStreamType} {stamps interval : UInt16} {baseFreq : UInt32}
    {pull : IasAvbClockMultiplier} {poolSize : Nat} {t : IasAvbClockReferenceStream}
    (hinit : initTransmit comp env type stamps interval baseFreq pull poolSize = .ok t)
    (streamId reference : Nat) (memory : Nat → Bytes) (es : List CrfTalkerEvent) :
    Always step Survives (start t streamId reference memory) es ↔
      Always step ClockOk (start t streamId reference memory) es := by
  obtain ⟨-, -, -, -, -, -, -, -, -, -, hfree, -⟩ := initTransmit_ok hinit
  have hrule : ∀ w e, w.stream.mLockHeld = false → (Survives w e ↔ ClockOk w e) :=
    fun _ e h => survives_iff_clockOk h e
  have hstep : ∀ w e, w.stream.mLockHeld = false → Survives w e →
      (step w e).stream.mLockHeld = false := fun _ _ _ h => lock_step h
  exact always_congr hrule hstep hfree

/-- The sample talker, started. -/
def sampleStart : CrfTalker := start (sampleTalker eIasAvbCompLatest 48000) 1 0 fun _ _ => 0

/-- A clock that is not there. -/
def missingClock : MasterAnswers :=
  { sampleClock with atReset := ⟨0, 0, 48000⟩, now := ⟨0, 0, 48000⟩ }

/-- Two packets from a clock that goes on. -/
theorem talker_survives_iff_sample :
    Always step Survives sampleStart [.activate, .write 0 0 sampleClock,
      .write 1 0 { sampleClock with now := ⟨1160, 3338333, 48000⟩ }] :=
  (@talker_survives_iff eIasAvbCompLatest sampleEnvironment eIasAvbCrsTypeAudio 2 160 48000
    IasAvbClockMultiplier.eIasAvbCrsMultFlat 8 _ rfl 1 0 (fun _ _ => 0) _).mpr (by decide +kernel)

/-- A stream is activated before its reference clock is there. The first call makes a dummy and
keeps the lock; the second, which finds the clock, waits forever. -/
theorem missing_clock_blocks :
    ¬ Always step Survives sampleStart
      [.activate, .write 0 0 missingClock, .write 1 0 sampleClock] := by
  rintro ⟨-, hfirst, -⟩
  have hreleased := IasAvbClockReferenceStream.Survives.released hfirst
  exact absurd hreleased (by decide +kernel)

end CrfTalker

end AvbStreamHandler
