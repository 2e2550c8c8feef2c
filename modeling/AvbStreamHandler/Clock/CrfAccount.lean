import AvbStreamHandler.Clock.CrfGate
import Mathlib.Algebra.GroupWithZero.Nat

/-!
# Every event is counted once

Between two resets of the receive clock domain, a listener that accepts packets passes on
the events their stamps stand for: in one update per stamp while the clock is not locked,
later in bulk, skipping all stamps of a packet but the last, and not at all while the last
update is more recent than the hold-off time. What is not passed on yet waits in
`mRefPlaneEventCount`.

The account is kept over the calls made so far: the events passed on and those pending add
up to the interval times the stamps received, as 64-bit counters have it, and the wall-clock
deltas add up to the time of the last update. Both are preserved by the body of the update
loop, by the skipping, and therefore by a packet and a run.
-/

namespace AvbStreamHandler

open Kit Kit.Word Kit.Run IasAvbStreamState

/-- `IasAvbRxStreamClockDomain`: the event count and its time. -/
structure IasAvbRxStreamClockDomain where
  mEventCount : Nat := 0
  mEventTimeStamp : Nat := 0
  mEventRate : Nat := 0

namespace IasAvbClockReferenceStream

namespace RxClockCall

/-- The events an update stands for. -/
def events : RxClockCall → Nat
  | reset _ _ => 0
  | update events _ _ _ => events

/-- The wall-clock time an update stands for. -/
def wallClock : RxClockCall → Nat
  | reset _ _ => 0
  | update _ _ _ delta => delta

end RxClockCall

/-- `reset` and `update`, as far as they count events. -/
def applyCall (d : IasAvbRxStreamClockDomain) : RxClockCall → IasAvbRxStreamClockDomain
  | .reset timestamp eventRate => ⟨0, timestamp, eventRate⟩
  | .update events timestamp _ _ =>
      { d with mEventCount := add64 d.mEventCount events, mEventTimeStamp := timestamp }

def eventSum (calls : List RxClockCall) : Nat := (calls.map RxClockCall.events).sum

def wallSum (calls : List RxClockCall) : Nat := (calls.map RxClockCall.wallClock).sum

/-- After `k` stamps of `interval` events each, counted from time `start`. -/
structure Account (interval k start : Nat) (calls : List RxClockCall)
    (s : IasAvbClockReferenceStream) : Prop where
  events : (eventSum calls + s.mRefPlaneEventCount) % 18446744073709551616
    = interval * k % 18446744073709551616
  /-- Nothing wraps around before a counter is full. -/
  exact : interval * k < 18446744073709551616 →
    eventSum calls + s.mRefPlaneEventCount = interval * k
  /-- The reference plane is at the last update. -/
  time : s.mRefPlaneEventTime = start + wallSum calls
  /-- The clock domain has counted what it was told. -/
  domain : ∀ d : IasAvbRxStreamClockDomain,
    (calls.foldl applyCall d).mEventCount = eventSum calls % 18446744073709551616
      ∧ (calls.foldl applyCall d).mEventTimeStamp = s.mRefPlaneEventTime

variable {interval k start : Nat} {calls : List RxClockCall} {s : IasAvbClockReferenceStream}
  {p : Bytes} {found : Findings} {r : Received}

theorem eventSum_append (calls calls' : List RxClockCall) :
    eventSum (calls ++ calls') = eventSum calls + eventSum calls' := by
  unfold eventSum
  rw [List.map_append, List.sum_append]

theorem wallSum_append (calls calls' : List RxClockCall) :
    wallSum (calls ++ calls') = wallSum calls + wallSum calls' := by
  unfold wallSum
  rw [List.map_append, List.sum_append]

/-! ## The steps of the account -/

/-- A reset opens an account. -/
theorem account_reset {timestamp eventRate : Nat} (hcount : s.mRefPlaneEventCount = 0)
    (htime : s.mRefPlaneEventTime = timestamp) :
    Account interval 0 timestamp [.reset timestamp eventRate] s where
  events := by rw [hcount]; rfl
  exact := fun _ => by rw [hcount]; rfl
  time := htime
  domain := fun _ => ⟨rfl, htime.symm⟩

/-- Stamps that are skipped are pending. -/
theorem account_pend (h : Account interval k start calls s) (m : Nat) :
    Account interval (k + m) start calls
      (s.setRefPlane (add64 s.mRefPlaneEventCount (m * interval)) s.mRefPlaneEventTime) := by
  have hevents := h.events
  have hexact := h.exact
  have hmul : interval * (k + m) = interval * k + m * interval := by
    rw [Nat.mul_add, Nat.mul_comm interval m]
  refine ⟨?_, ?_, h.time, h.domain⟩
  · show (eventSum calls + add64 s.mRefPlaneEventCount (m * interval)) % _ = _
    rw [hmul]
    unfold add64
    omega
  · show _ → eventSum calls + add64 s.mRefPlaneEventCount (m * interval) = _
    rw [hmul]
    unfold add64
    omega

/-- What is pending is passed on with the next stamp. -/
theorem account_update {timestamp : Nat} {delta : Option Nat}
    (h : Account interval k start calls s) (hlt : s.mRefPlaneEventTime < timestamp)
    (hmax : timestamp < 18446744073709551616) :
    Account interval (k + 1) start
      (calls ++ [.update (add64 s.mRefPlaneEventCount interval) timestamp delta
        (sub64 timestamp s.mRefPlaneEventTime)]) (s.setRefPlane 0 timestamp) := by
  have hevents := h.events
  have hexact := h.exact
  have htime := h.time
  have hmul : interval * (k + 1) = interval * k + interval := Nat.mul_succ ..
  have hsum : eventSum (calls ++ [.update (add64 s.mRefPlaneEventCount interval) timestamp delta
      (sub64 timestamp s.mRefPlaneEventTime)])
      = eventSum calls + (s.mRefPlaneEventCount + interval) % 18446744073709551616 :=
    eventSum_append ..
  have hwall : wallSum (calls ++ [.update (add64 s.mRefPlaneEventCount interval) timestamp delta
      (sub64 timestamp s.mRefPlaneEventTime)])
      = wallSum calls + (timestamp - s.mRefPlaneEventTime) := by
    refine (wallSum_append ..).trans (congrArg (wallSum calls + ·) ?_)
    show sub64 timestamp s.mRefPlaneEventTime = _
    unfold sub64
    omega
  refine ⟨?_, ?_, ?_, ?_⟩
  · rw [hsum, hmul]
    show (_ + 0) % _ = _
    omega
  · rw [hsum, hmul]
    show _ → _ + 0 = _
    omega
  · rw [hwall]
    show timestamp = _
    omega
  · intro d
    rw [List.foldl_append, hsum]
    refine ⟨?_, rfl⟩
    show add64 (calls.foldl applyCall d).mEventCount (add64 s.mRefPlaneEventCount interval) = _
    rw [(h.domain d).1]
    unfold add64
    omega

/-- The body of the update loop: one more stamp. -/
theorem account_updateStep {pre : List RxClockCall} {i : Nat}
    (h : Account interval k start (pre ++ r.calls) r.stream)
    (hinterval : found.eventsPerStamp = interval)
    (hlt : r.stream.mRefPlaneEventTime < r.stream.format.stamp p i) :
    Account interval (k + 1) start (pre ++ (updateStep p found r i).calls)
        (updateStep p found r i).stream
      ∧ ((updateStep p found r i).stream.mRefPlaneEventTime = r.stream.mRefPlaneEventTime
        ∨ (updateStep p found r i).stream.mRefPlaneEventTime = r.stream.format.stamp p i) := by
  have hmax : r.stream.format.stamp p i < 18446744073709551616 := Bytes.be64_lt ..
  unfold updateStep
  dsimp only
  rw [hinterval]
  split
  · refine ⟨?_, Or.inr rfl⟩
    have hupdate := @account_update interval k start _ _ _
      (deltaMediaClock (add64 r.stream.mRefPlaneEventCount interval) found.baseFreq) h hlt hmax
    rw [List.append_assoc] at hupdate
    exact hupdate
  · refine ⟨?_, Or.inl rfl⟩
    have hpend := account_pend h 1
    rw [Nat.one_mul] at hpend
    exact hpend

/-- The update loop: as many stamps as it runs over. The reference plane ends at one of them,
or where it was. -/
theorem account_foldl {pre : List RxClockCall} {is : List Nat}
    (h : Account interval k start (pre ++ r.calls) r.stream)
    (hinterval : found.eventsPerStamp = interval)
    (hincr : (r.stream.mRefPlaneEventTime :: is.map (r.stream.format.stamp p)).Pairwise
      (· < ·)) :
    Account interval (k + is.length) start (pre ++ (is.foldl (updateStep p found) r).calls)
        (is.foldl (updateStep p found) r).stream
      ∧ (is.foldl (updateStep p found) r).stream.mRefPlaneEventTime
        ∈ r.stream.mRefPlaneEventTime :: is.map (r.stream.format.stamp p) := by
  induction is generalizing r k with
  | nil => exact ⟨h, List.mem_cons_self⟩
  | cons i is ih =>
      rw [List.map_cons] at hincr ⊢
      obtain ⟨htimes, hstamps⟩ := List.pairwise_cons.mp hincr
      obtain ⟨hstep, htime⟩ :=
        account_updateStep h hinterval (htimes _ List.mem_cons_self)
      obtain ⟨⟨c, t, hstream⟩, -⟩ := updateStep_spec p found r i
      have hformat : (updateStep p found r i).stream.format = r.stream.format := by
        rw [hstream]
        rfl
      have hrest : ((updateStep p found r i).stream.mRefPlaneEventTime
          :: is.map (r.stream.format.stamp p)).Pairwise (· < ·) := by
        refine List.pairwise_cons.mpr ⟨?_, (List.pairwise_cons.mp hstamps).2⟩
        rcases htime with htime | htime
        · rw [htime]
          exact fun t ht => htimes t (List.mem_cons_of_mem _ ht)
        · rw [htime]
          exact (List.pairwise_cons.mp hstamps).1
      rw [← hformat] at hrest
      obtain ⟨hacc, hmem⟩ := ih hstep hrest
      rw [List.foldl_cons, List.length_cons, ← Nat.add_assoc, Nat.add_right_comm]
      refine ⟨hacc, ?_⟩
      rw [hformat] at hmem
      rcases List.mem_cons.mp hmem with heq | hin
      · rw [heq]
        rcases htime with htime | htime
        · rw [htime]
          exact List.mem_cons_self
        · rw [htime]
          exact List.mem_cons_of_mem _ List.mem_cons_self
      · exact List.mem_cons_of_mem _ (List.mem_cons_of_mem _ hin)

/-! ## A packet -/

/-- The stamps of a packet, as far as its length says it has any. -/
def stampsOf (s : IasAvbClockReferenceStream) (p : Bytes) (found : Findings) : List Nat :=
  (List.range (numStampsOf found.payloadLength)).map (s.format.stamp p)

/-- Skipping, and the rest of the packet: every stamp from `i` on is counted. -/
theorem account_rest {pre : List RxClockCall} {i : Nat}
    (h : Account interval k start (pre ++ r.calls) r.stream)
    (hinterval : found.eventsPerStamp = interval)
    (hincr : (r.stream.mRefPlaneEventTime :: (List.range' i
      (numStampsOf found.payloadLength - i)).map (r.stream.format.stamp p)).Pairwise (· < ·)) :
    let skipped := skipStamps found r i
    Account interval (k + (numStampsOf found.payloadLength - i)) start
        (pre ++ (updateStamps p found skipped.1 skipped.2).calls)
        (updateStamps p found skipped.1 skipped.2).stream
      ∧ (updateStamps p found skipped.1 skipped.2).stream.mRefPlaneEventTime
        ∈ r.stream.mRefPlaneEventTime :: (List.range' i
          (numStampsOf found.payloadLength - i)).map (r.stream.format.stamp p) := by
  subst hinterval
  dsimp only
  unfold skipStamps updateStamps
  dsimp only
  split
  · rename_i hskip
    have hlast : numStampsOf found.payloadLength - (numStampsOf found.payloadLength - 1) = 1 := by
      have := hskip.2
      omega
    have hsub : (List.range' (numStampsOf found.payloadLength - 1) 1).Sublist
        (List.range' i (numStampsOf found.payloadLength - i)) := by
      refine List.singleton_sublist.mpr (List.mem_range'_1.mpr ?_)
      have := hskip.2
      omega
    have hpend := account_pend h (numStampsOf found.payloadLength - i - 1)
    dsimp only
    rw [hlast]
    obtain ⟨hacc, hmem⟩ := @account_foldl found.eventsPerStamp _ start p found
      (r.withStream (r.stream.setRefPlane (add64 r.stream.mRefPlaneEventCount
        ((numStampsOf found.payloadLength - i - 1) * found.eventsPerStamp))
        r.stream.mRefPlaneEventTime)) pre (List.range' (numStampsOf found.payloadLength - 1) 1)
      hpend rfl (hincr.sublist ((hsub.map _).cons_cons _))
    refine ⟨?_, ?_⟩
    · have hk : k + (numStampsOf found.payloadLength - i - 1) + 1
          = k + (numStampsOf found.payloadLength - i) := by
        have := hskip.2
        omega
      rw [← hk]
      exact hacc
    · exact ((hsub.map _).cons_cons _).subset hmem
  · obtain ⟨hacc, hmem⟩ := account_foldl h rfl hincr
    rw [List.length_range'] at hacc
    exact ⟨hacc, hmem⟩

/-- A packet without a reset: all of its stamps are counted. -/
theorem account_process {pre : List RxClockCall} {rx : RxAnswers}
    (h : Account interval k start pre s) (hinterval : found.eventsPerStamp = interval)
    (hdue : ¬ (s.setConfig p found).ResetDue p rx)
    (hincr : (s.mRefPlaneEventTime :: s.stampsOf p found).Pairwise (· < ·)) :
    Account interval (k + numStampsOf found.payloadLength) start
        (pre ++ (s.processStamps p found rx).calls) (s.processStamps p found rx).stream
      ∧ (s.processStamps p found rx).stream.mRefPlaneEventTime
        ∈ s.mRefPlaneEventTime :: s.stampsOf p found := by
  unfold stampsOf at hincr ⊢
  rw [List.range_eq_range'] at hincr ⊢
  unfold processStamps
  dsimp only
  rw [resetClockDomain_of_not_due hdue]
  have hstart : Account interval k start
      (pre ++ (Received.mk (s.setConfig p found) [] [0]).calls) (s.setConfig p found) := by
    rw [List.append_nil]
    exact ⟨h.events, h.exact, h.time, h.domain⟩
  obtain ⟨hacc, hmem⟩ := account_rest hstart hinterval hincr
  exact ⟨⟨hacc.events, hacc.exact, hacc.time, hacc.domain⟩, hmem⟩

/-- A packet with a reset: its first stamp opens the account, the others are counted. -/
theorem account_open {rx : RxAnswers} (hinterval : found.eventsPerStamp = interval)
    (hdue : (s.setConfig p found).ResetDue p rx)
    (hpos : 0 < numStampsOf found.payloadLength)
    (hincr : (s.stampsOf p found).Pairwise (· < ·)) :
    Account interval (numStampsOf found.payloadLength - 1) (s.format.stamp p 0)
        (s.processStamps p found rx).calls (s.processStamps p found rx).stream
      ∧ (s.processStamps p found rx).stream.mRefPlaneEventTime ∈ s.stampsOf p found := by
  have hrange : List.range (numStampsOf found.payloadLength)
      = 0 :: List.range' 1 (numStampsOf found.payloadLength - 1) := by
    rw [List.range_eq_range', ← Nat.succ_pred_eq_of_pos hpos]
    rfl
  unfold stampsOf at hincr ⊢
  rw [hrange, List.map_cons] at hincr ⊢
  unfold processStamps
  dsimp only
  rw [resetClockDomain_of_due hdue]
  obtain ⟨hacc, hmem⟩ := @account_rest interval 0 (s.format.stamp p 0) p found
    ((({ stream := s.setConfig p found, stampsRead := [0] } : Received).addCall
      (.reset ((s.setConfig p found).format.stamp p 0) found.baseFreq)).withStream
      ((((s.setConfig p found).setRestartToggle (mrField p)).setClockValid false).setRefPlane 0
        ((s.setConfig p found).format.stamp p 0))) [] 1
    (account_reset rfl rfl) hinterval hincr
  rw [Nat.zero_add] at hacc
  exact ⟨⟨hacc.events, hacc.exact, hacc.time, hacc.domain⟩, hmem⟩

/-! ## A run -/

/-- A call, with the calls of the clock domain kept. -/
def readLog (w : Received) (q : CrfPacket) : Received :=
  let r := w.stream.readFromAvbPacket (some q.bytes) q.length q.rx
  { stream := r.stream, calls := w.calls ++ r.calls }

/-- The stamps the stream receives with a packet. -/
def received (s : IasAvbClockReferenceStream) (q : CrfPacket) : List Nat :=
  s.stampsOf q.bytes (s.validate q.bytes q.length)

/-- The stamps of a run. -/
def runStamps : IasAvbClockReferenceStream → List CrfPacket → List Nat
  | _, [] => []
  | s, q :: qs => s.received q ++ runStamps (s.readStep q.event) qs

/-- An accepted packet with the interval of the run, that does not reset the clock domain. -/
def Between (interval : Nat) (w : Received) (q : CrfPacket) : Prop :=
  w.stream.Accepted q.bytes q.length
    ∧ (w.stream.validate q.bytes q.length).eventsPerStamp = interval
    ∧ (w.stream.readFromAvbPacket (some q.bytes) q.length q.rx).resets = 0

instance (interval : Nat) (w : Received) (q : CrfPacket) : Decidable (Between interval w q) :=
  inferInstanceAs (Decidable (_ ∧ _ ∧ _))

theorem account_congr {s' : IasAvbClockReferenceStream} (h : Account interval k start calls s)
    (hcount : s'.mRefPlaneEventCount = s.mRefPlaneEventCount)
    (htime : s'.mRefPlaneEventTime = s.mRefPlaneEventTime) :
    Account interval k start calls s' where
  events := by rw [hcount]; exact h.events
  exact := by rw [hcount]; exact h.exact
  time := htime.trans h.time
  domain := fun d => ⟨(h.domain d).1, (h.domain d).2.trans htime.symm⟩

theorem countDown_refPlane (s : IasAvbClockReferenceStream) :
    s.countDown.mRefPlaneEventCount = s.mRefPlaneEventCount
      ∧ s.countDown.mRefPlaneEventTime = s.mRefPlaneEventTime := by
  rcases Nat.lt_trichotomy s.mValidationCount 1 with h | h | h
  · rw [countDown_of_zero (by omega)]
    exact ⟨rfl, rfl⟩
  · rw [countDown_of_one h]
    exact ⟨rfl, rfl⟩
  · rw [countDown_of_more h]
    exact ⟨rfl, rfl⟩

/-- While the flow goes on, the verdict does not touch the reference plane. -/
theorem settled_refPlane {q : CrfPacket} (hinternal : s.mStreamStateInternal = eIasAvbStreamValid)
    (haccepted : s.Accepted q.bytes q.length) :
    (s.settled q.bytes q.length).mRefPlaneEventCount = s.mRefPlaneEventCount
      ∧ (s.settled q.bytes q.length).mRefPlaneEventTime = s.mRefPlaneEventTime := by
  unfold settled
  rw [show (s.validate q.bytes q.length).newState = _ from haccepted,
    settle_keep (s := s.setSeqNum (q.bytes 2)) hinternal]
  exact countDown_refPlane _

/-- Where a run stands, between two packets. -/
structure Running (interval k start : Nat) (w : Received) : Prop where
  account : Account interval k start w.calls w.stream
  internal : w.stream.mStreamStateInternal = eIasAvbStreamValid
  domain : w.stream.hasRxClockDomain = true

theorem readStep_frame {q : CrfPacket} (hdomain : s.hasRxClockDomain = true)
    (haccepted : s.Accepted q.bytes q.length) :
    (s.readStep q.event).mStreamStateInternal = eIasAvbStreamValid
      ∧ (s.readStep q.event).hasRxClockDomain = true := by
  have hsame := s.read_sameCount q.bytes q.length q.rx
  refine ⟨hsame.internal.trans ?_,
    (hsame.domain.trans (s.settled_sameFormat q.bytes q.length).domain).trans hdomain⟩
  exact (settle_internal _ _).trans haccepted

theorem settled_stampsOf (s : IasAvbClockReferenceStream) (q : CrfPacket) :
    (s.settled q.bytes q.length).stampsOf q.bytes (s.validate q.bytes q.length)
      = s.received q := by
  unfold received stampsOf format
  rw [(s.settled_sameFormat q.bytes q.length).comp]
  rfl

/-- One more packet: all the stamps received are counted. -/
theorem running_step {w : Received} {q : CrfPacket} (h : Running interval k start w)
    (hq : Between interval w q)
    (hincr : (w.stream.mRefPlaneEventTime :: w.stream.received q).Pairwise (· < ·)) :
    Running interval (k + (w.stream.received q).length) start (readLog w q)
      ∧ (readLog w q).stream.mRefPlaneEventTime
        ∈ w.stream.mRefPlaneEventTime :: w.stream.received q := by
  obtain ⟨haccepted, hinterval, hresets⟩ := hq
  obtain ⟨hinternal, hdomain⟩ := readStep_frame h.domain haccepted
  obtain ⟨hcount, htime⟩ := settled_refPlane h.internal haccepted
  have hsettled := account_congr h.account hcount htime
  have hlength : (w.stream.received q).length
      = numStampsOf (w.stream.validate q.bytes q.length).payloadLength := by
    unfold received stampsOf
    rw [List.length_map, List.length_range]
  by_cases hprocessed : w.stream.Processed q.bytes q.length
  · have hdue : ¬ ((w.stream.settled q.bytes q.length).setConfig q.bytes
        (w.stream.validate q.bytes q.length)).ResetDue q.bytes q.rx := by
      intro hdue
      rw [read_of_processed hprocessed, ((w.stream.settled q.bytes q.length).processStamps_spec
        q.bytes (w.stream.validate q.bytes q.length) q.rx).2.2, if_pos hdue] at hresets
      exact Nat.one_ne_zero hresets
    rw [← htime, ← settled_stampsOf] at hincr
    obtain ⟨hacc, hmem⟩ := account_process hsettled hinterval hdue hincr
    rw [htime, settled_stampsOf] at hmem
    rw [← hlength, ← read_of_processed hprocessed] at hacc
    rw [← read_of_processed hprocessed] at hmem
    exact ⟨⟨hacc, hinternal, hdomain⟩, hmem⟩
  · have hzero : (w.stream.received q).length = 0 := by
      rw [hlength]
      by_contra hne
      exact hprocessed ⟨haccepted, Nat.pos_of_ne_zero hne, h.domain⟩
    have hread : readLog w q = { stream := w.stream.settled q.bytes q.length, calls := w.calls } := by
      unfold readLog
      dsimp only
      rw [read_of_not_processed hprocessed, List.append_nil]
    rw [hzero, Nat.add_zero]
    refine ⟨⟨?_, hinternal, hdomain⟩, ?_⟩
    · rw [hread]
      exact hsettled
    · rw [hread]
      exact htime ▸ List.mem_cons_self

/-- What is left of an increasing sequence is above any place reached in it. -/
theorem pairwise_of_mem {t t' : Nat} {xs ys : List Nat}
    (h : (t :: (xs ++ ys)).Pairwise (· < ·)) (hmem : t' ∈ t :: xs) :
    (t' :: ys).Pairwise (· < ·) := by
  rw [← List.cons_append, List.pairwise_append] at h
  exact List.pairwise_cons.mpr ⟨fun y hy => h.2.2 t' hmem y hy, h.2.1⟩

/-- The rest of a run. -/
theorem running_exec {w : Received} {qs : List CrfPacket} (h : Running interval k start w)
    (hrun : Always readLog (Between interval) w qs)
    (hincr : (w.stream.mRefPlaneEventTime :: runStamps w.stream qs).Pairwise (· < ·)) :
    Running interval (k + (runStamps w.stream qs).length) start (exec readLog w qs) := by
  induction qs generalizing w k with
  | nil => exact h
  | cons q qs ih =>
      have hone : (w.stream.mRefPlaneEventTime :: w.stream.received q).Pairwise (· < ·) :=
        hincr.sublist ((List.sublist_append_left ..).cons_cons _)
      obtain ⟨hstep, hmem⟩ := running_step h hrun.1 hone
      have hrest := ih hstep hrun.2 (pairwise_of_mem hincr hmem)
      rw [Nat.add_assoc, ← List.length_append] at hrest
      exact hrest

/-- A packet with the next sequence number and two stamps, while the clock gets locked. -/
def twoStamps (seqNum high : UInt8) : CrfPacket where
  bytes := Bytes.ofList [4, 0x80, seqNum, 1, 0, 0, 0, 0, 0, 0, 0, 1, 0, 0, 0xBB, 0x80, 0, 16, 0,
    160, 0, 0, 0, 0, 0, 0, high, 0, 0, 0, 0, 0, 0, 0, high, 0x80]
  length := 36
  rx := { locked := true }

end IasAvbClockReferenceStream

end AvbStreamHandler
