import AvbStreamHandler.Kit.Run
import AvbStreamHandler.Audio.AvbAudioStream

/-!
# Healthy flows

Packets, idle timeouts, activation and the signals of the local stream act on the same
state, in any order. Next to the stream runs an observer that counts how long the flow has
been healthy: packets in order, numbered one after the other, no timeout and no underrun
between them.

A healthy flow of `mValidationThreshold` packets should make the stream valid. It does,
unless an underrun hits a stream that had already become valid: that takes the outer state
away and leaves the inner state and the count as they are, so nothing is left to wait for
and nothing will ever set the outer state again.

A flow whose first packet breaks off another one takes one packet more, since that first
packet is spent on noticing.
-/

namespace AvbStreamHandler

open Kit Kit.Run IasAvbStreamState

open DiscontinuityEvent

namespace AvbAudioConfig

/-- `signalDiscontinuity` of a receive stream: whether it wants the buffers reset, and what
becomes of it. -/
def signalDiscontinuity (s : RxStream LocalAudioStream) (event : DiscontinuityEvent) :
    Bool × RxStream LocalAudioStream :=
  match event with
  | eIasOverrun => (true, s)
  | eIasUnderrun => (false, (s.setStreamState eIasAvbStreamNoData).setClientActive false)
  | eIasUnspecific => (false, s)

/-- What can happen to a receive stream. `dispatchPacket` hands every packet on, active
stream or not. -/
inductive RxEvent
  | packet (packet : Bytes) (length : Nat)
  | timeout
  | activate
  | deactivate
  | discontinuity (event : DiscontinuityEvent)

def rxStep (c : AvbAudioConfig) (s : RxStream LocalAudioStream) :
    RxEvent → RxStream LocalAudioStream
  | .packet packet length => (c.readFromAvbPacket s (some packet) length).1
  | .timeout => (c.readFromAvbPacket s none 0).1
  | .activate => s.activate
  | .deactivate => s.deactivate
  | .discontinuity event => (signalDiscontinuity s event).2

/-- What the observer knows of the flow. -/
structure Flow where
  /-- How many packets in a row were in order and numbered one after the other. -/
  streak : Nat := 0
  /-- The number of the last packet. -/
  last : UInt8 := 0
  /-- The first of them broke off the flow the stream was following. -/
  late : Bool := false
deriving DecidableEq

/-- The observer sees a packet; `breaks` says that it breaks off the stream's flow. -/
def Flow.packet (f : Flow) (healthy breaks : Bool) (seqNum : UInt8) : Flow :=
  if healthy then
    if 0 < f.streak ∧ seqNum = f.last + 1 then
      { streak := f.streak + 1, last := seqNum, late := f.late }
    else { streak := 1, last := seqNum, late := breaks }
  else {}

/-- A stream under observation. -/
structure ObservedStream where
  stream : RxStream LocalAudioStream
  flow : Flow := {}
  /-- The stream has been deactivated, and the client not been switched on since. -/
  silenced : Bool := false
deriving DecidableEq

/-- The packet is not the one a stream that follows a flow is waiting for. -/
def Breaks (s : RxStream LocalAudioStream) (seqNum : UInt8) : Bool :=
  decide (s.mStreamStateInternal = eIasAvbStreamValid) && decide (seqNum ≠ s.mSeqNum + 1)

namespace ObservedStream

def init (c : AvbAudioConfig) (l : Option LocalAudioStream) : ObservedStream where
  stream := .init c.toRxConfig l

/-- The flow after an event. -/
def flowAfter (c : AvbAudioConfig) (w : ObservedStream) : RxEvent → Flow
  | .packet packet length =>
      w.flow.packet (c.headerOk packet length) (Breaks w.stream (packet 2)) (packet 2)
  | .timeout => {}
  | .activate => w.flow
  | .deactivate => w.flow
  | .discontinuity eIasUnderrun => {}
  | .discontinuity _ => w.flow

def isDeactivate : RxEvent → Bool
  | .deactivate => true
  | _ => false

def step (c : AvbAudioConfig) (w : ObservedStream) (e : RxEvent) : ObservedStream where
  stream := c.rxStep w.stream e
  flow := w.flowAfter c e
  silenced := (w.silenced || isDeactivate e) && !(c.rxStep w.stream e).clientActive

/-- No underrun hits a stream that has already become valid. -/
def StepOk (w : ObservedStream) : RxEvent → Prop
  | .discontinuity eIasUnderrun =>
      ¬ (w.stream.mStreamStateInternal = eIasAvbStreamValid ∧ w.stream.mValidationCount = 0)
  | _ => True

instance (w : ObservedStream) (e : RxEvent) : Decidable (StepOk w e) := by
  unfold StepOk
  split
  · exact inferInstanceAs (Decidable (¬ (_ ∧ _)))
  · exact inferInstanceAs (Decidable True)

/-- How far a healthy flow has got. -/
structure Counted (c : AvbAudioConfig) (s : RxStream LocalAudioStream) (f : Flow) : Prop where
  last : f.last = s.mSeqNum
  /-- Either the flow has just begun, with a packet that was spent on breaking off another,
  or every packet of it has been counted. -/
  progress : (f.late = true ∧ f.streak = 1 ∧ s.mStreamStateInternal ≠ eIasAvbStreamValid)
    ∨ (s.mStreamStateInternal = eIasAvbStreamValid
        ∧ s.mValidationCount + min (f.streak - f.late.toNat) c.mValidationThreshold
            ≤ c.mValidationThreshold)

/-- What holds all along a run. -/
structure Inv (c : AvbAudioConfig) (w : ObservedStream) : Prop where
  tied : w.stream.Tied c.toRxConfig (w.silenced = true)
  counted : 0 < w.flow.streak → Counted c w.stream w.flow

theorem inv_init (c : AvbAudioConfig) (l : Option LocalAudioStream) : Inv c (init c l) where
  tied := RxStream.tied_init ..
  counted h := by simp [init] at h

variable {c : AvbAudioConfig} {w : ObservedStream}

/-- The tie between the two states survives every event but the one underrun. -/
theorem tied_rxStep (hT : 1 ≤ c.mValidationThreshold) (h : Inv c w) {e : RxEvent}
    (hok : StepOk w e) :
    (c.rxStep w.stream e).Tied c.toRxConfig (w.silenced = true ∨ isDeactivate e = true) := by
  have hweak : w.stream.Tied c.toRxConfig (w.silenced = true ∨ isDeactivate e = true) :=
    h.tied.imp fun hs => Or.inr (Or.inl hs)
  cases e with
  | packet packet length => exact (hweak.setSeqNum _).settle hT _
  | timeout => exact hweak.settle hT _
  | activate =>
      show (RxStream.activate w.stream).Tied _ _
      unfold RxStream.activate
      split
      · exact hweak
      · exact (hweak.setActive true).setClientActive (Or.inl rfl)
  | deactivate =>
      show (RxStream.deactivate w.stream).Tied _ _
      unfold RxStream.deactivate
      split
      · exact (hweak.setActive false).setClientActive (Or.inr (Or.inr rfl))
      · exact hweak
  | discontinuity event =>
      cases event with
      | eIasUnspecific => exact hweak
      | eIasOverrun => exact hweak
      | eIasUnderrun =>
          show ((w.stream.setStreamState eIasAvbStreamNoData).setClientActive false).Tied _ _
          refine ⟨?_, ?_, ?_⟩
          · rw [RxStream.setClientActive_count]; exact hweak.count_le
          · rw [RxStream.setClientActive_internal, RxStream.setClientActive_count,
              RxStream.setClientActive_state]
            intro hidle
            exact ⟨(hweak.idle hidle).1, by simp [RxStream.setStreamState]⟩
          · rw [RxStream.setClientActive_internal, RxStream.setClientActive_count]
            intro hvalid hzero
            exact absurd ⟨hvalid, hzero⟩ hok

/-- A packet that continues the flow is counted. -/
theorem counted_of_continues (hT : 1 ≤ c.mValidationThreshold) (h : Inv c w) {packet : Bytes}
    {length : Nat} (hheader : c.headerOk packet length = true) (hstreak : 0 < w.flow.streak)
    (hseq : packet 2 = w.flow.last + 1) :
    Counted c (c.readFromAvbPacket w.stream (some packet) length).1
      { streak := w.flow.streak + 1, last := packet 2, late := w.flow.late } := by
  have hcounted := h.counted hstreak
  refine ⟨(read_seqNum ..).symm, Or.inr ?_⟩
  have hverdict : w.stream.verdict c.toRxConfig (c.headerOk packet length) (packet 2)
      = eIasAvbStreamValid := by
    rcases hcounted.progress with ⟨_, _, hidle⟩ | ⟨hvalid, _⟩
    · rw [hheader]
      exact RxStream.verdict_of_headerOk hidle (h.tied.idle hidle).2
    · exact RxStream.verdict_of_follows ⟨hvalid, hcounted.last ▸ hseq⟩
  refine ⟨by rw [read_internal]; exact hverdict, ?_⟩
  rw [read_count_of_valid hverdict]
  have hlate : w.flow.late.toNat ≤ 1 := Bool.toNat_le _
  rcases hcounted.progress with ⟨hl, hone, hidle⟩ | ⟨_, hcount⟩
  · -- the second packet of a flow that began late is the first to count
    have hall := (h.tied.idle hidle).1
    rw [hl, Bool.toNat_true]
    dsimp only
    omega
  · dsimp only
    omega

/-- A packet in order that begins a flow is counted, unless it breaks off another one. -/
theorem counted_of_begins (hT : 1 ≤ c.mValidationThreshold) (h : Inv c w) {packet : Bytes}
    {length : Nat} (hheader : c.headerOk packet length = true) :
    Counted c (c.readFromAvbPacket w.stream (some packet) length).1
      { streak := 1, last := packet 2, late := Breaks w.stream (packet 2) } := by
  refine ⟨(read_seqNum ..).symm, ?_⟩
  have hle := h.tied.count_le
  by_cases hverdict : w.stream.verdict c.toRxConfig (c.headerOk packet length) (packet 2)
      = eIasAvbStreamValid
  · refine Or.inr ⟨by rw [read_internal]; exact hverdict, ?_⟩
    rw [read_count_of_valid hverdict]
    dsimp only
    omega
  · -- only a packet that breaks off another flow is refused although it is in order
    refine Or.inl ⟨?_, rfl, by rw [read_internal]; exact hverdict⟩
    by_contra hbreaks
    apply hverdict
    by_cases hvalid : w.stream.mStreamStateInternal = eIasAvbStreamValid
    · have hseq : packet 2 = w.stream.mSeqNum + 1 := by simpa [Breaks, hvalid] using hbreaks
      exact RxStream.verdict_of_follows ⟨hvalid, hseq⟩
    · rw [hheader]
      exact RxStream.verdict_of_headerOk hvalid (h.tied.idle hvalid).2

/-- Events that are not packets leave what the count depends on alone. -/
theorem Counted.congr {s s' : RxStream LocalAudioStream} {f : Flow} (h : Counted c s f)
    (hseq : s'.mSeqNum = s.mSeqNum)
    (hinternal : s'.mStreamStateInternal = s.mStreamStateInternal)
    (hcount : s'.mValidationCount = s.mValidationCount) : Counted c s' f := by
  refine ⟨h.last.trans hseq.symm, ?_⟩
  rw [hinternal, hcount]
  exact h.progress

theorem counted_step (hT : 1 ≤ c.mValidationThreshold) (h : Inv c w) (e : RxEvent)
    (hstreak : 0 < (w.flowAfter c e).streak) : Counted c (c.rxStep w.stream e) (w.flowAfter c e) := by
  cases e with
  | packet packet length =>
      unfold flowAfter Flow.packet at hstreak ⊢
      dsimp only at hstreak ⊢
      split at hstreak
      · rename_i hheader
        rw [if_pos hheader]
        split
        · rename_i hcont
          exact counted_of_continues hT h hheader hcont.1 hcont.2
        · exact counted_of_begins hT h hheader
      · simp at hstreak
  | timeout => simp [flowAfter] at hstreak
  | activate =>
      have hframe := w.stream.activate_frame
      exact (h.counted hstreak).congr hframe.2.2 hframe.1 hframe.2.1
  | deactivate =>
      have hframe := w.stream.deactivate_frame
      exact (h.counted hstreak).congr hframe.2.2 hframe.1 hframe.2.1
  | discontinuity event =>
      cases event with
      | eIasUnspecific => exact h.counted hstreak
      | eIasOverrun => exact h.counted hstreak
      | eIasUnderrun => simp [flowAfter] at hstreak

theorem inv_step (hT : 1 ≤ c.mValidationThreshold) (w : ObservedStream) (e : RxEvent)
    (h : Inv c w) (hok : StepOk w e) : Inv c (step c w e) where
  tied := by
    refine (tied_rxStep hT h hok).imp fun hexcuse => ?_
    show (c.rxStep w.stream e).clientActive = true ∨
      ((w.silenced || isDeactivate e) && !(c.rxStep w.stream e).clientActive) = true
    cases (c.rxStep w.stream e).clientActive with
    | true => exact Or.inl rfl
    | false =>
        refine Or.inr ?_
        rw [Bool.not_false, Bool.and_true, Bool.or_eq_true]
        exact hexcuse
  counted := counted_step hT h e

/--
**A healthy flow makes the stream valid.**

In every run without an underrun on a stream that had already become valid: once the flow
has been healthy for `mValidationThreshold` packets — one more if its first packet broke
off another flow — the last packet was accepted, the stream is valid to the outside, and
the client of a connected local stream is active, unless the stream has been deactivated
since it was.
-/
theorem valid_of_healthy {l : Option LocalAudioStream} {es : List RxEvent}
    (hT : 1 ≤ c.mValidationThreshold) (hok : Always (step c) StepOk (init c l) es)
    (hlong : c.mValidationThreshold + (exec (step c) (init c l) es).flow.late.toNat
      ≤ (exec (step c) (init c l) es).flow.streak) :
    let w := exec (step c) (init c l) es
    w.stream.mStreamStateInternal = eIasAvbStreamValid
      ∧ w.stream.mStreamState = eIasAvbStreamValid
      ∧ (w.stream.isConnected = true → w.stream.clientActive = true ∨ w.silenced = true) := by
  intro w
  have hlong : c.mValidationThreshold + w.flow.late.toNat ≤ w.flow.streak := hlong
  have hinv : Inv c w :=
    @inv_exec _ _ _ _ (Inv c) (fun w e h ho => inv_step hT w e h ho) _ _ (inv_init c l) hok
  have hcounted := hinv.counted (by omega)
  rcases hcounted.progress with ⟨hlate, hone, _⟩ | ⟨hvalid, hcount⟩
  · -- a flow of one packet that began late is too short
    rw [hlate, hone, Bool.toNat_true] at hlong
    omega
  · have hzero : w.stream.mValidationCount = 0 := by omega
    exact ⟨hvalid, hinv.tied.won hvalid hzero⟩

/-- A packet in order, of one sample, with the given number. -/
def healthyPacket (seqNum : UInt8) : RxEvent := .packet (monoPacket 0x02 seqNum 16) 26

/-- A listener that waits for two packets. -/
def patientListener : AvbAudioConfig := { monoListener with mValidationThreshold := 2 }

def monoLocal : Option LocalAudioStream := some { mNumChannels := 1 }

/-- Two packets, silence, a stray packet, and two packets more. -/
def interruptedFlow : List RxEvent :=
  [healthyPacket 0, healthyPacket 1, .timeout, healthyPacket 7, healthyPacket 3, healthyPacket 4,
    healthyPacket 5]

theorem valid_of_healthy_interrupted :
    let w := exec (step patientListener) (init patientListener monoLocal) interruptedFlow
    w.stream.mStreamStateInternal = eIasAvbStreamValid
      ∧ w.stream.mStreamState = eIasAvbStreamValid
      ∧ (w.stream.isConnected = true → w.stream.clientActive = true ∨ w.silenced = true) :=
  valid_of_healthy (by decide)
    (show Always (step patientListener) StepOk (init patientListener monoLocal) interruptedFlow by
      decide) (by decide)

/-- An underrun behind two packets, and the next four packets change nothing. With a
threshold of zero, no packet ever does. -/
theorem underrun_takes_the_state_for_good :
    (let w := exec (step patientListener) (init patientListener monoLocal)
      ([healthyPacket 0, healthyPacket 1, .discontinuity eIasUnderrun]
        ++ [healthyPacket 2, healthyPacket 3, healthyPacket 4, healthyPacket 5])
    w.flow.streak = 4 ∧ w.flow.late = false ∧ w.silenced = false
      ∧ w.stream.mStreamState = eIasAvbStreamNoData ∧ w.stream.clientActive = false)
    ∧ (let c : AvbAudioConfig := { monoListener with mValidationThreshold := 0 }
      let w := exec (step c) (init c monoLocal) [healthyPacket 0, healthyPacket 1]
      w.flow.streak = 2 ∧ w.stream.mStreamState = eIasAvbStreamInactive) := by
  decide

/-! ## No way back -/

/-- The inner state says valid, nothing is left to wait for, and the outside does not know. -/
structure Stuck (s : RxStream LocalAudioStream) : Prop where
  internal : s.mStreamStateInternal = eIasAvbStreamValid
  count : s.mValidationCount = 0
  state : s.mStreamState ≠ eIasAvbStreamValid

/-- An underrun on a stream that had become valid leaves it stuck. -/
theorem stuck_of_underrun {s : RxStream LocalAudioStream}
    (hinternal : s.mStreamStateInternal = eIasAvbStreamValid) (hcount : s.mValidationCount = 0) :
    Stuck (signalDiscontinuity s eIasUnderrun).2 where
  internal := (RxStream.setClientActive_internal ..).trans hinternal
  count := (RxStream.setClientActive_count ..).trans hcount
  state := by
    show ((s.setStreamState eIasAvbStreamNoData).setClientActive false).mStreamState ≠ _
    rw [RxStream.setClientActive_state]
    exact fun h => by cases h

/-- A packet that continues the flow does not free a stuck stream. -/
theorem stuck_of_follows {s : RxStream LocalAudioStream} (h : Stuck s) {packet : Bytes}
    {length : Nat} (hfollows : s.Follows (packet 2)) :
    Stuck (c.readFromAvbPacket s (some packet) length).1 := by
  have hverdict : s.verdict c.toRxConfig (c.headerOk packet length) (packet 2)
      = eIasAvbStreamValid := RxStream.verdict_of_follows hfollows
  have hcount : (s.setSeqNum (packet 2)).mValidationCount = 0 := h.count
  refine ⟨by rw [read_internal, hverdict], by rw [read_count_of_valid hverdict, h.count], ?_⟩
  unfold readFromAvbPacket
  dsimp only
  rw [hverdict, RxStream.settle_valid, RxStream.countDown_of_zero hcount]
  exact h.state

/--
**The healthier the flow, the longer it lasts.**

However many packets a stuck stream receives, as long as each continues the flow it is
following, the outside never learns that it is valid.
-/
theorem stuck_forever {s : RxStream LocalAudioStream} (h : Stuck s)
    {packets : List (Bytes × Nat)}
    (hflow : Always (fun s p => (c.readFromAvbPacket s (some p.1) p.2).1)
      (fun s p => s.Follows (p.1 2)) s packets) :
    Stuck (exec (fun s p => (c.readFromAvbPacket s (some p.1) p.2).1) s packets) :=
  @inv_exec _ _ _ _ Stuck (fun _ _ hs hf => stuck_of_follows hs hf) _ _ h hflow

end ObservedStream

end AvbAudioConfig

end AvbStreamHandler
