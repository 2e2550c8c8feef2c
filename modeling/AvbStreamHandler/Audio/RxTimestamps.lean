import AvbStreamHandler.Audio.LocalAudioStream
import AvbStreamHandler.Kit.Run

/-!
# Receive time stamps

A received packet carries the lower 32 bits of a time. `IasLocalAudioStream` and
`IasAvbRxStreamClockDomain` find the upper ones in the same way: for the first packet from the
current time, for the others from the packet before.

Both steps go wrong on one side of their range. The first takes the upper half of the current
time or the next one, never the one before, and so misses a time in front of a boundary when the
current time is behind it. The second takes a time stamp that is not ahead of the last one for
one of the next round, and so misses the packet that comes with the same time again. Local
audio streams keep zero for a time they do not have, and begin anew after it.
-/

namespace AvbStreamHandler

open Kit Kit.Word Kit.Run

/-! ## Half a time -/

/-- The upper half of the current time, or the next one. -/
def expandNear (now timestamp : Nat) : Nat :=
  let expanded := add64 (IasLocalAudioStream.upperHalf now) timestamp
  if IasLocalAudioStream.laterThan timestamp (now % 4294967296)
      && decide (timestamp < now % 4294967296) then
    add64 expanded 4294967296
  else expanded

/-- The upper half of the last time, or the next one. -/
def expandAfter (last timestamp : Nat) : Nat :=
  if last % 4294967296 < timestamp then add64 (IasLocalAudioStream.upperHalf last) timestamp
  else add64 (IasLocalAudioStream.upperHalf (add64 last 4294967296)) timestamp

/-- A time that the upper half of the current time leads to. -/
def NearOk (now time : Nat) : Prop :=
  time / 4294967296 = now / 4294967296 ∧ now ≤ time + 2147483648
    ∨ time / 4294967296 = (now / 4294967296 + 1) % 4294967296
      ∧ time % 4294967296 + 2147483648 < now % 4294967296

instance (now time : Nat) : Decidable (NearOk now time) := inferInstanceAs (Decidable (_ ∨ _))

/-- **Around the current time.** -/
theorem expandNear_eq_iff {now time : Nat} (hnow : now < 18446744073709551616)
    (htime : time < 18446744073709551616) :
    expandNear now (time % 4294967296) = time ↔ NearOk now time := by
  have hlater : (IasLocalAudioStream.laterThan (time % 4294967296) (now % 4294967296)
      && decide (time % 4294967296 < now % 4294967296)) = true
      ↔ time % 4294967296 + 2147483648 < now % 4294967296 := by
    unfold IasLocalAudioStream.laterThan sub32
    simp only [Bool.and_eq_true, decide_eq_true_eq]
    omega
  have hsame : add64 (IasLocalAudioStream.upperHalf now) (time % 4294967296)
      = now / 4294967296 * 4294967296 + time % 4294967296 := by
    unfold add64 IasLocalAudioStream.upperHalf
    omega
  unfold expandNear NearOk
  dsimp only
  rw [hsame]
  split
  · rename_i h
    have h := hlater.mp h
    unfold add64
    omega
  · rename_i h
    have h : ¬ time % 4294967296 + 2147483648 < now % 4294967296 := fun h' => h (hlater.mpr h')
    omega

/-- Within half a round of the current time: unless the time is in front of a boundary and the
current time behind it. -/
theorem nearOk_iff {now time : Nat} (htime : time < 18446744073709551616)
    (hbelow : now < time + 2147483648) (habove : time < now + 2147483648) :
    NearOk now time ↔ now / 4294967296 ≤ time / 4294967296 := by
  unfold NearOk
  omega

/-- **Behind the last time**: unless it is the same. -/
theorem expandAfter_eq_iff {last time : Nat} (htime : time < 18446744073709551616)
    (hle : last ≤ time) (hgap : time < last + 4294967296) :
    expandAfter last (time % 4294967296) = time ↔ last < time := by
  unfold expandAfter
  split
  · unfold add64 IasLocalAudioStream.upperHalf
    omega
  · unfold add64 IasLocalAudioStream.upperHalf
    omega

/-! ## Packets -/

/-- A packet when it is expanded: the time it stands for, and what the time base says. -/
structure RxPacket where
  time : Nat
  base : TimeBase
  timeFits : time < 18446744073709551616
  nowFits : base.localTime < 18446744073709551616

namespace RxPacket

/-- What the packet carries. -/
def timestamp (p : RxPacket) : Nat := p.time % 4294967296

/-- What is promised of a packet: the first is within half a round of the current time, and no
other is earlier than the last one or a round behind it. -/
def Promised (p : RxPacket) : Option Nat → Prop
  | none => p.base.localTime < p.time + 2147483648 ∧ p.time < p.base.localTime + 2147483648
  | some last => last ≤ p.time ∧ p.time < last + 4294967296

instance (p : RxPacket) : (last : Option Nat) → Decidable (p.Promised last)
  | none => inferInstanceAs (Decidable (_ ∧ _))
  | some _ => inferInstanceAs (Decidable (_ ∧ _))

/-- The time is not in front of a boundary the current time is behind. -/
def SameRound (p : RxPacket) : Prop := p.base.localTime / 4294967296 ≤ p.time / 4294967296

instance (p : RxPacket) : Decidable p.SameRound := inferInstanceAs (Decidable (_ ≤ _))

theorem near_iff {p : RxPacket} (h : p.Promised none) :
    expandNear p.base.localTime p.timestamp = p.time ↔ p.SameRound :=
  (expandNear_eq_iff p.nowFits p.timeFits).trans (nearOk_iff p.timeFits h.1 h.2)

theorem after_iff {p : RxPacket} {last : Nat} (h : p.Promised (some last)) :
    expandAfter last p.timestamp = p.time ↔ last < p.time :=
  expandAfter_eq_iff p.timeFits h.1 h.2

end RxPacket

/-! ## A local audio stream -/

namespace IasLocalAudioStream

/-- The times a stream keeps after `updateRxTimestamp`. -/
theorem updateRxTimestamp_times (s : IasLocalAudioStream) (t : TimeBase) (timestamp : Nat) :
    (s.updateRxTimestamp t timestamp).mEpoch = t.epochCounter
      ∧ (s.updateRxTimestamp t timestamp).mLastTimeStamp
        = if s.mLastTimeStamp = 0 ∨ t.epochCounter ≠ s.mEpoch then
            expandNear t.localTime timestamp
          else expandAfter s.mLastTimeStamp timestamp := by
  unfold updateRxTimestamp expandAfter
  split
  · exact ⟨rfl, rfl⟩
  · rename_i h
    have hepoch : t.epochCounter = s.mEpoch := not_not.mp fun hne => h (Or.inr hne)
    split <;> exact ⟨hepoch.symm, rfl⟩

/-- The times are forgotten: the client becomes active, or the descriptors are reset. -/
def forgetTimes (s : IasLocalAudioStream) : IasLocalAudioStream :=
  { s with mLastTimeStamp := 0, mEpoch := 0 }

/-- A stream, and the time of the last packet, if it was not forgotten. -/
structure Expansion where
  stream : IasLocalAudioStream
  last : Option Nat := none

namespace Expansion

inductive Event
  | forget
  | packet (p : RxPacket)

def step (s : Expansion) : Event → Expansion
  | .forget => { stream := s.stream.forgetTimes, last := none }
  | .packet p =>
      { stream := s.stream.updateRxTimestamp p.base p.timestamp, last := some p.time }

/-- The last packet of the same epoch. -/
def since (s : Expansion) (p : RxPacket) : Option Nat :=
  if p.base.epochCounter = s.stream.mEpoch then s.last else none

def Promised (s : Expansion) : Event → Prop
  | .forget => True
  | .packet p => p.Promised (s.since p)

/-- The stream has the time of the last packet. -/
def Expanded (s : Expansion) : Prop := ∀ l ∈ s.last, s.stream.mLastTimeStamp = l

/-- The packet is not on the side where the expansion goes wrong. -/
def Kept (s : Expansion) : Event → Prop
  | .forget => True
  | .packet p =>
      match s.since p with
      | none => p.SameRound
      | some _ =>
          if s.stream.mLastTimeStamp = 0 then NearOk p.base.localTime p.time
          else s.stream.mLastTimeStamp < p.time

instance (s : Expansion) : (e : Event) → Decidable (s.Promised e)
  | .forget => inferInstanceAs (Decidable True)
  | .packet p => inferInstanceAs (Decidable (p.Promised (s.since p)))

/-- As long as every packet was expanded. -/
structure Inv (s : Expansion) : Prop where
  expanded : s.Expanded
  fresh : s.last = none → s.stream.mLastTimeStamp = 0

variable {s : Expansion}

/-- **One packet.** -/
theorem Inv.packet_iff (h : s.Inv) {p : RxPacket} (hp : s.Promised (.packet p)) :
    (s.step (.packet p)).stream.mLastTimeStamp = p.time ↔ s.Kept (.packet p) := by
  obtain ⟨-, htime⟩ := updateRxTimestamp_times s.stream p.base p.timestamp
  have hstep : (s.step (.packet p)).stream = s.stream.updateRxTimestamp p.base p.timestamp := rfl
  have hp : p.Promised (s.since p) := hp
  unfold Kept
  rw [hstep, htime]
  dsimp only
  unfold since at hp ⊢
  by_cases hepoch : p.base.epochCounter = s.stream.mEpoch
  · rw [if_pos hepoch] at hp ⊢
    cases hlast : s.last with
    | none =>
        rw [hlast] at hp
        rw [if_pos (Or.inl (h.fresh hlast))]
        exact p.near_iff hp
    | some l =>
        rw [hlast] at hp
        have hl : s.stream.mLastTimeStamp = l := h.expanded l hlast
        by_cases hzero : s.stream.mLastTimeStamp = 0
        · rw [if_pos (Or.inl hzero)]
          dsimp only
          rw [if_pos hzero]
          exact expandNear_eq_iff p.nowFits p.timeFits
        · rw [if_neg (by simp only [hzero, hepoch, ne_eq, not_true, or_self, not_false_eq_true])]
          dsimp only
          rw [if_neg hzero, hl]
          exact p.after_iff hp
  · -- a new epoch starts from the current time
    rw [if_neg hepoch] at hp ⊢
    rw [if_pos (Or.inr hepoch)]
    exact p.near_iff hp

/-- **A run of packets** is expanded to its times exactly if no packet of it is on the wrong
side. -/
theorem expanded_iff (h : s.Inv) {es : List Event} (hrun : Always step Promised s es) :
    (∀ pre, pre <+: es → (exec step s pre).Expanded) ↔ Always step Kept s es := by
  refine good_iff_always_of_promised (fun _ h => h.expanded) ?_ ?_ h hrun
  · intro s e h hp hkept
    cases e with
    | forget => exact ⟨fun l hl => (nomatch hl), fun _ => rfl⟩
    | packet p =>
        refine ⟨?_, fun hnone => (nomatch hnone)⟩
        intro l hl
        obtain rfl := Option.some.inj hl
        exact (h.packet_iff hp).mpr hkept
  · intro s e h hp hnot hexpanded
    cases e with
    | forget => exact hnot trivial
    | packet p => exact hnot ((h.packet_iff hp).mp (hexpanded p.time rfl))

end Expansion

/-! ### What a write presents -/

/-- The times a stream keeps. -/
def rxTimes (s : IasLocalAudioStream) : Nat × Nat := (s.mLastTimeStamp, s.mEpoch)

/-- The same, after a time stamp was presented. -/
def presentTimes (t : TimeBase) (timestamp : Nat) (times : Nat × Nat) : Nat × Nat :=
  (if times.1 = 0 ∨ t.epochCounter ≠ times.2 then expandNear t.localTime timestamp
    else expandAfter times.1 timestamp, t.epochCounter)

theorem updateRxTimestamp_rxTimes (s : IasLocalAudioStream) (t : TimeBase) (timestamp : Nat) :
    (s.updateRxTimestamp t timestamp).rxTimes = presentTimes t timestamp s.rxTimes := by
  obtain ⟨hepoch, htime⟩ := updateRxTimestamp_times s t timestamp
  exact Prod.ext htime hepoch

theorem signalUnderrun_rxTimes (s : IasLocalAudioStream) :
    s.signalUnderrun.rxTimes = s.rxTimes := by
  have hrefresh : s.refreshSyncStart.rxTimes = s.rxTimes := by
    unfold refreshSyncStart
    split <;> rfl
  unfold signalUnderrun setClientIdle
  split
  · split
    · rfl
    · dsimp only
      split <;> exact hrefresh
  · rfl

theorem readTimeAware_rxTimes (s : IasLocalAudioStream) (e : Estimates) (ch : Nat)
    (b : IasLocalAudioBuffer) (bufferSize samplesRead : Nat) :
    (s.readTimeAware e ch b bufferSize samplesRead).stream.rxTimes = s.rxTimes := by
  unfold readTimeAware
  split
  · rfl
  · dsimp only
    split <;> (dsimp only; split <;> rfl)

theorem readLocalAudioBuffer_rxTimes (s : IasLocalAudioStream) (e : Estimates)
    (ch bufferSize samplesRead : Nat) :
    (s.readLocalAudioBuffer e ch bufferSize samplesRead).stream.rxTimes = s.rxTimes := by
  have hnote : ∀ r : ReadResult, (noteUnderrun r).stream.rxTimes = r.stream.rxTimes := by
    intro r
    unfold noteUnderrun
    split
    · exact signalUnderrun_rxTimes r.stream
    · rfl
  unfold readLocalAudioBuffer
  split
  · rfl
  · split
    · rfl
    · split
      · rfl
      · split
        · split
          · exact (hnote _).trans (readTimeAware_rxTimes ..)
          · rfl
        · exact hnote _

theorem resetBuffers_rxTimes (s : IasLocalAudioStream) (e : Estimates) :
    (s.resetBuffers e).rxTimes = s.rxTimes := by
  have hchannel : ∀ (s : IasLocalAudioStream) (ch : Nat),
      (resetChannel e s ch).rxTimes = s.rxTimes := by
    intro s ch
    unfold resetChannel
    split
    · rfl
    · split
      · exact readLocalAudioBuffer_rxTimes ..
      · rfl
  have hfold : ∀ (l : List Nat) (s : IasLocalAudioStream),
      (l.foldl (resetChannel e) s).rxTimes = s.rxTimes := by
    intro l
    induction l with
    | nil => exact fun _ => rfl
    | cons ch l ih => exact fun s => (ih _).trans (hchannel s ch)
  unfold resetBuffers
  split
  · exact hfold _ s
  · rfl

/-- What happens before a write may throw the times away. -/
theorem prepare_rxTimes (s : IasLocalAudioStream) (e : Estimates) (ch bufferSize : Nat) :
    (s.prepare e ch bufferSize).rxTimes = s.rxTimes
      ∨ (s.prepare e ch bufferSize).rxTimes = (0, 0) := by
  have hanswer : ∀ s : IasLocalAudioStream, s.answerResetRequest.rxTimes = s.rxTimes
      ∨ s.answerResetRequest.rxTimes = (0, 0) := by
    intro s
    unfold answerResetRequest
    split
    · exact Or.inr rfl
    · exact Or.inl rfl
  unfold prepare prepareFirst
  split
  · split
    · exact Or.inl rfl
    · split
      · exact (hanswer _).imp_left fun h => h.trans (resetBuffers_rxTimes s e)
      · exact hanswer s
  · exact Or.inl rfl

/-- The descriptors take the time stamp once, for the period that begins with the packet, and
once more if the packet ends the period. -/
theorem describe_rxTimes (s : IasLocalAudioStream) (e : Estimates) (t : TimeBase)
    (monotonicWriteIndex bufferSize written timestamp : Nat) :
    ∃ k, k ≤ 2 ∧ (s.describe e t monotonicWriteIndex bufferSize written timestamp).rxTimes
      = (presentTimes t timestamp)^[k] s.rxTimes := by
  have hextend : (s.extendPending e t monotonicWriteIndex written timestamp).rxTimes = s.rxTimes
      ∨ (s.extendPending e t monotonicWriteIndex written timestamp).rxTimes
        = presentTimes t timestamp s.rxTimes := by
    unfold extendPending
    split
    · dsimp only
      split <;> exact Or.inr (updateRxTimestamp_rxTimes s t timestamp)
    · exact Or.inl rfl
  have hcomplete : ∀ s : IasLocalAudioStream,
      (s.completePending t monotonicWriteIndex bufferSize timestamp).rxTimes = s.rxTimes
        ∨ (s.completePending t monotonicWriteIndex bufferSize timestamp).rxTimes
          = presentTimes t timestamp s.rxTimes := by
    intro s
    unfold completePending
    dsimp only
    split
    · exact Or.inl rfl
    · exact Or.inr (updateRxTimestamp_rxTimes _ t timestamp)
  unfold describe
  dsimp only
  generalize s.extendPending e t monotonicWriteIndex written timestamp = s₁ at hextend
  split
  · rcases hcomplete (s₁.setPending s₁.mPendingDesc (add32 s₁.mPendingSamples bufferSize)
      s₁.mLastSampleCnt) with h | h
    · rcases hextend with h' | h'
      · exact ⟨0, by omega, h.trans h'⟩
      · exact ⟨1, by omega, h.trans h'⟩
    · rcases hextend with h' | h'
      · exact ⟨1, by omega, h.trans (congrArg _ h')⟩
      · exact ⟨2, by omega, h.trans (congrArg _ h')⟩
  · rcases hextend with h' | h'
    · exact ⟨0, by omega, h'⟩
    · exact ⟨1, by omega, h'⟩

/-- **A write presents its time stamp** to the expansion, twice at most. -/
theorem writeLocalAudioBuffer_presents (s : IasLocalAudioStream) (e : Estimates) (t : TimeBase)
    (ch : Nat) (buffer : Nat → AudioData) (bufferSize samplesWritten timestamp : Nat) :
    ∃ times, (times = s.rxTimes ∨ times = (0, 0)) ∧ ∃ k, k ≤ 2
      ∧ (s.writeLocalAudioBuffer e t ch buffer bufferSize samplesWritten
          timestamp).stream.rxTimes = (presentTimes t timestamp)^[k] times := by
  unfold writeLocalAudioBuffer
  split
  · exact ⟨_, Or.inl rfl, 0, by omega, rfl⟩
  · split
    · exact ⟨_, Or.inl rfl, 0, by omega, rfl⟩
    · split
      · refine ⟨_, prepare_rxTimes s e ch bufferSize, ?_⟩
        generalize s.prepare e ch bufferSize = s₁
        unfold storeChannel
        split
        · exact ⟨0, by omega, rfl⟩
        · dsimp only
          split
          · refine ⟨0, by omega, ?_⟩
            dsimp only
            split
            · exact resetBuffers_rxTimes _ e
            · rfl
          · split
            · exact describe_rxTimes ..
            · exact ⟨0, by omega, rfl⟩
      · exact ⟨_, Or.inl rfl, 0, by omega, rfl⟩

end IasLocalAudioStream

/-! ## A receive clock domain -/

namespace IasAvbRxStreamClockDomain

/-- What the domain keeps to expand its time stamps. -/
structure RxTime where
  mLastTimeStamp : Nat := 0
  mEpoch : Nat := 0

def initLastTimeStamp (d : RxTime) (now timestamp : Nat) : RxTime :=
  { d with mLastTimeStamp := expandNear now timestamp }

/-- `reset` with a 32-bit time stamp. -/
def reset (d : RxTime) (t : TimeBase) (timestamp : Nat) : RxTime :=
  { initLastTimeStamp d t.localTime timestamp with mEpoch := t.epochCounter }

/-- `update` with a 32-bit time stamp. -/
def update (d : RxTime) (t : TimeBase) (timestamp : Nat) : RxTime :=
  if t.epochCounter ≠ d.mEpoch then
    initLastTimeStamp { d with mEpoch := t.epochCounter } t.localTime timestamp
  else { d with mLastTimeStamp := expandAfter d.mLastTimeStamp timestamp }

/-- A domain, and the time of the last packet. -/
structure Expansion where
  domain : RxTime
  last : Nat

namespace Expansion

inductive Event
  | reset (p : RxPacket)
  | update (p : RxPacket)

/-- The AVB stream resets its clock domain with its first packet. -/
def start (d : RxTime) (p : RxPacket) : Expansion where
  domain := reset d p.base p.timestamp
  last := p.time

def step (s : Expansion) : Event → Expansion
  | .reset p => start s.domain p
  | .update p => { domain := update s.domain p.base p.timestamp, last := p.time }

def since (s : Expansion) (p : RxPacket) : Option Nat :=
  if p.base.epochCounter = s.domain.mEpoch then some s.last else none

def Promised (s : Expansion) : Event → Prop
  | .reset p => p.Promised none
  | .update p => p.Promised (s.since p)

def Expanded (s : Expansion) : Prop := s.domain.mLastTimeStamp = s.last

def Kept (s : Expansion) : Event → Prop
  | .reset p => p.SameRound
  | .update p =>
      match s.since p with
      | none => p.SameRound
      | some _ => s.domain.mLastTimeStamp < p.time

instance (s : Expansion) : (e : Event) → Decidable (s.Promised e)
  | .reset p => inferInstanceAs (Decidable (p.Promised none))
  | .update p => inferInstanceAs (Decidable (p.Promised (s.since p)))

theorem start_iff (d : RxTime) {p : RxPacket} (hp : p.Promised none) :
    (start d p).Expanded ↔ p.SameRound := p.near_iff hp

theorem Expanded.step_iff {s : Expansion} (h : s.Expanded) {e : Event} (hp : s.Promised e) :
    (s.step e).Expanded ↔ s.Kept e := by
  cases e with
  | reset p => exact start_iff s.domain hp
  | update p =>
      have hp : p.Promised (s.since p) := hp
      show (update s.domain p.base p.timestamp).mLastTimeStamp = p.time ↔ _
      unfold Kept update
      dsimp only
      unfold since at hp ⊢
      by_cases hepoch : p.base.epochCounter = s.domain.mEpoch
      · rw [if_pos hepoch] at hp ⊢
        rw [if_neg (not_not.mpr hepoch), h]
        exact p.after_iff hp
      · rw [if_neg hepoch] at hp ⊢
        rw [if_pos hepoch]
        exact p.near_iff hp

/-- **A run of packets** from a reset on. -/
theorem expanded_iff (d : RxTime) {p : RxPacket} (hp : p.Promised none) {es : List Event}
    (hrun : Always step Promised (start d p) es) :
    (∀ pre, pre <+: es → (exec step (start d p) pre).Expanded)
      ↔ p.SameRound ∧ Always step Kept (start d p) es := by
  by_cases hround : p.SameRound
  · rw [and_iff_right hround]
    exact good_iff_always_of_promised (fun _ h => h)
      (fun s e h hp hkept => (h.step_iff hp).mpr hkept)
      (fun s e h hp hnot hexpanded => hnot ((h.step_iff hp).mp hexpanded))
      ((start_iff d hp).mpr hround) hrun
  · refine ⟨fun h => ?_, fun h => absurd h.1 hround⟩
    exact absurd ((start_iff d hp).mp (h [] List.nil_prefix)) hround

end Expansion

end IasAvbRxStreamClockDomain

/-! ## Both -/

/--
**Time stamps are expanded to the times they stand for**, in every run of packets that keep what
is promised of them, exactly if no packet is on the side of its range where the expansion goes
wrong: no first one in front of a boundary that the current time is behind, and no other one with
the time of the last packet again, or after a last packet at time zero of a local audio stream.
-/
theorem timestamps_expanded_iff (stream : IasLocalAudioStream)
    (d : IasAvbRxStreamClockDomain.RxTime) :
    (∀ es : List IasLocalAudioStream.Expansion.Event, stream.mLastTimeStamp = 0 →
      Always IasLocalAudioStream.Expansion.step IasLocalAudioStream.Expansion.Promised
        { stream := stream } es →
      ((∀ pre, pre <+: es →
          (exec IasLocalAudioStream.Expansion.step { stream := stream } pre).Expanded)
        ↔ Always IasLocalAudioStream.Expansion.step IasLocalAudioStream.Expansion.Kept
          { stream := stream } es))
      ∧ ∀ (p : RxPacket) (es : List IasAvbRxStreamClockDomain.Expansion.Event),
        p.Promised none →
        Always IasAvbRxStreamClockDomain.Expansion.step
          IasAvbRxStreamClockDomain.Expansion.Promised (.start d p) es →
        ((∀ pre, pre <+: es →
            (exec IasAvbRxStreamClockDomain.Expansion.step (.start d p) pre).Expanded)
          ↔ p.SameRound ∧ Always IasAvbRxStreamClockDomain.Expansion.step
            IasAvbRxStreamClockDomain.Expansion.Kept (.start d p) es) :=
  ⟨fun _ hzero hrun => IasLocalAudioStream.Expansion.expanded_iff
      ⟨fun l hl => absurd hl (Option.not_mem_none l), fun _ => hzero⟩ hrun,
    fun _ _ hp hrun => IasAvbRxStreamClockDomain.Expansion.expanded_iff d hp hrun⟩

/-- Five nanoseconds behind the first boundary. -/
def justBehind : TimeBase where
  epochCounter := 0
  localTime := 4294967301

/-- A packet whose time is expanded just behind the boundary. -/
def packetAt (time : Nat) (h : time < 18446744073709551616) : RxPacket where
  time := time
  base := justBehind
  timeFits := h
  nowFits := by decide

/-- A local audio stream with periods of four samples. -/
def fourSamplePeriods : IasLocalAudioStream :=
  { IasLocalAudioStream.init 1 32 48000 4 0 0 0 8 true true false (fun _ _ => 0) with
    mClientState := .eIasActive }

/-- A packet of six samples. -/
def sixSamples (s : IasLocalAudioStream) (timestamp : Nat) : IasLocalAudioStream :=
  (s.writeLocalAudioBuffer .wholeNanoseconds justBehind 0 (fun _ => 1) 6 0 timestamp).stream

/-- A whole round too late: ten nanoseconds in front of a boundary that the current time is
behind; the same time twice; and a packet that ends the period it begins. -/
theorem timestamps_expanded_wrongly :
    (fourSamplePeriods.updateRxTimestamp justBehind (4294967286 % 4294967296)).mLastTimeStamp
        = 4294967286 + 4294967296
      ∧ ((fourSamplePeriods.updateRxTimestamp justBehind (4294967300 % 4294967296)).updateRxTimestamp
        justBehind (4294967300 % 4294967296)).mLastTimeStamp = 4294967300 + 4294967296
      ∧ (IasAvbRxStreamClockDomain.reset {} justBehind (4294967286 % 4294967296)).mLastTimeStamp
        = 4294967286 + 4294967296
      ∧ (sixSamples fourSamplePeriods (4294967300 % 4294967296)).mLastTimeStamp
        = 4294967300 + 4294967296 := by
  decide +kernel

/-- Two packets, a millisecond apart. -/
theorem timestamps_expanded_iff_millisecond :
    ((∀ pre, pre <+: [IasLocalAudioStream.Expansion.Event.packet (packetAt 4294967300 (by decide)),
          .packet (packetAt 4295967300 (by decide))] →
        (exec IasLocalAudioStream.Expansion.step { stream := fourSamplePeriods } pre).Expanded)
      ↔ Always IasLocalAudioStream.Expansion.step IasLocalAudioStream.Expansion.Kept
        { stream := fourSamplePeriods }
        [.packet (packetAt 4294967300 (by decide)), .packet (packetAt 4295967300 (by decide))])
      ∧ ((∀ pre, pre <+: [IasAvbRxStreamClockDomain.Expansion.Event.update
          (packetAt 4295967300 (by decide))] →
        (exec IasAvbRxStreamClockDomain.Expansion.step
          (.start {} (packetAt 4294967300 (by decide))) pre).Expanded)
        ↔ (packetAt 4294967300 (by decide)).SameRound
          ∧ Always IasAvbRxStreamClockDomain.Expansion.step
            IasAvbRxStreamClockDomain.Expansion.Kept
            (.start {} (packetAt 4294967300 (by decide)))
            [.update (packetAt 4295967300 (by decide))]) :=
  ⟨(timestamps_expanded_iff fourSamplePeriods {}).1 _ rfl (by decide +kernel),
    (timestamps_expanded_iff fourSamplePeriods {}).2 _ _ (by decide +kernel) (by decide +kernel)⟩

end AvbStreamHandler
