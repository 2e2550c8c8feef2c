import AvbStreamHandler.Audio.ChannelAlignment
import AvbStreamHandler.Audio.LocalAudioBufferAccount

/-!
# What the ALSA worker says about the fill

After each job the worker looks at the fill of channel 0 and tells an active client that the
buffer ran over or ran dry. It takes the buffer for full at `getTotalSize`, and that is a fill
no ring ever has: one element always stays free. So a buffer that takes nothing any more is
not reported. An empty one is, if it is that of channel 0.

A run is any order of calls on the channels, whoever makes them, and of looks of the worker
with what they lead to. Calls that break the ring itself are left out: a strided call on an
index at the end, see `Audio/LocalAudioBufferProof.lean`.
-/

namespace AvbStreamHandler

open Kit Kit.Run Kit.Word

namespace IasLocalAudioBuffer

variable {b : IasLocalAudioBuffer} {N : Nat}

/-- The buffer takes no further sample. -/
def Full (b : IasLocalAudioBuffer) : Prop := ∀ buffer n, (b.write buffer n).2 = 0

/-- There is nothing to read. -/
def Empty (b : IasLocalAudioBuffer) : Prop := ∀ n, (b.read n).2 = []

theorem full_iff : b.Full ↔ b.remaining = 0 := by
  unfold Full
  constructor
  · intro h
    have hall : min b.remaining b.remaining = 0 := h (fun _ => 0) b.remaining
    rwa [Nat.min_self] at hall
  · intro h buffer n
    show min n b.remaining = 0
    rw [h, Nat.min_zero]

theorem empty_iff : b.Empty ↔ b.getFillLevel = 0 := by
  unfold Empty
  constructor
  · intro h
    have hlength := b.length_read b.getFillLevel
    rwa [h, Nat.min_self, List.length_nil, eq_comm] at hlength
  · intro h n
    refine List.eq_nil_of_length_eq_zero ?_
    rw [length_read, h, Nat.min_zero]

instance (b : IasLocalAudioBuffer) : Decidable b.Full := decidable_of_iff _ full_iff.symm

instance (b : IasLocalAudioBuffer) : Decidable b.Empty := decidable_of_iff _ empty_iff.symm

/-- A ring is never filled to its size. -/
theorem Rep.fill_lt (h : Rep N b) (hN : N < 2147483648) : b.getFillLevel < N := by
  rw [getFillLevel_eq h (by omega) (h.unambiguous hN)]
  exact h.valid.level_lt

/-- **A safe call keeps the ring in order.** -/
theorem Rep.step (h : Rep N b) (hpos : 0 < N) (hN : N < 4294967296) {c : Call}
    (hc : Watched.Guard N ⟨b, {}⟩ c) : Rep N (b.step c) := by
  have hinv : Watched.Inv N ⟨b, { base := stored N b }⟩ := ⟨h, rfl⟩
  exact (Watched.inv_step hpos hN hinv hc.1 hc.2).rep

theorem Rep.reset (h : Rep N b) (hN : N < 2147483648) {k : Nat} (hk : k < N) :
    Rep N (b.reset k) :=
  (reset_spec h (by omega) hk (Or.inr (by omega))).1

end IasLocalAudioBuffer

namespace IasLocalAudioStream

open IasLocalAudioBuffer (Rep Full Empty Call Watched.Guard)

/-- The event `updateBufferStatus` finds for its client. -/
def bufferStatus (s : IasLocalAudioStream) : DiscontinuityEvent :=
  if s.mClientState = .eIasActive then
    match s.mChannelBuffers[0]? with
    | none => .eIasUnspecific
    | some b =>
        if b.getFillLevel = b.mTotalSize then .eIasOverrun
        else if b.getFillLevel = 0 then .eIasUnderrun
        else .eIasUnspecific
  else .eIasUnspecific

variable {s : IasLocalAudioStream} {e : Estimates} {b : IasLocalAudioBuffer} {ch n r N : Nat}

/-- What the client does about it. -/
theorem updateBufferStatus_eq (s : IasLocalAudioStream) (e : Estimates) :
    s.updateBufferStatus e = match s.bufferStatus with
      | .eIasUnspecific => s
      | .eIasOverrun => if s.ResetsOnOverrun then s.resetBuffers e else s
      | .eIasUnderrun => s.signalUnderrun := by
  unfold updateBufferStatus bufferStatus
  by_cases hactive : s.mClientState = .eIasActive
  · rw [if_pos hactive]
    cases s.mChannelBuffers[0]? with
    | none => rfl
    | some b =>
        dsimp only
        split
        · rfl
        · split <;> rfl
  · -- nobody listens
    have hresets : ¬ s.ResetsOnOverrun := fun h => hactive h.1
    have hsignal : s.signalUnderrun = s := if_neg fun h => hactive h.1
    rw [if_neg hactive, if_neg hresets, hsignal]
    split
    · rfl
    · rw [ite_self, ite_self]

/-- **The reports are exact.** -/
structure StatusExact (s : IasLocalAudioStream) : Prop where
  overrun : s.bufferStatus = .eIasOverrun ↔ ∃ b ∈ s.mChannelBuffers, b.Full
  underrun : s.bufferStatus = .eIasUnderrun ↔ ∃ b ∈ s.mChannelBuffers, b.Empty

/-- No channel is full, and if one is empty then channel 0 is. -/
structure Reportable (s : IasLocalAudioStream) : Prop where
  notFull : ∀ b ∈ s.mChannelBuffers, ¬ b.Full
  seen : (∃ b ∈ s.mChannelBuffers, b.Empty) → ∃ b ∈ s.mChannelBuffers[0]?, b.Empty

/-! ## What holds of all channels -/

/-- The rings of all channels are in order. -/
def RingsInOrder (N : Nat) (s : IasLocalAudioStream) : Prop := ∀ b ∈ s.mChannelBuffers, Rep N b

/-- An overrun is never found. An underrun is, on channel 0. -/
theorem bufferStatus_of_rings (h : RingsInOrder N s) (hN : N < 2147483648)
    (hactive : s.mClientState = .eIasActive) :
    s.bufferStatus ≠ .eIasOverrun
      ∧ (s.bufferStatus = .eIasUnderrun ↔ ∃ b ∈ s.mChannelBuffers[0]?, b.Empty) := by
  unfold bufferStatus
  rw [if_pos hactive]
  cases hb : s.mChannelBuffers[0]? with
  | none => exact ⟨nofun, nofun, fun ⟨_, hmem, _⟩ => nomatch hmem⟩
  | some b =>
      have hrep := h b (List.mem_of_getElem? hb)
      have hlt := hrep.fill_lt hN
      have hnever : b.getFillLevel ≠ b.mTotalSize := by
        rw [hrep.size]
        omega
      dsimp only
      rw [if_neg hnever]
      constructor
      · split <;> exact nofun
      · constructor
        · intro hunder
          refine ⟨b, rfl, IasLocalAudioBuffer.empty_iff.mpr ?_⟩
          by_contra hfill
          rw [if_neg hfill] at hunder
          exact nomatch hunder
        · rintro ⟨b', hb', hempty⟩
          obtain rfl := Option.some.inj hb'
          rw [if_pos (IasLocalAudioBuffer.empty_iff.mp hempty)]

/-- **Exactly when the reports are exact.** -/
theorem statusExact_iff (h : RingsInOrder N s) (hN : N < 2147483648)
    (hactive : s.mClientState = .eIasActive) : s.StatusExact ↔ s.Reportable := by
  obtain ⟨hover, hunder⟩ := bufferStatus_of_rings h hN hactive
  constructor
  · rintro ⟨hoverrun, hunderrun⟩
    refine ⟨fun b hb hfull => hover (hoverrun.mpr ⟨b, hb, hfull⟩), fun hempty => ?_⟩
    exact hunder.mp (hunderrun.mpr hempty)
  · rintro ⟨hfree, hseen⟩
    refine ⟨⟨fun h => absurd h hover, fun ⟨b, hb, hfull⟩ => absurd hfull (hfree b hb)⟩, ?_⟩
    refine ⟨fun h => ?_, fun hempty => hunder.mpr (hseen hempty)⟩
    obtain ⟨b, hb, hempty⟩ := hunder.mp h
    exact ⟨b, List.mem_of_getElem? hb, hempty⟩

/-! ## What the client does keeps the rings in order -/

theorem RingsInOrder.setChannel (h : RingsInOrder N s) (hb : Rep N b) (ch : Nat) :
    RingsInOrder N (s.setChannel ch b) := by
  intro b' hb'
  rcases List.mem_or_eq_of_mem_set hb' with hold | rfl
  · exact h b' hold
  · exact hb

theorem RingsInOrder.resetAll (h : RingsInOrder N s) (hN : N < 2147483648) {k : Nat} (hk : k < N) :
    RingsInOrder N (s.setBuffers (s.mChannelBuffers.map (IasLocalAudioBuffer.reset · k))) := by
  intro b' hb'
  obtain ⟨b, hb, rfl⟩ := List.mem_map.mp hb'
  exact (h b hb).reset hN hk

section Small

variable (hpos : 0 < N) (hN : N < 2147483648)
include hpos hN

theorem RingsInOrder.flush (h : RingsInOrder N s) : RingsInOrder N s.flush := h.resetAll hN hpos

theorem RingsInOrder.signalUnderrun (h : RingsInOrder N s) : RingsInOrder N s.signalUnderrun := by
  have hsame : RingsInOrder N (s.refreshSyncStart.setClientState .eIasIdle) := by
    intro b hb
    refine h b ?_
    rw [← (refreshSyncStart_same s).1]
    exact hb
  unfold IasLocalAudioStream.signalUnderrun setClientIdle
  split
  · split
    · exact h
    · dsimp only
      split
      · exact hsame.flush hpos hN
      · exact hsame
  · exact h

theorem RingsInOrder.noteUnderrun {result : ReadResult} (h : RingsInOrder N result.stream) :
    RingsInOrder N (noteUnderrun result).stream := by
  unfold IasLocalAudioStream.noteUnderrun
  split
  · exact h.signalUnderrun hpos hN
  · exact h

theorem RingsInOrder.read (h : RingsInOrder N s) (ch n r : Nat) :
    RingsInOrder N (s.readLocalAudioBuffer e ch n r).stream := by
  unfold readLocalAudioBuffer
  split
  · exact h
  · cases hb : s.mChannelBuffers[ch]? with
    | none => exact h
    | some b =>
        have hrep := h b (List.mem_of_getElem? hb)
        have hread : RingsInOrder N (s.setChannel ch (b.read n).1) := h.setChannel
          (IasLocalAudioBuffer.read_spec hrep (by omega) (hrep.unambiguous hN) n).1 ch
        dsimp only
        split
        · exact h
        · split
          · split
            · refine RingsInOrder.noteUnderrun hpos hN ?_
              cases hpeek : s.mBufferDescQ.peek with
              | none =>
                  unfold readTimeAware
                  rw [hpeek]
                  exact h
              | some desc =>
                  obtain ⟨q, hstream, -⟩ :=
                    @readTimeAware_stream s e ch n b desc hpeek r
                  rw [hstream]
                  exact hread
            · exact h
          · exact RingsInOrder.noteUnderrun hpos hN hread

theorem RingsInOrder.resetBuffers (h : RingsInOrder N s)
    (hk : s.hasBufferDesc = false → s.mOptimalFillLevel < N) :
    RingsInOrder N (s.resetBuffers e) := by
  unfold IasLocalAudioStream.resetBuffers
  cases haware : s.hasBufferDesc with
  | false => exact h.resetAll hN (hk haware)
  | true =>
      refine Run.foldl_range_inv (P := fun _ s' => RingsInOrder N s') h fun ch _ s' hs' => ?_
      unfold resetChannel
      split
      · exact hs'
      · split
        · exact hs'.read hpos hN ch _ 0
        · exact hs'

theorem RingsInOrder.updateBufferStatus (h : RingsInOrder N s)
    (hk : s.hasBufferDesc = false → s.mOptimalFillLevel < N) :
    RingsInOrder N (s.updateBufferStatus e) := by
  rw [updateBufferStatus_eq]
  split
  · exact h
  · split
    · exact h.resetBuffers hpos hN hk
    · exact h
  · exact h.signalUnderrun hpos hN

end Small

/-! ## Runs -/

inductive StatusEvent
  /-- A call on the buffer of a channel. -/
  | call (ch : Nat) (c : Call)
  | updateBufferStatus
  /-- What becomes of the client and of the descriptors in between. -/
  | others (client : ClientState) (descQ : IasLocalAudioBufferDesc)

def statusStep (e : Estimates) (s : IasLocalAudioStream) : StatusEvent → IasLocalAudioStream
  | .call ch c =>
      match s.mChannelBuffers[ch]? with
      | some b => s.setChannel ch (b.step c)
      | none => s
  | .updateBufferStatus => s.updateBufferStatus e
  | .others client descQ => (s.setClientState client).setDescQ descQ

/-- No call breaks its ring, and the fill level the client has set up is one a ring can have. -/
def StatusGuard (N : Nat) (s : IasLocalAudioStream) : StatusEvent → Prop
  | .call ch c => ∀ b ∈ s.mChannelBuffers[ch]?, Watched.Guard N ⟨b, {}⟩ c
  | .updateBufferStatus => s.hasBufferDesc = false → s.mOptimalFillLevel < N
  | .others _ _ => True

instance decidableStatusGuard (N : Nat) (s : IasLocalAudioStream) :
    ∀ ev, Decidable (StatusGuard N s ev)
  | .call _ _ => inferInstanceAs (Decidable (∀ b ∈ _, _))
  | .updateBufferStatus => inferInstanceAs (Decidable (_ → _))
  | .others _ _ => inferInstanceAs (Decidable True)

theorem rings_step (hpos : 0 < N) (hN : N < 2147483648) (h : RingsInOrder N s)
    {ev : StatusEvent} (hok : StatusGuard N s ev) : RingsInOrder N (statusStep e s ev) := by
  cases ev with
  | call ch c =>
      dsimp only [statusStep]
      split
      · rename_i b hb
        exact h.setChannel ((h b (List.mem_of_getElem? hb)).step hpos (by omega) (hok b hb)) ch
      · exact h
  | updateBufferStatus => exact h.updateBufferStatus hpos hN hok
  | others client descQ => exact h

variable {numChannels totalSize sampleFrequency periodSz readThreshold launchTimeDelay audioRxDelay
  optimalFillLevel : Nat} {timeAware receive syncStart : Bool} {heap : Nat → Nat → AudioData}

theorem rings_init : RingsInOrder (totalSize + 1) (init numChannels totalSize sampleFrequency
    periodSz readThreshold launchTimeDelay audioRxDelay optimalFillLevel timeAware receive syncStart
    heap) := by
  intro b hb
  obtain ⟨ch, -, rfl⟩ := List.mem_map.mp hb
  have hrep := IasLocalAudioBuffer.rep_init (Nat.succ_pos totalSize) (decide (ch = 0)) (heap ch)
  exact ⟨hrep.size, hrep.valid, hrep.within⟩

/-- **Exactly when overrun and underrun are told**: in every state of every run that keeps the
rings in order, as long as no channel is full and none but channel 0 is empty on its own. -/
theorem status_exact_iff (hsize : totalSize + 1 < 2147483648) (es : List StatusEvent)
    (hok : Always (statusStep e) (StatusGuard (totalSize + 1)) (init numChannels totalSize
      sampleFrequency periodSz readThreshold launchTimeDelay audioRxDelay optimalFillLevel timeAware
      receive syncStart heap) es) :
    let s := exec (statusStep e) (init numChannels totalSize sampleFrequency periodSz readThreshold
      launchTimeDelay audioRxDelay optimalFillLevel timeAware receive syncStart heap) es
    s.mClientState = .eIasActive → (s.StatusExact ↔ s.Reportable) := by
  intro s hactive
  have hstep : ∀ s ev, RingsInOrder (totalSize + 1) s → StatusGuard (totalSize + 1) s ev →
      RingsInOrder (totalSize + 1) (statusStep e s ev) :=
    fun _ _ h hev => rings_step (by omega) hsize h hev
  exact statusExact_iff (inv_exec hstep rings_init hok) hsize hactive

/-- Two channels of two samples each: one sample on each of them. -/
def oneOfTwo : List StatusEvent :=
  [.others .eIasActive { mDescQsz := 1 }, .call 0 (.write (fun _ => 7) 1),
    .call 1 (.writeStrided (fun _ => 8) 1 4), .updateBufferStatus]

theorem status_exact_oneOfTwo :
    StatusExact (exec (statusStep .wholeNanoseconds)
      (init 2 2 48000 1 0 0 0 1 false true false fun _ _ => 0) oneOfTwo) :=
  (status_exact_iff (by omega) oneOfTwo (by decide) (by rfl)).mpr ⟨by decide, by decide⟩

/-- **A full buffer is not reported.** Two samples fill a buffer that was set up for two; the
worker finds nothing unusual. -/
theorem status_blind :
    let s := exec (statusStep .wholeNanoseconds)
      (init 1 2 48000 1 0 0 0 1 false true false fun _ _ => 0)
      [.others .eIasActive { mDescQsz := 1 }, .call 0 (.write (fun _ => 7) 2)]
    (∀ b ∈ s.mChannelBuffers, b.Full) ∧ s.bufferStatus = .eIasUnspecific ∧ ¬ s.StatusExact := by
  have hfull : ∀ b ∈ (exec (statusStep .wholeNanoseconds)
      (init 1 2 48000 1 0 0 0 1 false true false fun _ _ => 0)
      [.others .eIasActive { mDescQsz := 1 }, .call 0 (.write (fun _ => 7) 2)]).mChannelBuffers,
      b.Full := by decide
  refine ⟨hfull, by rfl, fun h => ?_⟩
  have hover := h.overrun.mpr ⟨_, List.mem_cons_self, hfull _ List.mem_cons_self⟩
  exact absurd hover (by decide)

end IasLocalAudioStream

end AvbStreamHandler
