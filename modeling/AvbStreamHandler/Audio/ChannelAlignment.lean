import AvbStreamHandler.Audio.LocalAudioBufferControl
import AvbStreamHandler.Audio.LocalAudioStream
import AvbStreamHandler.Kit.Run

/-!
# The channels stay aligned

A packet brings the same number of samples for every channel, and the channels are written
one by one. As long as all buffers have the same bookkeeping, they do the same: so they still
have the same bookkeeping when the packet is done. A reset treats all channels alike, too;
but a reset *between* two writes of one packet does not, since some channels have the packet
already and others get it afterwards. In time-aware mode the check in front of channel 0 sees
to it that the reset comes first. In plain mode there is no such check.
-/

namespace AvbStreamHandler

open Kit Kit.Run Kit.Word

namespace IasLocalAudioStream

/-- The bookkeeping of all channels. -/
def controls (s : IasLocalAudioStream) : List BufferControl :=
  s.mChannelBuffers.map IasLocalAudioBuffer.control

/-- All channels have the bookkeeping `k`. -/
def Uniform (s : IasLocalAudioStream) (k : BufferControl) : Prop :=
  s.controls = List.replicate s.numChannels k

/-- What no call that reads, writes or resets changes. -/
structure SameKind (s s' : IasLocalAudioStream) : Prop where
  channels : s'.numChannels = s.numChannels
  timeAware : s'.hasBufferDesc = s.hasBufferDesc
  direction : s'.isReceive = s.isReceive
  frequency : s'.mSampleFrequency = s.mSampleFrequency
  optimal : s'.mOptimalFillLevel = s.mOptimalFillLevel
  worker : s'.mWorkerRunning = s.mWorkerRunning

variable {s s' : IasLocalAudioStream} {e : Estimates} {t : TimeBase} {ch n K i : Nat}
  {b : IasLocalAudioBuffer} {k k₀ k₁ : BufferControl}

theorem SameKind.refl (s : IasLocalAudioStream) : SameKind s s := ⟨rfl, rfl, rfl, rfl, rfl, rfl⟩

theorem SameKind.trans {s'' : IasLocalAudioStream} (h : SameKind s s') (h' : SameKind s' s'') :
    SameKind s s'' :=
  ⟨h'.channels.trans h.channels, h'.timeAware.trans h.timeAware,
    h'.direction.trans h.direction, h'.frequency.trans h.frequency, h'.optimal.trans h.optimal,
    h'.worker.trans h.worker⟩

theorem length_controls : s.controls.length = s.numChannels := List.length_map ..

theorem controls_get (hb : s.mChannelBuffers[ch]? = some b) : s.controls[ch]? = some b.control := by
  unfold controls
  rw [List.getElem?_map, hb]
  rfl

/-- A channel that has bookkeeping is there. -/
theorem exists_channel (hk : s.controls[ch]? = some k) :
    ∃ b, s.mChannelBuffers[ch]? = some b ∧ b.control = k := by
  unfold controls at hk
  rw [List.getElem?_map] at hk
  exact Option.map_eq_some_iff.mp hk

theorem controls_setChannel : (s.setChannel ch b).controls = s.controls.set ch b.control :=
  List.map_set ..

theorem sameKind_setChannel : SameKind s (s.setChannel ch b) :=
  ⟨List.length_set .., rfl, rfl, rfl, rfl, rfl⟩

/-! ## Some channels before, some after -/

/-- The first `i` of `K` channels have `k₁`, the others `k₀`. -/
def mixed (K i : Nat) (k₁ k₀ : BufferControl) : List BufferControl :=
  List.replicate i k₁ ++ List.replicate (K - i) k₀

theorem mixed_zero : mixed K 0 k₁ k₀ = List.replicate K k₀ := rfl

theorem mixed_all : mixed K K k₁ k₀ = List.replicate K k₁ := by
  unfold mixed
  rw [Nat.sub_self, List.replicate_zero, List.append_nil]

theorem mixed_get (hi : i < K) : (mixed K i k₁ k₀)[i]? = some k₀ := by
  unfold mixed
  rw [List.getElem?_append_right (by simp), List.length_replicate, Nat.sub_self,
    List.getElem?_replicate, if_pos (by omega)]

theorem mixed_set (hi : i < K) : (mixed K i k₁ k₀).set i k₁ = mixed K (i + 1) k₁ k₀ := by
  unfold mixed
  obtain ⟨m, hm⟩ : ∃ m, K - i = m + 1 := ⟨K - i - 1, by omega⟩
  have hm' : K - (i + 1) = m := by omega
  rw [hm, hm', List.set_append_right _ _ (by simp), List.length_replicate, Nat.sub_self,
    List.replicate_succ, List.set_cons_zero, List.replicate_succ', List.append_assoc]
  rfl

/-! ## A read -/

/-- What a read does to the bookkeeping of its channel. -/
def afterFetch (s : IasLocalAudioStream) (k : BufferControl) (n : Nat) : BufferControl :=
  if s.mSampleFrequency = 0 ∨ n = 0
      ∨ s.hasBufferDesc = true ∧ (k.mReadReady = false ∨ s.mBufferDescQ.peek = none) then k
  else k.read n

/-- After a read, either one channel differs, or all channels were flushed. -/
inductive ReadEffect (s : IasLocalAudioStream) (ch : Nat) (k' : BufferControl)
    (s' : IasLocalAudioStream) : Prop
  | kept (controls : s'.controls = s.controls.set ch k')
      (queue : ch + 1 < s.numChannels → s'.mBufferDescQ = s.mBufferDescQ) (kind : SameKind s s')
  | flushed (controls : s'.controls = (s.controls.set ch k').map (BufferControl.reset · 0))
      (kind : SameKind s s')

theorem controls_flush : s.flush.controls = s.controls.map (BufferControl.reset · 0) := by
  show (s.mChannelBuffers.map _).map _ = (s.mChannelBuffers.map _).map _
  rw [List.map_map, List.map_map]
  exact List.map_congr_left fun b _ => b.control_reset 0

theorem sameKind_flush : SameKind s s.flush := ⟨List.length_map .., rfl, rfl, rfl, rfl, rfl⟩

theorem refreshSyncStart_same (s : IasLocalAudioStream) :
    s.refreshSyncStart.mChannelBuffers = s.mChannelBuffers
      ∧ s.refreshSyncStart.mBufferDescQ = s.mBufferDescQ ∧ SameKind s s.refreshSyncStart := by
  unfold refreshSyncStart
  split <;> exact ⟨rfl, rfl, rfl, rfl, rfl, rfl, rfl, rfl⟩

theorem setClientIdle_effect (s : IasLocalAudioStream) :
    SameKind s s.setClientIdle
      ∧ (s.setClientIdle.mChannelBuffers = s.mChannelBuffers
            ∧ s.setClientIdle.mBufferDescQ = s.mBufferDescQ
          ∨ s.setClientIdle.controls = s.controls.map (BufferControl.reset · 0)) := by
  obtain ⟨hchannels, hqueue, hkind⟩ := refreshSyncStart_same s
  unfold setClientIdle
  split
  · exact ⟨SameKind.refl s, Or.inl ⟨rfl, rfl⟩⟩
  · dsimp only
    have hidle : SameKind s (s.refreshSyncStart.setClientState .eIasIdle) :=
      hkind.trans ⟨rfl, rfl, rfl, rfl, rfl, rfl⟩
    split
    · refine ⟨hidle.trans sameKind_flush, Or.inr ?_⟩
      rw [controls_flush]
      exact congrArg (fun l => (l.map IasLocalAudioBuffer.control).map (BufferControl.reset · 0))
        hchannels
    · exact ⟨hidle, Or.inl ⟨hchannels, hqueue⟩⟩

theorem signalUnderrun_effect (s : IasLocalAudioStream) :
    SameKind s s.signalUnderrun
      ∧ (s.signalUnderrun.mChannelBuffers = s.mChannelBuffers
            ∧ s.signalUnderrun.mBufferDescQ = s.mBufferDescQ
          ∨ s.signalUnderrun.controls = s.controls.map (BufferControl.reset · 0)) := by
  unfold signalUnderrun
  split
  · exact setClientIdle_effect s
  · exact ⟨SameKind.refl s, Or.inl ⟨rfl, rfl⟩⟩

/-- An underrun after a read. -/
theorem noteUnderrun_effect {r : ReadResult} (h : ReadEffect s ch k r.stream)
    (hcontrols : r.stream.controls = s.controls.set ch k)
    (hqueue : ch + 1 < s.numChannels → r.stream.mBufferDescQ = s.mBufferDescQ)
    (hkind : SameKind s r.stream) : ReadEffect s ch k (noteUnderrun r).stream := by
  unfold noteUnderrun
  split
  · obtain ⟨hsignal, hsame | hflush⟩ := signalUnderrun_effect r.stream
    · refine .kept ?_ (fun hlast => hsame.2.trans (hqueue hlast)) (hkind.trans hsignal)
      rw [← hcontrols]
      exact congrArg (List.map IasLocalAudioBuffer.control) hsame.1
    · exact .flushed (by rw [hflush, hcontrols]) (hkind.trans hsignal)
  · exact h

theorem controls_set_self (hb : s.mChannelBuffers[ch]? = some b) :
    s.controls = s.controls.set ch b.control := by
  obtain ⟨hlt, hget⟩ := List.getElem?_eq_some_iff.mp (controls_get hb)
  rw [← hget, List.set_getElem_self]

theorem readEffect_rfl (hb : s.mChannelBuffers[ch]? = some b) : ReadEffect s ch b.control s :=
  .kept (controls_set_self hb) (fun _ => rfl) (SameKind.refl s)

/-- What a read of `n` samples leaves in the state, before an underrun is looked for. -/
theorem controls_set_read (n : Nat) :
    (s.setChannel ch (b.read n).1).controls = s.controls.set ch (b.control.read n) := by
  rw [controls_setChannel, IasLocalAudioBuffer.control_read]

/-- A time-aware read, if there is a descriptor. Only the last channel touches the queue. -/
theorem readTimeAware_stream {desc : AudioBufferDesc} (hpeek : s.mBufferDescQ.peek = some desc)
    {r : Nat} : ∃ q, (s.readTimeAware e ch b n r).stream
        = (s.setChannel ch (b.read n).1).setDescQ q
      ∧ (ch + 1 < s.numChannels → q = s.mBufferDescQ) := by
  have htouch : ∀ q', ∃ q, (if decide (ch = s.numChannels - 1) = true
        then (s.setChannel ch (b.read n).1).setDescQ q' else s.setChannel ch (b.read n).1)
        = (s.setChannel ch (b.read n).1).setDescQ q
      ∧ (ch + 1 < s.numChannels → q = s.mBufferDescQ) := by
    intro q'
    by_cases hlast : ch = s.numChannels - 1
    · exact ⟨q', if_pos (decide_eq_true hlast), by omega⟩
    · exact ⟨s.mBufferDescQ, if_neg (by simpa using hlast), fun _ => rfl⟩
  unfold readTimeAware
  rw [hpeek]
  dsimp only
  split
  · exact htouch _
  · exact htouch _

theorem readTimeAware_effect (hb : s.mChannelBuffers[ch]? = some b) (n r : Nat) :
    ReadEffect s ch (if s.mBufferDescQ.peek = none then b.control else b.control.read n)
      (noteUnderrun (s.readTimeAware e ch b n r)).stream := by
  cases hpeek : s.mBufferDescQ.peek with
  | none =>
      have hr : s.readTimeAware e ch b n r = { samplesRead := r, stream := s } := by
        unfold readTimeAware
        rw [hpeek]
      rw [if_pos rfl, hr]
      exact noteUnderrun_effect (readEffect_rfl hb) (controls_set_self hb) (fun _ => rfl)
        (SameKind.refl s)
  | some desc =>
      rw [if_neg nofun]
      obtain ⟨q, hr, hq⟩ := readTimeAware_stream (e := e) (b := b) (n := n) (r := r) hpeek
      have hcontrols : (s.readTimeAware e ch b n r).stream.controls
          = s.controls.set ch (b.control.read n) := by
        rw [hr]
        exact controls_set_read n
      have hkind : SameKind s (s.readTimeAware e ch b n r).stream := by
        rw [hr]
        exact sameKind_setChannel.trans ⟨rfl, rfl, rfl, rfl, rfl, rfl⟩
      have hqueue : ch + 1 < s.numChannels →
          (s.readTimeAware e ch b n r).stream.mBufferDescQ = s.mBufferDescQ := by
        intro hlt
        rw [hr]
        exact hq hlt
      exact noteUnderrun_effect (.kept hcontrols hqueue hkind) hcontrols hqueue hkind

/-- **What a read does**, whichever way it goes. -/
theorem readLocalAudioBuffer_effect (hb : s.mChannelBuffers[ch]? = some b) (n r : Nat) :
    ReadEffect s ch (s.afterFetch b.control n) (s.readLocalAudioBuffer e ch n r).stream := by
  unfold readLocalAudioBuffer
  by_cases hinit : s.mSampleFrequency = 0
  · rw [if_pos hinit]
    unfold afterFetch
    rw [if_pos (Or.inl hinit)]
    exact readEffect_rfl hb
  rw [if_neg hinit, hb]
  dsimp only
  by_cases hn : n = 0
  · rw [if_pos hn]
    unfold afterFetch
    rw [if_pos (Or.inr (Or.inl hn))]
    exact readEffect_rfl hb
  rw [if_neg hn]
  cases haware : s.hasBufferDesc with
  | true =>
      rw [if_pos rfl]
      cases hready : b.mReadReady with
      | true =>
          rw [if_pos rfl]
          have hafter : s.afterFetch b.control n
              = if s.mBufferDescQ.peek = none then b.control else b.control.read n := by
            have hready' : b.control.mReadReady = true := hready
            unfold afterFetch
            simp only [hinit, hn, haware, hready', false_or, true_and, Bool.true_eq_false]
          rw [hafter]
          exact readTimeAware_effect hb n r
      | false =>
          rw [if_neg nofun]
          unfold afterFetch
          rw [if_pos (Or.inr (Or.inr ⟨haware, Or.inl hready⟩))]
          exact readEffect_rfl hb
  | false =>
      rw [if_neg nofun]
      have hafter : s.afterFetch b.control n = b.control.read n := by
        unfold afterFetch
        rw [if_neg (by simp [hinit, hn, haware])]
      rw [hafter]
      exact noteUnderrun_effect
        (.kept (controls_set_read n) (fun _ => rfl) sameKind_setChannel)
        (controls_set_read n) (fun _ => rfl) sameKind_setChannel

/-! ## A reset of all channels -/

/-- What a time-aware reset does to the bookkeeping of a channel. -/
def drained (s : IasLocalAudioStream) (k : BufferControl) : BufferControl :=
  if s.mOptimalFillLevel < k.getFillLevel then
    s.afterFetch k (k.getFillLevel - s.mOptimalFillLevel)
  else k

theorem afterFetch_congr (hkind : SameKind s s') (hqueue : s'.mBufferDescQ = s.mBufferDescQ)
    (k : BufferControl) (n : Nat) : s'.afterFetch k n = s.afterFetch k n := by
  unfold afterFetch
  rw [hkind.frequency, hkind.timeAware, hqueue]

theorem drained_congr (hkind : SameKind s s') (hqueue : s'.mBufferDescQ = s.mBufferDescQ)
    (k : BufferControl) : s'.drained k = s.drained k := by
  unfold drained
  rw [hkind.optimal, afterFetch_congr hkind hqueue]

/-- A read leaves nothing that a flush would keep. -/
theorem drained_reset (s : IasLocalAudioStream) (k : BufferControl) :
    (s.drained k).reset 0 = k.reset 0 := by
  unfold drained afterFetch
  split
  · split <;> rfl
  · rfl

/-- A flushed channel is not ready to be read. -/
theorem drained_of_flushed (haware : s.hasBufferDesc = true) (k : BufferControl) :
    s.drained (k.reset 0) = k.reset 0 := by
  unfold drained afterFetch
  split
  · exact if_pos (Or.inr (Or.inr ⟨haware, Or.inl rfl⟩))
  · rfl

theorem resetChannel_effect (hb : s.mChannelBuffers[ch]? = some b) :
    ReadEffect s ch (s.drained b.control) (s.resetChannel e ch) := by
  unfold resetChannel drained
  rw [hb]
  dsimp only
  rw [IasLocalAudioBuffer.control_fill]
  split
  · exact readLocalAudioBuffer_effect hb _ 0
  · exact readEffect_rfl hb

theorem mixed_flushed (hi : i ≤ K) (h : k₁.reset 0 = k₀.reset 0) :
    (mixed K i k₁ k₀).map (BufferControl.reset · 0) = List.replicate K (k₀.reset 0) := by
  unfold mixed
  rw [List.map_append, List.map_replicate, List.map_replicate, h, ← List.replicate_add]
  congr 1
  omega

/-- How far the loop over the channels is: `i` channels are done, or an underrun on the way
flushed them all. -/
def ResetProgress (s : IasLocalAudioStream) (k : BufferControl) (i : Nat)
    (s' : IasLocalAudioStream) : Prop :=
  SameKind s s'
    ∧ (s'.controls = mixed s.numChannels i (s.drained k) k
          ∧ (i < s.numChannels → s'.mBufferDescQ = s.mBufferDescQ)
        ∨ s'.controls = List.replicate s.numChannels (k.reset 0))

theorem resetChannel_progress (haware : s.hasBufferDesc = true) (hi : i < s.numChannels)
    (h : ResetProgress s k i s') : ResetProgress s k (i + 1) (s'.resetChannel e i) := by
  obtain ⟨hkind, ⟨hcontrols, hqueue⟩ | hflushed⟩ := h
  · obtain ⟨b, hb, hbk⟩ := exists_channel (hcontrols ▸ mixed_get hi)
    have hset : s'.controls.set i (s'.drained b.control)
        = mixed s.numChannels (i + 1) (s.drained k) k := by
      rw [hbk, drained_congr hkind (hqueue hi), hcontrols, mixed_set hi]
    cases resetChannel_effect (e := e) hb with
    | kept hc hq hk =>
        refine ⟨hkind.trans hk, Or.inl ⟨hc.trans hset, fun hlt => ?_⟩⟩
        exact (hq (hkind.channels ▸ hlt)).trans (hqueue hi)
    | flushed hc hk =>
        refine ⟨hkind.trans hk, Or.inr ?_⟩
        rw [hc, hset]
        exact mixed_flushed hi (drained_reset s k)
  · have hget : s'.controls[i]? = some (k.reset 0) := by
      rw [hflushed, List.getElem?_replicate, if_pos hi]
    obtain ⟨b, hb, hbk⟩ := exists_channel hget
    have hset : s'.controls.set i (s'.drained b.control)
        = List.replicate s.numChannels (k.reset 0) := by
      have hself := controls_set_self hb
      rw [hbk] at hself ⊢
      rw [drained_of_flushed (hkind.timeAware.trans haware), ← hself, hflushed]
    cases resetChannel_effect (e := e) hb with
    | kept hc _ hk => exact ⟨hkind.trans hk, Or.inr (hc.trans hset)⟩
    | flushed hc hk =>
        refine ⟨hkind.trans hk, Or.inr ?_⟩
        rw [hc, hset, List.map_replicate]
        rfl

/-- **A reset keeps the channels in step**, in both modes. -/
theorem resetBuffers_uniform (e : Estimates) (h : Uniform s k) :
    SameKind s (s.resetBuffers e) ∧ ∃ k', Uniform (s.resetBuffers e) k' := by
  unfold resetBuffers
  cases haware : s.hasBufferDesc with
  | true =>
      rw [if_pos rfl]
      obtain ⟨hkind, ⟨hcontrols, -⟩ | hflushed⟩ :
          ResetProgress s k s.numChannels ((List.range s.numChannels).foldl (resetChannel e) s) :=
        Run.foldl_range_inv ⟨SameKind.refl s, Or.inl ⟨h, fun _ => rfl⟩⟩
          fun i hi s' hs' => resetChannel_progress haware hi hs'
      · refine ⟨hkind, s.drained k, ?_⟩
        unfold Uniform
        rw [hcontrols, mixed_all, hkind.channels]
      · refine ⟨hkind, k.reset 0, ?_⟩
        unfold Uniform
        rw [hflushed, hkind.channels]
  | false =>
      rw [if_neg nofun]
      refine ⟨⟨List.length_map .., rfl, rfl, rfl, rfl, rfl⟩, k.reset s.mOptimalFillLevel, ?_⟩
      have hmap : (s.mChannelBuffers.map (IasLocalAudioBuffer.reset · s.mOptimalFillLevel)).map
          IasLocalAudioBuffer.control
          = s.controls.map (BufferControl.reset · s.mOptimalFillLevel) := by
        unfold controls
        rw [List.map_map, List.map_map]
        exact List.map_congr_left fun b _ => b.control_reset _
      show _ = List.replicate (List.length (List.map _ _)) _
      rw [List.length_map]
      exact hmap.trans (by rw [h, List.map_replicate]; rfl)

/-! ## A write -/

/-- Work on the descriptors leaves the buffers and the client alone. -/
structure DescriptorsOnly (s s' : IasLocalAudioStream) : Prop where
  buffers : s'.mChannelBuffers = s.mChannelBuffers
  client : s'.mClientState = s.mClientState
  kind : SameKind s s'

theorem DescriptorsOnly.refl (s : IasLocalAudioStream) : DescriptorsOnly s s :=
  ⟨rfl, rfl, SameKind.refl s⟩

theorem DescriptorsOnly.trans {s'' : IasLocalAudioStream} (h : DescriptorsOnly s s')
    (h' : DescriptorsOnly s' s'') : DescriptorsOnly s s'' :=
  ⟨h'.buffers.trans h.buffers, h'.client.trans h.client, h.kind.trans h'.kind⟩

theorem DescriptorsOnly.controls (h : DescriptorsOnly s s') : s'.controls = s.controls :=
  congrArg (List.map IasLocalAudioBuffer.control) h.buffers

theorem updateRxTimestamp_descriptorsOnly (s : IasLocalAudioStream) (t : TimeBase)
    (timestamp : Nat) : DescriptorsOnly s (s.updateRxTimestamp t timestamp) := by
  have hbuffers : (s.updateRxTimestamp t timestamp).mChannelBuffers = s.mChannelBuffers := by
    unfold updateRxTimestamp
    split
    · rfl
    · split
      · rfl
      · rfl
  refine ⟨hbuffers, ?_, ⟨congrArg List.length hbuffers, ?_, ?_, ?_, ?_, ?_⟩⟩ <;>
    (unfold updateRxTimestamp; split <;> [rfl; (split <;> rfl)])

theorem setPending_descriptorsOnly (s : IasLocalAudioStream) (desc : AudioBufferDesc)
    (pending lastCnt : Nat) : DescriptorsOnly s (s.setPending desc pending lastCnt) :=
  ⟨rfl, rfl, ⟨rfl, rfl, rfl, rfl, rfl, rfl⟩⟩

theorem answerResetRequest_descriptorsOnly (s : IasLocalAudioStream) :
    DescriptorsOnly s s.answerResetRequest := by
  unfold answerResetRequest
  split
  · exact ⟨rfl, rfl, ⟨rfl, rfl, rfl, rfl, rfl, rfl⟩⟩
  · exact DescriptorsOnly.refl s

theorem extendPending_descriptorsOnly (s : IasLocalAudioStream) (e : Estimates) (t : TimeBase)
    (monotonicWriteIndex written timestamp : Nat) :
    DescriptorsOnly s (s.extendPending e t monotonicWriteIndex written timestamp) := by
  have htime := updateRxTimestamp_descriptorsOnly s t timestamp
  unfold extendPending
  split
  · dsimp only
    split
    · exact htime.trans (setPending_descriptorsOnly ..)
    · exact htime.trans (setPending_descriptorsOnly ..)
  · exact setPending_descriptorsOnly ..

theorem completePending_descriptorsOnly (s : IasLocalAudioStream) (t : TimeBase)
    (monotonicWriteIndex bufferSize timestamp : Nat) :
    DescriptorsOnly s (s.completePending t monotonicWriteIndex bufferSize timestamp) := by
  have henqueue : ∀ q, DescriptorsOnly s (s.setDescQ q) := fun q =>
    ⟨rfl, rfl, ⟨rfl, rfl, rfl, rfl, rfl, rfl⟩⟩
  unfold completePending
  dsimp only
  split
  · exact (henqueue _).trans (setPending_descriptorsOnly ..)
  · exact ((henqueue _).trans (updateRxTimestamp_descriptorsOnly ..)).trans
      (setPending_descriptorsOnly ..)

theorem describe_descriptorsOnly (s : IasLocalAudioStream) (e : Estimates) (t : TimeBase)
    (monotonicWriteIndex bufferSize written timestamp : Nat) :
    DescriptorsOnly s (s.describe e t monotonicWriteIndex bufferSize written timestamp) := by
  have hextend := (extendPending_descriptorsOnly s e t monotonicWriteIndex written timestamp).trans
    (setPending_descriptorsOnly _ (s.extendPending e t monotonicWriteIndex written
      timestamp).mPendingDesc (add32 (s.extendPending e t monotonicWriteIndex written
      timestamp).mPendingSamples bufferSize) (s.extendPending e t monotonicWriteIndex written
      timestamp).mLastSampleCnt)
  unfold describe
  dsimp only
  split
  · exact hextend.trans (completePending_descriptorsOnly ..)
  · exact hextend

/-- The check in front of channel 0 treats all channels alike. -/
theorem prepare_uniform (e : Estimates) (ch n : Nat) (h : Uniform s k) :
    SameKind s (s.prepare e ch n) ∧ ∃ k', Uniform (s.prepare e ch n) k' := by
  have hanswer : ∀ {s' : IasLocalAudioStream} {k' : BufferControl}, SameKind s s' →
      Uniform s' k' → SameKind s s'.answerResetRequest ∧ ∃ k', Uniform s'.answerResetRequest k' := by
    intro s' k' hkind hk'
    have hframe := answerResetRequest_descriptorsOnly s'
    refine ⟨hkind.trans hframe.kind, k', ?_⟩
    unfold Uniform
    rw [hframe.controls, hk', hframe.kind.channels]
  unfold prepare
  split
  · unfold prepareFirst
    split
    · exact ⟨SameKind.refl s, k, h⟩
    · split
      · obtain ⟨hkind, k', hk'⟩ := resetBuffers_uniform e h
        exact hanswer hkind hk'
      · exact hanswer (SameKind.refl s) h
  · exact ⟨SameKind.refl s, k, h⟩

/-- After the first channel nothing happens before a write. -/
theorem prepare_later (s : IasLocalAudioStream) (e : Estimates) (i n : Nat) :
    s.prepare e (i + 1) n = s := by
  unfold prepare
  rw [if_neg (by simp)]

/-- What does not make the client ask for a reset: it does not ask, or there is room. -/
def Quiet (s : IasLocalAudioStream) (k : BufferControl) (n : Nat) : Prop :=
  ¬ s.ResetsOnOverrun ∨ n ≤ k.remaining

/-- **A write that is not followed by a reset** changes the bookkeeping of its channel. -/
theorem storeChannel_quiet (hb : s.mChannelBuffers[ch]? = some b) (hn : n < 65536)
    (hquiet : s.Quiet b.control n) (buffer : Nat → AudioData) (written timestamp : Nat) :
    let s' := (s.storeChannel e t ch buffer n written timestamp).stream
    s'.controls = s.controls.set ch (b.control.write n) ∧ SameKind s s'
      ∧ s'.mClientState = s.mClientState := by
  have hcontrols : (s.setChannel ch (b.write buffer n).1).controls
      = s.controls.set ch (b.control.write n) := by
    rw [controls_setChannel, IasLocalAudioBuffer.control_write]
  have hkind : SameKind s (s.setChannel ch (b.write buffer n).1) := sameKind_setChannel
  unfold storeChannel
  rw [hb]
  dsimp only
  split
  · rename_i hshort
    -- a short write means that there was no room
    have hdirection : ¬ (s.setChannel ch (b.write buffer n).1).isReceive = true := by
      intro hreceive
      rcases hquiet with hclient | hroom
      · exact hclient ⟨hshort.2, hreceive⟩
      · refine hshort.1 ?_
        have hwritten : (b.write buffer n).2 = min n b.remaining := rfl
        have hroom' : n ≤ b.remaining := hroom
        rw [hwritten]
        omega
    rw [if_neg hdirection]
    exact ⟨hcontrols, hkind, rfl⟩
  · split
    · have hframe := describe_descriptorsOnly (s.setChannel ch (b.write buffer n).1) e t
        (b.write buffer n).1.mMonotonicWriteIndex n ((b.write buffer n).2 % 65536) timestamp
      exact ⟨hframe.controls.trans hcontrols, hkind.trans hframe.kind, hframe.client⟩
    · exact ⟨hcontrols, hkind, rfl⟩

/-- On a single channel even a reset is no harm. -/
theorem storeChannel_lone (hlone : s.numChannels = 1) (buffer : Nat → AudioData)
    (written timestamp : Nat) :
    let s' := (s.storeChannel e t 0 buffer n written timestamp).stream
    SameKind s s' ∧ ∃ k', Uniform s' k' := by
  obtain ⟨b, hb⟩ : ∃ b, s.mChannelBuffers = [b] := List.length_eq_one_iff.mp hlone
  have hget : s.mChannelBuffers[0]? = some b := by rw [hb]; rfl
  have hkind : SameKind s (s.setChannel 0 (b.write buffer n).1) := sameKind_setChannel
  have huniform : Uniform (s.setChannel 0 (b.write buffer n).1) (b.control.write n) := by
    unfold Uniform
    rw [hkind.channels, hlone, controls_setChannel, IasLocalAudioBuffer.control_write]
    unfold controls
    rw [hb]
    rfl
  unfold storeChannel
  rw [hget]
  dsimp only
  split
  · split
    · obtain ⟨hreset, k', hk'⟩ := resetBuffers_uniform e huniform
      exact ⟨hkind.trans hreset, k', hk'⟩
    · exact ⟨hkind, _, huniform⟩
  · split
    · have hframe := describe_descriptorsOnly (s.setChannel 0 (b.write buffer n).1) e t
        (b.write buffer n).1.mMonotonicWriteIndex n ((b.write buffer n).2 % 65536) timestamp
      refine ⟨hkind.trans hframe.kind, b.control.write n, ?_⟩
      unfold Uniform
      rw [hframe.controls, huniform, hframe.kind.channels]
    · exact ⟨hkind, _, huniform⟩

/-! ## The writes of one packet -/

/-- `n` samples for each channel in turn. -/
def channelWrites (s : IasLocalAudioStream) (data : Nat → List AudioData) (timestamp : Nat) :
    List LocalAudioCall :=
  (List.range s.numChannels).map fun ch => .writeLocalAudioBuffer ch (data ch) timestamp

/-- **The room a packet needs.** When the first channel is written, either the client does
not ask for a reset on an overrun, or there is no other channel, or the samples fit. -/
def Fits (s : IasLocalAudioStream) (e : Estimates) (n : Nat) : Prop :=
  let s' := s.prepare e 0 n
  ¬ s'.ResetsOnOverrun ∨ s'.numChannels ≤ 1
    ∨ ∀ b ∈ s'.mChannelBuffers[0]?, n ≤ b.remaining

instance (s : IasLocalAudioStream) (e : Estimates) (n : Nat) : Decidable (s.Fits e n) :=
  inferInstanceAs (Decidable (_ ∨ _ ∨ ∀ b ∈ _, _))

/-- When a write comes to nothing at all. -/
def Deaf (s : IasLocalAudioStream) (n : Nat) : Prop :=
  s.mSampleFrequency = 0 ∨ n = 0 ∨ s.mWorkerRunning = false

theorem perform_of_deaf {samples : List AudioData} {timestamp : Nat}
    (h : s.Deaf samples.length) :
    perform e t s (.writeLocalAudioBuffer ch samples timestamp) = s := by
  unfold perform writeLocalAudioBuffer
  dsimp only
  split
  · rfl
  · rename_i hfreq
    split
    · rfl
    · rename_i hparam
      rcases h with h | h | h
      · exact absurd h hfreq
      · exact absurd (Or.inr h) hparam
      · rw [if_neg (by rw [h]; exact Bool.false_ne_true)]

theorem perform_of_not_deaf {samples : List AudioData} {timestamp : Nat}
    (h : ¬ s.Deaf samples.length) (hch : ch < s.numChannels) :
    perform e t s (.writeLocalAudioBuffer ch samples timestamp)
      = ((s.prepare e ch samples.length).storeChannel e t ch (fun i => samples.getD i 0)
          samples.length 0 timestamp).stream := by
  unfold Deaf at h
  push Not at h
  obtain ⟨hfreq, hlength, hworker⟩ := h
  unfold perform writeLocalAudioBuffer
  dsimp only
  rw [if_neg hfreq, if_neg (by omega), if_pos (by simpa using hworker)]

/-- How far a packet is: the first `i` channels have it. -/
structure Written (s : IasLocalAudioStream) (k : BufferControl) (n i : Nat)
    (s' : IasLocalAudioStream) : Prop where
  kind : SameKind s s'
  client : s'.mClientState = s.mClientState
  controls : s'.controls = mixed s.numChannels i (k.write n) k

theorem Written.quiet (h : Written s k n i s') (hquiet : s.Quiet k n) : s'.Quiet k n := by
  unfold Quiet ResetsOnOverrun at hquiet ⊢
  rw [h.client, h.kind.direction]
  exact hquiet

/-- **One channel more**: the write of channel `i` finds the bookkeeping of the channels
before it unchanged by a reset. -/
theorem storeChannel_written (h : Written s k n i s') (hi : i < s.numChannels) (hn : n < 65536)
    (hquiet : s.Quiet k n) (buffer : Nat → AudioData) (written timestamp : Nat) :
    Written s k n (i + 1) (s'.storeChannel e t i buffer n written timestamp).stream := by
  obtain ⟨b, hb, hbk⟩ := exists_channel (h.controls ▸ mixed_get hi)
  obtain ⟨hcontrols, hkind, hclient⟩ := storeChannel_quiet (e := e) (t := t) hb hn
    (hbk ▸ h.quiet hquiet) buffer written timestamp
  refine ⟨h.kind.trans hkind, hclient.trans h.client, ?_⟩
  rw [hcontrols, hbk, h.controls, mixed_set hi]

variable {data : Nat → List AudioData} {timestamp : Nat}

/-- One of the writes of a packet. -/
def writeChannel (e : Estimates) (t : TimeBase) (data : Nat → List AudioData) (timestamp : Nat)
    (s : IasLocalAudioStream) (ch : Nat) : IasLocalAudioStream :=
  perform e t s (.writeLocalAudioBuffer ch (data ch) timestamp)

theorem foldl_channelWrites : (s.channelWrites data timestamp).foldl (perform e t) s
    = (List.range s.numChannels).foldl (writeChannel e t data timestamp) s := List.foldl_map

theorem foldl_of_deaf (hdata : ∀ ch, (data ch).length = n) (h : s.Deaf n) (K : Nat) :
    (List.range K).foldl (writeChannel e t data timestamp) s = s := by
  refine Run.foldl_range_inv (P := fun _ s' => s' = s) rfl ?_
  rintro ch - s' rfl
  exact perform_of_deaf (by rw [hdata]; exact h)

/-- The check in front of channel 0 comes first. -/
theorem writeChannel_zero (hdata : ∀ ch, (data ch).length = n) (h : ¬ s.Deaf n)
    (hK : 0 < s.numChannels) : writeChannel e t data timestamp s 0
      = ((s.prepare e 0 n).storeChannel e t 0 (fun i => (data 0).getD i 0) n 0 timestamp).stream := by
  unfold writeChannel
  rw [perform_of_not_deaf (by rw [hdata]; exact h) hK, hdata]

theorem writeChannel_succ (hdata : ∀ ch, (data ch).length = n) (h : ¬ s.Deaf n)
    (hi : i + 1 < s.numChannels) : writeChannel e t data timestamp s (i + 1)
      = (s.storeChannel e t (i + 1) (fun j => (data (i + 1)).getD j 0) n 0 timestamp).stream := by
  unfold writeChannel
  rw [perform_of_not_deaf (by rw [hdata]; exact h) hi, hdata, prepare_later]

/-- **The loop over the channels**, when no reset comes in between. -/
theorem foldl_written (hdata : ∀ ch, (data ch).length = n) (hdeaf : ¬ s.Deaf n) (hn : n < 65536)
    (hprepare : SameKind s (s.prepare e 0 n)) (hk : Uniform (s.prepare e 0 n) k)
    (hquiet : (s.prepare e 0 n).Quiet k n) (hK : 0 < s.numChannels) :
    Written (s.prepare e 0 n) k n s.numChannels
      ((List.range s.numChannels).foldl (writeChannel e t data timestamp) s) := by
  have hloop := Run.foldl_range_inv (f := writeChannel e t data timestamp) (n := s.numChannels)
    (s := s) (P := fun i s' => i = 0 ∧ s' = s ∨ 0 < i ∧ Written (s.prepare e 0 n) k n i s')
    (Or.inl ⟨rfl, rfl⟩) ?_
  · rcases hloop with ⟨hnone, -⟩ | ⟨-, hwritten⟩
    · omega
    · exact hwritten
  intro i hi s' hs'
  refine Or.inr ⟨Nat.succ_pos i, ?_⟩
  have hi' : i < (s.prepare e 0 n).numChannels := hprepare.channels ▸ hi
  rcases hs' with ⟨hzero, hstart⟩ | ⟨hpos, hwritten⟩
  · rw [hzero, hstart, writeChannel_zero hdata hdeaf hK]
    have hstarted : Written (s.prepare e 0 n) k n 0 (s.prepare e 0 n) :=
      ⟨SameKind.refl _, rfl, by rw [hk, mixed_zero]⟩
    exact storeChannel_written hstarted (hzero ▸ hi') hn hquiet _ 0 timestamp
  · obtain ⟨m, rfl⟩ : ∃ m, i = m + 1 := ⟨i - 1, by omega⟩
    have hdeaf' : ¬ s'.Deaf n := by
      unfold Deaf
      rw [hwritten.kind.frequency, hprepare.frequency, hwritten.kind.worker, hprepare.worker]
      exact hdeaf
    rw [writeChannel_succ hdata hdeaf' (by rw [hwritten.kind.channels]; exact hi')]
    exact storeChannel_written hwritten hi' hn hquiet _ 0 timestamp

/-- **A packet keeps the channels in step**, if it fits. -/
theorem channelWrites_uniform (h : Uniform s k) (hdata : ∀ ch, (data ch).length = n)
    (hn : n < 65536) (hfits : s.mWorkerRunning = true → s.Fits e n) :
    ∃ k', Uniform ((s.channelWrites data timestamp).foldl (perform e t) s) k' := by
  rw [foldl_channelWrites]
  by_cases hdeaf : s.Deaf n
  · rw [foldl_of_deaf hdata hdeaf]
    exact ⟨k, h⟩
  have hworker : s.mWorkerRunning = true := by
    unfold Deaf at hdeaf
    push Not at hdeaf
    simpa using hdeaf.2.2
  obtain ⟨hprepare, k₁, hk₁⟩ := prepare_uniform e 0 n h
  rcases Nat.eq_zero_or_pos s.numChannels with hnone | hsome
  · rw [hnone]
    exact ⟨k, h⟩
  by_cases hlone : s.numChannels = 1
  · have hfirst : writeChannel e t data timestamp s 0 = _ := writeChannel_zero hdata hdeaf hsome
    obtain ⟨-, k', hk'⟩ := storeChannel_lone (e := e) (t := t) (n := n)
      (hprepare.channels.trans hlone) (fun i => (data 0).getD i 0) 0 timestamp
    refine ⟨k', ?_⟩
    rw [hlone, List.range_one, List.foldl_cons, List.foldl_nil, hfirst]
    exact hk'
  have hquiet : (s.prepare e 0 n).Quiet k₁ n := by
    rcases hfits hworker with hclient | hfew | hroom
    · exact Or.inl hclient
    · have hchannels := hprepare.channels
      omega
    · have hget : (s.prepare e 0 n).controls[0]? = some k₁ := by
        rw [hk₁, hprepare.channels, List.getElem?_replicate, if_pos hsome]
      obtain ⟨b, hb, hbk⟩ := exists_channel hget
      exact Or.inr (hbk ▸ hroom b hb)
  have hwritten : Written _ _ _ _ ((List.range s.numChannels).foldl
      (writeChannel e t data timestamp) s) := foldl_written hdata hdeaf hn hprepare hk₁ hquiet hsome
  refine ⟨k₁.write n, ?_⟩
  unfold Uniform
  rw [hwritten.controls, hwritten.kind.channels, hprepare.channels, mixed_all]

end IasLocalAudioStream

end AvbStreamHandler
