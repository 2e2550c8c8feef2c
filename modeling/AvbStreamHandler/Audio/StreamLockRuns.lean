import AvbStreamHandler.Audio.StreamLock

/-!
# When the stream lock is taken twice

The only thing a local stream does under the lock of its client that makes the client take the
lock again is to signal an underrun, and the only place where that can happen is a reset of
time-aware buffers: what is more than the optimal fill is *read*, so that the descriptors go
along, and a read that delivers nothing is an underrun. A channel that is ready and holds more
than the optimal fill delivers nothing if no descriptor is queued. It also counts as nothing
if its excess is a multiple of 65536, since the number of samples is kept in 16 bits.

Up to the first underrun a reset leaves the channels it has not come to, the queue and the
client as they were. So whether it comes to one can be told from the state it starts in.
-/

namespace AvbStreamHandler

open Kit Kit.Run Kit.Mutex IasAvbProcessingResult

namespace IasLocalAudioStream

variable {s s' : IasLocalAudioStream} {e : Estimates} {t : TimeBase} {ch i : Nat}
  {b : IasLocalAudioBuffer} {k : BufferControl}

/-- A channel with more than the optimal fill, of which a read delivers nothing. -/
def StarvedAt (s : IasLocalAudioStream) (k : BufferControl) : Prop :=
  s.mSampleFrequency ≠ 0 ∧ k.mReadReady = true ∧ s.mOptimalFillLevel < k.getFillLevel
    ∧ (s.mBufferDescQ.peek = none ∨ (k.getFillLevel - s.mOptimalFillLevel) % 65536 = 0)

/-- A time-aware stream with such a channel. -/
def Starved (s : IasLocalAudioStream) : Prop :=
  s.hasBufferDesc = true ∧ ∃ k ∈ s.controls, s.StarvedAt k

instance (s : IasLocalAudioStream) (k : BufferControl) : Decidable (s.StarvedAt k) :=
  inferInstanceAs (Decidable (_ ∧ _ ∧ _ ∧ _))

instance (s : IasLocalAudioStream) : Decidable s.Starved :=
  inferInstanceAs (Decidable (_ ∧ _))

/-! ## One channel -/

theorem noteUnderrun_samplesRead (r : ReadResult) :
    (noteUnderrun r).samplesRead = r.samplesRead := by
  unfold noteUnderrun
  split <;> rfl

theorem readTimeAware_samplesRead (s : IasLocalAudioStream) (e : Estimates) (ch : Nat)
    (b : IasLocalAudioBuffer) (n : Nat) :
    (s.readTimeAware e ch b n 0).samplesRead
      = if s.mBufferDescQ.peek = none then 0 else min n b.getFillLevel % 65536 := by
  unfold readTimeAware
  cases s.mBufferDescQ.peek with
  | none => rfl
  | some desc =>
      rw [if_neg nofun, ← IasLocalAudioBuffer.length_read]
      dsimp only
      split <;> rfl

/-- The read of a reset, when there is something to read. -/
theorem readLocalAudioBuffer_excess (haware : s.hasBufferDesc = true)
    (hfreq : s.mSampleFrequency ≠ 0) (hb : s.mChannelBuffers[ch]? = some b) {n : Nat} (hn : n ≠ 0)
    (hready : b.mReadReady = true) :
    s.readLocalAudioBuffer e ch n 0 = noteUnderrun (s.readTimeAware e ch b n 0) := by
  unfold readLocalAudioBuffer
  rw [if_neg hfreq, hb]
  dsimp only
  rw [if_neg hn, if_pos haware, if_pos hready]

/-- The samples the read of a reset delivers. -/
theorem samplesRead_excess (haware : s.hasBufferDesc = true) (hfreq : s.mSampleFrequency ≠ 0)
    (hb : s.mChannelBuffers[ch]? = some b) (hfill : s.mOptimalFillLevel < b.getFillLevel)
    (hready : b.mReadReady = true) :
    (s.readLocalAudioBuffer e ch (b.getFillLevel - s.mOptimalFillLevel) 0).samplesRead = 0
      ↔ s.StarvedAt b.control := by
  have hmin : min (b.getFillLevel - s.mOptimalFillLevel) b.getFillLevel
      = b.getFillLevel - s.mOptimalFillLevel := Nat.min_eq_left (Nat.sub_le _ _)
  rw [readLocalAudioBuffer_excess haware hfreq hb (Nat.sub_ne_zero_of_lt hfill) hready,
    noteUnderrun_samplesRead, readTimeAware_samplesRead, hmin]
  unfold StarvedAt
  rw [IasLocalAudioBuffer.control_fill]
  constructor
  · intro h
    refine ⟨hfreq, hready, hfill, ?_⟩
    split at h
    · rename_i hpeek
      exact .inl hpeek
    · exact .inr h
  · rintro ⟨-, -, -, hpeek | hwhole⟩
    · rw [if_pos hpeek]
    · split
      · rfl
      · exact hwhole

/-- **A starved channel is an underrun**, and no other is. -/
theorem resetChannelActivity_eq (hactive : s.mClientState = .eIasActive)
    (haware : s.hasBufferDesc = true) (hb : s.mChannelBuffers[ch]? = some b) :
    s.resetChannelActivity e ch
      = if s.StarvedAt b.control then [.signalDiscontinuity .eIasUnderrun] else [] := by
  unfold resetChannelActivity readActivity
  rw [hb]
  dsimp only
  by_cases hfill : s.mOptimalFillLevel < b.getFillLevel
  swap
  · rw [if_neg hfill, if_neg fun h => hfill h.2.2.1]
  rw [if_pos hfill]
  by_cases hfreq : s.mSampleFrequency = 0
  · rw [if_pos (.inl hfreq), if_neg fun h => h.1 hfreq]
  rw [if_neg fun h => h.elim hfreq (Nat.sub_ne_zero_of_lt hfill)]
  cases hready : b.mReadReady with
  | false =>
      have hfed : ¬ s.StarvedAt b.control := fun h => nomatch hready.symm.trans h.2.1
      rw [if_pos ⟨haware, rfl⟩, if_neg hfed]
  | true =>
      rw [if_neg fun h => nomatch h.2]
      have hiff := samplesRead_excess (e := e) haware hfreq hb hfill hready
      by_cases hstarved : s.StarvedAt b.control
      · rw [if_pos (hiff.mpr hstarved), if_pos hstarved]
        unfold signal
        exact if_pos hactive
      · rw [if_neg fun h => hstarved (hiff.mp h), if_neg hstarved]

/-- What a reset has left alone when it has come to channel `i`, and no underrun. -/
structure Untouched (s : IasLocalAudioStream) (i : Nat) (s' : IasLocalAudioStream) : Prop where
  kind : SameKind s s'
  client : s'.mClientState = s.mClientState
  rest : ∀ j, i ≤ j → s'.controls[j]? = s.controls[j]?
  queue : i < s.numChannels → s'.mBufferDescQ = s.mBufferDescQ

theorem Untouched.refl (s : IasLocalAudioStream) : Untouched s 0 s :=
  ⟨SameKind.refl s, rfl, fun _ _ => rfl, fun _ => rfl⟩

/-- A channel that is not starved is read, or left alone. -/
theorem resetChannel_fed (haware : s.hasBufferDesc = true)
    (hb : s.mChannelBuffers[ch]? = some b) (hfed : ¬ s.StarvedAt b.control) :
    resetChannel e s ch = s ∨ ∃ b' q, resetChannel e s ch = (s.setChannel ch b').setDescQ q
      ∧ (ch + 1 < s.numChannels → q = s.mBufferDescQ) := by
  unfold resetChannel
  rw [hb]
  dsimp only
  split
  swap
  · exact .inl rfl
  rename_i hfill
  by_cases hfreq : s.mSampleFrequency = 0
  · left
    unfold readLocalAudioBuffer
    rw [if_pos hfreq]
  cases hready : b.mReadReady with
  | false =>
      left
      unfold readLocalAudioBuffer
      rw [if_neg hfreq, hb]
      dsimp only
      rw [if_neg (Nat.sub_ne_zero_of_lt hfill), if_pos haware, hready, if_neg nofun]
  | true =>
      right
      have hsome := mt (samplesRead_excess (e := e) haware hfreq hb hfill hready).mp hfed
      have hpeek : s.mBufferDescQ.peek ≠ none :=
        fun hnone => hfed ⟨hfreq, hready, hfill, .inl hnone⟩
      obtain ⟨desc, hdesc⟩ := Option.ne_none_iff_exists'.mp hpeek
      rw [readLocalAudioBuffer_excess haware hfreq hb (Nat.sub_ne_zero_of_lt hfill) hready]
        at hsome ⊢
      rw [noteUnderrun_samplesRead] at hsome
      obtain ⟨q, hstream, hq⟩ := @readTimeAware_stream s e ch
        (b.getFillLevel - s.mOptimalFillLevel) b desc hdesc 0
      refine ⟨(b.read (b.getFillLevel - s.mOptimalFillLevel)).1, q, ?_, hq⟩
      unfold noteUnderrun
      rw [if_neg hsome]
      exact hstream

/-- The next channel is not starved. -/
theorem Untouched.next (h : Untouched s i s') (haware : s.hasBufferDesc = true)
    (hi : i < s.numChannels) (hb : s'.mChannelBuffers[i]? = some b)
    (hfed : ¬ s'.StarvedAt b.control) : Untouched s (i + 1) (resetChannel e s' i) := by
  obtain hsame | ⟨b', q, hread, hq⟩ :=
    resetChannel_fed (e := e) (h.kind.timeAware.trans haware) hb hfed
  · rw [hsame]
    exact ⟨h.kind, h.client, fun j hj => h.rest j (by omega), fun hlt => h.queue (by omega)⟩
  · rw [hread]
    refine ⟨h.kind.trans (sameKind_setChannel.trans ⟨rfl, rfl, rfl, rfl, rfl, rfl⟩), h.client,
      ?_, ?_⟩
    · intro j hj
      show (s'.setChannel i b').controls[j]? = _
      rw [controls_setChannel, List.getElem?_set_ne (by omega)]
      exact h.rest j (by omega)
    · intro hlt
      exact (hq (h.kind.channels ▸ hlt)).trans (h.queue hi)

/-- A channel the reset has not come to is starved if it was at the start. -/
theorem Untouched.starvedAt (h : Untouched s i s') (hi : i < s.numChannels)
    (k : BufferControl) : s'.StarvedAt k ↔ s.StarvedAt k := by
  unfold StarvedAt
  rw [h.kind.frequency, h.kind.optimal, h.queue hi]

/-! ## A reset -/

/-- The rounds so far: an underrun on a starved stream, or nothing at all. -/
structure RoundsDone (s : IasLocalAudioStream) (i : Nat)
    (r : IasLocalAudioStream × List Activity) : Prop where
  only : ∀ a ∈ r.2, a = .signalDiscontinuity .eIasUnderrun
  way : (r.2 ≠ [] ∧ s.Starved)
    ∨ (r.2 = [] ∧ Untouched s i r.1 ∧ ∀ j < i, ∀ k, s.controls[j]? = some k → ¬ s.StarvedAt k)

theorem resetChannelActivity_only (s : IasLocalAudioStream) (e : Estimates) (ch : Nat) :
    ∀ a ∈ s.resetChannelActivity e ch, a = .signalDiscontinuity .eIasUnderrun := by
  have hsignal : ∀ a ∈ s.signal .eIasUnderrun, a = .signalDiscontinuity .eIasUnderrun := by
    intro a ha
    unfold signal at ha
    split at ha
    · exact List.mem_singleton.mp ha
    · nomatch ha
  intro a ha
  unfold resetChannelActivity at ha
  split at ha
  · nomatch ha
  split at ha
  swap
  · nomatch ha
  unfold readActivity at ha
  split at ha
  · nomatch ha
  split at ha
  · nomatch ha
  split at ha
  · nomatch ha
  split at ha
  · exact hsignal a ha
  · nomatch ha

theorem resetRound_done {r : IasLocalAudioStream × List Activity}
    (hactive : s.mClientState = .eIasActive) (haware : s.hasBufferDesc = true)
    (hi : i < s.numChannels) (h : RoundsDone s i r) : RoundsDone s (i + 1) (resetRound e r i) := by
  obtain ⟨honly, hway⟩ := h
  refine ⟨?_, ?_⟩
  · intro a ha
    obtain ha | ha := List.mem_append.mp ha
    · exact honly a ha
    · exact resetChannelActivity_only r.1 e i a ha
  obtain ⟨hsome, hstarved⟩ | ⟨hnone, huntouched, hfed⟩ := hway
  · left
    exact ⟨fun hnil => hsome (List.append_eq_nil_iff.mp hnil).1, hstarved⟩
  obtain ⟨k, hk⟩ : ∃ k, s.controls[i]? = some k :=
    ⟨_, List.getElem?_eq_getElem (length_controls.symm ▸ hi)⟩
  obtain ⟨b, hb, rfl⟩ := exists_channel ((huntouched.rest i (Nat.le_refl i)).trans hk)
  have hround := resetChannelActivity_eq (e := e) (huntouched.client.trans hactive)
    (huntouched.kind.timeAware.trans haware) hb
  unfold resetRound
  dsimp only
  rw [hround, hnone, List.nil_append]
  have hiff := huntouched.starvedAt hi b.control
  by_cases hstarved : r.1.StarvedAt b.control
  · left
    rw [if_pos hstarved]
    exact ⟨nofun, haware, b.control, List.mem_of_getElem? hk, hiff.mp hstarved⟩
  · right
    rw [if_neg hstarved]
    refine ⟨rfl, huntouched.next haware hi hb hstarved, ?_⟩
    intro j hj k' hk'
    obtain hlt | rfl := Nat.lt_succ_iff_lt_or_eq.mp hj
    · exact hfed j hlt k' hk'
    · rw [hk] at hk'
      obtain ⟨⟩ := hk'
      exact fun h => hstarved (hiff.mpr h)

/-- The underruns of a piece of work are those of the resets of starved streams. -/
def Accounted (l : List Activity) : Prop :=
  .signalDiscontinuity .eIasUnderrun ∈ l ↔ ∃ s, .resetBuffers s ∈ l ∧ s.Starved

theorem accounted_nil : Accounted [] := ⟨nofun, nofun⟩

theorem Accounted.append {l l' : List Activity} (h : Accounted l) (h' : Accounted l') :
    Accounted (l ++ l') := by
  unfold Accounted
  rw [List.mem_append]
  constructor
  · rintro (hl | hl')
    · obtain ⟨s, hs, hstarved⟩ := h.mp hl
      exact ⟨s, List.mem_append_left _ hs, hstarved⟩
    · obtain ⟨s, hs, hstarved⟩ := h'.mp hl'
      exact ⟨s, List.mem_append_right _ hs, hstarved⟩
  · rintro ⟨s, hs, hstarved⟩
    obtain hs | hs := List.mem_append.mp hs
    · exact .inl (h.mpr ⟨s, hs, hstarved⟩)
    · exact .inr (h'.mpr ⟨s, hs, hstarved⟩)

/-- **A reset comes to an underrun exactly if the stream is starved.** -/
theorem resetActivity_accounted (hactive : s.mClientState = .eIasActive) :
    Accounted (s.resetActivity e) := by
  unfold resetActivity
  by_cases haware : s.hasBufferDesc = true
  swap
  · rw [if_neg haware]
    refine ⟨fun h => (nomatch List.mem_singleton.mp h), ?_⟩
    rintro ⟨s', hs', haware', -⟩
    obtain ⟨⟩ := List.mem_singleton.mp hs'
    exact absurd haware' haware
  rw [if_pos haware]
  obtain ⟨honly, hway⟩ : RoundsDone s s.numChannels
      ((List.range s.numChannels).foldl (resetRound e) (s, [])) :=
    foldl_range_inv ⟨nofun, .inr ⟨rfl, Untouched.refl s, nofun⟩⟩
      fun i hi r hr => resetRound_done hactive haware hi hr
  generalize ((List.range s.numChannels).foldl (resetRound e) (s, [])).2 = l at honly hway
  have hself : ∀ s', .resetBuffers s' ∈ (.resetBuffers s :: l : List Activity) → s' = s := by
    intro s' hs'
    obtain hs' | hs' := List.mem_cons.mp hs'
    · injection hs'
    · nomatch honly _ hs'
  obtain ⟨hsome, hstarved⟩ | ⟨rfl, -, hfed⟩ := hway
  · obtain ⟨a, ha⟩ := List.exists_mem_of_ne_nil l hsome
    refine ⟨fun _ => ⟨s, List.mem_cons_self, hstarved⟩, fun _ => ?_⟩
    exact List.mem_cons_of_mem _ (honly a ha ▸ ha)
  · refine ⟨fun h => (nomatch List.mem_singleton.mp h), ?_⟩
    rintro ⟨s', hs', hstarved⟩
    rw [hself s' hs'] at hstarved
    obtain ⟨-, k, hk, hstarvedAt⟩ := hstarved
    obtain ⟨j, hj⟩ := List.mem_iff_getElem?.mp hk
    have hlt : j < s.numChannels := length_controls ▸ (List.getElem?_eq_some_iff.mp hj).1
    exact absurd hstarvedAt (hfed j hlt k hj)

/-! ## The work of a local stream -/

theorem signal_overrun_accounted : Accounted (s.signal .eIasOverrun) := by
  unfold signal
  split
  · exact ⟨fun h => (nomatch List.mem_singleton.mp h),
      fun ⟨_, h, _⟩ => (nomatch List.mem_singleton.mp h)⟩
  · exact accounted_nil

theorem overrunActivity_accounted : Accounted (s.overrunActivity e) := by
  unfold overrunActivity
  refine signal_overrun_accounted.append ?_
  split
  · rename_i hresets
    exact resetActivity_accounted hresets.1
  · exact accounted_nil

theorem clientActivity_accounted (active : Bool) : Accounted (s.clientActivity e active) := by
  unfold clientActivity
  dsimp only
  split
  · exact accounted_nil
  split
  · exact accounted_nil
  split
  · exact accounted_nil
  · exact resetActivity_accounted rfl

theorem prepareActivity_accounted (n : Nat) : Accounted (s.prepareActivity e ch n) := by
  unfold prepareActivity
  split
  swap
  · exact accounted_nil
  split
  · exact accounted_nil
  split
  · exact overrunActivity_accounted
  · exact accounted_nil

theorem storeActivity_accounted (buffer : Nat → AudioData) (n : Nat) :
    Accounted (s.storeActivity e ch buffer n) := by
  unfold storeActivity
  split
  · exact accounted_nil
  dsimp only
  split
  · exact overrunActivity_accounted
  · exact accounted_nil

theorem writeActivity_accounted (buffer : Nat → AudioData) (n : Nat) :
    Accounted (s.writeActivity e ch buffer n) := by
  unfold writeActivity
  split
  · exact accounted_nil
  split
  · exact accounted_nil
  split
  · exact (prepareActivity_accounted n).append (storeActivity_accounted buffer n)
  · exact accounted_nil

theorem callActivity_accounted (call : LocalAudioCall) : Accounted (s.callActivity e call) := by
  cases call with
  | resetBuffers => exact accounted_nil
  | writeLocalAudioBuffer ch samples timestamp => exact writeActivity_accounted _ _

theorem performAll_accounted (calls : List LocalAudioCall) :
    Accounted (s.performAll e t calls).2 := by
  have hrun : ∀ (calls : List LocalAudioCall) (r : IasLocalAudioStream × List Activity),
      Accounted r.2 → Accounted (calls.foldl (performNoting e t) r).2 := by
    intro calls
    induction calls with
    | nil => exact fun r hr => hr
    | cons call calls ih =>
        exact fun r hr => ih _ (hr.append (callActivity_accounted call))
  exact hrun calls (s, []) accounted_nil

end IasLocalAudioStream

open IasLocalAudioStream

/-! ## The lock -/

/-- A thread that holds the lock takes it again if there is an underrun. -/
theorem reenters_lockOps (l : List Activity) :
    reenters true (l.flatMap Activity.lockOps) = true
      ↔ .signalDiscontinuity .eIasUnderrun ∈ l := by
  induction l with
  | nil => exact ⟨nofun, nofun⟩
  | cons a l ih =>
      rw [List.flatMap_cons, reenters_append, List.mem_cons]
      by_cases ha : a = .signalDiscontinuity .eIasUnderrun
      · subst ha
        exact ⟨fun _ => .inl rfl, fun _ => rfl⟩
      · have hsilent : a.lockOps = [] := by
          unfold Activity.lockOps
          split
          · exact absurd rfl ha
          · rfl
        rw [hsilent]
        show (false || reenters true (l.flatMap Activity.lockOps)) = true ↔ _
        rw [Bool.false_or, ih]
        exact ⟨.inr, fun h => h.resolve_left fun heq => ha heq.symm⟩

/-- A thread that does not hold the lock takes it and gives it back. -/
theorem lockOps_free (l : List Activity) :
    reenters false (l.flatMap Activity.lockOps) = false
      ∧ held false (l.flatMap Activity.lockOps) = false := by
  induction l with
  | nil => exact ⟨rfl, rfl⟩
  | cons a l ih =>
      have hfree : reenters false a.lockOps = false ∧ held false a.lockOps = false := by
        unfold Activity.lockOps
        split <;> exact ⟨rfl, rfl⟩
      rw [List.flatMap_cons, reenters_append, held_append, hfree.1, hfree.2]
      exact ih

namespace AudioListener

variable {e : Estimates} {w : AudioListener}

/-- What the local stream does while the lock is held. -/
def activityUnderLock (e : Estimates) (w : AudioListener) : ListenerCall → List Activity
  | .readFromAvbPacket packet length t => (w.readFromAvbPacket e packet length t).2
  | .setActive active =>
      if w.rx.mActive = active then [] else (w.activationChanged e active).2
  | _ => []

/-- No buffers are reset under the lock while their stream is starved. -/
def ResetsFed (e : Estimates) (w : AudioListener) (call : ListenerCall) : Prop :=
  ∀ s, .resetBuffers s ∈ w.activityUnderLock e call → ¬ s.Starved

/-- The thread that makes the call does not wait for itself. -/
def NeverReentered (e : Estimates) (w : AudioListener) (call : ListenerCall) : Prop :=
  reenters false (w.act e call).2 = false

instance (e : Estimates) (w : AudioListener) (call : ListenerCall) :
    Decidable (NeverReentered e w call) :=
  inferInstanceAs (Decidable (_ = false))

theorem callClientActivity_accounted (call : Option Bool) :
    Accounted (w.callClientActivity e call) := by
  cases call with
  | none => exact accounted_nil
  | some active => exact clientActivity_accounted active

theorem readFromAvbPacket_accounted (packet : Option Bytes) (length : Nat) (t : TimeBase) :
    Accounted (w.readFromAvbPacket e packet length t).2 :=
  (callClientActivity_accounted _).append (performAll_accounted _)

/-- A guarded piece of work takes the lock twice if a starved stream is reset in it. -/
theorem guarded_iff {l : List Activity} (h : Accounted l) :
    reenters false (guarded (l.flatMap Activity.lockOps)) = false
      ↔ ∀ s, .resetBuffers s ∈ l → ¬ s.Starved := by
  unfold Accounted at h
  rw [reenters_guarded, Bool.false_or, ← Bool.not_eq_true, reenters_lockOps, h]
  exact ⟨fun hnone s hs hstarved => hnone ⟨s, hs, hstarved⟩,
    fun hall ⟨s, hs, hstarved⟩ => hall s hs hstarved⟩

/-- Where nothing is done under the lock, no buffers are reset under it. -/
theorem idle_iff {ops : List Op} (hops : reenters false ops = false) :
    reenters false ops = false
      ↔ ∀ s, Activity.resetBuffers s ∈ ([] : List Activity) → ¬ s.Starved :=
  ⟨fun _ _ hs => absurd hs List.not_mem_nil, fun _ => hops⟩

/-- **One call takes the lock twice exactly if it resets the buffers of a starved stream.** -/
theorem neverReentered_iff (w : AudioListener) (call : ListenerCall) :
    NeverReentered e w call ↔ ResetsFed e w call := by
  unfold NeverReentered ResetsFed
  cases call with
  | readFromAvbPacket packet length t =>
      exact guarded_iff (readFromAvbPacket_accounted packet length t)
  | setActive active =>
      dsimp only [act, activityUnderLock]
      split
      · exact idle_iff rfl
      · exact guarded_iff (callClientActivity_accounted _)
  | connectTo localStream => exact idle_iff rfl
  | copyJob reads descQ => exact idle_iff rfl
  | copyReset => exact idle_iff rfl
  | updateBufferStatus => exact idle_iff (lockOps_free _).1
  | setWorkerActive active => exact idle_iff rfl

/-- **The stream lock is never taken twice**, in a run from any state, exactly if no buffers are
reset under it while their stream is starved. -/
theorem lock_never_reentered_iff (e : Estimates) (w : AudioListener)
    (calls : List ListenerCall) :
    Always (step e) (NeverReentered e) w calls ↔ Always (step e) (ResetsFed e) w calls :=
  have hiff : ∀ w call, True → (NeverReentered e w call ↔ ResetsFed e w call) :=
    fun w call _ => neverReentered_iff w call
  always_congr hiff (fun _ _ _ _ => trivial) trivial

/-- A stream of packets of twelve samples each. -/
def twelveSamples : AvbAudioConfig :=
  .common .eIasAvbCompLatest 4000 1 48000 .eIasAvbAudioFormatSaf16

/-- A mono stream with periods of four samples, and room for three periods. -/
def shortPeriods : IasLocalAudioStream :=
  .init 1 12 48000 4 6 0 0 6 true true false fun _ _ => 0

def twelveSamplePacket (seqNum : UInt8) : Bytes :=
  Bytes.ofList ([0x02, 0x81, seqNum, 0, 0, 0, 0, 0, 0, 0, 0, 0, 0, 0, 0, 0, 4, 0x50, 1, 16, 0, 24,
    0, 0] ++ List.replicate 24 0)

/-- **The second packet locks the receive thread out.** The first one fills the buffers, but
only one descriptor is queued for it, and the reset for the second one takes that. What then
is stored of the packet is more than the optimal fill again, without a descriptor. -/
theorem receive_thread_deadlocks :
    ¬ ∀ calls, Always (step .wholeNanoseconds) (NeverReentered .wholeNanoseconds)
        { config := twelveSamples, rx := .init twelveSamples.toRxConfig none
          localStream := shortPeriods } calls := by
  intro hgood
  have hcalls := hgood [.connectTo (some (shortPeriods, { mNumChannels := 1 })), .setActive true,
    .readFromAvbPacket (some (twelveSamplePacket 0)) 48 ⟨0, 0⟩,
    .readFromAvbPacket (some (twelveSamplePacket 1)) 48 ⟨0, 0⟩]
  revert hcalls
  decide +kernel

end AudioListener

end AvbStreamHandler
