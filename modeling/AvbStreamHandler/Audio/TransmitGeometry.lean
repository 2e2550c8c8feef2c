import AvbStreamHandler.Audio.AvbAudioTalker
import AvbStreamHandler.Audio.AvbAudioPacketBound
import AvbStreamHandler.Audio.ChannelAlignment
import AvbStreamHandler.Audio.LocalAudioBufferProof

/-!
# The geometry of transmitted packets

How many samples of each channel go into a packet. A talker is set up for a number of samples
per packet, and its clock counts on it. Two things can make a packet shorter: a local stream
that has some samples left, but not enough; and, for good, a dump of late samples that
finds fewer than a packet's worth, since it shortens the very number it was given.
-/

namespace AvbStreamHandler

open Kit Kit.Word Kit.While

namespace IasLocalAudioStream

variable {s s' : IasLocalAudioStream} {e : Estimates} {ch n r : Nat} {b : IasLocalAudioBuffer}

/-! ## Reading from a transmit stream -/

/-- A ring whose indices are in order, of a size its registers can tell apart. -/
def SoundRing (b : IasLocalAudioBuffer) : Prop :=
  ∃ N, N < 2147483648 ∧ IasLocalAudioBuffer.Rep N b

/-- The local stream of a talker. -/
structure Sound (s : IasLocalAudioStream) : Prop where
  transmit : s.isReceive = false
  initialized : s.mSampleFrequency ≠ 0
  rings : ∀ b ∈ s.mChannelBuffers, SoundRing b

/-- A read takes out what it delivers. -/
theorem soundRing_read (h : SoundRing b) (n : Nat) : SoundRing (b.read n).1
    ∧ (b.read n).1.getFillLevel = b.getFillLevel - min n b.getFillLevel := by
  obtain ⟨N, hN, hrep⟩ := h
  obtain ⟨hrep', hstored⟩ := IasLocalAudioBuffer.read_spec hrep (by omega) (hrep.unambiguous hN) n
  have hfill : b.getFillLevel = IasLocalAudioBuffer.stored N b :=
    IasLocalAudioBuffer.getFillLevel_eq hrep (by omega) (hrep.unambiguous hN)
  have hfill' : (b.read n).1.getFillLevel = IasLocalAudioBuffer.stored N (b.read n).1 :=
    IasLocalAudioBuffer.getFillLevel_eq hrep' (by omega) (hrep'.unambiguous hN)
  rw [b.length_read] at hstored
  exact ⟨⟨N, hN, hrep'⟩, by omega⟩

/-- What a read of a channel comes to, when an underrun moves nobody. -/
inductive TxRead (s : IasLocalAudioStream) (ch n r : Nat) (result : ReadResult) : Prop
  | delivered (b : IasLocalAudioBuffer) (channel : s.mChannelBuffers[ch]? = some b)
      (q : IasLocalAudioBufferDesc)
      (stream : result.stream = (s.setChannel ch (b.read n).1).setDescQ q)
      (described : s.hasBufferDesc = true → s.mBufferDescQ.peek ≠ none)
      (queue : ch + 1 < s.numChannels → q = s.mBufferDescQ)
      (count : result.samplesRead = min n b.getFillLevel % 65536)
  | notReady (b : IasLocalAudioBuffer) (channel : s.mChannelBuffers[ch]? = some b)
      (aware : s.hasBufferDesc = true) (ready : b.mReadReady = false) (stream : result.stream = s)
      (count : result.samplesRead = 0)
  | starved (aware : s.hasBufferDesc = true) (empty : s.mBufferDescQ.peek = none)
      (stream : result.stream = s) (count : result.samplesRead = r)

/-- The client of a transmit stream does nothing about an underrun. -/
theorem noteUnderrun_transmit {result : ReadResult} (h : result.stream.isReceive = false) :
    noteUnderrun result = result := by
  unfold noteUnderrun
  split
  · have hsignal : result.stream.signalUnderrun = result.stream := by
      unfold signalUnderrun
      exact if_neg fun hactive => Bool.noConfusion (h.symm.trans hactive.2)
    rw [hsignal]
  · rfl

theorem txRead_cases (h : Sound s) (hb : s.mChannelBuffers[ch]? = some b) (hn : n ≠ 0) (r : Nat) :
    TxRead s ch n r (s.readLocalAudioBuffer e ch n r) := by
  unfold readLocalAudioBuffer
  rw [if_neg h.initialized, hb]
  dsimp only
  rw [if_neg hn]
  cases haware : s.hasBufferDesc with
  | false =>
      rw [if_neg Bool.false_ne_true, noteUnderrun_transmit h.transmit]
      refine .delivered b hb s.mBufferDescQ rfl (fun hnot => ?_) (fun _ => rfl) ?_
      · exact Bool.noConfusion (haware.symm.trans hnot)
      · rw [← b.length_read]
  | true =>
      rw [if_pos rfl]
      cases hready : b.mReadReady with
      | false =>
          rw [if_neg Bool.false_ne_true]
          exact .notReady b hb haware hready rfl rfl
      | true =>
          rw [if_pos rfl]
          cases hpeek : s.mBufferDescQ.peek with
          | none =>
              have hnone : s.readTimeAware e ch b n r = { samplesRead := r, stream := s } := by
                unfold readTimeAware
                rw [hpeek]
              rw [hnone, noteUnderrun_transmit h.transmit]
              exact .starved haware hpeek rfl rfl
          | some desc =>
              have hcount : (s.readTimeAware e ch b n r).samplesRead
                  = min n b.getFillLevel % 65536 := by
                rw [← b.length_read]
                unfold readTimeAware
                rw [hpeek]
                dsimp only
                split <;> rfl
              obtain ⟨q, hstream, hqueue⟩ : ∃ q, (s.readTimeAware e ch b n r).stream
                  = (s.setChannel ch (b.read n).1).setDescQ q
                    ∧ (ch + 1 < s.numChannels → q = s.mBufferDescQ) :=
                readTimeAware_stream hpeek
              have hreceive : (s.readTimeAware e ch b n r).stream.isReceive = false := by
                rw [hstream]
                exact h.transmit
              rw [noteUnderrun_transmit hreceive]
              refine .delivered b hb q hstream (fun _ hnone => ?_) hqueue hcount
              exact nomatch hpeek.symm.trans hnone

/-- What a read leaves alone. -/
structure AfterRead (s : IasLocalAudioStream) (ch : Nat) (s' : IasLocalAudioStream) : Prop where
  sound : Sound s'
  kind : SameKind s s'
  others : ∀ j, j ≠ ch → s'.mChannelBuffers[j]? = s.mChannelBuffers[j]?
  queue : ch + 1 < s.numChannels → s'.mBufferDescQ = s.mBufferDescQ

theorem AfterRead.refl (h : Sound s) (ch : Nat) : AfterRead s ch s :=
  ⟨h, SameKind.refl s, fun _ _ => rfl, fun _ => rfl⟩

theorem TxRead.after {result : ReadResult} (hread : TxRead s ch n r result) (h : Sound s) :
    AfterRead s ch result.stream := by
  cases hread with
  | notReady _ _ _ _ hstream _ => rw [hstream]; exact .refl h ch
  | starved _ _ hstream _ => rw [hstream]; exact .refl h ch
  | delivered b hb q hstream _ hqueue _ =>
      rw [hstream]
      refine ⟨⟨h.transmit, h.initialized, ?_⟩,
        sameKind_setChannel.trans ⟨rfl, rfl, rfl, rfl, rfl, rfl⟩, ?_, hqueue⟩
      · intro b' hb'
        rcases List.mem_or_eq_of_mem_set hb' with hold | rfl
        · exact h.rings b' hold
        · exact (soundRing_read (h.rings b (List.mem_of_getElem? hb)) n).1
      · intro j hj
        exact List.getElem?_set_ne (Ne.symm hj)

/-- A read call of any kind. -/
theorem readLocalAudioBuffer_after (h : Sound s) (ch n r : Nat) :
    AfterRead s ch (s.readLocalAudioBuffer e ch n r).stream := by
  cases hb : s.mChannelBuffers[ch]? with
  | none =>
      have hstream : (s.readLocalAudioBuffer e ch n r).stream = s := by
        unfold readLocalAudioBuffer
        rw [if_neg h.initialized, hb]
      rw [hstream]
      exact .refl h ch
  | some b =>
      by_cases hn : n = 0
      · have hstream : (s.readLocalAudioBuffer e ch n r).stream = s := by
          unfold readLocalAudioBuffer
          rw [if_neg h.initialized, hb]
          dsimp only
          rw [if_pos hn]
        rw [hstream]
        exact .refl h ch
      · exact (txRead_cases h hb hn r).after h

/-! ## Dumping -/

theorem foldl_min_le (l : List IasLocalAudioBuffer) (fill : Nat) :
    l.foldl (fun fill b => min fill b.getFillLevel) fill ≤ fill
      ∧ ∀ b ∈ l, l.foldl (fun fill b => min fill b.getFillLevel) fill ≤ b.getFillLevel := by
  induction l generalizing fill with
  | nil => exact ⟨Nat.le_refl _, fun b hb => nomatch hb⟩
  | cons b l ih =>
      obtain ⟨hfill, hrest⟩ := ih (min fill b.getFillLevel)
      rw [List.foldl_cons]
      refine ⟨Nat.le_trans hfill (Nat.min_le_left ..), fun b' hb' => ?_⟩
      rcases List.mem_cons.mp hb' with rfl | hb'
      · exact Nat.le_trans hfill (Nat.min_le_right ..)
      · exact hrest b' hb'

/-- No channel holds less. -/
theorem minFill_le (hb : b ∈ s.mChannelBuffers) : s.minFill ≤ b.getFillLevel := by
  unfold minFill
  cases hbuffers : s.mChannelBuffers with
  | nil =>
      rw [hbuffers] at hb
      exact nomatch hb
  | cons b' l =>
      rw [hbuffers] at hb
      rcases List.mem_cons.mp hb with rfl | hb
      · exact (foldl_min_le l _).1
      · exact (foldl_min_le l _).2 b hb

/-- The number of samples a dump takes, and tells. -/
def dumped (s : IasLocalAudioStream) (numSamples : Nat) : Nat :=
  if s.minFill < numSamples then s.minFill % 65536 else numSamples

theorem dump_eq (h : Sound s) (hK : 0 < s.numChannels) (numSamples : Nat) :
    s.dumpFromLocalAudioBuffer e numSamples
      = ((List.range s.numChannels).foldl
          (fun s' ch => (s'.readLocalAudioBuffer e ch (s.dumped numSamples) 0).stream) s,
        s.dumped numSamples) := by
  unfold dumpFromLocalAudioBuffer
  rw [if_neg fun hnone => hnone.elim h.initialized (by omega)]
  rfl

/-- A dump is short of no more than what is not there. -/
theorem dumped_le (hb : b ∈ s.mChannelBuffers) {numSamples : Nat} (hnum : numSamples < 65536) :
    s.dumped numSamples ≤ b.getFillLevel ∧ s.dumped numSamples ≤ numSamples := by
  have hmin := minFill_le hb
  unfold dumped
  split <;> omega

theorem dumped_of_le {numSamples : Nat} (h : numSamples ≤ s.minFill) :
    s.dumped numSamples = numSamples := if_neg (Nat.not_lt.mpr h)

/-- Nothing is dumped, and nothing changes. -/
theorem dump_zero (h : Sound s) (hK : 0 < s.numChannels) {numSamples : Nat}
    (hzero : s.dumped numSamples = 0) : s.dumpFromLocalAudioBuffer e numSamples = (s, 0) := by
  rw [dump_eq h hK, hzero]
  congr 1
  refine Run.foldl_range_inv (P := fun _ s' => s' = s) rfl ?_
  rintro ch - s' rfl
  unfold readLocalAudioBuffer
  rw [if_neg h.initialized]
  split
  · rfl
  · rw [if_pos rfl]

/-- Ready to be read in time-aware mode, with a descriptor at hand. -/
structure Primed (s : IasLocalAudioStream) (b : IasLocalAudioBuffer) : Prop where
  sound : Sound s
  aware : s.hasBufferDesc = true
  first : s.mChannelBuffers[0]? = some b
  ready : b.mReadReady = true

theorem Primed.channels (h : Primed s b) : 0 < s.numChannels :=
  (List.getElem?_eq_some_iff.mp h.first).1

/-- **A dump takes its samples out of channel 0**, and leaves it ready. -/
theorem dump_first (h : Primed s b) (hdesc : s.mBufferDescQ.peek ≠ none) {numSamples : Nat}
    (hpos : s.dumped numSamples ≠ 0) :
    Primed (s.dumpFromLocalAudioBuffer e numSamples).1 (b.read (s.dumped numSamples)).1 := by
  have hready : (b.read (s.dumped numSamples)).1.mReadReady = true := by
    have hcontrol := congrArg BufferControl.mReadReady (b.control_read (s.dumped numSamples))
    exact hcontrol.trans h.ready
  rw [dump_eq h.sound h.channels]
  have hloop := Run.foldl_range_inv (n := s.numChannels) (s := s)
    (f := fun s' ch => (s'.readLocalAudioBuffer e ch (s.dumped numSamples) 0).stream)
    (P := fun i s' => Sound s' ∧ SameKind s s' ∧ (i = 0 ∧ s' = s
      ∨ 0 < i ∧ s'.mChannelBuffers[0]? = some (b.read (s.dumped numSamples)).1))
    ⟨h.sound, SameKind.refl s, Or.inl ⟨rfl, rfl⟩⟩ ?_
  · obtain ⟨hsound, hkind, ⟨hzero, -⟩ | ⟨-, hfirst⟩⟩ := hloop
    · have hchannels := h.channels
      omega
    · exact ⟨hsound, hkind.timeAware.trans h.aware, hfirst, hready⟩
  rintro i hi s' ⟨hsound, hkind, ⟨hzero, hstart⟩ | ⟨hi0, hfirst⟩⟩
  · -- the first read of the dump finds channel 0 as it was
    rw [hzero, hstart]
    have hread : TxRead s 0 (s.dumped numSamples) 0
        (s.readLocalAudioBuffer e 0 (s.dumped numSamples) 0) :=
      txRead_cases h.sound h.first hpos 0
    have hafter := hread.after h.sound
    refine ⟨hafter.sound, hafter.kind, Or.inr ⟨Nat.one_pos, ?_⟩⟩
    cases hread with
    | notReady b' hb' _ hunready _ _ =>
        have hsame : b' = b := Option.some.inj (hb'.symm.trans h.first)
        rw [hsame, h.ready] at hunready
        exact Bool.noConfusion hunready
    | starved _ hempty _ _ => exact absurd hempty hdesc
    | delivered b' hb' q hstream _ _ _ =>
        have hsame : b' = b := Option.some.inj (hb'.symm.trans h.first)
        rw [hstream, hsame]
        exact List.getElem?_set_self h.channels
  · have hafter := readLocalAudioBuffer_after (e := e) hsound i (s.dumped numSamples) 0
    refine ⟨hafter.sound, hkind.trans hafter.kind, Or.inr ⟨Nat.succ_pos i, ?_⟩⟩
    rw [hafter.others 0 (by omega)]
    exact hfirst

/-- A dump is a number of reads. -/
theorem dump_after (h : Sound s) (numSamples : Nat) :
    Sound (s.dumpFromLocalAudioBuffer e numSamples).1
      ∧ SameKind s (s.dumpFromLocalAudioBuffer e numSamples).1 := by
  unfold dumpFromLocalAudioBuffer
  split
  · exact ⟨h, SameKind.refl s⟩
  · refine Run.foldl_range_inv (P := fun _ s' => Sound s' ∧ SameKind s s') ⟨h, SameKind.refl s⟩ ?_
    rintro ch - s' ⟨hsound, hkind⟩
    have hafter := readLocalAudioBuffer_after (e := e) hsound ch
      (if s.minFill < numSamples then s.minFill % 65536 else numSamples) 0
    exact ⟨hafter.sound, hkind.trans hafter.kind⟩

end IasLocalAudioStream

namespace TxAudioStream

open IasLocalAudioStream

variable {s : TxAudioStream} {l : IasLocalAudioStream} {e : Estimates} {S refPlane : Nat}

/-! ## Late samples -/

/-- Whenever the loop dumps, every channel has a packet's worth of samples. -/
def Enough (e : Estimates) (refPlane S : Nat) (l : IasLocalAudioStream) : Prop :=
  ∀ k, (∀ j, j ≤ k → isLate e refPlane ((disposeRound e)^[j] (S, l)).2 = true) →
    S ≤ ((disposeRound e)^[k] (S, l)).2.minFill

/-- It is enough to look at the rounds up to the last. -/
theorem enough_of_rounds (rounds : Nat)
    (hlast : isLate e refPlane ((disposeRound e)^[rounds] (S, l)).2 = false)
    (hfill : ∀ k, k < rounds → S ≤ ((disposeRound e)^[k] (S, l)).2.minFill) :
    Enough e refPlane S l := by
  intro k hlate
  by_cases hk : k < rounds
  · exact hfill k hk
  · have htrue := hlate rounds (Nat.not_lt.mp hk)
    rw [hlast] at htrue
    exact Bool.noConfusion htrue

theorem disposeRound_count (h : Sound l) (hK : 0 < l.numChannels) :
    (disposeRound e (S, l)).1 = l.dumped S := by
  show (l.dumpFromLocalAudioBuffer e S).2 = l.dumped S
  rw [dump_eq h hK]

/-- The round takes as many samples as it is told, and says so. -/
theorem disposeRound_of_le (h : Sound l) (hK : 0 < l.numChannels) (hfill : S ≤ l.minFill) :
    (disposeRound e (S, l)).1 = S :=
  (disposeRound_count h hK).trans (dumped_of_le hfill)

theorem enough_round (h : Sound l) (hK : 0 < l.numChannels) (hlate : isLate e refPlane l = true)
    (henough : Enough e refPlane S l) :
    (disposeRound e (S, l)).1 = S ∧ Enough e refPlane S (disposeRound e (S, l)).2 := by
  have hfill : S ≤ l.minFill := henough 0 fun j hj => by
    obtain rfl := Nat.le_zero.mp hj
    exact hlate
  have hsame := disposeRound_of_le (e := e) h hK hfill
  have hpair : disposeRound e (S, l) = (S, (disposeRound e (S, l)).2) :=
    Prod.ext hsame rfl
  refine ⟨hsame, fun k hk => ?_⟩
  rw [← hpair, ← Function.iterate_succ_apply]
  refine henough (k + 1) fun j hj => ?_
  cases j with
  | zero => exact hlate
  | succ j =>
      rw [Function.iterate_succ_apply, hpair]
      exact hk j (Nat.le_of_succ_le_succ hj)

/-- If the rounds behind the first find enough, and so does the first, all do. -/
theorem enough_of_round (h : Sound l) (hK : 0 < l.numChannels) (hfill : S ≤ l.minFill)
    (hrest : Enough e refPlane S (disposeRound e (S, l)).2) : Enough e refPlane S l := by
  have hsame := disposeRound_of_le (e := e) h hK hfill
  have hpair : disposeRound e (S, l) = (S, (disposeRound e (S, l)).2) :=
    Prod.ext hsame rfl
  intro k hk
  cases k with
  | zero => exact hfill
  | succ k =>
      rw [Function.iterate_succ_apply, hpair]
      refine hrest k fun j hj => ?_
      have hnext := hk (j + 1) (Nat.succ_le_succ hj)
      rw [Function.iterate_succ_apply, hpair] at hnext
      exact hnext

/-- There is a descriptor for the sample that is late. -/
theorem peek_of_late (haware : l.hasBufferDesc = true) (h : isLate e refPlane l = true) :
    l.mBufferDescQ.peek ≠ none := by
  intro hnone
  have hzero : l.getCurrentTimestamp e = 0 := by
    unfold getCurrentTimestamp
    rw [if_pos haware, hnone]
  unfold isLate at h
  rw [hzero] at h
  exact Bool.noConfusion h

/-- What the loop is in the middle of. -/
structure Disposing (l₀ : IasLocalAudioStream) (p : Nat × IasLocalAudioStream) : Prop where
  count : p.1 < 65536
  primed : ∃ b, Primed p.2 b
  kind : SameKind l₀ p.2

/-- **A round that dumps anything takes it from channel 0.** -/
theorem disposing_round {l₀ : IasLocalAudioStream} {p : Nat × IasLocalAudioStream}
    (h : Disposing l₀ p) (hlate : isLate e refPlane p.2 = true)
    (hpos : p.2.dumped p.1 ≠ 0) :
    Disposing l₀ (disposeRound e p) ∧ firstFill (disposeRound e p).2 < firstFill p.2 := by
  obtain ⟨S, l⟩ := p
  obtain ⟨b, hb⟩ := h.primed
  have hdumped := dumped_le (List.mem_of_getElem? hb.first) h.count
  have hnext := dump_first (e := e) hb (peek_of_late hb.aware hlate) hpos
  have hring := soundRing_read (hb.sound.rings b (List.mem_of_getElem? hb.first)) (l.dumped S)
  refine ⟨⟨?_, ⟨_, hnext⟩, h.kind.trans (dump_after hb.sound S).2⟩, ?_⟩
  · rw [disposeRound_count hb.sound hb.channels]
    exact Nat.lt_of_le_of_lt hdumped.2 h.count
  · have hfirst : firstFill l = b.getFillLevel := by
      unfold firstFill
      rw [hb.first]
    have hfirst' : firstFill (disposeRound e (S, l)).2 = (b.read (l.dumped S)).1.getFillLevel := by
      show firstFill (l.dumpFromLocalAudioBuffer e S).1 = _
      unfold firstFill
      rw [hnext.first]
    show firstFill (disposeRound e (S, l)).2 < firstFill l
    rw [hfirst, hfirst', hring.2, Nat.min_eq_left hdumped.1]
    have hzero : l.dumped S ≠ 0 := hpos
    omega

/-- A round that dumps nothing leaves the loop with nothing to do but to go on. -/
theorem disposing_stuck {l₀ : IasLocalAudioStream} {p : Nat × IasLocalAudioStream}
    (h : Disposing l₀ p) (hlate : isLate e refPlane p.2 = true)
    (hzero : p.2.dumped p.1 = 0) :
    isLate e refPlane (disposeRound e p).2 = true
      ∧ disposeRound e (disposeRound e p) = disposeRound e p := by
  obtain ⟨S, l⟩ := p
  obtain ⟨b, hb⟩ := h.primed
  have hround : disposeRound e (S, l) = (0, l) := by
    show ((l.dumpFromLocalAudioBuffer e S).2, (l.dumpFromLocalAudioBuffer e S).1) = _
    rw [dump_zero hb.sound hb.channels hzero]
  have hagain : disposeRound e (0, l) = (0, l) := by
    show ((l.dumpFromLocalAudioBuffer e 0).2, (l.dumpFromLocalAudioBuffer e 0).1) = _
    rw [dump_zero hb.sound hb.channels (dumped_of_le (Nat.zero_le _))]
  rw [hround, hagain]
  exact ⟨hlate, rfl⟩

/-- The loop is in use. -/
def Disposes (s : TxAudioStream) (l : IasLocalAudioStream) : Prop :=
  l.hasBufferDesc = true ∧ l.isReadReady = true ∧ s.mLocalStreamReadSampleCount = 0

theorem disposes_primed (h : Sound l) (hs : s.Disposes l) : ∃ b, Primed l b := by
  obtain ⟨haware, hready, -⟩ := hs
  unfold isReadReady at hready
  rw [if_pos haware] at hready
  cases hb : l.mChannelBuffers[0]? with
  | none =>
      rw [hb] at hready
      exact Bool.noConfusion hready
  | some b =>
      rw [hb] at hready
      exact ⟨b, h, haware, hb, hready⟩

/-- The number of rounds the loop is given is enough: if it is not through by then, it
never is. -/
theorem disposeLate_none (h : Sound l) (hs : s.Disposes l)
    (hS : s.mSamplesPerChannelPerPacket < 65536) (hnone : s.disposeLate e l = none) (rounds : Nat) :
    loop (fun p => isLate e s.mRefPlaneSampleTime p.2) (disposeRound e) rounds
      (s.mSamplesPerChannelPerPacket, l) = none := by
  have hstart : Disposing l (s.mSamplesPerChannelPerPacket, l) :=
    ⟨hS, disposes_primed h hs, SameKind.refl l⟩
  unfold disposeLate at hnone
  rw [if_pos (by simp [hs.1, hs.2.1, hs.2.2]), Option.map_eq_none_iff] at hnone
  have hstep : ∀ p, Disposing l p → isLate e s.mRefPlaneSampleTime p.2 = true →
      Disposing l (disposeRound e p) ∧ firstFill (disposeRound e p).2 < firstFill p.2
        ∨ isLate e s.mRefPlaneSampleTime (disposeRound e p).2 = true
          ∧ disposeRound e (disposeRound e p) = disposeRound e p := by
    intro p hp hlate
    by_cases hzero : p.2.dumped p.1 = 0
    · exact Or.inr (disposing_stuck hp hlate hzero)
    · exact Or.inl (disposing_round hp hlate hzero)
  exact loop_none (fun p => firstFill p.2) hstep hstart
    (show firstFill l < firstFill l + 2 by omega) hnone rounds

/-- **As long as there is enough to dump, the loop ends, and the number of samples per
packet is what it was.** -/
theorem disposeLate_of_enough (h : Sound l) (hpos : 0 < s.mSamplesPerChannelPerPacket)
    (hS : s.mSamplesPerChannelPerPacket < 65536)
    (henough : s.Disposes l → Enough e s.mRefPlaneSampleTime s.mSamplesPerChannelPerPacket l) :
    ∃ l', s.disposeLate e l = some (s, l') ∧ Sound l' ∧ SameKind l l' := by
  by_cases hs : s.Disposes l
  · have hstart : Disposing l (s.mSamplesPerChannelPerPacket, l) :=
      ⟨hS, disposes_primed h hs, SameKind.refl l⟩
    have hstep : ∀ p : Nat × IasLocalAudioStream,
        (Disposing l p ∧ p.1 = s.mSamplesPerChannelPerPacket
          ∧ Enough e s.mRefPlaneSampleTime s.mSamplesPerChannelPerPacket p.2) →
        isLate e s.mRefPlaneSampleTime p.2 = true →
        (Disposing l (disposeRound e p) ∧ (disposeRound e p).1 = s.mSamplesPerChannelPerPacket
          ∧ Enough e s.mRefPlaneSampleTime s.mSamplesPerChannelPerPacket (disposeRound e p).2)
          ∧ firstFill (disposeRound e p).2 < firstFill p.2 := by
      rintro ⟨S, l'⟩ ⟨hinv, hsame, hrest⟩ hlate
      obtain ⟨b, hb⟩ := hinv.primed
      obtain rfl : S = s.mSamplesPerChannelPerPacket := hsame
      obtain ⟨hround, hrest'⟩ := enough_round hb.sound hb.channels hlate hrest
      have hdumped : l'.dumped s.mSamplesPerChannelPerPacket ≠ 0 := by
        rw [← disposeRound_count (e := e) hb.sound hb.channels, hround]
        omega
      obtain ⟨hinv', hless⟩ := disposing_round hinv hlate hdumped
      exact ⟨⟨hinv', hround, hrest'⟩, hless⟩
    obtain ⟨⟨S, l'⟩, hloop, ⟨hinv, hsame, -⟩, -⟩ := loop_ends
      (fun p : Nat × IasLocalAudioStream => firstFill p.2) hstep ⟨hstart, rfl, henough hs⟩
      (show firstFill l < firstFill l + 2 by omega)
    obtain ⟨b, hb⟩ := hinv.primed
    obtain rfl : S = s.mSamplesPerChannelPerPacket := hsame
    refine ⟨l', ?_, hb.sound, hinv.kind⟩
    unfold disposeLate
    rw [if_pos (by simp [hs.1, hs.2.1, hs.2.2]), hloop]
    rfl
  · refine ⟨l, ?_, h, SameKind.refl l⟩
    unfold disposeLate
    rw [if_neg]
    intro hcond
    simp only [Bool.and_eq_true, decide_eq_true_eq] at hcond
    exact hs ⟨hcond.1.1, hcond.1.2, hcond.2⟩

/-- On the way to fewer samples per packet than before. -/
def Shrinking (s : TxAudioStream) (e : Estimates) (p : Nat × IasLocalAudioStream) : Prop :=
  p.1 < s.mSamplesPerChannelPerPacket
    ∨ p.1 = s.mSamplesPerChannelPerPacket
      ∧ ¬ Enough e s.mRefPlaneSampleTime s.mSamplesPerChannelPerPacket p.2

/-- **And only as long as there is**: a dump that finds less leaves fewer samples per packet,
unless the loop never ends. -/
theorem disposeLate_of_shortage (h : Sound l) (hs : s.Disposes l)
    (hS : s.mSamplesPerChannelPerPacket < 65536)
    (hshort : ¬ Enough e s.mRefPlaneSampleTime s.mSamplesPerChannelPerPacket l)
    {s' : TxAudioStream} {l' : IasLocalAudioStream} (hdone : s.disposeLate e l = some (s', l')) :
    s'.mSamplesPerChannelPerPacket < s.mSamplesPerChannelPerPacket := by
  have hstart : Disposing l (s.mSamplesPerChannelPerPacket, l) :=
    ⟨hS, disposes_primed h hs, SameKind.refl l⟩
  unfold disposeLate at hdone
  rw [if_pos (by simp [hs.1, hs.2.1, hs.2.2])] at hdone
  obtain ⟨p, hloop, hp⟩ := Option.map_eq_some_iff.mp hdone
  have hresult : s'.mSamplesPerChannelPerPacket = p.1 := by
    rw [← (Prod.mk.inj hp).1]
  rw [hresult]
  -- until the shortage shows, the number is the old one
  have hstep : ∀ p : Nat × IasLocalAudioStream, (∃ b, Primed p.2 b) ∧ s.Shrinking e p →
      isLate e s.mRefPlaneSampleTime p.2 = true →
      (∃ b, Primed (disposeRound e p).2 b) ∧ s.Shrinking e (disposeRound e p) := by
    rintro ⟨S, l'⟩ ⟨⟨b, hb⟩, hcase⟩ hlate
    have hle : S < 65536 := by
      rcases hcase with hless | ⟨hsame, -⟩
      · have hless' : S < s.mSamplesPerChannelPerPacket := hless
        omega
      · exact hsame.trans_lt hS
    have hcount : (disposeRound e (S, l')).1 = l'.dumped S :=
      disposeRound_count hb.sound hb.channels
    have hdumped : l'.dumped S ≤ b.getFillLevel ∧ l'.dumped S ≤ S :=
      dumped_le (List.mem_of_getElem? hb.first) hle
    constructor
    · by_cases hzero : l'.dumped S = 0
      · refine ⟨b, ?_⟩
        show Primed (l'.dumpFromLocalAudioBuffer e S).1 b
        rw [dump_zero hb.sound hb.channels hzero]
        exact hb
      · exact ⟨_, dump_first hb (peek_of_late hb.aware hlate) hzero⟩
    · rcases hcase with hless | ⟨hsame, hrest⟩
      · have hless' : S < s.mSamplesPerChannelPerPacket := hless
        exact Or.inl (by omega)
      · obtain rfl : S = s.mSamplesPerChannelPerPacket := hsame
        by_cases hfill : s.mSamplesPerChannelPerPacket ≤ l'.minFill
        · exact Or.inr ⟨disposeRound_of_le hb.sound hb.channels hfill,
            fun hrest' => hrest (enough_of_round hb.sound hb.channels hfill hrest')⟩
        · refine Or.inl ?_
          rw [hcount]
          unfold dumped
          rw [if_pos (Nat.not_le.mp hfill)]
          have := Nat.not_le.mp hfill
          omega
  obtain ⟨⟨-, hshrunk | ⟨-, hrest⟩⟩, hend⟩ :=
    loop_inv hstep ⟨hstart.primed, Or.inr ⟨rfl, hshort⟩⟩ hloop
  · exact hshrunk
  · refine absurd (enough_of_rounds 0 ?_ ?_) hrest
    · exact hend
    · intro k hk
      exact absurd hk (Nat.not_lt_zero k)

end TxAudioStream

end AvbStreamHandler
