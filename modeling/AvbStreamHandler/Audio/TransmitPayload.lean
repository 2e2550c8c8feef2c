import AvbStreamHandler.Audio.TransmitGeometry

/-!
# The payload of a data packet

One call of `writeToAvbPacket`: the loop over the channels, and what is done before it. The
channels are read one after the other, and between them the descriptors stay, so that all
find a time for their samples or none does.
-/

namespace AvbStreamHandler

open Kit Kit.Word

namespace TxAudioStream

open IasLocalAudioStream

variable {s : TxAudioStream} {l : IasLocalAudioStream} {e : Estimates} {S i : Nat}
  {ready : Bool} {f : Filling}

/-! ## One channel -/

/-- How many samples channel `i` can have in a packet: a packet's worth, or what the local
stream held if that was less. -/
inductive ChannelFill (S : Nat) (l : IasLocalAudioStream) (i n : Nat) : Prop
  | full (all : n = S)
  | short (b : IasLocalAudioBuffer) (channel : l.mChannelBuffers[i]? = some b)
      (held : n = b.getFillLevel) (some : 0 < n) (less : n < S)
      (described : l.hasBufferDesc = true → l.mBufferDescQ.peek ≠ none)

theorem ChannelFill.le {n : Nat} (h : ChannelFill S l i n) : n ≤ S := by
  cases h with
  | full hall => exact Nat.le_of_eq hall
  | short _ _ _ _ hless _ => exact Nat.le_of_lt hless

/-- The loop over the channels, at channel `i`. -/
structure FillInv (S : Nat) (l : IasLocalAudioStream) (i : Nat) (f : Filling) : Prop where
  sound : Sound f.stream
  kind : SameKind l f.stream
  /-- The channels to come are as they were. -/
  rest : ∀ j, i ≤ j → f.stream.mChannelBuffers[j]? = l.mChannelBuffers[j]?
  queue : i < l.numChannels → f.stream.mBufferDescQ = l.mBufferDescQ
  count : f.channels.length = i
  /-- The channels so far have what they can have. -/
  fill : ∀ j x, f.channels[j]? = some x → ChannelFill S l j x.length
  /-- Nothing was written yet, or the last channel has what was written. -/
  last : i = 0 ∧ f.written = 0
    ∨ ∃ j, i = j + 1 ∧ f.written = ((f.channels[j]?).getD []).length ∧ ChannelFill S l j f.written

theorem fillInv_start (h : Sound l) (S : Nat) : FillInv S l 0 (s.filling l) where
  sound := h
  kind := SameKind.refl l
  rest := fun _ _ => rfl
  queue := fun _ => rfl
  count := rfl
  fill := fun _ _ hx => nomatch hx
  last := Or.inl ⟨rfl, rfl⟩

theorem noteSilence_stream (ch : Nat) (f : Filling) :
    (noteSilence S ready ch f).stream = f.stream ∧ (noteSilence S ready ch f).channels = f.channels
      := by
  unfold noteSilence
  split <;> exact ⟨rfl, rfl⟩

/-- A channel that has nothing is filled with silence. -/
def padded (S n : Nat) : Nat := if n = 0 then S else n

/-- Completing a channel is about the count alone. -/
theorem completeChannel_effect (S : Nat) (ready : Bool) (ch : Nat) (f : Filling) :
    (completeChannel S ready ch f).stream = f.stream
      ∧ (completeChannel S ready ch f).channels = f.channels
      ∧ (completeChannel S ready ch f).written = padded S f.written := by
  unfold completeChannel padded
  split
  · exact ⟨(noteSilence_stream ch f).1, (noteSilence_stream ch f).2, rfl⟩
  · split <;> exact ⟨rfl, rfl, rfl⟩

/-- What the read of a channel leaves. -/
structure AfterChannel (S : Nat) (l : IasLocalAudioStream) (i : Nat) (f f' : Filling) : Prop where
  after : AfterRead f.stream i f'.stream
  channels : f'.channels = f.channels
  fill : ChannelFill S l i (padded S f'.written)

theorem readChannel_after (h : FillInv S l i f) (hi : i < l.numChannels) (hpos : 0 < S)
    (hS : S < 65536) (e : Estimates) (ready : Bool) :
    AfterChannel S l i f (readChannel e S ready f i) := by
  have hsilent : AfterChannel S l i f { f with written := 0 } :=
    ⟨.refl h.sound i, rfl, .full (if_pos rfl)⟩
  unfold readChannel
  split
  · exact hsilent
  split
  · have hb : f.stream.mChannelBuffers[i]? = some (l.mChannelBuffers.get ⟨i, hi⟩) := by
      rw [h.rest i (Nat.le_refl i)]
      exact List.getElem?_eq_getElem hi
    have hread := txRead_cases (e := e) h.sound hb (Nat.ne_of_gt hpos) f.written
    refine ⟨hread.after h.sound, rfl, ?_⟩
    cases hread with
    | notReady _ _ _ _ _ hcount =>
        exact .full (if_pos hcount)
    | starved haware hempty _ hcount =>
        -- with no descriptor at hand, the channels before had none either
        show ChannelFill S l i (padded S (f.stream.readLocalAudioBuffer e i S f.written).samplesRead)
        rw [hcount]
        rcases h.last with ⟨-, hzero⟩ | ⟨j, -, -, hprev⟩
        · exact .full (if_pos hzero)
        · have hdesc : l.mBufferDescQ.peek = none := by
            rw [← h.queue hi]
            exact hempty
          cases hprev with
          | full hall =>
              exact .full ((if_neg (by omega)).trans hall)
          | short _ _ _ _ _ hdescribed =>
              exact absurd hdesc (hdescribed (h.kind.timeAware.symm.trans haware))
    | delivered b hchannel _ _ hdescribed _ hcount =>
        show ChannelFill S l i (padded S (f.stream.readLocalAudioBuffer e i S f.written).samplesRead)
        rw [hcount, Nat.mod_eq_of_lt (Nat.lt_of_le_of_lt (Nat.min_le_left ..) hS)]
        by_cases hless : b.getFillLevel < S
        · rw [Nat.min_eq_right (Nat.le_of_lt hless)]
          by_cases hzero : b.getFillLevel = 0
          · exact .full (if_pos hzero)
          · rw [show padded S b.getFillLevel = b.getFillLevel from if_neg hzero]
            refine .short b ?_ rfl (Nat.pos_of_ne_zero hzero) hless fun haware => ?_
            · rw [← h.rest i (Nat.le_refl i)]
              exact hchannel
            · rw [← h.queue hi]
              exact hdescribed (h.kind.timeAware.trans haware)
        · rw [Nat.min_eq_left (Nat.not_lt.mp hless)]
          exact .full (if_neg (Nat.ne_of_gt hpos))
  · exact hsilent

/-- **One channel more.** -/
theorem fillChannel_inv (h : FillInv S l i f) (hi : i < l.numChannels) (hpos : 0 < S)
    (hS : S < 65536) : FillInv S l (i + 1) (fillChannel e S ready f i) := by
  obtain ⟨hafter, hchannels, hfill⟩ := readChannel_after h hi hpos hS e ready
  obtain ⟨hstream, hkept, hwritten⟩ :=
    completeChannel_effect S ready i (readChannel e S ready f i)
  rw [← hwritten] at hfill
  have hnew : (fillChannel e S ready f i).channels = f.channels
      ++ [(List.range (completeChannel S ready i (readChannel e S ready f i)).written).map
        (completeChannel S ready i (readChannel e S ready f i)).mTempBuffer] := by
    show (completeChannel S ready i (readChannel e S ready f i)).channels ++ _ = _
    rw [hkept, hchannels]
  have hlast : (fillChannel e S ready f i).written
      = (((fillChannel e S ready f i).channels[i]?).getD []).length := by
    rw [hnew, List.getElem?_append_right (Nat.le_of_eq h.count), h.count, Nat.sub_self]
    simp only [List.getElem?_cons_zero, Option.getD_some, List.length_map, List.length_range]
    rfl
  have hresult : (fillChannel e S ready f i).stream = (readChannel e S ready f i).stream := hstream
  refine ⟨?_, ?_, ?_, ?_, ?_, ?_, Or.inr ⟨i, rfl, hlast, hfill⟩⟩
  · rw [hresult]
    exact hafter.sound
  · rw [hresult]
    exact h.kind.trans hafter.kind
  · intro j hj
    rw [hresult, hafter.others j (by omega)]
    exact h.rest j (by omega)
  · intro hmore
    rw [hresult, hafter.queue (by rw [h.kind.channels]; exact hmore)]
    exact h.queue hi
  · rw [hnew, List.length_append, h.count]
    rfl
  · intro j x hx
    rw [hnew] at hx
    by_cases hj : j < f.channels.length
    · rw [List.getElem?_append_left hj] at hx
      exact h.fill j x hx
    · have hlen : j < (f.channels ++ _).length := (List.getElem?_eq_some_iff.mp hx).1
      rw [List.length_append, List.length_singleton] at hlen
      obtain rfl : j = i := by
        have := h.count
        omega
      rw [List.getElem?_append_right (Nat.le_of_eq h.count), h.count, Nat.sub_self,
        List.getElem?_cons_zero, Option.some.injEq] at hx
      rw [← hx, List.length_map, List.length_range]
      exact hfill

/-! ## One packet -/

variable {t : AvbAudioConfig} {clock : ClockReading}

/-- **The geometry of a data packet.** A channel has what a packet is meant for, unless the
local stream held less for it, and then what that was. -/
structure PacketGeometry (t : AvbAudioConfig) (b : AvbAudioConfig.TxBlock) (held : List Nat) :
    Prop where
  samples : ∀ (i : Nat) (x : List AudioData), b.channels[i]? = some x →
    x.length = t.mSamplesPerChannelPerPacket
    ∨ held[i]? = some x.length ∧ 0 < x.length ∧ x.length < t.mSamplesPerChannelPerPacket
  /-- The data length is that of the last channel. -/
  written : ∀ x, b.channels.getLast? = some x → b.written = x.length

/-- What a talker of configuration `t` keeps to. -/
structure TxInv (t : AvbAudioConfig) (s : TxAudioStream) : Prop where
  samples : s.mSamplesPerChannelPerPacket = t.mSamplesPerChannelPerPacket
  connected : ∀ c, s.mLocalStream = some c → Sound c.stream ∧ t.connectable c.asked = true

theorem audioChannels_le (l : LocalAudioStream) :
    AvbAudioConfig.audioChannels l ≤ l.mNumChannels := by
  unfold AvbAudioConfig.audioChannels
  split <;> omega

theorem audioChannels_pos {c : LocalAudioStream} (h : t.connectable c = true) :
    0 < AvbAudioConfig.audioChannels c := by
  simp only [AvbAudioConfig.connectable, Bool.and_eq_true, decide_eq_true_eq] at h
  exact Nat.pos_of_ne_zero h.1.1

theorem readLayout_effect {f : Filling} (h : Sound f.stream) (c : ConnectedStream) :
    Sound (readLayout e S c f).1.stream ∧ SameKind f.stream (readLayout e S c f).1.stream := by
  unfold readLayout
  split
  · have hafter := readLocalAudioBuffer_after (e := e) h (AvbAudioConfig.audioChannels c.asked) S 0
    exact ⟨hafter.sound, hafter.kind⟩
  · exact ⟨h, SameKind.refl _⟩

theorem advance_same (s : TxAudioStream) (clock : ClockReading) (written : Nat) :
    (s.advance clock written).mSamplesPerChannelPerPacket = s.mSamplesPerChannelPerPacket
      ∧ (s.advance clock written).mLocalStream = s.mLocalStream := by
  unfold advance
  split <;> exact ⟨rfl, rfl⟩

/-- A local stream that is of the kind of the one before can stand in for it. -/
theorem connectable_sameKind {c : ConnectedStream} (h : SameKind c.stream l)
    (hc : t.connectable c.asked = true) :
    t.connectable (ConnectedStream.asked { c with stream := l }) = true := by
  have hasked : ConnectedStream.asked { c with stream := l } = c.asked := by
    unfold ConnectedStream.asked IasLocalAudioStream.asked
    rw [h.channels, h.frequency, h.timeAware]
  rw [hasked]
  exact hc

/-- **The payload of a data packet.** -/
theorem writePayload_spec {c : ConnectedStream} (hsamples : s.mSamplesPerChannelPerPacket
      = t.mSamplesPerChannelPerPacket) (hpos : 0 < t.mSamplesPerChannelPerPacket)
    (hlt : t.mSamplesPerChannelPerPacket < 65536) (hsound : Sound l)
    (hkind : SameKind c.stream l) (hc : t.connectable c.asked = true) (e : Estimates)
    (clock : ClockReading) (ready : Bool) (attime timestamp : Nat) (mSeqNum : UInt8) :
    ∃ s' block held,
      s.writePayload e clock ready c l attime timestamp mSeqNum
          = (s', .dataPacket attime block held)
        ∧ TxInv t s' ∧ PacketGeometry t block held ∧ AvbAudioConfig.BlockOf t c.asked block := by
  have hchannels : AvbAudioConfig.audioChannels c.asked ≤ l.numChannels := by
    rw [hkind.channels]
    exact audioChannels_le c.asked
  -- the channels are filled one by one, and the last count stays
  have hinv := Run.foldl_range_inv (n := AvbAudioConfig.audioChannels c.asked) (s := s.filling l)
    (f := fillChannel e s.mSamplesPerChannelPerPacket ready)
    (P := FillInv s.mSamplesPerChannelPerPacket l) (fillInv_start hsound _)
    fun i hi f hf => fillChannel_inv hf (by omega) (by omega) (by omega)
  obtain ⟨hsound', hkind'⟩ := readLayout_effect (e := e)
    (S := s.mSamplesPerChannelPerPacket) hinv.sound c
  have hcount := audioChannels_pos hc
  -- there is a channel, so the count is that of the last one
  obtain ⟨hzero, -⟩ | ⟨j, hj, hwritten, hfill⟩ := hinv.last
  · omega
  refine ⟨_, _, _, rfl, ⟨?_, ?_⟩, ⟨?_, ?_⟩, ?_, ?_, ?_⟩
  · exact (advance_same _ clock _).1.trans hsamples
  · intro c' hc'
    rw [(advance_same _ clock _).2] at hc'
    obtain rfl := Option.some.inj hc'
    exact ⟨hsound', connectable_sameKind (hkind.trans (hinv.kind.trans hkind')) hc⟩
  · intro i x hx
    rw [← hsamples]
    cases hinv.fill i x hx with
    | full hall => exact Or.inl hall
    | short b hchannel hheld hsome hless _ =>
        refine Or.inr ⟨?_, hsome, hless⟩
        rw [List.getElem?_map, hchannel, hheld]
        rfl
  · intro x hx
    have hget := List.getLast?_eq_getElem?.symm.trans hx
    rw [hinv.count, show AvbAudioConfig.audioChannels c.asked - 1 = j by omega] at hget
    refine hwritten.trans ?_
    rw [hget]
    rfl
  · exact hinv.count
  · intro x hx
    rw [← hsamples]
    obtain ⟨i, hi⟩ := List.mem_iff_getElem?.mp hx
    exact (hinv.fill i x hi).le
  · rw [← hsamples]
    exact hfill.le

/-- Whenever the loop that disposes of late samples is entered, it finds enough to dump. -/
def EnoughToDump (s : TxAudioStream) (e : Estimates) (clock : ClockReading) : Prop :=
  ∀ s' c, s.startPacket clock = some s' → s'.mLocalStream = some c →
    let (s'', l) := s'.takeSeqNum.compensate e c.stream
    s''.Disposes l → Enough e s''.mRefPlaneSampleTime s''.mSamplesPerChannelPerPacket l

theorem startPacket_same {s' : TxAudioStream} (h : s.startPacket clock = some s') :
    s'.mSamplesPerChannelPerPacket = s.mSamplesPerChannelPerPacket
      ∧ s'.mLocalStream = s.mLocalStream := by
  unfold startPacket at h
  split at h
  · obtain ⟨p, -, rfl⟩ := Option.map_eq_some_iff.mp h
    exact ⟨rfl, rfl⟩
  · obtain rfl := Option.some.inj h
    exact ⟨rfl, rfl⟩

/-- What makes up for silence leaves the number of samples alone. -/
theorem compensate_effect (h : Sound l) (s : TxAudioStream) :
    (s.compensate e l).1.mSamplesPerChannelPerPacket = s.mSamplesPerChannelPerPacket
      ∧ Sound (s.compensate e l).2 ∧ SameKind l (s.compensate e l).2 := by
  unfold compensate
  split
  · exact ⟨rfl, dump_after h _⟩
  · exact ⟨rfl, h, SameKind.refl l⟩

/-- **One call**: it returns, the number of samples per packet stays, and a data packet has
the right geometry and is one the packets of the pool have room for. -/
theorem writeToAvbPacket_spec (h : TxInv t s) (hpos : 0 < t.mSamplesPerChannelPerPacket)
    (hlt : t.mSamplesPerChannelPerPacket < 65536) (henough : s.EnoughToDump e clock) :
    ∃ s' out, s.writeToAvbPacket e clock = some (s', out) ∧ TxInv t s'
      ∧ ∀ attime block held, out = .dataPacket attime block held →
        PacketGeometry t block held
          ∧ ∀ c, s.mLocalStream = some c → AvbAudioConfig.BlockOf t c.asked block := by
  unfold writeToAvbPacket
  split
  · split
    · exact ⟨_, _, rfl, ⟨h.samples, h.connected⟩, fun _ _ _ hout => nomatch hout⟩
    · rename_i s₁ hstart
      obtain ⟨hsamples, hlocal⟩ := startPacket_same hstart
      have hsamples' : s₁.takeSeqNum.mSamplesPerChannelPerPacket = t.mSamplesPerChannelPerPacket :=
        hsamples.trans h.samples
      dsimp only
      cases hc : s₁.takeSeqNum.mLocalStream with
      | none =>
          refine ⟨_, _, rfl, ⟨?_, ?_⟩, fun _ _ _ hout => nomatch hout⟩
          · exact (advance_same _ clock _).1.trans hsamples'
          · intro c hc'
            rw [(advance_same _ clock _).2, hc] at hc'
            exact nomatch hc'
      | some c =>
          have hconnected : s.mLocalStream = some c := hlocal.symm.trans hc
          obtain ⟨hsound, hconnectable⟩ := h.connected c hconnected
          obtain ⟨hcount, hsound₂, hkind₂⟩ :=
            compensate_effect (e := e) hsound s₁.takeSeqNum
          have hsamples₂ := hcount.trans hsamples'
          obtain ⟨l', hloop, hsound₃, hkind₃⟩ := disposeLate_of_enough (e := e)
            (s := (s₁.takeSeqNum.compensate e c.stream).1) hsound₂ (by omega) (by omega)
            (henough s₁ c hstart hc)
          dsimp only
          rw [hloop]
          obtain ⟨s', block, held, hpayload, hinv, hgeometry, hblock⟩ :=
            writePayload_spec hsamples₂ hpos hlt hsound₃ (hkind₂.trans hkind₃) hconnectable e clock
              (s₁.takeSeqNum.compensate e c.stream).2.isReadReady
              (launchTime s₁.takeSeqNum (s₁.takeSeqNum.compensate e c.stream).1)
              (add64 s₁.mRefPlaneSampleTime clock.presentationTimeOffset) s₁.mSeqNum
          refine ⟨s', _, congrArg some hpayload, hinv, ?_⟩
          rintro attime block' held' ⟨⟩
          refine ⟨hgeometry, fun c' hc' => ?_⟩
          obtain rfl := Option.some.inj (hconnected.symm.trans hc')
          exact hblock
  · exact ⟨s, _, rfl, h, fun _ _ _ hout => nomatch hout⟩

/-- A dump that finds too little has its consequences: the call never returns, or packets are
shorter from now on. -/
theorem writeToAvbPacket_shortage (h : TxInv t s) (hlt : t.mSamplesPerChannelPerPacket < 65536)
    (hactive : s.mActive = true) (hshort : ¬ s.EnoughToDump e clock) {s' : TxAudioStream}
    {out : TxOutcome} (hdone : s.writeToAvbPacket e clock = some (s', out)) :
    s'.mSamplesPerChannelPerPacket < t.mSamplesPerChannelPerPacket := by
  have hfound : ∃ s₁ c, s.startPacket clock = some s₁ ∧ s₁.mLocalStream = some c
      ∧ (s₁.takeSeqNum.compensate e c.stream).1.Disposes (s₁.takeSeqNum.compensate e c.stream).2
      ∧ ¬ Enough e (s₁.takeSeqNum.compensate e c.stream).1.mRefPlaneSampleTime
          (s₁.takeSeqNum.compensate e c.stream).1.mSamplesPerChannelPerPacket
          (s₁.takeSeqNum.compensate e c.stream).2 := by
    by_contra hnone
    refine hshort fun s₁ c hstart hc hdisposes => ?_
    by_contra henough
    exact hnone ⟨s₁, c, hstart, hc, hdisposes, henough⟩
  obtain ⟨s₁, c, hstart, hc, hdisposes, hless⟩ := hfound
  obtain ⟨hsamples, hlocal⟩ := startPacket_same hstart
  obtain ⟨hsound, -⟩ := h.connected c (hlocal.symm.trans hc)
  obtain ⟨hcount, hsound₂, -⟩ := compensate_effect (e := e) hsound s₁.takeSeqNum
  have hsamples₂ : (s₁.takeSeqNum.compensate e c.stream).1.mSamplesPerChannelPerPacket
      = t.mSamplesPerChannelPerPacket := hcount.trans (hsamples.trans h.samples)
  unfold writeToAvbPacket at hdone
  rw [if_pos hactive, hstart] at hdone
  dsimp only at hdone
  rw [show s₁.takeSeqNum.mLocalStream = some c from hc] at hdone
  obtain ⟨⟨s₂, l'⟩, hloop, hpayload⟩ := Option.map_eq_some_iff.mp hdone
  have hshrunk := disposeLate_of_shortage (s := (s₁.takeSeqNum.compensate e c.stream).1) hsound₂
    hdisposes (by omega) hless hloop
  have hkept : s'.mSamplesPerChannelPerPacket = s₂.mSamplesPerChannelPerPacket := by
    rw [← (Prod.mk.inj hpayload).1]
    exact (advance_same _ clock _).1
  omega

end TxAudioStream

end AvbStreamHandler
