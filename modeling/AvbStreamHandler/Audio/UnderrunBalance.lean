import AvbStreamHandler.Audio.TransmitPayload

/-!
# Making up for silence

When the local stream has nothing, a talker sends silence, and counts it: so many samples will
be thrown away once they come, so that the fill of the local stream is what it would have been.
`Exchange` says in plain numbers what one packet does to the account; `writeToAvbPacket` keeps
it in 32 bits, for a local stream without descriptors.
-/

namespace AvbStreamHandler

open Kit Kit.Word

/-! ## The account -/

/-- What a packet takes from channel 0 and sends on it, and the silence that is owed then. -/
structure Exchange where
  dumped : Nat
  read : Nat
  sent : Nat
  owed : Nat

namespace Exchange

/-- A packet of `S` samples, with `owed` samples to make up for, `available` of them in every
channel, and `fill` in channel 0. A dump is of no more than 16 bits can count. -/
def packet (S owed available fill : Nat) : Exchange :=
  let dumped := min (owed % 65536) available
  let read := if dumped < owed then 0 else min S (fill - dumped)
  { dumped := dumped
    read := read
    sent := TxAudioStream.padded S read
    owed := if read = 0 then owed - dumped + S else 0 }

variable {S owed available fill : Nat}

theorem dumped_le : (packet S owed available fill).dumped ≤ owed :=
  Nat.le_trans (Nat.min_le_left ..) (Nat.mod_le ..)

/-- Nothing is read before all is made up for. -/
theorem read_of_owed (h : (packet S owed available fill).dumped < owed) :
    (packet S owed available fill).read = 0 := if_pos h

/-- **An exchange keeps the balance.** -/
theorem balanced (S owed available fill : Nat) :
    (packet S owed available fill).dumped + (packet S owed available fill).read
        + (packet S owed available fill).owed
      = owed + (packet S owed available fill).sent := by
  have hdumped : (packet S owed available fill).dumped ≤ owed := dumped_le
  have howed : (packet S owed available fill).owed = if (packet S owed available fill).read = 0
      then owed - (packet S owed available fill).dumped + S else 0 := rfl
  have hsent : (packet S owed available fill).sent
      = TxAudioStream.padded S (packet S owed available fill).read := rfl
  rw [howed, hsent]
  unfold TxAudioStream.padded
  by_cases hread : (packet S owed available fill).read = 0
  · rw [if_pos hread, if_pos hread]
    omega
  · -- what was read was not owed any more
    have hall : owed ≤ (packet S owed available fill).dumped :=
      Nat.not_lt.mp fun hless => hread (read_of_owed hless)
    rw [if_neg hread, if_neg hread]
    omega

/-- Silence is owed only if nothing was read. -/
theorem silent_of_owed (h : 0 < (packet S owed available fill).owed) :
    (packet S owed available fill).read = 0 := by
  by_contra hread
  have hzero : (packet S owed available fill).owed = 0 := if_neg hread
  omega

end Exchange

namespace IasLocalAudioStream

variable {s : IasLocalAudioStream} {e : Estimates} {ch n : Nat} {b : IasLocalAudioBuffer}

/-! ## Channel 0 of a local stream without descriptors -/

theorem read_plain (h : Sound s) (hplain : s.hasBufferDesc = false)
    (hb : s.mChannelBuffers[ch]? = some b) (hn : n ≠ 0) (r : Nat) :
    ∃ q, (s.readLocalAudioBuffer e ch n r).stream = (s.setChannel ch (b.read n).1).setDescQ q
      ∧ (s.readLocalAudioBuffer e ch n r).samplesRead = min n b.getFillLevel % 65536 := by
  cases txRead_cases (e := e) h hb hn r with
  | notReady _ _ haware _ _ _ => exact absurd haware (by simp [hplain])
  | starved haware _ _ _ => exact absurd haware (by simp [hplain])
  | delivered b' hb' q hstream _ _ hcount =>
      obtain rfl := Option.some.inj (hb'.symm.trans hb)
      exact ⟨q, hstream, hcount⟩

end IasLocalAudioStream

namespace TxAudioStream

open IasLocalAudioStream

variable {s : TxAudioStream} {l : IasLocalAudioStream} {e : Estimates} {S n : Nat}
  {b : IasLocalAudioBuffer}

theorem firstFill_of (hb : l.mChannelBuffers[0]? = some b) : firstFill l = b.getFillLevel := by
  unfold firstFill
  rw [hb]

theorem firstFill_congr {l' : IasLocalAudioStream}
    (h : l'.mChannelBuffers[0]? = l.mChannelBuffers[0]?) : firstFill l' = firstFill l := by
  unfold firstFill
  rw [h]

/-- A read of channel 0 takes out what it delivers. -/
theorem read_first (h : Sound l) (hplain : l.hasBufferDesc = false) (hK : 0 < l.numChannels)
    (hn : n ≠ 0) (r : Nat) :
    firstFill (l.readLocalAudioBuffer e 0 n r).stream = firstFill l - min n (firstFill l)
      ∧ (l.readLocalAudioBuffer e 0 n r).samplesRead = min n (firstFill l) % 65536 := by
  have hb : l.mChannelBuffers[0]? = some (l.mChannelBuffers.get ⟨0, hK⟩) :=
    List.getElem?_eq_getElem hK
  obtain ⟨q, hstream, hcount⟩ := read_plain (e := e) h hplain hb hn r
  have hfirst :
      ((l.setChannel 0 ((l.mChannelBuffers.get ⟨0, hK⟩).read n).1).setDescQ q).mChannelBuffers[0]?
        = some ((l.mChannelBuffers.get ⟨0, hK⟩).read n).1 := List.getElem?_set_self hK
  rw [hstream, hcount, firstFill_of hb, firstFill_of hfirst]
  exact ⟨(soundRing_read (h.rings _ (List.mem_of_getElem? hb)) n).2, rfl⟩

/-- A read of another channel leaves channel 0 alone. -/
theorem read_later (h : Sound l) {ch : Nat} (hch : ch ≠ 0) (n r : Nat) :
    firstFill (l.readLocalAudioBuffer e ch n r).stream = firstFill l :=
  firstFill_congr ((readLocalAudioBuffer_after (e := e) h ch n r).others 0 hch.symm)

theorem dumped_eq_min {numSamples : Nat} (h : numSamples < 65536) :
    l.dumped numSamples = min numSamples l.minFill := by
  unfold dumped
  split <;> omega

/-- **A dump takes from channel 0 what it tells.** -/
theorem dump_plain (h : Sound l) (hplain : l.hasBufferDesc = false) (hK : 0 < l.numChannels)
    (hn : n < 65536) :
    firstFill (l.dumpFromLocalAudioBuffer e n).1 = firstFill l - min n l.minFill
      ∧ (l.dumpFromLocalAudioBuffer e n).2 = min n l.minFill := by
  have hb : l.mChannelBuffers[0]? = some (l.mChannelBuffers.get ⟨0, hK⟩) :=
    List.getElem?_eq_getElem hK
  have hle := dumped_le (List.mem_of_getElem? hb) hn
  rw [← firstFill_of hb] at hle
  rw [← dumped_eq_min hn]
  by_cases hzero : l.dumped n = 0
  · rw [dump_zero h hK hzero, hzero]
    exact ⟨rfl, rfl⟩
  rw [dump_eq h hK]
  refine ⟨?_, rfl⟩
  have hloop := Run.foldl_range_inv (n := l.numChannels) (s := l)
    (f := fun l' ch => (l'.readLocalAudioBuffer e ch (l.dumped n) 0).stream)
    (P := fun i l' => Sound l' ∧ (i = 0 ∧ l' = l
      ∨ 0 < i ∧ firstFill l' = firstFill l - l.dumped n))
    ⟨h, Or.inl ⟨rfl, rfl⟩⟩ ?_
  · obtain ⟨-, ⟨hnone, -⟩ | ⟨-, hfirst⟩⟩ := hloop
    · omega
    · exact hfirst
  rintro i hi l' ⟨hsound, ⟨rfl, rfl⟩ | ⟨hpos, hfirst⟩⟩
  · refine ⟨(readLocalAudioBuffer_after h 0 _ 0).sound, Or.inr ⟨Nat.one_pos, ?_⟩⟩
    rw [(read_first h hplain hK hzero 0).1, Nat.min_eq_left hle.1]
  · refine ⟨(readLocalAudioBuffer_after hsound i _ 0).sound, Or.inr ⟨Nat.succ_pos i, ?_⟩⟩
    rw [read_later hsound (Nat.ne_of_gt hpos), hfirst]

/-- What is thrown away is no longer owed. -/
theorem compensate_plain (h : Sound l) (hplain : l.hasBufferDesc = false) (hK : 0 < l.numChannels)
    (hlt : s.mDummySamplesSent < 4294967296) :
    (s.compensate e l).1.mDummySamplesSent
        = s.mDummySamplesSent - min (s.mDummySamplesSent % 65536) l.minFill
      ∧ firstFill (s.compensate e l).2
        = firstFill l - min (s.mDummySamplesSent % 65536) l.minFill := by
  unfold compensate
  split
  · obtain ⟨hfirst, hcount⟩ :=
      dump_plain (e := e) h hplain hK (Nat.mod_lt s.mDummySamplesSent (by omega))
    refine ⟨?_, hfirst⟩
    show sub32 s.mDummySamplesSent
      (l.dumpFromLocalAudioBuffer e (s.mDummySamplesSent % 65536)).2 = _
    rw [hcount]
    unfold sub32
    omega
  · rename_i hnone
    rw [Nat.eq_zero_of_not_pos hnone]
    exact ⟨by omega, by simp⟩

/-! ## One packet -/

/-- What is read of channel 0 for a packet, while `d` samples are owed. -/
def firstRead (S d : Nat) (l : IasLocalAudioStream) : Nat :=
  if 0 < d then 0 else min S (firstFill l)

/-- The loop over the channels, past channel 0. -/
structure FirstFilled (S d : Nat) (l : IasLocalAudioStream) (f : Filling) : Prop where
  sound : Sound f.stream
  kind : SameKind l f.stream
  fill : firstFill f.stream = firstFill l - firstRead S d l
  owed : f.mDummySamplesSent = if firstRead S d l = 0 then add32 d S else d
  waits : f.mWaitForData = decide (firstRead S d l = 0)
  sent : ∃ x, f.channels.head? = some x ∧ x.length = padded S (firstRead S d l)

/-- A read of channel 0, or none if there is silence to make up for. -/
theorem readChannel_first (h : Sound l) (hplain : l.hasBufferDesc = false)
    (hK : 0 < l.numChannels) (hpos : 0 < S) (hS : S < 65536) (s : TxAudioStream) :
    Sound (readChannel e S true (s.filling l) 0).stream
      ∧ SameKind l (readChannel e S true (s.filling l) 0).stream
      ∧ firstFill (readChannel e S true (s.filling l) 0).stream
        = firstFill l - firstRead S s.mDummySamplesSent l
      ∧ (readChannel e S true (s.filling l) 0).written = firstRead S s.mDummySamplesSent l
      ∧ (readChannel e S true (s.filling l) 0).mDummySamplesSent = s.mDummySamplesSent
      ∧ (readChannel e S true (s.filling l) 0).channels = [] := by
  unfold readChannel firstRead
  by_cases howed : 0 < s.mDummySamplesSent
  · rw [if_pos howed, if_pos (show 0 < (s.filling l).mDummySamplesSent from howed)]
    exact ⟨h, SameKind.refl l, rfl, rfl, rfl, rfl⟩
  · obtain ⟨hfirst, hcount⟩ :=
      read_first (e := e) h hplain hK (Nat.ne_of_gt hpos) (s.filling l).written
    rw [if_neg howed, if_neg (show ¬ 0 < (s.filling l).mDummySamplesSent from howed), if_pos rfl]
    have hafter := readLocalAudioBuffer_after (e := e) h 0 S (s.filling l).written
    refine ⟨hafter.sound, hafter.kind, hfirst, ?_, rfl, rfl⟩
    refine hcount.trans (Nat.mod_eq_of_lt ?_)
    exact Nat.lt_of_le_of_lt (Nat.min_le_left ..) hS

/-- An underrun is noticed on channel 0. -/
theorem completeChannel_first (S : Nat) (f : Filling) :
    (completeChannel S true 0 f).mDummySamplesSent
        = (if f.written = 0 then add32 f.mDummySamplesSent S else f.mDummySamplesSent)
      ∧ (completeChannel S true 0 f).mWaitForData = decide (f.written = 0) := by
  unfold completeChannel noteSilence
  by_cases hzero : f.written = 0
  · rw [if_pos hzero, if_pos hzero]
    exact ⟨rfl, (decide_eq_true hzero).symm⟩
  · rw [if_neg hzero, if_neg hzero]
    exact ⟨rfl, (decide_eq_false hzero).symm⟩

/-- The other channels leave the account alone. -/
theorem completeChannel_later {i : Nat} (hi : i ≠ 0) (S : Nat) (f : Filling) :
    (completeChannel S true i f).mDummySamplesSent = f.mDummySamplesSent
      ∧ (completeChannel S true i f).mWaitForData = f.mWaitForData := by
  unfold completeChannel noteSilence
  by_cases hzero : f.written = 0
  · rw [if_pos hzero, if_neg fun hfirst => hi hfirst.1]
    exact ⟨rfl, rfl⟩
  · rw [if_neg hzero, if_neg hi]
    exact ⟨rfl, rfl⟩

theorem fillChannel_first (h : Sound l) (hplain : l.hasBufferDesc = false)
    (hK : 0 < l.numChannels) (hpos : 0 < S) (hS : S < 65536) (s : TxAudioStream) :
    FirstFilled S s.mDummySamplesSent l (fillChannel e S true (s.filling l) 0) := by
  obtain ⟨hsound, hkind, hfill, hwritten, howed, hchannels⟩ :=
    readChannel_first (e := e) h hplain hK hpos hS s
  obtain ⟨hstream, hkept, hcount⟩ :=
    completeChannel_effect S true 0 (readChannel e S true (s.filling l) 0)
  obtain ⟨hsilence, hwait⟩ := completeChannel_first S (readChannel e S true (s.filling l) 0)
  rw [hwritten] at hsilence hwait hcount
  rw [howed] at hsilence
  rw [hchannels] at hkept
  refine ⟨?_, ?_, ?_, hsilence, hwait, _, congrArg (fun x => (x ++ [_]).head?) hkept, ?_⟩
  · show Sound (completeChannel S true 0 (readChannel e S true (s.filling l) 0)).stream
    rw [hstream]
    exact hsound
  · show SameKind l (completeChannel S true 0 (readChannel e S true (s.filling l) 0)).stream
    rw [hstream]
    exact hkind
  · show firstFill (completeChannel S true 0 (readChannel e S true (s.filling l) 0)).stream = _
    rw [hstream]
    exact hfill
  · rw [List.length_map, List.length_range, hcount]

theorem fillChannel_later {d i : Nat} {f : Filling} (h : FirstFilled S d l f) (hi : i ≠ 0) :
    FirstFilled S d l (fillChannel e S true f i) := by
  have hread : Sound (readChannel e S true f i).stream
      ∧ SameKind f.stream (readChannel e S true f i).stream
      ∧ firstFill (readChannel e S true f i).stream = firstFill f.stream
      ∧ (readChannel e S true f i).mDummySamplesSent = f.mDummySamplesSent
      ∧ (readChannel e S true f i).mWaitForData = f.mWaitForData
      ∧ (readChannel e S true f i).channels = f.channels := by
    unfold readChannel
    split
    · exact ⟨h.sound, SameKind.refl _, rfl, rfl, rfl, rfl⟩
    · have hafter := readLocalAudioBuffer_after (e := e) h.sound i S f.written
      exact ⟨hafter.sound, hafter.kind, read_later h.sound hi S _, rfl, rfl, rfl⟩
  obtain ⟨hsound, hkind, hfill, howed, hwaits, hchannels⟩ := hread
  obtain ⟨hstream, hkept, -⟩ := completeChannel_effect S true i (readChannel e S true f i)
  obtain ⟨hsilence, hwait⟩ := completeChannel_later hi S (readChannel e S true f i)
  obtain ⟨x, hx, hlen⟩ := h.sent
  refine ⟨?_, ?_, ?_, hsilence.trans (howed.trans h.owed), hwait.trans (hwaits.trans h.waits),
    x, ?_, hlen⟩
  · show Sound (completeChannel S true i (readChannel e S true f i)).stream
    rw [hstream]
    exact hsound
  · show SameKind l (completeChannel S true i (readChannel e S true f i)).stream
    rw [hstream]
    exact h.kind.trans hkind
  · show firstFill (completeChannel S true i (readChannel e S true f i)).stream = _
    rw [hstream, hfill]
    exact h.fill
  · show ((completeChannel S true i (readChannel e S true f i)).channels ++ _).head? = _
    rw [hkept, hchannels, List.head?_append, hx]
    rfl

/-- The whole loop. -/
theorem fillChannels_first (h : Sound l) (hplain : l.hasBufferDesc = false)
    (hK : 0 < l.numChannels) (hpos : 0 < S) (hS : S < 65536) (s : TxAudioStream) {n : Nat}
    (hn : 0 < n) :
    FirstFilled S s.mDummySamplesSent l
      ((List.range n).foldl (fillChannel e S true) (s.filling l)) := by
  have hloop := Run.foldl_range_inv (n := n) (s := s.filling l) (f := fillChannel e S true)
    (P := fun i f => i = 0 ∧ f = s.filling l ∨ 0 < i ∧ FirstFilled S s.mDummySamplesSent l f)
    (Or.inl ⟨rfl, rfl⟩) ?_
  · rcases hloop with ⟨hnone, -⟩ | ⟨-, hfirst⟩
    · omega
    · exact hfirst
  rintro i - f (⟨rfl, rfl⟩ | ⟨hi, hfirst⟩)
  · exact Or.inr ⟨Nat.one_pos, fillChannel_first h hplain hK hpos hS s⟩
  · exact Or.inr ⟨Nat.succ_pos i, fillChannel_later hfirst (Nat.ne_of_gt hi)⟩

/-- The side channel is not channel 0. -/
theorem readLayout_first {t : AvbAudioConfig} {c : ConnectedStream} {f : Filling}
    (h : Sound f.stream) (hc : t.connectable c.asked = true) :
    firstFill (readLayout e S c f).1.stream = firstFill f.stream
      ∧ (readLayout e S c f).1.mDummySamplesSent = f.mDummySamplesSent
      ∧ (readLayout e S c f).1.mWaitForData = f.mWaitForData := by
  unfold readLayout
  split
  · exact ⟨read_later h (Nat.ne_of_gt (audioChannels_pos hc)) _ _, rfl, rfl⟩
  · exact ⟨rfl, rfl, rfl⟩

/-! ## One call -/

variable {t : AvbAudioConfig} {clock : ClockReading} {c : ConnectedStream}

/-- What the next packet does to the account. -/
def nextExchange (s : TxAudioStream) (l : IasLocalAudioStream) : Exchange :=
  .packet s.mSamplesPerChannelPerPacket s.mDummySamplesSent l.minFill (firstFill l)

/-- No more is taken than there is. -/
theorem taken_le (hK : 0 < l.numChannels) (s : TxAudioStream) :
    (s.nextExchange l).dumped + (s.nextExchange l).read ≤ firstFill l := by
  have hb : l.mChannelBuffers[0]? = some (l.mChannelBuffers.get ⟨0, hK⟩) :=
    List.getElem?_eq_getElem hK
  have hleast := minFill_le (List.mem_of_getElem? hb)
  rw [← firstFill_of hb] at hleast
  have hdumped : (s.nextExchange l).dumped ≤ l.minFill := Nat.min_le_right ..
  have hread : (s.nextExchange l).read ≤ firstFill l - (s.nextExchange l).dumped := by
    show (if (s.nextExchange l).dumped < s.mDummySamplesSent then 0
      else min s.mSamplesPerChannelPerPacket (firstFill l - (s.nextExchange l).dumped)) ≤ _
    split
    · exact Nat.zero_le _
    · exact Nat.min_le_right ..
  omega

/-- A call that goes to the local stream `l`. -/
structure Exchanged (s : TxAudioStream) (l : IasLocalAudioStream) (s' : TxAudioStream)
    (out : TxOutcome) : Prop where
  taken : ∃ c, s'.mLocalStream = some c
    ∧ firstFill c.stream = firstFill l - (s.nextExchange l).dumped - (s.nextExchange l).read
    ∧ c.stream.hasBufferDesc = false
  owed : s'.mDummySamplesSent = (s.nextExchange l).owed % 4294967296
  waits : s'.mWaitForData = decide ((s.nextExchange l).read = 0)
  active : s'.mActive = s.mActive
  sent : ∃ attime block held x, out = .dataPacket attime block held
    ∧ block.channels.head? = some x ∧ x.length = (s.nextExchange l).sent

theorem startPacket_account {s' : TxAudioStream} (h : s.startPacket clock = some s') :
    s'.mDummySamplesSent = s.mDummySamplesSent ∧ s'.mWaitForData = s.mWaitForData
      ∧ s'.mActive = s.mActive := by
  unfold startPacket at h
  split at h
  · obtain ⟨p, -, rfl⟩ := Option.map_eq_some_iff.mp h
    exact ⟨rfl, rfl, rfl⟩
  · obtain rfl := Option.some.inj h
    exact ⟨rfl, rfl, rfl⟩

theorem advance_account (s : TxAudioStream) (clock : ClockReading) (written : Nat) :
    (s.advance clock written).mDummySamplesSent = s.mDummySamplesSent
      ∧ (s.advance clock written).mWaitForData = s.mWaitForData
      ∧ (s.advance clock written).mActive = s.mActive := by
  unfold advance
  split <;> exact ⟨rfl, rfl, rfl⟩

theorem compensate_active (s : TxAudioStream) (e : Estimates) (l : IasLocalAudioStream) :
    (s.compensate e l).1.mActive = s.mActive := by
  unfold compensate
  split <;> rfl

/-- Without descriptors no sample is late. -/
theorem disposeLate_plain (hplain : l.hasBufferDesc = false) (s : TxAudioStream) (e : Estimates) :
    s.disposeLate e l = some (s, l) := by
  unfold disposeLate
  rw [hplain]
  rfl

/-- The payload, once the dump is done. -/
theorem writePayload_exchange (hsound : Sound l) (hplain : l.hasBufferDesc = false)
    (hkind : SameKind c.stream l) (hc : t.connectable c.asked = true)
    (hpos : 0 < s.mSamplesPerChannelPerPacket) (hS : s.mSamplesPerChannelPerPacket < 65536)
    (e : Estimates) (clock : ClockReading) (attime timestamp : Nat) (mSeqNum : UInt8) :
    ∃ s' block held,
      s.writePayload e clock true c l attime timestamp mSeqNum
          = (s', .dataPacket attime block held)
        ∧ (∃ c', s'.mLocalStream = some c' ∧ firstFill c'.stream = firstFill l
            - firstRead s.mSamplesPerChannelPerPacket s.mDummySamplesSent l
          ∧ c'.stream.hasBufferDesc = false)
        ∧ s'.mDummySamplesSent
          = (if firstRead s.mSamplesPerChannelPerPacket s.mDummySamplesSent l = 0
            then add32 s.mDummySamplesSent s.mSamplesPerChannelPerPacket else s.mDummySamplesSent)
        ∧ s'.mWaitForData
          = decide (firstRead s.mSamplesPerChannelPerPacket s.mDummySamplesSent l = 0)
        ∧ s'.mActive = s.mActive
        ∧ ∃ x, block.channels.head? = some x ∧ x.length = padded s.mSamplesPerChannelPerPacket
          (firstRead s.mSamplesPerChannelPerPacket s.mDummySamplesSent l) := by
  have hcount := audioChannels_pos hc
  have hK : 0 < l.numChannels := by
    rw [hkind.channels]
    exact Nat.lt_of_lt_of_le hcount (audioChannels_le c.asked)
  have hloop := fillChannels_first (e := e) hsound hplain hK hpos hS s hcount
  obtain ⟨hfill, howed, hwaits⟩ := readLayout_first (e := e)
    (S := s.mSamplesPerChannelPerPacket) hloop.sound hc
  have hkind' := (readLayout_effect (e := e) (S := s.mSamplesPerChannelPerPacket) hloop.sound c).2
  refine ⟨_, _, _, rfl, ⟨_, (advance_same _ clock _).2, ?_, ?_⟩, ?_, ?_, ?_, hloop.sent⟩
  · exact hfill.trans hloop.fill
  · exact (hloop.kind.trans hkind').timeAware.trans hplain
  · exact (advance_account _ clock _).1.trans (howed.trans hloop.owed)
  · exact (advance_account _ clock _).2.1.trans (hwaits.trans hloop.waits)
  · exact (advance_account _ clock _).2.2

/-- What the dump leaves for the rest of the call. -/
theorem compensate_exchange (h : Sound l) (hplain : l.hasBufferDesc = false)
    (hK : 0 < l.numChannels) (hlt : s.mDummySamplesSent < 4294967296) :
    (s.compensate e l).1.mDummySamplesSent = s.mDummySamplesSent - (s.nextExchange l).dumped
      ∧ firstFill (s.compensate e l).2 = firstFill l - (s.nextExchange l).dumped
      ∧ firstRead s.mSamplesPerChannelPerPacket (s.compensate e l).1.mDummySamplesSent
        (s.compensate e l).2 = (s.nextExchange l).read := by
  obtain ⟨hleft, hfirst⟩ := compensate_plain (e := e) h hplain hK hlt
  refine ⟨hleft, hfirst, ?_⟩
  unfold firstRead
  rw [hleft, hfirst]
  exact if_congr Nat.sub_pos_iff_lt rfl rfl

/-- The counter, if nothing but the addition is in 32 bits. -/
theorem owed_exchange (s : TxAudioStream) (l : IasLocalAudioStream) :
    (if (s.nextExchange l).read = 0
      then add32 (s.mDummySamplesSent - (s.nextExchange l).dumped) s.mSamplesPerChannelPerPacket
      else s.mDummySamplesSent - (s.nextExchange l).dumped)
      = (s.nextExchange l).owed % 4294967296 := by
  have howed : (s.nextExchange l).owed = if (s.nextExchange l).read = 0
      then s.mDummySamplesSent - (s.nextExchange l).dumped + s.mSamplesPerChannelPerPacket
      else 0 := rfl
  rw [howed]
  by_cases hread : (s.nextExchange l).read = 0
  · rw [if_pos hread, if_pos hread]
    rfl
  · have hall : s.mDummySamplesSent ≤ (s.nextExchange l).dumped :=
      Nat.not_lt.mp fun hless => hread (Exchange.read_of_owed hless)
    rw [if_neg hread, if_neg hread, Nat.sub_eq_zero_of_le hall]

/-- **One call that goes to the local stream**: the account is that of the exchange, in 32
bits. -/
theorem writeToAvbPacket_exchange (h : TxInv t s) (hpos : 0 < t.mSamplesPerChannelPerPacket)
    (hlt : t.mSamplesPerChannelPerPacket < 65536) (hactive : s.mActive = true)
    (hstart : s.startPacket clock ≠ none) (hc : s.mLocalStream = some c)
    (hplain : c.stream.hasBufferDesc = false) (howed : s.mDummySamplesSent < 4294967296) :
    ∃ s' out, s.writeToAvbPacket e clock = some (s', out) ∧ Exchanged s c.stream s' out := by
  -- the start of a packet touches neither the stream nor its account
  obtain ⟨s₁, hs₁⟩ := Option.ne_none_iff_exists'.mp hstart
  obtain ⟨hsamples, hlocal⟩ := startPacket_same hs₁
  obtain ⟨hdummy, -, hactive₁⟩ := startPacket_account hs₁
  obtain ⟨hsound, hconnectable⟩ := h.connected c hc
  have hK : 0 < c.stream.numChannels :=
    Nat.lt_of_lt_of_le (audioChannels_pos hconnectable) (audioChannels_le c.asked)
  have hsame : s₁.takeSeqNum.nextExchange c.stream = s.nextExchange c.stream := by
    show Exchange.packet s₁.mSamplesPerChannelPerPacket s₁.mDummySamplesSent _ _ = _
    rw [hsamples, hdummy]
    rfl
  have hlocal₁ : s₁.takeSeqNum.mLocalStream = some c := hlocal.trans hc
  have hdummy₁ : s₁.takeSeqNum.mDummySamplesSent = s.mDummySamplesSent := hdummy
  have hsamples₁ : s₁.takeSeqNum.mSamplesPerChannelPerPacket = s.mSamplesPerChannelPerPacket :=
    hsamples
  have hactive₂ : s₁.takeSeqNum.mActive = s.mActive := hactive₁
  -- what is left of the call: compensate, then write the payload
  have hcall : s.writeToAvbPacket e clock
      = ((s₁.takeSeqNum.compensate e c.stream).1.disposeLate e
          (s₁.takeSeqNum.compensate e c.stream).2).map fun p =>
        p.1.writePayload e clock (s₁.takeSeqNum.compensate e c.stream).2.isReadReady c p.2
          (launchTime s₁.takeSeqNum (s₁.takeSeqNum.compensate e c.stream).1)
          (add64 s₁.mRefPlaneSampleTime clock.presentationTimeOffset) s₁.mSeqNum := by
    unfold writeToAvbPacket
    rw [if_pos hactive, hs₁]
    dsimp only
    rw [hlocal₁]
  generalize s₁.takeSeqNum = s₂ at hsame hdummy₁ hsamples₁ hactive₂ hcall
  obtain ⟨hcount, hsound', hkind⟩ := compensate_effect (e := e) hsound s₂
  obtain ⟨hleft, hfirst, hread⟩ := compensate_exchange (e := e) (s := s₂) hsound hplain hK
    (by omega)
  have hplain' := hkind.timeAware.trans hplain
  have hready : (s₂.compensate e c.stream).2.isReadReady = true := by
    unfold isReadReady
    rw [hplain']
    rfl
  rw [disposeLate_plain hplain', Option.map_some, hready] at hcall
  have hS : s.mSamplesPerChannelPerPacket = t.mSamplesPerChannelPerPacket := h.samples
  -- the payload takes what the compensation has left
  obtain ⟨s', block, held, hpayload, ⟨c', hc', hfill, hplainc⟩, howed', hwaits, hactive', x, hx,
    hlen⟩ :=
    writePayload_exchange (s := (s₂.compensate e c.stream).1) hsound' hplain' hkind hconnectable
      (by omega) (by omega) e clock (launchTime s₂ (s₂.compensate e c.stream).1)
      (add64 s₁.mRefPlaneSampleTime clock.presentationTimeOffset) s₁.mSeqNum
  rw [hcount, hread, hsame] at hfill howed' hwaits hlen
  rw [hfirst, hsame] at hfill
  rw [hleft, hsame, hdummy₁, hsamples₁, owed_exchange s c.stream] at howed'
  rw [hsamples₁] at hlen
  exact ⟨s', _, hcall.trans (congrArg some hpayload), ⟨c', hc', hfill, hplainc⟩, howed', hwaits,
    hactive'.trans ((compensate_active s₂ e c.stream).trans hactive₂),
    _, block, held, x, rfl, hx, hlen⟩

/-- A call that does not get to the local stream leaves the account alone. -/
theorem writeToAvbPacket_idle
    (hidle : ¬ (s.mActive = true ∧ s.startPacket clock ≠ none ∧ s.mLocalStream ≠ none)) :
    ∃ s' out, s.writeToAvbPacket e clock = some (s', out) ∧ s'.mLocalStream = s.mLocalStream
      ∧ s'.mDummySamplesSent = s.mDummySamplesSent ∧ s'.mWaitForData = s.mWaitForData
      ∧ ∀ attime block held, out ≠ .dataPacket attime block held := by
  unfold writeToAvbPacket
  split
  · rename_i hactive
    split
    · exact ⟨_, _, rfl, rfl, rfl, rfl, fun _ _ _ hout => nomatch hout⟩
    · rename_i s₁ hs₁
      obtain ⟨hdummy, hwait, -⟩ := startPacket_account hs₁
      have hlocal := (startPacket_same hs₁).2
      have hnone : s₁.takeSeqNum.mLocalStream = none := by
        by_contra hsome
        refine hidle ⟨hactive, ?_, fun h => hsome (hlocal.trans h)⟩
        rw [hs₁]
        exact Option.some_ne_none s₁
      dsimp only
      rw [hnone]
      refine ⟨_, _, rfl, ?_, ?_, ?_, fun _ _ _ hout => nomatch hout⟩
      · exact (advance_same _ clock _).2.trans hlocal
      · exact (advance_account _ clock _).1.trans hdummy
      · exact (advance_account _ clock _).2.1.trans hwait
  · exact ⟨s, _, rfl, rfl, rfl, rfl, fun _ _ _ hout => nomatch hout⟩

end TxAudioStream

end AvbStreamHandler
