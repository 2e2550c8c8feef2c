import AvbStreamHandler.Audio.BufferStatus
import AvbStreamHandler.Audio.DescriptorTiling
import AvbStreamHandler.Audio.TransmitGeometry

/-!
# Descriptors go with their samples

All channels of a time-aware stream are read through one queue of descriptors. The reads of
the last channel decide: what it has read to the end goes, and nothing else. So the head of
the queue covers the place the channels have come to, and tells its time.

A dump reads every channel in turn and does not look at what the reads come to. It says how
many samples it has removed before it has removed any. A channel that is not ready to be read,
or an empty queue, and it says so in vain.
-/

namespace AvbStreamHandler

open Kit Kit.Run Kit.Word

/-- The descriptor tells the time of the sample at `index`. -/
def AudioBufferDesc.Covers (d : AudioBufferDesc) (index : Nat) : Prop :=
  d.bufIndex ≤ index ∧ index < d.endIndex

instance (d : AudioBufferDesc) (index : Nat) : Decidable (d.Covers index) :=
  inferInstanceAs (Decidable (_ ∧ _))

/-- A range of samples that the 64-bit indices do not cut. -/
def AudioBufferDesc.Whole (d : AudioBufferDesc) : Prop :=
  0 < d.sampleCnt ∧ d.bufIndex + d.sampleCnt < 18446744073709551616

theorem AudioBufferDesc.Whole.endIndex_eq {d : AudioBufferDesc} (h : d.Whole) :
    d.endIndex = d.bufIndex + d.sampleCnt := Nat.mod_eq_of_lt h.2

/-- What holds of an element holds of all behind it: then the last are the ones it holds of. -/
theorem rdropWhile_eq_filter {α : Type} {p : α → Bool} {l : List α}
    (h : l.Pairwise fun a b => p a = true → p b = true) :
    l.rdropWhile p = l.filter fun a => !p a := by
  induction l using List.reverseRecOn with
  | nil => rfl
  | append_singleton l x ih =>
      obtain ⟨hl, -, hcross⟩ := List.pairwise_append.mp h
      rw [List.rdropWhile_concat, List.filter_append]
      cases hx : p x with
      | true => simp [hx, ih hl]
      | false =>
          have hkept : l.filter (fun a => !p a) = l := by
            refine List.filter_eq_self.mpr fun a ha => ?_
            have hax := hcross a ha x List.mem_cons_self
            cases hpa : p a with
            | true => exact absurd (hax hpa) (by simp [hx])
            | false => rfl
          simp [hx, hkept]

namespace IasLocalAudioStream

variable {s s' : IasLocalAudioStream} {e : Estimates} {ch n r : Nat} {b : IasLocalAudioBuffer}

/-- How far the last channel has been read. -/
def lastReadIndex (s : IasLocalAudioStream) : Nat :=
  match s.mChannelBuffers[s.numChannels - 1]? with
  | some b => b.mMonotonicReadIndex
  | none => 0

/-- What the last channel still holds. -/
def lastFill (s : IasLocalAudioStream) : Nat :=
  match s.mChannelBuffers[s.numChannels - 1]? with
  | some b => b.getFillLevel
  | none => 0

theorem peek_eq (s : IasLocalAudioStream) : s.mBufferDescQ.peek = s.descriptors.getLast? := by
  unfold IasLocalAudioBufferDesc.peek IasLocalAudioBufferDesc.peekX
  rw [List.getLast?_eq_getElem?]
  split
  · rfl
  · rw [List.getElem?_eq_none]
    show s.mBufferDescQ.mDescQ.length ≤ s.mBufferDescQ.mDescQ.length - 1
    omega

/-- **A stream whose descriptors say what its buffers hold.** -/
structure Described (s : IasLocalAudioStream) : Prop where
  sound : Sound s
  aware : s.hasBufferDesc = true
  channels : 0 < s.numChannels
  /-- Each range starts where the one before it ends. -/
  consecutive : s.descriptors.IsChain fun young old => young.bufIndex = old.endIndex
  whole : ∀ d ∈ s.descriptors, d.Whole
  /-- The oldest is the one to be read. -/
  head : ∀ d ∈ s.mBufferDescQ.peek, d.Covers s.lastReadIndex
  /-- The samples of the last channel have an index of 64 bits. -/
  indexed : s.lastReadIndex + s.lastFill < 18446744073709551616

/-! ## What is used up -/

/-- Older descriptors end earlier. -/
theorem descending_of_chain {l : List AudioBufferDesc}
    (h : l.IsChain fun young old => young.bufIndex = old.endIndex) (hl : ∀ d ∈ l, d.Whole) :
    l.Pairwise fun young old => old.endIndex < young.endIndex := by
  induction l with
  | nil => exact .nil
  | cons d l ih =>
      have hwhole := hl d List.mem_cons_self
      have htail := ih h.tail fun d' hd' => hl d' (List.mem_cons_of_mem d hd')
      refine List.pairwise_cons.mpr ⟨fun d' hd' => ?_, htail⟩
      cases l with
      | nil => exact nomatch hd'
      | cons d₁ l =>
          have hnext : d.bufIndex = d₁.endIndex := (List.isChain_cons_cons.mp h).1
          have hfirst : d₁.endIndex < d.endIndex := by
            have hpos := hwhole.1
            rw [hwhole.endIndex_eq]
            omega
          rcases List.mem_cons.mp hd' with rfl | hd'
          · exact hfirst
          · exact Nat.lt_trans ((List.pairwise_cons.mp htail).1 d' hd') hfirst

/-- **The loop over the used descriptors** drops those, and no others, that end before the
reader. -/
theorem dropUsed_eq {q : IasLocalAudioBufferDesc}
    (h : q.mDescQ.Pairwise fun young old => old.endIndex < young.endIndex) (index : Nat) :
    (q.dropUsed index).mDescQ = q.mDescQ.filter fun d => decide (index < d.endIndex) := by
  have hdrop := rdropWhile_eq_filter (p := fun d : AudioBufferDesc => decide (d.endIndex ≤ index))
    (h.imp fun hlt hused => by
      have hused := of_decide_eq_true hused
      exact decide_eq_true (by omega))
  unfold IasLocalAudioBufferDesc.dropUsed IasLocalAudioBufferDesc.setDescQ
  rw [hdrop]
  refine List.filter_congr fun d _ => ?_
  rw [← decide_not, decide_eq_decide]
  exact Nat.not_le

/-- From one state to the next: the last channel has been read on, and exactly the descriptors
it has read to the end are gone. -/
structure Consumed (s s' : IasLocalAudioStream) : Prop where
  forward : s.lastReadIndex ≤ s'.lastReadIndex
  queue : s'.descriptors = s.descriptors.filter fun d => decide (s'.lastReadIndex < d.endIndex)

theorem Consumed.trans {s'' : IasLocalAudioStream} (h : Consumed s s') (h' : Consumed s' s'') :
    Consumed s s'' where
  forward := Nat.le_trans h.forward h'.forward
  queue := by
    have hle := h'.forward
    rw [h'.queue, h.queue, List.filter_filter]
    refine List.filter_congr fun d _ => ?_
    rw [← Bool.decide_and, decide_eq_decide]
    omega

/-- In a stream that is described nothing is used up. -/
theorem Described.unused (h : Described s) : ∀ d ∈ s.descriptors, s.lastReadIndex < d.endIndex := by
  intro d hd
  have hhead := h.head
  rw [peek_eq] at hhead
  rcases List.eq_nil_or_concat s.descriptors with hnil | ⟨l, x, hl⟩
  · rw [hnil] at hd
    exact nomatch hd
  · rw [List.concat_eq_append] at hl
    have hdesc := descending_of_chain h.consecutive h.whole
    rw [hl] at hd hhead hdesc
    have hx : x.Covers s.lastReadIndex := hhead x (by simp)
    rcases List.mem_append.mp hd with hold | hnew
    · exact Nat.lt_trans hx.2 ((List.pairwise_append.mp hdesc).2.2 d hold x List.mem_cons_self)
    · rw [List.mem_singleton.mp hnew]
      exact hx.2

/-- Nothing happens to the queue nor to the last channel. -/
theorem Described.kept (h : Described s) (hsound : Sound s') (hkind : SameKind s s')
    (hqueue : s'.mBufferDescQ = s.mBufferDescQ)
    (hlast : s'.mChannelBuffers[s.numChannels - 1]? = s.mChannelBuffers[s.numChannels - 1]?) :
    Described s' ∧ Consumed s s' := by
  have hread : s'.lastReadIndex = s.lastReadIndex := by
    unfold lastReadIndex
    rw [hkind.channels, hlast]
  have hfill : s'.lastFill = s.lastFill := by
    unfold lastFill
    rw [hkind.channels, hlast]
  have hdesc : s'.descriptors = s.descriptors := congrArg IasLocalAudioBufferDesc.mDescQ hqueue
  refine ⟨⟨hsound, hkind.timeAware.trans h.aware, ?_, ?_, ?_, ?_, ?_⟩, ⟨Nat.le_of_eq hread.symm, ?_⟩⟩
  · rw [hkind.channels]
    exact h.channels
  · rw [hdesc]
    exact h.consecutive
  · rw [hdesc]
    exact h.whole
  · rw [hqueue, hread]
    exact h.head
  · rw [hread, hfill]
    exact h.indexed
  · rw [hdesc, hread, eq_comm]
    exact List.filter_eq_self.mpr fun d hd => decide_eq_true (h.unused d hd)

/-- What is left of a chain when the reader has come to `index`: the one that is oldest now has
been begun. -/
theorem head_begun {l : List AudioBufferDesc} {index : Nat}
    (hchain : l.IsChain fun young old => young.bufIndex = old.endIndex)
    (hdesc : l.Pairwise fun young old => old.endIndex < young.endIndex)
    (hhead : ∀ d ∈ l.getLast?, d.bufIndex ≤ index) :
    ∀ d ∈ (l.filter fun d => decide (index < d.endIndex)).getLast?, d.Covers index := by
  induction l using List.reverseRecOn with
  | nil => exact fun d hd => nomatch hd
  | append_singleton l x ih =>
      obtain ⟨hl, -, -⟩ := List.pairwise_append.mp hdesc
      obtain ⟨hchain', -, hnext⟩ := List.isChain_append.mp hchain
      rw [List.filter_append]
      by_cases hx : index < x.endIndex
      · -- the oldest is not read to its end
        intro d hd
        rw [List.filter_cons_of_pos (by simpa using hx), List.filter_nil,
          List.getLast?_append] at hd
        obtain rfl : x = d := by simpa using hd
        exact ⟨hhead x (by simp), hx⟩
      · -- its successor begins where it ends
        rw [List.filter_cons_of_neg (by simpa using hx), List.filter_nil, List.append_nil]
        refine ih hchain' hl fun y hy => ?_
        rw [hnext y hy x (by simp)]
        exact Nat.not_lt.mp hx

/-! ## A read -/

/-- A time-aware read, where an underrun moves nobody. -/
theorem readLocalAudioBuffer_aware (h : Sound s) (haware : s.hasBufferDesc = true)
    (hb : s.mChannelBuffers[ch]? = some b) (hn : n ≠ 0) (r : Nat) :
    s.readLocalAudioBuffer e ch n r
      = if b.mReadReady = true then s.readTimeAware e ch b n r
        else { samplesRead := 0, stream := s } := by
  unfold readLocalAudioBuffer
  rw [if_neg h.initialized, hb]
  dsimp only
  rw [if_neg hn, haware, if_pos rfl]
  split
  · refine noteUnderrun_transmit ?_
    cases hpeek : s.mBufferDescQ.peek with
    | none =>
        unfold readTimeAware
        rw [hpeek]
        exact h.transmit
    | some desc =>
        obtain ⟨q, hstream, -⟩ := @readTimeAware_stream s e ch n b desc hpeek r
        rw [hstream]
        exact h.transmit
  · rfl

/-- A read that is refused. -/
theorem readLocalAudioBuffer_refused (hrefused : s.mChannelBuffers[ch]? = none ∨ n = 0) (r : Nat) :
    (s.readLocalAudioBuffer e ch n r).stream = s := by
  unfold readLocalAudioBuffer
  split
  · rfl
  · split
    · rfl
    · rename_i hb
      rw [if_pos (hrefused.resolve_left (by rw [hb]; exact nofun))]

/-- The channel hands out samples. -/
def Delivers (s : IasLocalAudioStream) (b : IasLocalAudioBuffer) : Prop :=
  b.mReadReady = true ∧ s.mBufferDescQ.peek ≠ none

instance (s : IasLocalAudioStream) (b : IasLocalAudioBuffer) : Decidable (s.Delivers b) :=
  inferInstanceAs (Decidable (_ ∧ _))

/-- What a read leaves: a channel that hands out samples has been read, no other channel has,
and only the last touches the queue. -/
theorem read_stream (h : Sound s) (haware : s.hasBufferDesc = true)
    (hb : s.mChannelBuffers[ch]? = some b) (hn : n ≠ 0) (r : Nat) :
    ∃ q, (s.readLocalAudioBuffer e ch n r).stream
        = (if s.Delivers b then s.setChannel ch (b.read n).1 else s).setDescQ q
      ∧ (ch + 1 < s.numChannels ∨ ¬ s.Delivers b → q = s.mBufferDescQ) := by
  rw [readLocalAudioBuffer_aware h haware hb hn]
  by_cases hready : b.mReadReady = true
  · rw [if_pos hready]
    cases hpeek : s.mBufferDescQ.peek with
    | none =>
        have hnot : ¬ s.Delivers b := fun hd => hd.2 hpeek
        refine ⟨s.mBufferDescQ, ?_, fun _ => rfl⟩
        rw [if_neg hnot]
        unfold readTimeAware
        rw [hpeek]
        rfl
    | some desc =>
        have hdelivers : s.Delivers b := ⟨hready, by rw [hpeek]; exact nofun⟩
        obtain ⟨q, hstream, hqueue⟩ := @readTimeAware_stream s e ch n b desc hpeek r
        refine ⟨q, ?_, fun hkept => hqueue (hkept.resolve_right (not_not.mpr hdelivers))⟩
        rw [hstream, if_pos hdelivers]
  · have hnot : ¬ s.Delivers b := fun hd => hready hd.1
    refine ⟨s.mBufferDescQ, ?_, fun _ => rfl⟩
    rw [if_neg hready, if_neg hnot]
    rfl

/-- What the last channel's read leaves of the queue. -/
theorem read_last (h : Described s) (hb : s.mChannelBuffers[s.numChannels - 1]? = some b)
    (hn : n ≠ 0) (hdelivers : s.Delivers b) (r : Nat) :
    (s.readLocalAudioBuffer e (s.numChannels - 1) n r).stream
      = (s.setChannel (s.numChannels - 1) (b.read n).1).setDescQ
          (s.mBufferDescQ.dropUsed (b.read n).1.mMonotonicReadIndex) := by
  have hindex : s.lastReadIndex = b.mMonotonicReadIndex := by
    unfold lastReadIndex
    rw [hb]
  obtain ⟨desc, hpeek⟩ := Option.ne_none_iff_exists'.mp hdelivers.2
  have hcovers : desc.Covers b.mMonotonicReadIndex := by
    rw [← hindex]
    exact h.head desc hpeek
  rw [readLocalAudioBuffer_aware h.sound h.aware hb hn, if_pos hdelivers.1]
  unfold readTimeAware
  rw [hpeek]
  dsimp only
  rw [if_pos ⟨hcovers.1, hcovers.2⟩, if_pos (decide_eq_true rfl)]

/-- A read moves the index by what it takes out. -/
theorem index_read (b : IasLocalAudioBuffer) (n : Nat) :
    (b.read n).1.mMonotonicReadIndex = add64 b.mMonotonicReadIndex (min n b.getFillLevel) :=
  congrArg BufferControl.mMonotonicReadIndex (b.control_read n)

/-- The read of the last channel. -/
theorem consumed_read_last (h : Described s) (hb : s.mChannelBuffers[s.numChannels - 1]? = some b)
    (hn : n ≠ 0) (hdelivers : s.Delivers b) (r : Nat) :
    Described (s.readLocalAudioBuffer e (s.numChannels - 1) n r).stream
      ∧ Consumed s (s.readLocalAudioBuffer e (s.numChannels - 1) n r).stream := by
  have hafter := readLocalAudioBuffer_after (e := e) h.sound (s.numChannels - 1) n r
  have hread := read_last (e := e) h hb hn hdelivers r
  obtain ⟨-, hfill⟩ := soundRing_read (h.sound.rings b (List.mem_of_getElem? hb)) n
  have hlt := (List.getElem?_eq_some_iff.mp hb).1
  have hdesc := descending_of_chain h.consecutive h.whole
  have hindex : s.lastReadIndex = b.mMonotonicReadIndex := by
    unfold lastReadIndex
    rw [hb]
  have hlastFill : s.lastFill = b.getFillLevel := by
    unfold lastFill
    rw [hb]
  have hbound := h.indexed
  -- the index does not wrap: the queue reaches no further than it can count
  have hmove : (b.read n).1.mMonotonicReadIndex
      = b.mMonotonicReadIndex + min n b.getFillLevel := by
    rw [index_read]
    refine Nat.mod_eq_of_lt ?_
    omega
  generalize (s.readLocalAudioBuffer e (s.numChannels - 1) n r).stream = s' at *
  have hchannel : s'.mChannelBuffers[s'.numChannels - 1]? = some (b.read n).1 := by
    rw [hafter.kind.channels, hread]
    exact List.getElem?_set_self hlt
  have hindex' : s'.lastReadIndex = (b.read n).1.mMonotonicReadIndex := by
    unfold lastReadIndex
    rw [hchannel]
  have hfill' : s'.lastFill = (b.read n).1.getFillLevel := by
    unfold lastFill
    rw [hchannel]
  -- the queue is in order, so dropping from its old end drops exactly what was read
  have hqueue' : s'.descriptors
      = s.descriptors.filter fun d => decide (s'.lastReadIndex < d.endIndex) := by
    rw [hindex', hread]
    exact dropUsed_eq hdesc _
  refine ⟨⟨hafter.sound, hafter.kind.timeAware.trans h.aware, ?_, ?_, ?_, ?_, ?_⟩, ?_, hqueue'⟩
  · rw [hafter.kind.channels]
    exact h.channels
  · rw [hread]
    exact h.consecutive.prefix (List.rdropWhile_prefix _ _)
  · intro d hd
    rw [hqueue'] at hd
    exact h.whole d (List.mem_of_mem_filter hd)
  · rw [peek_eq, hqueue']
    refine head_begun h.consecutive hdesc fun d hd => ?_
    rw [← peek_eq] at hd
    have hbegun := (h.head d hd).1
    omega
  · omega
  · omega

/-- **A read of any channel** leaves the descriptors of what is not read, and those only. -/
theorem consumed_read (h : Described s) (ch n r : Nat) :
    Described (s.readLocalAudioBuffer e ch n r).stream
      ∧ Consumed s (s.readLocalAudioBuffer e ch n r).stream := by
  have hafter := readLocalAudioBuffer_after (e := e) h.sound ch n r
  cases hb : s.mChannelBuffers[ch]? with
  | none =>
      rw [readLocalAudioBuffer_refused (Or.inl hb)] at hafter ⊢
      exact h.kept hafter.sound hafter.kind rfl rfl
  | some b =>
      by_cases hn : n = 0
      · rw [readLocalAudioBuffer_refused (Or.inr hn)] at hafter ⊢
        exact h.kept hafter.sound hafter.kind rfl rfl
      by_cases hdelivers : s.Delivers b
      · by_cases hlast : ch = s.numChannels - 1
        · subst hlast
          exact consumed_read_last h hb hn hdelivers r
        · have hlt := (List.getElem?_eq_some_iff.mp hb).1
          have hless : ch + 1 < s.numChannels := by
            unfold numChannels at hlast ⊢
            omega
          exact h.kept hafter.sound hafter.kind (hafter.queue hless)
            (hafter.others _ (Ne.symm hlast))
      · obtain ⟨q, hstream, hqueue⟩ := read_stream (e := e) h.sound h.aware hb hn r
        rw [if_neg hdelivers, hqueue (Or.inr hdelivers)] at hstream
        rw [hstream] at hafter ⊢
        exact h.kept hafter.sound hafter.kind rfl rfl

/-! ## A dump -/

/-- Every channel holds `count` samples less. -/
def Removed (count : Nat) (s s' : IasLocalAudioStream) : Prop :=
  ∀ (ch : Nat) (b : IasLocalAudioBuffer), s.mChannelBuffers[ch]? = some b →
    ∃ b' : IasLocalAudioBuffer, s'.mChannelBuffers[ch]? = some b' ∧ b'.getFillLevel + count = b.getFillLevel

/-- How far the loop of a dump is: `i` channels are done. -/
structure DumpProgress (s : IasLocalAudioStream) (n i : Nat) (s' : IasLocalAudioStream) : Prop where
  described : Described s'
  consumed : Consumed s s'
  kind : SameKind s s'
  channel : ∀ ch, s'.mChannelBuffers[ch]? = (s.mChannelBuffers[ch]?).map fun b =>
    if ch < i ∧ s.Delivers b then (b.read n).1 else b
  queue : i < s.numChannels → s'.mBufferDescQ = s.mBufferDescQ

theorem Consumed.refl (h : Described s) : Consumed s s :=
  (h.kept h.sound (SameKind.refl s) rfl rfl).2

theorem dumpProgress_start (h : Described s) (n : Nat) : DumpProgress s n 0 s where
  described := h
  consumed := .refl h
  kind := SameKind.refl s
  channel ch := by simp
  queue _ := rfl

theorem dumpProgress_step (hn : n ≠ 0) {i : Nat} (hi : i < s.numChannels)
    (h : DumpProgress s n i s') :
    DumpProgress s n (i + 1) (s'.readLocalAudioBuffer e i n 0).stream := by
  obtain ⟨hdescribed, hconsumed⟩ := consumed_read (e := e) h.described i n 0
  have hafter := readLocalAudioBuffer_after (e := e) h.described.sound i n 0
  have hlt : i < s.mChannelBuffers.length := hi
  have hs : s.mChannelBuffers[i]? = some s.mChannelBuffers[i] := List.getElem?_eq_getElem hlt
  have hb : s'.mChannelBuffers[i]? = some s.mChannelBuffers[i] := by
    rw [h.channel, hs]
    simp
  have hdelivers : s'.Delivers s.mChannelBuffers[i] ↔ s.Delivers s.mChannelBuffers[i] := by
    unfold Delivers
    rw [h.queue hi]
  obtain ⟨q, hstream, hqueue⟩ := read_stream (e := e) h.described.sound h.described.aware hb hn 0
  refine ⟨hdescribed, h.consumed.trans hconsumed, h.kind.trans hafter.kind, fun ch => ?_,
    fun hnext => ?_⟩
  · by_cases hch : ch = i
    · subst hch
      rw [hstream, hs, Option.map_some]
      by_cases hd : s.Delivers s.mChannelBuffers[ch]
      · rw [if_pos (hdelivers.mpr hd), if_pos ⟨Nat.lt_succ_self ch, hd⟩]
        exact List.getElem?_set_self ((List.getElem?_eq_some_iff.mp hb).1)
      · rw [if_neg fun hd' => hd (hdelivers.mp hd'), if_neg fun hd' => hd hd'.2]
        exact hb
    · rw [hafter.others ch hch, h.channel]
      have hless : ch < i + 1 ↔ ch < i := by omega
      simp only [hless]
  · rw [hafter.queue (by rw [h.kind.channels]; exact hnext)]
    exact h.queue hi

/-- **What a dump does** to the channels. -/
theorem dump_progress (h : Described s) {numSamples : Nat} (hpos : s.dumped numSamples ≠ 0) :
    DumpProgress s (s.dumped numSamples) s.numChannels
      (s.dumpFromLocalAudioBuffer e numSamples).1 := by
  rw [dump_eq h.sound h.channels]
  exact foldl_range_inv (dumpProgress_start h _) fun i hi s' hs' => dumpProgress_step hpos hi hs'

/-- **A dump of any size** leaves the descriptors of what is not read, and those only. -/
theorem consumed_dump (h : Described s) (numSamples : Nat) :
    Described (s.dumpFromLocalAudioBuffer e numSamples).1
      ∧ Consumed s (s.dumpFromLocalAudioBuffer e numSamples).1 := by
  by_cases hzero : s.dumped numSamples = 0
  · rw [dump_zero h.sound h.channels hzero]
    exact ⟨h, .refl h⟩
  · have hdump := dump_progress (e := e) h hzero
    exact ⟨hdump.described, hdump.consumed⟩

/-- A dump that finds what it says: there is nothing to be said, or all channels hand out
samples. -/
def Dumpable (s : IasLocalAudioStream) (numSamples : Nat) : Prop :=
  numSamples = 0 ∨ s.minFill = 0 ∨ ∀ b ∈ s.mChannelBuffers, s.Delivers b

instance (s : IasLocalAudioStream) (numSamples : Nat) : Decidable (s.Dumpable numSamples) :=
  inferInstanceAs (Decidable (_ ∨ _ ∨ _))

/-- **Exactly when a dump has removed what it says.** -/
theorem removed_dump_iff (h : Described s) {numSamples : Nat} (hnum : numSamples < 65536) :
    Removed (s.dumpFromLocalAudioBuffer e numSamples).2 s
        (s.dumpFromLocalAudioBuffer e numSamples).1 ↔ s.Dumpable numSamples := by
  have hzero_iff : s.dumped numSamples = 0 ↔ numSamples = 0 ∨ s.minFill = 0 := by
    unfold dumped
    split <;> omega
  by_cases hzero : s.dumped numSamples = 0
  · rw [dump_zero h.sound h.channels hzero]
    refine ⟨fun _ => ?_, fun _ ch b hb => ⟨b, hb, rfl⟩⟩
    rcases hzero_iff.mp hzero with hnone | hempty
    · exact Or.inl hnone
    · exact Or.inr (Or.inl hempty)
  · have hcount : (s.dumpFromLocalAudioBuffer e numSamples).2 = s.dumped numSamples := by
      rw [dump_eq h.sound h.channels]
    have hdump := dump_progress (e := e) h hzero
    rw [hcount]
    generalize (s.dumpFromLocalAudioBuffer e numSamples).1 = s' at *
    constructor
    · intro hremoved
      refine Or.inr (Or.inr fun b hb => ?_)
      obtain ⟨ch, hlt, rfl⟩ := List.getElem_of_mem hb
      have hs : s.mChannelBuffers[ch]? = some s.mChannelBuffers[ch] := List.getElem?_eq_getElem hlt
      by_contra hnot
      obtain ⟨b', hb', hless⟩ := hremoved ch _ hs
      have hsame : b' = s.mChannelBuffers[ch] := by
        have hkept := hdump.channel ch
        rw [hs, Option.map_some, if_neg fun hd => hnot hd.2] at hkept
        exact Option.some.inj (hb'.symm.trans hkept)
      rw [hsame] at hless
      omega
    · intro hdumpable ch b hb
      have hdelivers : s.Delivers b := by
        rcases hdumpable with hnone | hempty | hall
        · exact absurd (hzero_iff.mpr (Or.inl hnone)) hzero
        · exact absurd (hzero_iff.mpr (Or.inr hempty)) hzero
        · exact hall b (List.mem_of_getElem? hb)
      have hlt : ch < s.numChannels := (List.getElem?_eq_some_iff.mp hb).1
      have hmem := List.mem_of_getElem? hb
      obtain ⟨-, hfill⟩ := soundRing_read (h.sound.rings b hmem) (s.dumped numSamples)
      have hle := (dumped_le hmem hnum).1
      refine ⟨(b.read (s.dumped numSamples)).1, ?_, by omega⟩
      have hchannel := hdump.channel ch
      rw [hb, Option.map_some, if_pos ⟨hlt, hdelivers⟩] at hchannel
      exact hchannel

/-! ## Runs -/

/-- The head of the queue covers the place the last channel has come to, and with it the place
of all channels, when they have come to the same. -/
structure HeadCovers (s : IasLocalAudioStream) : Prop where
  last : ∀ desc ∈ s.mBufferDescQ.peek, desc.Covers s.lastReadIndex
  all : ∀ b ∈ s.mChannelBuffers,
    (∀ b' ∈ s.mChannelBuffers, b'.mMonotonicReadIndex = b.mMonotonicReadIndex) →
      ∀ desc ∈ s.mBufferDescQ.peek, desc.Covers b.mMonotonicReadIndex

theorem Described.headCovers (h : Described s) : HeadCovers s := by
  refine ⟨h.head, fun b hb hall desc hpeek => ?_⟩
  have hlt : s.numChannels - 1 < s.mChannelBuffers.length := Nat.sub_one_lt_of_lt h.channels
  have hlast : s.mChannelBuffers[s.numChannels - 1]? = some s.mChannelBuffers[s.numChannels - 1] :=
    List.getElem?_eq_getElem hlt
  have hindex : s.lastReadIndex = b.mMonotonicReadIndex := by
    unfold lastReadIndex
    rw [hlast]
    exact hall _ (List.getElem_mem _)
  rw [← hindex]
  exact h.head desc hpeek

/-- The time `samples` samples of the head descriptor take: at the rate the next descriptor
gives away, else at the nominal one. -/
def elapsed (s : IasLocalAudioStream) (e : Estimates) (desc : AudioBufferDesc) (samples : Nat) : Nat :=
  match s.mBufferDescQ.peekX 1 with
  | some descY =>
      if desc.timeStamp < descY.timeStamp ∧ desc.bufIndex < descY.bufIndex then
        e.scale (descY.timeStamp - desc.timeStamp) (descY.bufIndex - desc.bufIndex) samples
      else e.nominal samples s.mSampleFrequency
  | none => e.nominal samples s.mSampleFrequency

/-- The time of the descriptor, moved to when its samples leave, and on by `samples` of them. -/
def advanced (s : IasLocalAudioStream) (e : Estimates) (desc : AudioBufferDesc) (samples : Nat) : Nat :=
  add64 (add64 desc.timeStamp s.mLaunchTimeDelay)
    (if samples = 0 then 0 else s.elapsed e desc samples)

theorem timeOfSample_eq {desc : AudioBufferDesc} {index : Nat} (hcovers : desc.Covers index)
    (hwhole : desc.Whole) :
    s.timeOfSample e desc index = s.advanced e desc (index - desc.bufIndex) := by
  have hlt := hcovers.2
  have hend := hwhole.2
  rw [hwhole.endIndex_eq] at hlt
  have hsub : sub64 index desc.bufIndex = index - desc.bufIndex := by
    have hle := hcovers.1
    unfold sub64
    omega
  unfold timeOfSample advanced elapsed
  dsimp only
  by_cases hfirst : index = desc.bufIndex
  · rw [if_pos hfirst, if_pos (by omega)]
    unfold add64
    omega
  · have hle := hcovers.1
    rw [if_neg hfirst, if_neg (by omega), hsub]
    cases s.mBufferDescQ.peekX 1 with
    | none => rfl
    | some descY =>
        dsimp only
        split <;> rfl

/-- A read that starts in the head descriptor tells its time, advanced by the samples of it
that were read before. -/
def Stamped (s : IasLocalAudioStream) (e : Estimates) (ch n r : Nat) : Prop :=
  ∀ b desc, s.mChannelBuffers[ch]? = some b → n ≠ 0 → b.mReadReady = true →
    s.mBufferDescQ.peek = some desc → desc.Covers b.mMonotonicReadIndex →
      (s.readLocalAudioBuffer e ch n r).timeStamp
        = s.advanced e desc (b.mMonotonicReadIndex - desc.bufIndex)

theorem Described.stamped (h : Described s) (ch n r : Nat) : Stamped s e ch n r := by
  intro b desc hb hn hready hpeek hcovers
  have hmem : desc ∈ s.descriptors := by
    rw [peek_eq] at hpeek
    exact List.mem_of_getLast? hpeek
  rw [readLocalAudioBuffer_aware h.sound h.aware hb hn, if_pos hready,
    ← timeOfSample_eq hcovers (h.whole desc hmem)]
  unfold readTimeAware
  rw [hpeek]
  dsimp only
  rw [if_pos ⟨hcovers.1, hcovers.2⟩]

inductive ConsumeEvent
  | read (ch bufferSize samplesRead : Nat)
  | dump (numSamples : UInt16)
  /-- What else happens to the stream: it is described again. -/
  | others (s' : {s : IasLocalAudioStream // Described s})

def consumeStep (e : Estimates) (s : IasLocalAudioStream) : ConsumeEvent → IasLocalAudioStream
  | .read ch n r => (s.readLocalAudioBuffer e ch n r).stream
  | .dump numSamples => (s.dumpFromLocalAudioBuffer e numSamples.toNat).1
  | .others s' => s'.val

/-- **Consumption of descriptors follows that of samples**, in one step. -/
def Follows (e : Estimates) (s : IasLocalAudioStream) : ConsumeEvent → Prop
  | .read ch n r => Consumed s (s.readLocalAudioBuffer e ch n r).stream ∧ Stamped s e ch n r
  | .dump numSamples =>
      Consumed s (s.dumpFromLocalAudioBuffer e numSamples.toNat).1
        ∧ Removed (s.dumpFromLocalAudioBuffer e numSamples.toNat).2 s
            (s.dumpFromLocalAudioBuffer e numSamples.toNat).1
  | .others _ => True

/-- Every dump finds what it says. -/
def Honest (s : IasLocalAudioStream) : ConsumeEvent → Prop
  | .dump numSamples => s.Dumpable numSamples.toNat
  | _ => True

instance decidableHonest (s : IasLocalAudioStream) : ∀ ev, Decidable (Honest s ev)
  | .read .. => inferInstanceAs (Decidable True)
  | .dump _ => inferInstanceAs (Decidable (Dumpable ..))
  | .others _ => inferInstanceAs (Decidable True)

theorem described_step (h : Described s) (ev : ConsumeEvent) : Described (consumeStep e s ev) := by
  cases ev with
  | read ch n r => exact (consumed_read h ch n r).1
  | dump numSamples => exact (consumed_dump h _).1
  | others s' => exact s'.property

/-- **A step follows exactly if it is honest.** -/
theorem follows_iff (h : Described s) (ev : ConsumeEvent) : Follows e s ev ↔ Honest s ev := by
  cases ev with
  | read ch n r => exact ⟨fun _ => trivial, fun _ => ⟨(consumed_read h ch n r).2, h.stamped ch n r⟩⟩
  | dump numSamples =>
      have hiff := removed_dump_iff (e := e) h numSamples.toNat_lt
      exact ⟨fun hfollows => hiff.mp hfollows.2, fun hok => ⟨(consumed_dump h _).2, hiff.mpr hok⟩⟩
  | others s' => exact ⟨fun _ => trivial, fun _ => trivial⟩

/-- **Exactly when descriptors go with their samples**: along a run of reads and dumps, the head
covers the place the channels have come to, and each step follows, if and only if every dump
finds what it says. -/
theorem consumption_follows_iff (h : Described s) (es : List ConsumeEvent) :
    Always (consumeStep e)
        (fun s ev => HeadCovers s ∧ Follows e s ev ∧ HeadCovers (consumeStep e s ev)) s es
      ↔ Always (consumeStep e) Honest s es := by
  refine @always_congr _ _ (consumeStep e) _ Described _ (fun s ev hs => ?_)
    (fun s ev hs _ => described_step hs ev) _ _ h
  rw [follows_iff hs]
  exact ⟨fun hall => hall.2.1, fun hok => ⟨hs.headCovers, hok, (described_step hs ev).headCovers⟩⟩

/-- A transmit stream of two channels that may be read from four samples on, with `n` samples
on each channel, and with these descriptors. -/
def stocked (n : Nat) (descriptors : List AudioBufferDesc) : IasLocalAudioStream :=
  exec (statusStep .wholeNanoseconds) (init 2 16 48000 8 4 0 0 0 true false false fun _ _ => 0)
    [.call 0 (.write (fun _ => 7) n), .call 1 (.write (fun _ => 8) n),
      .others .eIasActive { mDescQ := descriptors, mDescQsz := 3 }]

theorem described_stocked : Described (stocked 8 [{ timeStamp := 1000, sampleCnt := 8 }]) where
  sound := by
    refine ⟨rfl, by decide, fun b hb => ?_⟩
    have hstep : ∀ s ev, RingsInOrder 17 s → StatusGuard 17 s ev →
        RingsInOrder 17 (statusStep .wholeNanoseconds s ev) :=
      fun _ _ h hev => rings_step (by omega) (by omega) h hev
    exact ⟨17, by omega, inv_exec hstep rings_init (by decide) b hb⟩
  aware := rfl
  channels := by decide
  consecutive := .singleton _
  whole := by
    intro d hd
    obtain rfl := List.mem_singleton.mp hd
    exact ⟨by decide, by decide⟩
  head := by
    intro d hd
    obtain rfl : _ = d := Option.some.inj hd
    decide
  indexed := by decide

/-- Both channels are read, then two samples are dumped, and the rest is read. -/
theorem consumption_follows_stocked :
    Always (consumeStep .wholeNanoseconds) (fun s ev => HeadCovers s
        ∧ Follows .wholeNanoseconds s ev ∧ HeadCovers (consumeStep .wholeNanoseconds s ev))
      (stocked 8 [{ timeStamp := 1000, sampleCnt := 8 }])
      [.read 0 5 0, .read 1 5 0, .dump 2, .read 0 4 0, .read 1 4 0] :=
  (consumption_follows_iff described_stocked _).mpr (by decide)

/-- **A dump says it has removed what is still there**: from a buffer that is not ready to be
read, and from one without a descriptor. -/
theorem dump_in_vain :
    (let s := stocked 3 [{ timeStamp := 1000, sampleCnt := 3 }]
     (s.dumpFromLocalAudioBuffer .wholeNanoseconds 2).2 = 2
      ∧ ((s.dumpFromLocalAudioBuffer .wholeNanoseconds 2).1.mChannelBuffers.map
          IasLocalAudioBuffer.getFillLevel) = [3, 3])
    ∧ (let s := stocked 8 []
       (s.dumpFromLocalAudioBuffer .wholeNanoseconds 2).2 = 2
        ∧ ((s.dumpFromLocalAudioBuffer .wholeNanoseconds 2).1.mChannelBuffers.map
            IasLocalAudioBuffer.getFillLevel) = [8, 8]) := by
  decide

end IasLocalAudioStream

end AvbStreamHandler
