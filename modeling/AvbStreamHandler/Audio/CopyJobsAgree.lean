import AvbStreamHandler.Audio.CopyJobs

/-!
# Where the two copy jobs agree

The job of a hardware device has been derived from that of a virtual one, and has drifted away
from it. A ring without room, one that is filled up before it is used, and a start that is
synchronised are the business of virtual devices alone. A descriptor that is due is served twice
by a hardware device, the second samples over the first, and goes with the first channel that has
read it; and samples are thrown away to a null pointer, whether the stream is ready or not.

Where none of this plays a part, the two jobs give the same order to the channels of a stream.
-/

namespace AvbStreamHandler

open Kit Kit.Word IasAvbProcessingResult

/-- No sample is removed from a channel that is written to, unless its buffer is emptied. -/
structure Kept (emptied : Bool) (c c' : ShmChannel) : Prop where
  reader : emptied = false → c'.buffer.mReadIndex = c.buffer.mReadIndex
    ∧ c'.buffer.mMonotonicReadIndex = c.buffer.mMonotonicReadIndex

/-- What is to be said of two buffers by those who read them. -/
structure SameSamples (b b' : IasLocalAudioBuffer) : Prop where
  fill : b.getFillLevel = b'.getFillLevel
  delivers : ∀ n, (b.read n).2 = (b'.read n).2
  readIndex : b.mMonotonicReadIndex = b'.mMonotonicReadIndex
  writeIndex : b.mMonotonicWriteIndex = b'.mMonotonicWriteIndex
  ready : b.mReadReady = b'.mReadReady

theorem Alike.sameSamples {b b' : IasLocalAudioBuffer} (h : Alike b b') : SameSamples b b' := by
  have hcontrol := h.control
  simp only [IasLocalAudioBuffer.control, BufferControl.mk.injEq] at hcontrol
  exact {
    fill := h.fill
    delivers := fun n => (IasLocalAudioBuffer.readStrided_alike h n 2).1
    readIndex := hcontrol.2.2.2.2.2.1
    writeIndex := hcontrol.2.2.2.2.2.2
    ready := hcontrol.2.2.2.1 }

/-! ## Buffers that are emptied -/

/-- Nothing is left behind a reset. -/
theorem BufferControl.fill_reset {k : BufferControl} (hsize : k.mTotalSize < 2147483648)
    (hwrite : k.mWriteIndex < 4294967296) : (k.reset 0).getFillLevel = 0 := by
  have hstart : sub32 k.mWriteIndex 0 = k.mWriteIndex := by
    unfold sub32
    omega
  unfold reset getFillLevel
  dsimp only
  rw [hstart]
  by_cases hover : k.mWriteIndex > k.mTotalSize
  · rw [if_pos hover]
    unfold add32 sub32
    split <;> omega
  · rw [if_neg hover]
    unfold add32 sub32
    split <;> omega

namespace IasLocalAudioBuffer

variable {b b' : IasLocalAudioBuffer}

/-- Buffers of which nothing is left. -/
theorem sameSamples_empty (hfill : b.getFillLevel = 0) (hfill' : b'.getFillLevel = 0)
    (hread : b.mMonotonicReadIndex = b'.mMonotonicReadIndex)
    (hwrite : b.mMonotonicWriteIndex = b'.mMonotonicWriteIndex)
    (hready : b.mReadReady = b'.mReadReady) : SameSamples b b' := by
  refine ⟨hfill.trans hfill'.symm, fun n => ?_, hread, hwrite, hready⟩
  have hnone : (b.read n).2 = [] := by
    rw [List.eq_nil_iff_length_eq_zero, length_read, hfill, Nat.min_zero]
  have hnone' : (b'.read n).2 = [] := by
    rw [List.eq_nil_iff_length_eq_zero, length_read, hfill', Nat.min_zero]
  rw [hnone, hnone']

/-- Buffers that come from a reset. -/
theorem sameSamples_reset {k k' : BufferControl} (hb : b.control = k.reset 0)
    (hb' : b'.control = k'.reset 0) (hsize : k.mTotalSize < 2147483648)
    (hsize' : k'.mTotalSize < 2147483648) (hwrite : k.mWriteIndex < 4294967296)
    (hwrite' : k'.mWriteIndex < 4294967296) : SameSamples b b' := by
  have hfill : b.getFillLevel = 0 := by
    rw [← control_fill, hb, BufferControl.fill_reset hsize hwrite]
  have hfill' : b'.getFillLevel = 0 := by
    rw [← control_fill, hb', BufferControl.fill_reset hsize' hwrite']
  refine sameSamples_empty hfill hfill' ?_ ?_ ?_
  · exact (congrArg BufferControl.mMonotonicReadIndex hb).trans
      (congrArg BufferControl.mMonotonicReadIndex hb').symm
  · exact (congrArg BufferControl.mMonotonicWriteIndex hb).trans
      (congrArg BufferControl.mMonotonicWriteIndex hb').symm
  · exact (congrArg BufferControl.mReadReady hb).trans (congrArg BufferControl.mReadReady hb').symm

/-- A write moves the writer alone, and its register holds where it comes to. -/
structure Written (b b' : IasLocalAudioBuffer) : Prop where
  size : b'.mTotalSize = b.mTotalSize
  reader : b'.mReadIndex = b.mReadIndex
  monotonic : b'.mMonotonicReadIndex = b.mMonotonicReadIndex
  index : b.mWriteIndex < 4294967296 → b'.mWriteIndex < 4294967296

theorem written_noteOverrun (n : Nat) : Written b (b.noteOverrun n) := by
  unfold noteOverrun
  split <;> exact ⟨rfl, rfl, rfl, id⟩

theorem written_noteReference : Written b b.noteReference := by
  unfold noteReference
  split <;> exact ⟨rfl, rfl, rfl, id⟩

theorem written_noteWritten (n : Nat) : Written b (b.noteWritten n) := by
  unfold noteWritten
  dsimp only
  split <;> exact ⟨rfl, rfl, rfl, id⟩

theorem Written.trans {b'' : IasLocalAudioBuffer} (h : Written b b') (h' : Written b' b'') :
    Written b b'' :=
  ⟨h'.size.trans h.size, h'.reader.trans h.reader, h'.monotonic.trans h.monotonic,
    fun hw => h'.index (h.index hw)⟩

theorem written_copyInBlock (buffer : Nat → AudioData) {n : Nat} (hn : n < 4294967296) :
    Written b (b.copyInBlock buffer n) := by
  unfold copyInBlock
  dsimp only
  split
  · exact ⟨rfl, rfl, rfl, fun _ => by dsimp only; omega⟩
  · exact ⟨rfl, rfl, rfl, fun _ => Nat.mod_lt _ (by decide)⟩

theorem written_storeSample (sample : AudioData) : Written b (b.storeSample sample) := by
  unfold storeSample
  dsimp only
  refine Written.trans ?_ written_noteReference
  split
  · exact ⟨rfl, rfl, rfl, fun _ => Nat.zero_lt_succ _⟩
  · exact ⟨rfl, rfl, rfl, fun _ => Nat.mod_lt _ (by decide)⟩

theorem written_storeSamples (advance n : Nat) (b : IasLocalAudioBuffer)
    (buffer : Nat → AudioData) : Written b (storeSamples advance b buffer n) := by
  induction n generalizing b buffer with
  | zero => exact ⟨rfl, rfl, rfl, id⟩
  | succ n ih => exact (written_storeSample (buffer 0)).trans (ih _ _)

theorem written_writeStrided (buffer : Nat → AudioData) (n stride : Nat) :
    Written b (b.writeStrided buffer n stride).1 := by
  have hremaining : min n b.remaining < 4294967296 := by
    have := sub32_lt (sub32 b.mTotalSize b.getFillLevel) 1
    unfold remaining
    omega
  unfold writeStrided
  dsimp only
  split
  · exact (written_noteOverrun n).trans ((written_copyInBlock buffer hremaining).trans
      (written_noteReference.trans (written_noteWritten _)))
  · exact (written_noteOverrun n).trans ((written_storeSamples ..).trans (written_noteWritten _))

end IasLocalAudioBuffer

/-! ## The job of a hardware device -/

theorem map_toShmChannel (channels : List ShmChannel) :
    (channels.map fun c => ({ toShmChannel := c } : HwChannel)).map HwChannel.toShmChannel
      = channels :=
  List.map_map.trans (List.map_id _)

namespace IasAlsaHwDeviceHandler

theorem discardGap_throwAway (bufIndex periodSize fuel : Nat) (wild : Bool)
    (b : IasLocalAudioBuffer) :
    (discardGap bufIndex periodSize fuel wild b).2
      = b.throwAway (lostReads bufIndex periodSize fuel b.control) := by
  induction fuel generalizing wild b with
  | zero => rfl
  | succ fuel ih =>
      rw [discardGap, lostReads]
      dsimp only
      have hindex : b.control.mMonotonicReadIndex = b.mMonotonicReadIndex := rfl
      rw [hindex]
      generalize sub64 bufIndex b.mMonotonicReadIndex % 4294967296 = gap
      split
      · rfl
      · rw [IasLocalAudioBuffer.length_read, ← IasLocalAudioBuffer.control_fill]
        split
        · rfl
        · rw [ih, IasLocalAudioBuffer.control_read]
          rfl

/-- **Reaching a descriptor** that is not too far away, in front of the end of the ring: nothing
is written behind the null pointer, and the channel comes to the descriptor or is empty. -/
theorem discardGap_reaches {N bufIndex periodSize : Nat} (hN : N < 2147483648)
    (hperiod : 0 < periodSize) (hbufIndex : bufIndex < 18446744073709551616) {fuel : Nat}
    (wild : Bool) {b : IasLocalAudioBuffer} (hb : IasLocalAudioBuffer.Rep N b)
    (hfuel : b.getFillLevel < fuel) (hbefore : b.mMonotonicReadIndex ≤ bufIndex)
    (hnear : bufIndex - b.mMonotonicReadIndex < 4294967296)
    (hfront : min (bufIndex - b.mMonotonicReadIndex) b.getFillLevel ≤ N - b.mReadIndex) :
    (discardGap bufIndex periodSize fuel wild b).1 = wild
      ∧ (bufIndex ≤ (discardGap bufIndex periodSize fuel wild b).2.mMonotonicReadIndex
        ∨ (discardGap bufIndex periodSize fuel wild b).2.getFillLevel = 0) := by
  induction fuel generalizing wild b with
  | zero => exact absurd hfuel (Nat.not_lt_zero _)
  | succ fuel ih =>
      have hgap : sub64 bufIndex b.mMonotonicReadIndex % 4294967296
          = bufIndex - b.mMonotonicReadIndex := by
        unfold sub64
        omega
      have hwrap : sub32 b.mTotalSize b.mReadIndex = N - b.mReadIndex := by
        rw [hb.size, sub32_of_le hb.valid.read_le (by omega)]
      rw [discardGap]
      dsimp only
      rw [hgap]
      generalize hn : min (bufIndex - b.mMonotonicReadIndex) periodSize = n
      split
      · exact ⟨rfl, Or.inl (Nat.le_of_sub_eq_zero ‹_›)⟩
      · rename_i hgap0
        -- the read stays in front of the end of the ring
        have htame : readsBehindNull b n = false := by
          unfold readsBehindNull
          rw [hwrap]
          exact decide_eq_false (by omega)
        obtain ⟨hrep, hless⟩ := IasLocalAudioBuffer.read_spec hb (by omega) (hb.unambiguous hN) n
        have hlength := IasLocalAudioBuffer.length_read (b := b) n
        have hfill := IasLocalAudioBuffer.getFillLevel_eq hb (by omega) (hb.unambiguous hN)
        have hfill' := IasLocalAudioBuffer.getFillLevel_eq hrep (by omega) (hrep.unambiguous hN)
        have hread : (b.read n).1.mReadIndex = b.mReadIndex + min n b.getFillLevel := by
          have hcontrol : (b.read n).1.control.mReadIndex = _ :=
            congrArg BufferControl.mReadIndex (IasLocalAudioBuffer.control_read n)
          have hle := hb.valid.read_le
          refine hcontrol.trans ?_
          show (if min n b.getFillLevel > sub32 b.mTotalSize b.mReadIndex then _ else
            add32 b.mReadIndex (min n b.getFillLevel)) = _
          rw [hwrap, if_neg (by omega)]
          exact add32_of_lt (by omega)
        have hindex : (b.read n).1.mMonotonicReadIndex
            = b.mMonotonicReadIndex + min n b.getFillLevel := by
          have hcontrol : (b.read n).1.control.mMonotonicReadIndex = _ :=
            congrArg BufferControl.mMonotonicReadIndex (IasLocalAudioBuffer.control_read n)
          refine hcontrol.trans ?_
          exact Nat.mod_eq_of_lt (by
            show b.mMonotonicReadIndex + min n b.getFillLevel < _
            omega)
        rw [htame, Bool.or_false]
        unfold IasLocalAudioBuffer.stored at hless
        split
        · exact ⟨rfl, Or.inr (by dsimp only; omega)⟩
        · exact ih _ hrep (by omega) (by omega) (by omega) (by omega)

/-- A descriptor a channel can come to: the stream is ready to be read, and what lies in front
of the descriptor can be counted and ends in front of the end of the ring. -/
structure Near (d : IasAlsaHwDeviceHandler) (ready : Bool) (k : BufferControl)
    (desc : AudioBufferDesc) : Prop where
  ready : ready = true
  period : 0 < d.periodSize
  register : desc.bufIndex < 18446744073709551616
  near : desc.bufIndex - k.mMonotonicReadIndex < 4294967296
  front : min (desc.bufIndex - k.mMonotonicReadIndex) k.getFillLevel ≤ k.mTotalSize - k.mReadIndex

/-- The oldest descriptor of a queue that a hardware device serves but once: it is not due yet,
and if the channels have not come to it, it is near. -/
structure Orderly (d : IasAlsaHwDeviceHandler) (now : Nat) (ready : Bool) (k : BufferControl)
    (desc : AudioBufferDesc) : Prop where
  undue : now < desc.timeStamp
  near : k.mMonotonicReadIndex < desc.bufIndex → d.Near ready k desc

/-- What decides about the samples in a job. -/
def Job.demand (j : Job) (ready : Bool) : Demand where
  timed := j.device.hasBufferDesc
  ready := ready
  due := j.schedule.toBePresented
  all := j.alsaRxSyncStart
  periodSize := j.device.periodSize
  frames := j.shmFrames

section Channel

variable {N : Nat} {d : IasAlsaHwDeviceHandler} {j : Job} {last : Bool} {st : JobState}
  {c : HwChannel} {desc : AudioBufferDesc} {b : IasLocalAudioBuffer}

theorem reachDescriptor_reaches (hN : N < 2147483648) (wild : Bool) {ready : Bool}
    (hb : IasLocalAudioBuffer.Rep N b)
    (hnear : b.control.mMonotonicReadIndex < desc.bufIndex → d.Near ready b.control desc) :
    ∃ b', d.reachDescriptor desc wild b = (wild, b')
      ∧ b' = b.throwAway (lostBefore desc d.periodSize b.control)
      ∧ (desc.bufIndex ≤ b'.mMonotonicReadIndex ∨ b'.getFillLevel = 0) := by
  by_cases hbefore : b.control.mMonotonicReadIndex < desc.bufIndex
  · have h := hnear hbefore
    have hfront : min (desc.bufIndex - b.mMonotonicReadIndex) b.getFillLevel
        ≤ N - b.mReadIndex := hb.size ▸ h.front
    obtain ⟨hwild, hreached⟩ := discardGap_reaches hN h.period h.register wild hb
      (Nat.lt_succ_self _) (Nat.le_of_lt hbefore) h.near hfront
    refine ⟨_, ?_, ?_, hreached⟩
    · unfold reachDescriptor
      rw [if_pos (show b.mMonotonicReadIndex < desc.bufIndex from hbefore)]
      exact Prod.ext hwild rfl
    · unfold lostBefore
      rw [if_pos hbefore]
      exact discardGap_throwAway ..
  · refine ⟨b, if_neg hbefore, ?_, Or.inl (Nat.le_of_not_lt hbefore)⟩
    unfold lostBefore
    rw [if_neg hbefore]
    rfl

/-- A descriptor that is not due yet is not served by the channels. -/
theorem serveDue_undue (hundue : j.now < desc.timeStamp) (hregisters : c.buffer.control.Registers)
    (hreached : desc.bufIndex ≤ c.buffer.mMonotonicReadIndex ∨ c.buffer.getFillLevel = 0) :
    ∃ c₁ : HwChannel, serveDue j desc st c = (st, c₁) ∧ c₁.step = c.step
      ∧ Alike c₁.buffer c.buffer := by
  unfold serveDue
  rw [if_neg (Nat.not_le_of_lt hundue)]
  split
  · rename_i hbefore
    refine ⟨_, rfl, rfl, IasLocalAudioBuffer.readStrided_nothing _ hregisters ?_⟩
    rw [hreached.resolve_left (Nat.not_le_of_lt hbefore), Nat.min_zero]
  · exact ⟨c, rfl, rfl, Alike.refl _⟩

/-- What is presented, whether or not the channel has read nothing in between. -/
theorem presentable_alike (hdue : j.schedule.toBePresented = true) (ready : Bool)
    {b' : IasLocalAudioBuffer} (h : Alike b' b) :
    min j.shmFrames (presentable j desc b.mMonotonicReadIndex b')
      = (j.demand ready).presented desc b.control := by
  unfold presentable Demand.presented
  rw [h.fill]
  exact (if_pos hdue).symm

/-- **A channel of a hardware device** that meets no descriptor that is due does what it is
ordered to. -/
theorem copyChannel_accounts (hN : N < 2147483648) {ready : Bool}
    (hb : IasLocalAudioBuffer.Rep N c.buffer) (hregisters : c.buffer.control.Registers)
    (hidle : ready = false → j.schedule.toBePresented = false)
    (hqueue : j.device.hasBufferDesc = true → ∀ desc ∈ st.descQ.peek,
      j.device.Orderly j.now ready c.buffer.control desc) :
    Accounts ((j.demand (ready || !j.device.hasBufferDesc)).order st.descQ.peek c.buffer.control)
        j.shmFrames false c.toShmChannel (copyChannel j last st c).2.toShmChannel
      ∧ (copyChannel j last st c).1 = { st with
        descQ := if last then (j.demand (ready || !j.device.hasBufferDesc)).queue st.descQ
            (copyChannel j last st c).2.buffer.mMonotonicReadIndex
          else st.descQ } := by
  -- what the descriptors come to if they are left alone
  have hkept : ∀ {m : Demand} {i : Nat}, m.queue st.descQ i = st.descQ →
      st = { st with descQ := if last then m.queue st.descQ i else st.descQ } := by
    intro m i hqueue
    rw [hqueue, ite_self]
  unfold copyChannel
  cases htimed : j.device.hasBufferDesc with
  | false =>
      rw [Demand.order_untimed (Bool.or_true ready) htimed, if_pos (by decide)]
      exact ⟨accounts_take (Alike.refl _) rfl (Nat.le_refl _),
        hkept (if_neg (by simp [Job.demand, htimed]))⟩
  | true =>
      rw [if_neg (by decide)]
      cases hpeek : st.descQ.peek with
      | none =>
          rw [Demand.order_underrun htimed]
          refine ⟨accounts_thrown hregisters rfl (Alike.refl _), hkept ?_⟩
          unfold Demand.queue
          rw [IasLocalAudioBufferDesc.dropUsed_none hpeek, ite_self]
      | some desc =>
          have horderly := hqueue htimed desc hpeek
          obtain ⟨b, hreach, hthrown, hreached⟩ := reachDescriptor_reaches (d := j.device) hN
            st.wildWrite hb horderly.near
          have hregisters' : b.control.Registers :=
            hthrown ▸ IasLocalAudioBuffer.registers_throwAway hregisters _
          obtain ⟨c₁, hserve, hstep, hsame⟩ := @serveDue_undue j
            { st with wildWrite := st.wildWrite } { c with buffer := b } desc horderly.undue
            hregisters' hreached
          dsimp only
          rw [hreach]
          dsimp only
          rw [hserve]
          dsimp only
          unfold present
          cases hdue : j.schedule.toBePresented with
          | false =>
              refine ⟨?_, hkept (if_neg (by simp [Job.demand, hdue]))⟩
              cases ready with
              | false =>
                  -- a stream that is not ready has come to its descriptor
                  have hnone : lostBefore desc j.device.periodSize c.buffer.control = [] :=
                    if_neg fun hbefore => Bool.noConfusion (horderly.near hbefore).ready
                  rw [hnone] at hthrown
                  rw [Demand.order_idle rfl]
                  exact accounts_thrown hregisters rfl (hthrown ▸ hsame)
              | true =>
                  rw [Demand.order_timed rfl htimed]
                  exact accounts_thrown hregisters (if_neg (ne_of_eq_of_ne hdue (by decide)))
                    (hthrown ▸ hsame)
          | true =>
              cases ready with
              | false => exact absurd (hdue.symm.trans (hidle rfl)) (by decide)
              | true =>
                  have hasked := @presentable_alike j desc _ hdue (true || !true) _ hsame
                  rw [hthrown, IasLocalAudioBuffer.control_throwAway, ← hthrown] at hasked
                  rw [Demand.order_timed rfl htimed, if_pos rfl]
                  dsimp only
                  refine ⟨?_, ?_⟩
                  · show Accounts _ _ false c.toShmChannel (c₁.toShmChannel.take c₁.buffer
                      (min j.shmFrames (presentable j desc b.mMonotonicReadIndex c₁.buffer)))
                    rw [hasked]
                    exact accounts_take (hthrown ▸ hsame) hstep (Demand.presented_le ..)
                  · rw [show Demand.queue _ _ _ = _ from if_pos (by simp [Job.demand, htimed, hdue]),
                      IasLocalAudioBufferDesc.dropUsed_peek hpeek]
                    cases last with
                    | false => rfl
                    | true =>
                        simp only [true_and, if_true]
                        split <;> rfl

end Channel

section Loop

variable {N : Nat} {j : Job} {ready : Bool} {cs : List HwChannel}

/-- **The channels of a hardware device** do what they are ordered to, and the last one takes the
descriptors along. -/
theorem copyChannels_accounts (hN : N < 2147483648)
    (hidle : ready = false → j.schedule.toBePresented = false) (st : JobState)
    (hqueue : j.device.hasBufferDesc = true → ∀ desc ∈ st.descQ.peek, ∀ c ∈ cs,
      j.device.Orderly j.now ready c.buffer.control desc)
    (hcs : ∀ c ∈ cs, c.buffer.control.Registers ∧ IasLocalAudioBuffer.Rep N c.buffer)
    {m : Demand} (hm : m = j.demand (ready || !j.device.hasBufferDesc)) :
    List.Forall₂ (fun c c' => Accounts (m.order st.descQ.peek c.buffer.control) j.shmFrames false
          c.toShmChannel c'.toShmChannel) cs (copyChannels j st cs).2
      ∧ (copyChannels j st cs).1
        = { st with descQ := m.left st.descQ (cs.map HwChannel.toShmChannel) } := by
  subst hm
  induction cs generalizing st with
  | nil => exact ⟨.nil, rfl⟩
  | cons c cs ih =>
      obtain ⟨hregisters, hrep⟩ := hcs c List.mem_cons_self
      obtain ⟨hhead, hstate⟩ := @copyChannel_accounts N j cs.isEmpty st c hN ready hrep hregisters
        hidle fun htimed desc hdesc => hqueue htimed desc hdesc c List.mem_cons_self
      rw [accounts_reader hhead] at hstate
      cases cs with
      | nil => exact ⟨.cons hhead .nil, hstate⟩
      | cons c₂ cs =>
          have hsame : (copyChannel j false st c).1 = st := hstate
          obtain ⟨htail, hlast⟩ := ih st
            (fun htimed desc hdesc c' hc' =>
              hqueue htimed desc hdesc c' (List.mem_cons_of_mem c hc'))
            fun c' hc' => hcs c' (List.mem_cons_of_mem c hc')
          constructor
          · refine .cons hhead ?_
            show List.Forall₂ _ (c₂ :: cs)
              (copyChannels j (copyChannel j false st c).1 (c₂ :: cs)).2
            rw [hsame]
            exact htail
          · show (copyChannels j (copyChannel j false st c).1 (c₂ :: cs)).1 = _
            rw [hsame]
            exact hlast

end Loop

/-- What the channels of a receive stream have in common in a job. -/
def receiveJob (d : IasAlsaHwDeviceHandler) (e : PresentationTimes) (t : TimeBase)
    (q : IasLocalAudioBufferDesc) (shmFrames : Nat) (buffers : List IasLocalAudioBuffer) : Job where
  device := d
  shmFrames := shmFrames
  now := t.localTime
  schedule := d.scheduleFor e t buffers q
  alsaRxSyncStart := d.hasBufferDesc && q.mAlsaRxSyncStart

/-- The first channel says whether the stream is ready to be read. -/
def firstReady : List ShmChannel → Bool
  | [] => false
  | c :: _ => c.buffer.mReadReady

section Job

variable {N granted timestamp : Nat} {d : IasAlsaHwDeviceHandler} {e : PresentationTimes}
  {t : TimeBase} {r : RingAnswers} {q : IasLocalAudioBufferDesc} {channels : List ShmChannel}

/-- Nothing is presented before the stream is ready. -/
theorem scheduleFor_idle (hready : firstReady channels = false) :
    (d.scheduleFor e t (channels.map ShmChannel.buffer) q).toBePresented = false := by
  unfold scheduleFor
  cases d.hasBufferDesc with
  | false => rfl
  | true =>
      cases channels with
      | nil => rfl
      | cons c cs =>
          have hfirst : c.buffer.mReadReady = false := hready
          show (d.schedule e t c.buffer q).toBePresented = false
          unfold schedule
          rw [if_pos hfirst]

/-- **The job of a hardware device** for a receive stream. -/
theorem copyJob_receives (hN : N < 2147483648)
    (hgood : ¬ (d.mPeriodSize = 0 ∨ d.periodSize % d.mPeriodSize ≠ 0))
    (hgranted : r.granted = some granted)
    (hqueue : d.hasBufferDesc = true → ∀ desc ∈ q.peek, ∀ c ∈ channels,
      d.Orderly t.localTime (firstReady channels) c.buffer.control desc)
    (hchannels : ∀ c ∈ channels, c.buffer.control.Registers ∧ IasLocalAudioBuffer.Rep N c.buffer)
    {o : Outcome} (ho : o = d.copyJob .eIasAvbReceiveFromNetwork e t r q timestamp channels)
    {m : Demand} (hm : m = (d.receiveJob e t q granted
      (channels.map ShmChannel.buffer)).demand (firstReady channels || !d.hasBufferDesc))
    {reset : Bool}
    (hreset : reset = d.resetRequested .eIasAvbReceiveFromNetwork e t q channels) :
    o.committed = granted ∧ o.wildWrite = false
      ∧ Follow (m.order q.peek) granted reset channels (o.channels.map HwChannel.toShmChannel)
      ∧ o.descQ = if reset then (m.left q channels).reset else m.left q channels := by
  obtain ⟨hloop, hstate⟩ := @copyChannels_accounts N
    (d.receiveJob e t q granted (channels.map ShmChannel.buffer)) (firstReady channels)
    (channels.map fun c => { toShmChannel := c }) hN scheduleFor_idle { descQ := q }
    (fun htimed desc hdesc => List.forall_mem_map.mpr (hqueue htimed desc hdesc))
    (List.forall_mem_map.mpr hchannels) m hm
  rw [List.forall₂_map_left_iff] at hloop
  rw [map_toShmChannel] at hstate
  have hprocess : d.process .eIasAvbReceiveFromNetwork e t q granted timestamp channels
      = copyChannels (d.receiveJob e t q granted (channels.map ShmChannel.buffer)) { descQ := q }
        (channels.map fun c => { toShmChannel := c }) := rfl
  unfold copyJob at ho
  rw [if_neg hgood, hgranted] at ho
  dsimp only at ho
  rw [hprocess, ← hreset, hstate] at ho
  subst ho
  unfold Follow
  cases reset with
  | false =>
      refine ⟨rfl, rfl, ?_, rfl⟩
      rw [List.forall₂_map_right_iff]
      exact hloop
  | true =>
      refine ⟨rfl, rfl, ?_, rfl⟩
      rw [List.forall₂_map_right_iff]
      refine List.forall₂_map_right_iff.mpr ?_
      exact hloop.imp fun _ _ h => accounts_reset h

end Job

end IasAlsaHwDeviceHandler

/-! ## The job of a virtual device with room -/

namespace IasAvbAudioShmProvider

variable {a : Access} {e : PresentationTimes} {t : TimeBase} {r : RingAnswers}
  {q : IasLocalAudioBufferDesc} {numFrames : Nat} {channels : List ShmChannel} {j : Job}

/-- A job that does not reset the stream and skips nothing. -/
theorem process_serves (hj : j = a.job e t q numFrames (channels.map ShmChannel.buffer))
    (hstart : j.schedule.mAlsaRxSyncStart = q.mAlsaRxSyncStart)
    (hskip : j.schedule.samplesToSkip = none) (hreset : j.schedule.resetRequested = false)
    (hroom : a.shmNoData = false)
    (hchannels : ∀ c ∈ channels, c.buffer.control.Registers ∧ c.step ≠ 0) :
    Follow (j.demand.order q.peek) a.shmFrames false channels
        (process a e t r q numFrames channels).channels
      ∧ (process a e t r q numFrames channels).descQ = j.demand.left q channels := by
  have haccess : j.access = a := by rw [hj]; rfl
  have hnothing : ∀ null : Nat → AudioData, j.schedule.skip null channels = (null, channels) := by
    intro null
    unfold Schedule.skip
    rw [hskip]
  have hqueue : ({ q with mAlsaRxSyncStart := j.schedule.mAlsaRxSyncStart } :
      IasLocalAudioBufferDesc) = q := by rw [hstart]
  unfold process
  dsimp only
  rw [← hj, hnothing, hqueue, hreset]
  dsimp only
  subst haccess
  have horder : j.order q.peek = j.demand.order q.peek :=
    funext fun k => if_neg (ne_of_eq_of_ne hroom (by decide))
  constructor
  · rw [if_neg (by decide), ← horder]
    exact @processChannels_follow j r channels hreset {
      mNullData := j.access.provider.mNullData
      descQ := q
      mBufRstContCnt := j.access.provider.mBufRstContCnt } hchannels
  · rw [if_neg (by decide)]
    exact processChannels_queue hreset hroom _ hchannels

/-- A job that resets the stream and skips nothing. -/
theorem process_resets (hj : j = a.job e t q numFrames (channels.map ShmChannel.buffer))
    (hstart : j.schedule.mAlsaRxSyncStart = q.mAlsaRxSyncStart)
    (hskip : j.schedule.samplesToSkip = none) (hreset : j.schedule.resetRequested = true) :
    (process a e t r q numFrames channels).channels
        = channels.map (fun c => { c with buffer := c.buffer.reset 0 })
      ∧ (process a e t r q numFrames channels).descQ = q.reset := by
  have hnothing : ∀ null : Nat → AudioData, j.schedule.skip null channels = (null, channels) := by
    intro null
    unfold Schedule.skip
    rw [hskip]
  have hqueue : ({ q with mAlsaRxSyncStart := j.schedule.mAlsaRxSyncStart } :
      IasLocalAudioBufferDesc) = q := by rw [hstart]
  unfold process
  dsimp only
  rw [← hj, hnothing, hqueue, hreset, if_pos rfl, if_pos rfl, processChannels_reset hreset]
  exact ⟨rfl, rfl⟩

/-- What a job that comes to the ring leaves to its channels. -/
theorem copyJob_process {p : IasAvbAudioShmProvider} {granted : Nat} (hrunning : p.mIsRunning = true)
    (hgood : ¬ (numFrames = 0 ∨ p.periodSize % numFrames ≠ 0))
    (hgranted : r.granted = some granted) (ha : a = p.access r granted numFrames)
    (channels : List ShmChannel) :
    (p.copyJob e t r q numFrames false channels).channels
        = (process a e t r q numFrames channels).channels
      ∧ (p.copyJob e t r q numFrames false channels).descQ
        = (process a e t r q numFrames channels).descQ
      ∧ (p.copyJob e t r q numFrames false channels).committed = a.shmFrames := by
  unfold copyJob
  rw [if_neg (by rw [hrunning]; decide), if_neg hgood, hgranted, ha]
  exact ⟨rfl, rfl, rfl⟩

end IasAvbAudioShmProvider

/-! ## One stream on two devices -/

/-- A virtual device and a hardware device with the same parameters. -/
structure Twin (p : IasAvbAudioShmProvider) (d : IasAlsaHwDeviceHandler) : Prop where
  periodSize : p.periodSize = d.periodSize
  samplerate : p.samplerate = d.samplerate
  mode : p.mDescMode = d.mDescMode
  epoch : p.mLastPtpEpoch = d.mLastPtpEpoch

namespace Twin

variable {p : IasAvbAudioShmProvider} {d : IasAlsaHwDeviceHandler} {e : PresentationTimes}
  {t : TimeBase} {q : IasLocalAudioBufferDesc} {numFrames : Nat}

theorem hasBufferDesc (h : Twin p d) : p.hasBufferDesc = d.hasBufferDesc := by
  have hmode := h.mode
  unfold IasAvbAudioShmProvider.hasBufferDesc IasAlsaHwDeviceHandler.hasBufferDesc
  generalize p.mDescMode = mode at hmode
  subst hmode
  cases d.mDescMode <;> rfl

/-- **The look at the oldest descriptor** comes to the same, unless the start is synchronised. -/
theorem schedule (h : Twin p d) (hstart : q.mAlsaRxSyncStart = false) (b : IasLocalAudioBuffer) :
    p.schedule e t numFrames b q = {
      isReadReady := b.mReadReady
      toBePresented := (d.schedule e t b q).toBePresented
      resetRequested := (d.schedule e t b q).resetRequested
      mAlsaRxSyncStart := false } := by
  unfold IasAvbAudioShmProvider.schedule IasAlsaHwDeviceHandler.schedule
  rw [h.epoch, h.mode, h.samplerate]
  cases hready : b.mReadReady with
  | false =>
      rw [if_pos rfl, if_pos rfl]
      dsimp only
      rw [hstart]
  | true =>
      rw [if_neg (by decide), if_neg (by decide)]
      cases hpeek : q.peek with
      | none =>
          dsimp only
          rw [hstart]
      | some desc =>
          simp only [hstart, Bool.false_eq_true, false_and, decide_false, Bool.false_and,
            Bool.not_false, Bool.or_false, if_false,
            IasAvbAudioShmProvider.skipOverdue]
          generalize (if desc.timeStamp < t.localTime then t.localTime - desc.timeStamp
            else desc.timeStamp - t.localTime) = timeGap
          split
          · rfl
          · split
            · rfl
            · split <;> rfl

theorem scheduleFor (h : Twin p d) (hstart : q.mAlsaRxSyncStart = false)
    (b : IasLocalAudioBuffer) (buffers : List IasLocalAudioBuffer) :
    p.scheduleFor e t numFrames (b :: buffers) q = {
      isReadReady := b.mReadReady || !d.hasBufferDesc
      toBePresented := (d.scheduleFor e t (b :: buffers) q).toBePresented
      resetRequested := (d.scheduleFor e t (b :: buffers) q).resetRequested
      mAlsaRxSyncStart := false } := by
  unfold IasAvbAudioShmProvider.scheduleFor IasAlsaHwDeviceHandler.scheduleFor
  rw [h.hasBufferDesc]
  cases d.hasBufferDesc with
  | false =>
      rw [Bool.not_false, Bool.or_true]
      dsimp only
      rw [hstart]
  | true =>
      rw [Bool.not_true, Bool.or_false]
      exact h.schedule hstart b

end Twin

/-- The channels of a stream: rings of `N` samples, each with an area in the ring of the device. -/
structure Rings (N : Nat) (channels : List ShmChannel) : Prop where
  small : N < 2147483648
  registers : ∀ c ∈ channels, c.buffer.control.Registers
  areas : ∀ c ∈ channels, c.step ≠ 0
  rings : ∀ c ∈ channels, IasLocalAudioBuffer.Rep N c.buffer

/-- Two jobs for one stream leave the same samples and descriptors, and commit the same frames.
Unless the stream is reset, the same samples are in the same frames. -/
structure JobsAgree (direction : IasAvbStreamDirection) (channels : List ShmChannel) (emptied : Bool)
    (o : IasAvbAudioShmProvider.Outcome) (o' : IasAlsaHwDeviceHandler.Outcome) : Prop where
  committed : o.committed = o'.committed
  descQ : o.descQ = o'.descQ
  samples : List.Forall₂ (fun c c' => SameSamples c.buffer c'.buffer) o.channels
    (o'.channels.map HwChannel.toShmChannel)
  placed : direction = .eIasAvbReceiveFromNetwork → emptied = false → ∃ rule,
    Follow rule o.committed false channels o.channels
      ∧ Follow rule o.committed false channels (o'.channels.map HwChannel.toShmChannel)

section JobsAgree

variable {p : IasAvbAudioShmProvider} {d : IasAlsaHwDeviceHandler} {e : PresentationTimes}
  {t : TimeBase} {r : RingAnswers} {q : IasLocalAudioBufferDesc}
  {N granted numFrames timestamp : Nat} {channels : List ShmChannel}

/-- **A ring with room** is handed over as it was granted. -/
theorem access_room (h : Twin p d) (hroom : (p.access r granted numFrames).shmNoData = false) :
    (p.access r granted numFrames).shmFrames = granted
      ∧ Twin (p.access r granted numFrames).provider d := by
  have hprefill : Twin (p.prefill r granted).1 d
      ∧ (p.prefill r granted).1.isPrefillEnable = p.isPrefillEnable
      ∧ ((p.prefill r granted).1.mBufferState = .eRunning
        → (p.prefill r granted).2 = granted) := by
    unfold IasAvbAudioShmProvider.prefill
    cases hstate : p.mBufferState with
    | eIdle =>
        dsimp only
        split
        · exact ⟨⟨h.periodSize, h.samplerate, h.mode, h.epoch⟩, rfl, fun _ => rfl⟩
        · split
          · exact ⟨⟨h.periodSize, h.samplerate, h.mode, h.epoch⟩, rfl, fun _ => rfl⟩
          · exact ⟨h, rfl, fun hrunning => ShmBufferState.noConfusion (hstate.symm.trans hrunning)⟩
    | ePrefilling =>
        dsimp only
        split
        · exact ⟨⟨h.periodSize, h.samplerate, h.mode, h.epoch⟩, rfl, fun _ => rfl⟩
        · exact ⟨⟨h.periodSize, h.samplerate, h.mode, h.epoch⟩, rfl, fun _ => rfl⟩
    | eRunning => exact ⟨h, rfl, fun _ => rfl⟩
  -- what the ring has been filled up with counts only once it is running
  obtain ⟨p', frames, hpair, htwin, hframes⟩ : ∃ p' frames,
      (if p.isPrefillEnable then p.prefill r granted else (p, granted)) = (p', frames)
        ∧ Twin p' d ∧ ((p'.isPrefillEnable → p'.mBufferState = .eRunning) → frames = granted) := by
    by_cases hon : p.isPrefillEnable
    · rw [if_pos hon]
      exact ⟨_, _, rfl, hprefill.1,
        fun hrunning => hprefill.2.2 (hrunning (hprefill.2.1.trans hon))⟩
    · rw [if_neg hon]
      exact ⟨_, _, rfl, h, fun _ => rfl⟩
  unfold IasAvbAudioShmProvider.access at hroom ⊢
  rw [hpair] at hroom ⊢
  dsimp only at hroom ⊢
  split at hroom
  · exact Bool.noConfusion hroom
  · rename_i hrunning
    split at hroom
    · exact Bool.noConfusion hroom
    · rename_i henough
      rw [if_neg hrunning, if_neg henough]
      refine ⟨hframes fun hon => ?_, htwin⟩
      by_contra hstate
      exact hrunning ⟨hon, hstate⟩

/-- Lists that are both related to one list. -/
theorem forall₂_both {α β γ : Type} {R : α → β → Prop} {S : α → γ → Prop} {T : β → γ → Prop}
    (hT : ∀ a b c, R a b → S a c → T b c) {as : List α} {bs : List β} {cs : List γ}
    (h : List.Forall₂ R as bs) (h' : List.Forall₂ S as cs) : List.Forall₂ T bs cs := by
  induction h generalizing cs with
  | nil =>
      cases h'
      exact .nil
  | cons hab _ ih =>
      cases h' with
      | cons hac htail => exact .cons (hT _ _ _ hab hac) (ih htail)

/-- Jobs whose channels follow the same rule. -/
theorem agree_of_follow {rule : BufferControl → Order} {o : IasAvbAudioShmProvider.Outcome}
    {o' : IasAlsaHwDeviceHandler.Outcome} {direction : IasAvbStreamDirection} {emptied : Bool}
    (hcommitted : o.committed = o'.committed) (hdescQ : o.descQ = o'.descQ)
    (h : Follow rule o.committed false channels o.channels)
    (h' : Follow rule o.committed false channels (o'.channels.map HwChannel.toShmChannel)) :
    JobsAgree direction channels emptied o o' where
  committed := hcommitted
  descQ := hdescQ
  samples := forall₂_both
    (fun _ _ _ hc hc' => ((hc.rest rfl).trans (hc'.rest rfl).symm).sameSamples) h h'
  placed _ _ := ⟨rule, h, h'⟩

theorem untouched_follow (h : Rings N channels) (committed : Nat) :
    Follow (fun _ => {}) committed false channels channels :=
  List.forall₂_same.mpr fun c hc => accounts_thrown (h.registers c hc) rfl (Alike.refl _)

/-- Jobs that do not come to the ring. -/
theorem agree_of_refused {o : IasAvbAudioShmProvider.Outcome} {o' : IasAlsaHwDeviceHandler.Outcome}
    {direction : IasAvbStreamDirection} {emptied : Bool} (h : Rings N channels)
    (ho : o.channels = channels ∧ o.descQ = q ∧ o.committed = 0)
    (ho' : o' = { device := d, descQ := q, channels := channels.map fun c => { toShmChannel := c } }) :
    JobsAgree direction channels emptied o o' := by
  obtain ⟨hchannels, hqueue, hcommitted⟩ := ho
  subst ho'
  have huntouched := untouched_follow h o.committed
  have hvirtual : Follow (fun _ => {}) o.committed false channels o.channels := by
    rw [hchannels]
    exact huntouched
  refine agree_of_follow hcommitted hqueue hvirtual ?_
  rw [map_toShmChannel]
  exact huntouched

/-- The descriptors a reset leaves do not depend on those that are there. -/
theorem reset_left (m : Demand) (q : IasLocalAudioBufferDesc) (channels : List ShmChannel) :
    (m.left q channels).reset = q.reset := by
  unfold Demand.left Demand.queue
  split
  · rfl
  · split <;> rfl

/-- **The two jobs ask the same** of the channels. -/
theorem same_demand {a : IasAvbAudioShmProvider.Access} (htwin : Twin a.provider d)
    (hroom : a.shmNoData = false) (hstart : q.mAlsaRxSyncStart = false) (c : ShmChannel)
    (cs : List ShmChannel) {j : IasAvbAudioShmProvider.Job}
    (hj : j = a.job e t q numFrames ((c :: cs).map ShmChannel.buffer)) :
    j.schedule.mAlsaRxSyncStart = q.mAlsaRxSyncStart ∧ j.schedule.samplesToSkip = none
      ∧ j.schedule.resetRequested
        = d.resetRequested .eIasAvbReceiveFromNetwork e t q (c :: cs)
      ∧ j.demand = (d.receiveJob e t q a.shmFrames ((c :: cs).map ShmChannel.buffer)).demand
        (IasAlsaHwDeviceHandler.firstReady (c :: cs) || !d.hasBufferDesc) := by
  have hschedule := @Twin.scheduleFor a.provider d e t q numFrames htwin hstart c.buffer
    (cs.map ShmChannel.buffer)
  have hjob : j.schedule
      = a.provider.scheduleFor e t numFrames (c.buffer :: cs.map ShmChannel.buffer) q := by
    rw [hj]
    rfl
  rw [← hjob] at hschedule
  refine ⟨?_, ?_, ?_, ?_⟩
  · rw [hschedule, hstart]
  · rw [hschedule]
  · rw [hschedule]
    rfl
  · unfold IasAvbAudioShmProvider.Job.demand IasAlsaHwDeviceHandler.Job.demand
    rw [hschedule]
    subst hj
    show Demand.mk a.provider.hasBufferDesc _ _ (a.provider.hasBufferDesc && q.mAlsaRxSyncStart)
      a.provider.periodSize (if a.shmNoData then numFrames else a.shmFrames) = _
    rw [hroom, htwin.hasBufferDesc, htwin.periodSize]
    rfl

/-- **A receive stream on two devices**: with room in the ring, no start to be synchronised, and
no descriptor that a hardware device serves twice, the jobs agree. -/
theorem receive_agree (h : Twin p d) (hframes : d.mPeriodSize = numFrames)
    (hrunning : p.mIsRunning = true) (hgranted : r.granted = some granted)
    (hroom : (p.access r granted numFrames).shmNoData = false)
    (hstart : q.mAlsaRxSyncStart = false) (hrings : Rings N channels)
    (hqueue : d.hasBufferDesc = true → ∀ desc ∈ q.peek, ∀ c ∈ channels,
      d.Orderly t.localTime (IasAlsaHwDeviceHandler.firstReady channels) c.buffer.control desc) :
    JobsAgree .eIasAvbReceiveFromNetwork channels
      (d.resetRequested .eIasAvbReceiveFromNetwork e t q channels)
      (p.copyJob e t r q numFrames false channels)
      (d.copyJob .eIasAvbReceiveFromNetwork e t r q timestamp channels) := by
  by_cases hbad : d.mPeriodSize = 0 ∨ d.periodSize % d.mPeriodSize ≠ 0
  · -- neither job comes to the ring
    refine agree_of_refused hrings ?_ (if_pos hbad)
    rw [hframes, ← h.periodSize] at hbad
    unfold IasAvbAudioShmProvider.copyJob
    rw [if_neg (by rw [hrunning]; decide), if_pos hbad]
    exact ⟨rfl, rfl, rfl⟩
  · have hbad' : ¬ (numFrames = 0 ∨ p.periodSize % numFrames ≠ 0) := by
      rw [← hframes, h.periodSize]
      exact hbad
    obtain ⟨hshm, htwin⟩ := access_room h hroom
    obtain ⟨hmade, hleft, hcommitted⟩ := @IasAvbAudioShmProvider.copyJob_process _ e t r q
      numFrames p granted hrunning hbad' hgranted rfl channels
    generalize p.access r granted numFrames = a at hroom hshm htwin hmade hleft hcommitted
    obtain ⟨hcommitted', -, hserved, hleft'⟩ := @IasAlsaHwDeviceHandler.copyJob_receives N granted
      timestamp d e t r q channels hrings.small hbad hgranted hqueue
      (fun c hc => ⟨hrings.registers c hc, hrings.rings c hc⟩) _ rfl _ rfl _ rfl
    generalize d.copyJob .eIasAvbReceiveFromNetwork e t r q timestamp channels = o' at *
    generalize p.copyJob e t r q numFrames false channels = o at *
    have hserving : ∀ c ∈ channels, c.buffer.control.Registers ∧ c.step ≠ 0 :=
      fun c hc => ⟨hrings.registers c hc, hrings.areas c hc⟩
    subst hshm
    cases channels with
    | nil =>
        have hschedule : (a.job e t q numFrames []).schedule = {
            isReadReady := true
            resetRequested := false
            mAlsaRxSyncStart := q.mAlsaRxSyncStart } := by
          show a.provider.scheduleFor e t numFrames [] q = _
          unfold IasAvbAudioShmProvider.scheduleFor
          cases a.provider.hasBufferDesc <;> rfl
        have hreset : d.resetRequested .eIasAvbReceiveFromNetwork e t q [] = false := by
          show (d.scheduleFor e t [] q).resetRequested = false
          unfold IasAlsaHwDeviceHandler.scheduleFor
          cases d.hasBufferDesc <;> rfl
        obtain ⟨hserves, hqueue'⟩ := @IasAvbAudioShmProvider.process_serves a e t r q numFrames
          [] _ rfl (congrArg IasAvbAudioShmProvider.Schedule.mAlsaRxSyncStart hschedule)
          (congrArg IasAvbAudioShmProvider.Schedule.samplesToSkip hschedule)
          (congrArg IasAvbAudioShmProvider.Schedule.resetRequested hschedule) hroom hserving
        have hnone : o.channels = [] := hmade.trans (List.forall₂_nil_left_iff.mp hserves)
        have hnone' := List.forall₂_nil_left_iff.mp hserved
        have hidle : Follow (fun _ => {}) o.committed false [] [] := .nil
        refine agree_of_follow (hcommitted.trans hcommitted'.symm) ?_ (by rw [hnone]; exact hidle)
          (by rw [hnone']; exact hidle)
        rw [hleft, hqueue', hleft', hreset]
        rfl
    | cons c cs =>
        obtain ⟨hsync, hskip, hreset, hdemand⟩ := same_demand htwin hroom hstart c cs rfl
        rw [← hdemand] at hserved hleft'
        rw [← hreset] at hserved hleft' ⊢
        cases hemptied : (a.job e t q numFrames
            ((c :: cs).map ShmChannel.buffer)).schedule.resetRequested with
        | false =>
            obtain ⟨hserves, hqueue'⟩ := @IasAvbAudioShmProvider.process_serves a e t r q numFrames
              (c :: cs) _ rfl hsync hskip hemptied hroom hserving
            rw [hemptied, ← hcommitted] at hserved
            rw [← hmade, ← hcommitted] at hserves
            refine agree_of_follow (hcommitted.trans hcommitted'.symm) ?_ hserves hserved
            rw [hleft, hqueue', hleft', hemptied]
            rfl
        | true =>
            obtain ⟨hresets, hqueue'⟩ := @IasAvbAudioShmProvider.process_resets a e t r q numFrames
              (c :: cs) _ rfl hsync hskip hemptied
            rw [hemptied] at hserved hleft'
            refine ⟨hcommitted.trans hcommitted'.symm, ?_, ?_, fun _ h => Bool.noConfusion h⟩
            · rw [hleft, hqueue', hleft']
              exact (reset_left ..).symm
            · rw [hmade, hresets, List.forall₂_map_left_iff]
              -- both have emptied the same buffers
              have hsizes : ∀ c' ∈ c :: cs,
                  c'.buffer.mTotalSize < 2147483648 ∧ c'.buffer.control.Registers :=
                fun c' hc' => ⟨(hrings.rings c' hc').size.trans_lt hrings.small,
                  hrings.registers c' hc'⟩
              refine ((List.forall₂_and_left _ _).mpr ⟨hsizes, hserved⟩).imp ?_
              rintro c c' ⟨⟨hsize, hregisters⟩, haccounts⟩
              exact IasLocalAudioBuffer.sameSamples_reset (IasLocalAudioBuffer.control_reset 0)
                (haccounts.gone rfl) hsize hsize hregisters.write hregisters.write

/-! ### Transmit streams -/

/-- What is stored in a channel moves its writer alone. -/
theorem written_store (hasBufferDesc first : Bool) (q : IasLocalAudioBufferDesc)
    (c : ShmChannel) :
    IasLocalAudioBuffer.Written c.buffer (c.store hasBufferDesc first granted timestamp q).2.buffer :=
  IasLocalAudioBuffer.written_writeStrided ..

/-- Both loops store the same, if the ring has a whole period. -/
theorem store_same (h : Twin p d) (henough : numFrames ≤ granted)
    (hchannels : ∀ c ∈ channels, c.step ≠ 0) (first : Bool) (q : IasLocalAudioBufferDesc) :
    p.storeChannels granted numFrames timestamp first q channels
      = d.storeChannels granted timestamp first q channels := by
  induction channels generalizing first q with
  | nil => rfl
  | cons c cs ih =>
      have hchannel : p.storeChannel first granted numFrames timestamp q c
          = if timestamp = 0 then (q, c)
            else c.store d.hasBufferDesc first granted timestamp q := by
        unfold IasAvbAudioShmProvider.storeChannel
        rw [if_neg (Nat.not_lt_of_le henough), if_neg (hchannels c List.mem_cons_self),
          h.hasBufferDesc]
      rw [IasAvbAudioShmProvider.storeChannels, IasAlsaHwDeviceHandler.storeChannels, hchannel]
      dsimp only
      rw [ih fun c' hc' => hchannels c' (List.mem_cons_of_mem c hc')]

theorem storeChannels_written (d : IasAlsaHwDeviceHandler) (first : Bool)
    (q : IasLocalAudioBufferDesc) (channels : List ShmChannel) :
    List.Forall₂ (fun c c' => IasLocalAudioBuffer.Written c.buffer c'.buffer) channels
        (d.storeChannels granted timestamp first q channels).2
      ∧ (d.storeChannels granted timestamp first q channels).1.reset = q.reset := by
  induction channels generalizing first q with
  | nil => exact ⟨.nil, rfl⟩
  | cons c cs ih =>
      by_cases hunknown : timestamp = 0
      · obtain ⟨htail, hqueue⟩ := ih false q
        rw [IasAlsaHwDeviceHandler.storeChannels, if_pos hunknown]
        exact ⟨.cons ⟨rfl, rfl, rfl, id⟩ htail, hqueue⟩
      · obtain ⟨htail, hqueue⟩ := ih false
          (c.store d.hasBufferDesc first granted timestamp q).1
        rw [IasAlsaHwDeviceHandler.storeChannels, if_neg hunknown]
        refine ⟨.cons (written_store ..) htail, hqueue.trans ?_⟩
        unfold ShmChannel.store
        dsimp only
        split <;> rfl

/-- What the job of a hardware device leaves of a transmit stream. -/
theorem copyJob_transmits (hgood : ¬ (d.mPeriodSize = 0 ∨ d.periodSize % d.mPeriodSize ≠ 0))
    (hgranted : r.granted = some granted) {o : IasAlsaHwDeviceHandler.Outcome}
    (ho : o = d.copyJob .eIasAvbTransmitToNetwork e t r q timestamp channels) {warped : Bool}
    (hwarped : warped = d.resetRequested .eIasAvbTransmitToNetwork e t q channels) :
    o.committed = granted
      ∧ o.descQ = (if warped then q.reset
        else (d.storeChannels granted timestamp true q channels).1)
      ∧ o.channels.map HwChannel.toShmChannel = (if warped then
          (d.storeChannels granted timestamp true q channels).2.map
            fun c => { c with buffer := c.buffer.reset 0 }
        else (d.storeChannels granted timestamp true q channels).2) := by
  obtain ⟨-, hqueue⟩ := @storeChannels_written granted timestamp d true q channels
  have hprocess : d.process .eIasAvbTransmitToNetwork e t q granted timestamp channels
      = ({ descQ := (d.storeChannels granted timestamp true q channels).1 },
        (d.storeChannels granted timestamp true q channels).2.map
          fun c => { toShmChannel := c }) := rfl
  unfold IasAlsaHwDeviceHandler.copyJob at ho
  rw [if_neg hgood, hgranted] at ho
  dsimp only at ho
  rw [hprocess, ← hwarped] at ho
  subst ho
  cases warped with
  | false => exact ⟨rfl, rfl, map_toShmChannel _⟩
  | true =>
      refine ⟨rfl, hqueue, ?_⟩
      rw [if_pos rfl]
      show List.map HwChannel.toShmChannel (List.map _ (List.map _ _)) = _
      rw [List.map_map, List.map_map]
      rfl

theorem warped_same (h : Twin p d) :
    (p.hasBufferDesc && decide (t.epochCounter ≠ p.mLastPtpEpoch))
      = d.resetRequested .eIasAvbTransmitToNetwork e t q channels := by
  rw [h.hasBufferDesc, h.epoch]
  rfl

/-- **A transmit stream on two devices**: if the ring has a whole period, the jobs agree. -/
theorem transmit_agree (h : Twin p d) (hframes : d.mPeriodSize = numFrames)
    (hrunning : p.mIsRunning = true) (hgranted : r.granted = some granted)
    (henough : numFrames ≤ granted) (hrings : Rings N channels) :
    JobsAgree .eIasAvbTransmitToNetwork channels
      (d.resetRequested .eIasAvbTransmitToNetwork e t q channels)
      (p.copyJobFromRing t r q numFrames false timestamp channels)
      (d.copyJob .eIasAvbTransmitToNetwork e t r q timestamp channels) := by
  by_cases hbad : d.mPeriodSize = 0 ∨ d.periodSize % d.mPeriodSize ≠ 0
  · refine agree_of_refused hrings ?_ (if_pos hbad)
    rw [hframes, ← h.periodSize] at hbad
    unfold IasAvbAudioShmProvider.copyJobFromRing
    rw [if_neg (by rw [hrunning]; decide), if_pos hbad]
    exact ⟨rfl, rfl, rfl⟩
  · have hbad' : ¬ (numFrames = 0 ∨ p.periodSize % numFrames ≠ 0) := by
      rw [← hframes, h.periodSize]
      exact hbad
    obtain ⟨hcommitted, hqueue, hstored⟩ := @copyJob_transmits d e t r q granted timestamp
      channels hbad hgranted _ rfl _ rfl
    obtain ⟨hwritten, -⟩ := @storeChannels_written granted timestamp d true q channels
    have hvirtual : (p.copyJobFromRing t r q numFrames false timestamp channels).committed = granted
        ∧ (p.copyJobFromRing t r q numFrames false timestamp channels).descQ
          = (if d.resetRequested .eIasAvbTransmitToNetwork e t q channels then q.reset
            else (d.storeChannels granted timestamp true q channels).1)
        ∧ (p.copyJobFromRing t r q numFrames false timestamp channels).channels
          = (if d.resetRequested .eIasAvbTransmitToNetwork e t q channels then
              channels.map fun c => { c with buffer := c.buffer.reset 0 }
            else (d.storeChannels granted timestamp true q channels).2) := by
      unfold IasAvbAudioShmProvider.copyJobFromRing
      rw [if_neg (by rw [hrunning]; decide), if_neg hbad', hgranted]
      dsimp only
      rw [store_same h henough hrings.areas, @warped_same p d e t q channels h]
      cases d.resetRequested .eIasAvbTransmitToNetwork e t q channels <;> exact ⟨rfl, rfl, rfl⟩
    refine ⟨hvirtual.1.trans hcommitted.symm, hvirtual.2.1.trans hqueue.symm, ?_,
      fun h => IasAvbStreamDirection.noConfusion h⟩
    rw [hvirtual.2.2, hstored]
    split
    · -- what was written before the reset is gone as well
      rw [List.forall₂_map_left_iff, List.forall₂_map_right_iff]
      have hsizes : ∀ c ∈ channels,
          c.buffer.mTotalSize < 2147483648 ∧ c.buffer.control.Registers :=
        fun c hc => ⟨(hrings.rings c hc).size.trans_lt hrings.small, hrings.registers c hc⟩
      refine ((List.forall₂_and_left _ _).mpr ⟨hsizes, hwritten⟩).imp ?_
      rintro c c' ⟨⟨hsize, hregisters⟩, hw⟩
      exact IasLocalAudioBuffer.sameSamples_reset (IasLocalAudioBuffer.control_reset 0)
        (IasLocalAudioBuffer.control_reset 0) hsize (hw.size.trans_lt hsize) hregisters.write
        (hw.index hregisters.write)
    · exact List.forall₂_same.mpr fun c _ => (Alike.refl c.buffer).sameSamples

end JobsAgree

/-! ## Any state of a stream and of the ring -/

/-- What becomes of the samples in a job of a virtual device. -/
def IasAvbAudioShmProvider.AccountsFor (p : IasAvbAudioShmProvider)
    (direction : IasAvbStreamDirection) (e : PresentationTimes) (t : TimeBase) (r : RingAnswers)
    (q : IasLocalAudioBufferDesc) (numFrames timestamp : Nat) (channels : List ShmChannel) :
    Prop :=
  match direction with
  | .eIasAvbReceiveFromNetwork =>
      IasAvbAudioShmProvider.Accounted
        (p.jobOf e t r q numFrames (channels.map ShmChannel.buffer)) q.peek channels
        (p.copyJob e t r q numFrames false channels)
  | .eIasAvbTransmitToNetwork =>
      List.Forall₂ (Kept (p.hasBufferDesc && decide (t.epochCounter ≠ p.mLastPtpEpoch))) channels
        (p.copyJobFromRing t r q numFrames false timestamp channels).channels

namespace IasAlsaHwDeviceHandler

/-- What becomes of the samples in a job of a hardware device, which throws none away but those
in front of the oldest descriptor. -/
def AccountsFor (d : IasAlsaHwDeviceHandler) (direction : IasAvbStreamDirection)
    (e : PresentationTimes) (t : TimeBase) (r : RingAnswers) (q : IasLocalAudioBufferDesc)
    (timestamp : Nat) (channels : List ShmChannel) : Prop :=
  let o := d.copyJob direction e t r q timestamp channels
  let reset := d.resetRequested direction e t q channels
  match direction with
  | .eIasAvbReceiveFromNetwork =>
      o.wildWrite = false ∧
        if d.mPeriodSize = 0 ∨ d.periodSize % d.mPeriodSize ≠ 0 then
          o.channels.map HwChannel.toShmChannel = channels ∧ o.committed = 0
        else ∃ rule, (∀ k, Deliberate none true q.peek k (rule k))
          ∧ Follow rule o.committed reset channels (o.channels.map HwChannel.toShmChannel)
  | .eIasAvbTransmitToNetwork =>
      List.Forall₂ (Kept reset) channels (o.channels.map HwChannel.toShmChannel)

/-- A hardware device that has access to the ring and serves no descriptor twice. -/
structure ServesOnce (d : IasAlsaHwDeviceHandler) (direction : IasAvbStreamDirection)
    (t : TimeBase) (r : RingAnswers) (q : IasLocalAudioBufferDesc) (channels : List ShmChannel) :
    Prop where
  access : r.granted ≠ none
  orderly : direction = .eIasAvbReceiveFromNetwork → d.hasBufferDesc = true →
    ∀ desc ∈ q.peek, ∀ c ∈ channels,
      d.Orderly t.localTime (firstReady channels) c.buffer.control desc

end IasAlsaHwDeviceHandler

/-- The ring has room for a whole period, and is not being filled up. -/
def IasAvbAudioShmProvider.HasRoom (p : IasAvbAudioShmProvider)
    (direction : IasAvbStreamDirection) (r : RingAnswers) (numFrames granted : Nat) : Prop :=
  match direction with
  | .eIasAvbReceiveFromNetwork => (p.access r granted numFrames).shmNoData = false
  | .eIasAvbTransmitToNetwork => numFrames ≤ granted

/-- The same stream on a virtual device and on a hardware device, where nothing plays a part that
is the business of virtual devices alone. -/
structure OnBoth (p : IasAvbAudioShmProvider) (d : IasAlsaHwDeviceHandler)
    (direction : IasAvbStreamDirection) (r : RingAnswers) (q : IasLocalAudioBufferDesc)
    (numFrames : Nat) : Prop where
  twin : Twin p d
  period : d.mPeriodSize = numFrames
  running : p.mIsRunning = true
  room : ∀ granted, r.granted = some granted → p.HasRoom direction r numFrames granted
  start : direction = .eIasAvbReceiveFromNetwork → q.mAlsaRxSyncStart = false

section Account

variable {N : Nat} {p : IasAvbAudioShmProvider} {d : IasAlsaHwDeviceHandler}
  {e : PresentationTimes} {t : TimeBase} {r : RingAnswers} {q : IasLocalAudioBufferDesc}
  {numFrames timestamp : Nat} {channels : List ShmChannel} {direction : IasAvbStreamDirection}

theorem kept_of_written {c c' : ShmChannel} (emptied : Bool)
    (h : IasLocalAudioBuffer.Written c.buffer c'.buffer) : Kept emptied c c' :=
  ⟨fun _ => ⟨h.reader, h.monotonic⟩⟩

/-- A virtual device only writes to the channels of a transmit stream. -/
theorem storeChannels_kept (p : IasAvbAudioShmProvider) (shmFrames : Nat) (emptied first : Bool)
    (q : IasLocalAudioBufferDesc) (channels : List ShmChannel) :
    List.Forall₂ (Kept emptied) channels
      (p.storeChannels shmFrames numFrames timestamp first q channels).2 := by
  induction channels generalizing first q with
  | nil => exact .nil
  | cons c cs ih =>
      have hsame : IasLocalAudioBuffer.Written c.buffer c.buffer := ⟨rfl, rfl, rfl, id⟩
      have hchannel : IasLocalAudioBuffer.Written c.buffer
          (p.storeChannel first shmFrames numFrames timestamp q c).2.buffer := by
        unfold IasAvbAudioShmProvider.storeChannel
        split
        · split
          · exact hsame
          · exact IasLocalAudioBuffer.written_writeStrided p.mNullData numFrames 2
        · split
          · exact hsame
          · split
            · exact hsame
            · exact written_store ..
      exact .cons (kept_of_written _ hchannel) (ih _ _)

theorem copyJobFromRing_kept (p : IasAvbAudioShmProvider) (r : RingAnswers)
    (channels : List ShmChannel) :
    List.Forall₂ (Kept (p.hasBufferDesc && decide (t.epochCounter ≠ p.mLastPtpEpoch))) channels
      (p.copyJobFromRing t r q numFrames false timestamp channels).channels := by
  have huntouched : ∀ emptied, List.Forall₂ (Kept emptied) channels channels := fun emptied =>
    List.forall₂_same.mpr fun c _ => ⟨fun _ => ⟨rfl, rfl⟩⟩
  unfold IasAvbAudioShmProvider.copyJobFromRing
  split
  · exact huntouched _
  · split
    · exact huntouched _
    · split
      · exact huntouched _
      · dsimp only
        rw [if_neg (by decide)]
        split
        · rename_i hwarped
          rw [hwarped]
          exact List.forall₂_map_right_iff.mpr (List.forall₂_same.mpr
            fun c _ => ⟨fun h => Bool.noConfusion h⟩)
        · exact storeChannels_kept ..

theorem accountsFor_hardware (h : Rings N channels)
    (hserves : d.ServesOnce direction t r q channels) :
    d.AccountsFor direction e t r q timestamp channels := by
  obtain ⟨granted, hgranted⟩ := Option.ne_none_iff_exists'.mp hserves.access
  by_cases hbad : d.mPeriodSize = 0 ∨ d.periodSize % d.mPeriodSize ≠ 0
  · have hjob : d.copyJob direction e t r q timestamp channels
        = { device := d, descQ := q, channels := channels.map fun c => { toShmChannel := c } } :=
      if_pos hbad
    unfold IasAlsaHwDeviceHandler.AccountsFor
    rw [hjob]
    dsimp only
    rw [map_toShmChannel]
    cases direction with
    | eIasAvbReceiveFromNetwork => exact ⟨rfl, by rw [if_pos hbad]; exact ⟨rfl, rfl⟩⟩
    | eIasAvbTransmitToNetwork => exact List.forall₂_same.mpr fun c _ => ⟨fun _ => ⟨rfl, rfl⟩⟩
  · cases direction with
    | eIasAvbReceiveFromNetwork =>
        obtain ⟨hcommitted, hwild, hserved, -⟩ := @IasAlsaHwDeviceHandler.copyJob_receives N granted
          timestamp d e t r q channels h.small hbad hgranted (hserves.orderly rfl)
          (fun c hc => ⟨h.registers c hc, h.rings c hc⟩) _ rfl _ rfl _ rfl
        refine ⟨hwild, ?_⟩
        rw [if_neg hbad, hcommitted]
        exact ⟨_, fun k => ⟨⟨_, [], (List.append_nil _).symm, Demand.order_inFront .., fun _ => rfl⟩,
          fun h => Bool.noConfusion h⟩, hserved⟩
    | eIasAvbTransmitToNetwork =>
        obtain ⟨-, -, hstored⟩ := @copyJob_transmits d e t r q granted timestamp channels hbad
          hgranted _ rfl _ rfl
        show List.Forall₂ (Kept _) channels _
        rw [hstored]
        split
        · rename_i hreset
          rw [hreset]
          exact List.forall₂_map_right_iff.mpr
            ((storeChannels_written d true q channels).1.imp fun _ _ _ =>
              ⟨fun h => Bool.noConfusion h⟩)
        · exact (storeChannels_written d true q channels).1.imp fun _ _ hw =>
            kept_of_written _ hw

/--
**What the copy jobs owe a stream.**

For every state of the channels of a stream and of its descriptors, every time stamp and whatever
the ring answers. In the job of a virtual device every sample that is removed from a channel goes
into one frame that is committed, the same frame on all channels that are in step, or is thrown
away on purpose. The same holds of a hardware device that serves no descriptor twice. And if moreover
the ring has room, is not being filled up, and the start is not synchronised, the two jobs leave
the same samples and descriptors, and commit the same frames.
-/
theorem copyJobs_account (p : IasAvbAudioShmProvider) (d : IasAlsaHwDeviceHandler)
    (direction : IasAvbStreamDirection) (e : PresentationTimes) (t : TimeBase) (r : RingAnswers)
    (q : IasLocalAudioBufferDesc) (numFrames timestamp : Nat) (h : Rings N channels) :
    p.AccountsFor direction e t r q numFrames timestamp channels
      ∧ (d.ServesOnce direction t r q channels →
        d.AccountsFor direction e t r q timestamp channels)
      ∧ (d.ServesOnce direction t r q channels → OnBoth p d direction r q numFrames →
        JobsAgree direction channels (d.resetRequested direction e t q channels)
          (p.copyJobOf direction e t r q numFrames false timestamp channels)
          (d.copyJob direction e t r q timestamp channels)) := by
  refine ⟨?_, accountsFor_hardware h, fun hserves hboth => ?_⟩
  · cases direction with
    | eIasAvbReceiveFromNetwork =>
        exact IasAvbAudioShmProvider.copyJob_accounts p e t r q numFrames
          fun c hc => ⟨h.registers c hc, h.areas c hc⟩
    | eIasAvbTransmitToNetwork => exact copyJobFromRing_kept p r channels
  · obtain ⟨granted, hgranted⟩ := Option.ne_none_iff_exists'.mp hserves.access
    have hroom := hboth.room granted hgranted
    cases direction with
    | eIasAvbReceiveFromNetwork =>
        exact receive_agree hboth.twin hboth.period hboth.running hgranted hroom (hboth.start rfl)
          h (hserves.orderly rfl)
    | eIasAvbTransmitToNetwork =>
        exact transmit_agree hboth.twin hboth.period hboth.running hgranted hroom h

end Account

/-! ### A stream of six samples -/

/-- A hardware device with the parameters of a virtual one. -/
def like (p : IasAvbAudioShmProvider) : IasAlsaHwDeviceHandler where
  mPeriodSize := p.periodSize
  periodSize := p.periodSize
  numPeriods := p.numPeriods
  samplerate := p.samplerate
  mDescMode := p.mDescMode
  mLastPtpEpoch := p.mLastPtpEpoch

/-- A mono channel with the samples 1 to 6, over an area that still holds nines. -/
def monoSix : ShmChannel :=
  IasAvbAudioShmProvider.overNines
    ((IasLocalAudioBuffer.init 17 true fun _ => 0).write (fun i => BitVec.ofNat 16 (i + 1)) 6).1

theorem twin_like (p : IasAvbAudioShmProvider) : Twin p (like p) := ⟨rfl, rfl, rfl, rfl⟩

theorem monoSix_rings : Rings 17 [monoSix] where
  small := by decide
  registers := by
    intro c hc
    rw [List.mem_singleton.mp hc]
    exact ⟨by decide, by decide, by decide⟩
  areas := by simp [monoSix, IasAvbAudioShmProvider.overNines]
  rings := by
    have hrep := IasLocalAudioBuffer.rep_init (N := 17) (by decide) true fun _ => 0
    intro c hc
    rw [List.mem_singleton.mp hc]
    exact (IasLocalAudioBuffer.write_spec hrep (by decide) (hrep.unambiguous (by decide)) _ 6).1

/-- A device that has to present before the time, and a descriptor that is not due yet, behind
two samples that have lost theirs. -/
def forced : IasAvbAudioShmProvider :=
  { IasAvbAudioShmProvider.recorder with samplerate := 4 }

def behindTwo : IasLocalAudioBufferDesc where
  mDescQ := [⟨2000, 2, 4⟩]
  mDescQsz := 4

/-- The two samples are thrown away, and the next four are presented. -/
theorem copyJobs_account_six :
    forced.AccountsFor .eIasAvbReceiveFromNetwork .whole ⟨0, 1000⟩ { granted := some 4 } behindTwo
        4 0 [monoSix]
      ∧ (like forced).AccountsFor .eIasAvbReceiveFromNetwork .whole ⟨0, 1000⟩
        { granted := some 4 } behindTwo 0 [monoSix]
      ∧ JobsAgree .eIasAvbReceiveFromNetwork [monoSix] ((like forced).resetRequested
          .eIasAvbReceiveFromNetwork .whole ⟨0, 1000⟩ behindTwo [monoSix])
        (forced.copyJobOf .eIasAvbReceiveFromNetwork .whole ⟨0, 1000⟩ { granted := some 4 }
          behindTwo 4 false 0 [monoSix])
        ((like forced).copyJob .eIasAvbReceiveFromNetwork .whole ⟨0, 1000⟩
          { granted := some 4 } behindTwo 0 [monoSix]) := by
  have hserves : (like forced).ServesOnce .eIasAvbReceiveFromNetwork ⟨0, 1000⟩
      { granted := some 4 } behindTwo [monoSix] := by
    refine ⟨Option.some_ne_none 4, fun _ _ desc hdesc c hc => ?_⟩
    obtain rfl : desc = ⟨2000, 2, 4⟩ := (Option.some.inj hdesc).symm
    obtain rfl : c = monoSix := List.mem_singleton.mp hc
    exact ⟨by decide, fun _ => ⟨by decide, by decide, by decide, by decide, by decide⟩⟩
  have hboth : OnBoth forced (like forced) .eIasAvbReceiveFromNetwork { granted := some 4 }
      behindTwo 4 := by
    refine ⟨twin_like forced, rfl, rfl, fun granted hgranted => ?_, fun _ => rfl⟩
    obtain rfl : granted = 4 := (Option.some.inj hgranted).symm
    show (forced.access _ 4 4).shmNoData = false
    decide
  obtain ⟨hvirtual, hhardware, hagree⟩ := copyJobs_account forced (like forced)
    .eIasAvbReceiveFromNetwork .whole ⟨0, 1000⟩ { granted := some 4 } behindTwo 4 0
    monoSix_rings
  exact ⟨hvirtual, hhardware hserves, hagree hserves hboth⟩

/-- Jobs that agree leave as many samples. -/
theorem agree_fills {direction : IasAvbStreamDirection} {channels : List ShmChannel}
    {emptied : Bool} {o : IasAvbAudioShmProvider.Outcome} {o' : IasAlsaHwDeviceHandler.Outcome}
    (h : JobsAgree direction channels emptied o o') :
    o.channels.map (fun c => c.buffer.getFillLevel)
      = o'.channels.map fun c => c.buffer.getFillLevel := by
  have hfills := h.samples.imp fun _ _ hsame => hsame.fill
  rw [List.forall₂_map_right_iff] at hfills
  rw [← List.forall₂_eq_eq_eq, List.forall₂_map_left_iff, List.forall₂_map_right_iff]
  exact hfills

/-- **The jobs do not always agree.** A ring that has room for two frames of four: a virtual
device throws four samples away, a hardware device presents two. One that is being filled up: a
virtual device throws four samples away and commits nothing. A descriptor that is due: a hardware
device presents four samples, and over them the next two; of a second channel it presents none. -/
theorem copy_jobs_differ :
    let untimed := { IasAvbAudioShmProvider.recorder with mDescMode := .eIasAudioBufferDescModeOff }
    let filled := { untimed with mAlsaPrefill := 2 }
    let timed := IasAvbAudioShmProvider.recorder
    let due : IasLocalAudioBufferDesc := { mDescQsz := 4, mDescQ := [⟨1000, 0, 4⟩] }
    let unread : RingAnswers := { granted := some 4, readAvailable := some 1 }
    let onVirtual := fun (p : IasAvbAudioShmProvider) (r : RingAnswers) channels =>
      p.copyJobOf .eIasAvbReceiveFromNetwork .whole ⟨0, 1000⟩ r due 4 false 0 channels
    let onHardware := fun (p : IasAvbAudioShmProvider) (r : RingAnswers) channels =>
      (like p).copyJob .eIasAvbReceiveFromNetwork .whole ⟨0, 1000⟩ r due 0 channels
    Rings 17 [monoSix]
      ∧ (∀ emptied, ¬ JobsAgree .eIasAvbReceiveFromNetwork [monoSix] emptied
        (onVirtual untimed { granted := some 2 } [monoSix])
        (onHardware untimed { granted := some 2 } [monoSix]))
      ∧ (∀ emptied, ¬ JobsAgree .eIasAvbReceiveFromNetwork [monoSix] emptied
        (onVirtual filled unread [monoSix]) (onHardware filled unread [monoSix]))
      ∧ (∀ emptied, ¬ JobsAgree .eIasAvbReceiveFromNetwork [monoSix] emptied
        (onVirtual timed { granted := some 4 } [monoSix])
        (onHardware timed { granted := some 4 } [monoSix]))
      ∧ (onHardware timed { granted := some 4 } [monoSix, monoSix]).channels.map
          (fun c => (c.buffer.getFillLevel, (List.range 4).map c.area))
        = [(0, [5, 6, 3, 4]), (6, [9, 9, 9, 9])] := by
  intro untimed filled timed due unread onVirtual onHardware
  refine ⟨monoSix_rings, fun _ h => ?_, fun _ h => ?_, fun _ h => ?_, ?_⟩
  · exact absurd (agree_fills h) (by decide +kernel)
  · exact absurd h.committed (by decide +kernel)
  · exact absurd (agree_fills h) (by decide +kernel)
  · decide +kernel

end AvbStreamHandler
