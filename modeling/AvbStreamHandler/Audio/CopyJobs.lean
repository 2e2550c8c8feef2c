import AvbStreamHandler.Audio.AlsaHwDeviceHandler
import AvbStreamHandler.Audio.CaptureFreshness

/-!
# What a copy job owes a local stream

A copy job removes samples from the channels of a stream. Some it throws away on purpose: they
lie in front of the oldest descriptor, are overdue when the stream is read for the first time,
or find no room in the ring. Those that come next it puts into the frames it commits, one after
the other, beginning with the first.

How many there are of each is decided by the bookkeeping of the buffer alone. All channels follow
one rule; those that are in step are given the same order, and the same sample goes to the same
frame on all of them.
-/

namespace AvbStreamHandler

open Kit Kit.Word

/-! ## Buffers that can not be told apart -/

/-- Buffers with the same samples in the same places. -/
structure Alike (b b' : IasLocalAudioBuffer) : Prop where
  control : b.control = b'.control
  cells : b.mBuffer.cell = b'.mBuffer.cell

namespace Alike

variable {b b' b'' : IasLocalAudioBuffer}

theorem refl (b : IasLocalAudioBuffer) : Alike b b := ⟨rfl, rfl⟩

theorem symm (h : Alike b b') : Alike b' b := ⟨h.control.symm, h.cells.symm⟩

theorem trans (h : Alike b b') (h' : Alike b' b'') : Alike b b'' :=
  ⟨h.control.trans h'.control, h.cells.trans h'.cells⟩

theorem fill (h : Alike b b') : b.getFillLevel = b'.getFillLevel := by
  rw [← IasLocalAudioBuffer.control_fill, ← IasLocalAudioBuffer.control_fill, h.control]

end Alike

namespace IasLocalAudioBuffer

variable {b b' : IasLocalAudioBuffer}

theorem noteRead_cells (n : Nat) : (b.noteRead n).mBuffer = b.mBuffer := by
  unfold noteRead; dsimp only; split <;> rfl

theorem copyOutBlock_keeps (n : Nat) : (b.copyOutBlock n).1.mBuffer.cell = b.mBuffer.cell := by
  unfold copyOutBlock; dsimp only; split <;> rfl

theorem loadSamples_keeps (n : Nat) : (b.loadSamples n).1.mBuffer.cell = b.mBuffer.cell := by
  induction n generalizing b with
  | zero => rfl
  | succ n ih => exact (ih (b := b.loadSample.1)).trans rfl

theorem readStrided_keeps (n stride : Nat) :
    (b.readStrided n stride).1.mBuffer.cell = b.mBuffer.cell := by
  unfold readStrided
  dsimp only
  rw [noteRead_cells]
  split
  · exact copyOutBlock_keeps _
  · exact loadSamples_keeps _

theorem read_keeps (n : Nat) : (b.read n).1.mBuffer.cell = b.mBuffer.cell :=
  readStrided_keeps n 2

theorem copyOutBlock_alike (h : Alike b b') (n : Nat) :
    (b.copyOutBlock n).2 = (b'.copyOutBlock n).2 := by
  have hcontrol := h.control
  simp only [control, BufferControl.mk.injEq] at hcontrol
  unfold copyOutBlock Memory.copyOut
  rw [hcontrol.1, hcontrol.2.1, h.cells]
  dsimp only
  split <;> rfl

theorem loadSample_alike (h : Alike b b') :
    b.loadSample.2 = b'.loadSample.2 ∧ Alike b.loadSample.1 b'.loadSample.1 := by
  have hcontrol := h.control
  simp only [control, BufferControl.mk.injEq] at hcontrol
  obtain ⟨hsize, hread, hwrite, hready, hthreshold, hmread, hmwrite⟩ := hcontrol
  refine ⟨?_, ?_, h.cells⟩
  · unfold loadSample Memory.copyOut
    rw [hread, h.cells]
  · unfold loadSample control
    dsimp only
    rw [hsize, hread, hwrite, hready, hthreshold, hmread, hmwrite]

theorem loadSamples_alike (h : Alike b b') (n : Nat) :
    (b.loadSamples n).2 = (b'.loadSamples n).2 := by
  induction n generalizing b b' with
  | zero => rfl
  | succ n ih =>
      obtain ⟨hsample, hrest⟩ := loadSample_alike h
      show b.loadSample.2 ++ (b.loadSample.1.loadSamples n).2 = _
      rw [hsample, ih hrest]
      rfl

/-- **Reads of buffers that are alike** deliver the same, and leave them alike. -/
theorem readStrided_alike (h : Alike b b') (n stride : Nat) :
    (b.readStrided n stride).2 = (b'.readStrided n stride).2
      ∧ Alike (b.readStrided n stride).1 (b'.readStrided n stride).1 := by
  refine ⟨?_, ?_, ?_⟩
  · unfold readStrided
    dsimp only
    rw [h.fill]
    split
    · exact copyOutBlock_alike h _
    · exact loadSamples_alike h _
  · rw [control_readStrided, control_readStrided, h.control]
  · rw [readStrided_keeps, readStrided_keeps, h.cells]

end IasLocalAudioBuffer

/-! ## The bookkeeping of reads -/

/-- The indices are numbers that their registers can hold. -/
structure BufferControl.Registers (k : BufferControl) : Prop where
  read : k.mReadIndex < 4294967296
  write : k.mWriteIndex < 4294967296
  monotonicRead : k.mMonotonicReadIndex < 18446744073709551616

namespace BufferControl

variable {k : BufferControl} {n stride : Nat}

theorem getFillLevel_lt (k : BufferControl) : k.getFillLevel < 4294967296 := by
  unfold getFillLevel add32 sub32
  dsimp only
  split <;> omega

theorem Registers.readBlock (h : k.Registers) (n : Nat) : (k.read n).Registers := by
  have hfill := k.getFillLevel_lt
  refine ⟨?_, h.write, Nat.mod_lt _ (by decide)⟩
  unfold BufferControl.read add32
  dsimp only
  split <;> omega

/-- Any reads: the bookkeeping but for the reader stays. -/
theorem reset_foldl_read (k : BufferControl) (thrown : List Nat) (optimalFillLevel : Nat) :
    (thrown.foldl read k).reset optimalFillLevel = k.reset optimalFillLevel := by
  induction thrown generalizing k with
  | nil => rfl
  | cons n ns ih => exact ih (k.read n)

theorem reset_readStrided (k : BufferControl) (n stride optimalFillLevel : Nat) :
    (k.readStrided n stride).reset optimalFillLevel = k.reset optimalFillLevel := by
  unfold readStrided
  split <;> rfl

theorem readStrided_monotonic (k : BufferControl) (n stride : Nat) :
    (k.readStrided n stride).mMonotonicReadIndex
      = add64 k.mMonotonicReadIndex (min n k.getFillLevel) := by
  unfold readStrided
  split <;> rfl

theorem registers_foldl_read (h : k.Registers) (thrown : List Nat) :
    (thrown.foldl read k).Registers := by
  induction thrown generalizing k with
  | nil => exact h
  | cons n ns ih => exact ih (h.readBlock n)

/-- A read for which there is nothing changes nothing. -/
theorem readStrided_nothing (h : k.Registers) (hnone : min n k.getFillLevel = 0) :
    k.readStrided n stride = k := by
  have hadd : add64 k.mMonotonicReadIndex 0 = k.mMonotonicReadIndex :=
    Nat.mod_eq_of_lt h.monotonicRead
  have hindex : add32 k.mReadIndex 0 = k.mReadIndex := Nat.mod_eq_of_lt h.read
  unfold readStrided read
  rw [hnone]
  split <;> simp [hadd, hindex]

end BufferControl

namespace IasLocalAudioBuffer

variable {b b' : IasLocalAudioBuffer}

/-- Reads whose samples are thrown away. -/
def throwAway (b : IasLocalAudioBuffer) (thrown : List Nat) : IasLocalAudioBuffer :=
  thrown.foldl (fun b n => (b.read n).1) b

theorem control_throwAway (b : IasLocalAudioBuffer) (thrown : List Nat) :
    (b.throwAway thrown).control = thrown.foldl BufferControl.read b.control := by
  induction thrown generalizing b with
  | nil => rfl
  | cons n ns ih =>
      show ((b.read n).1.throwAway ns).control = ns.foldl BufferControl.read (b.control.read n)
      rw [ih, control_read]

theorem registers_throwAway (h : b.control.Registers) (thrown : List Nat) :
    (b.throwAway thrown).control.Registers := by
  rw [control_throwAway]
  exact BufferControl.registers_foldl_read h thrown

theorem throwAway_append (b : IasLocalAudioBuffer) (ns ms : List Nat) :
    b.throwAway (ns ++ ms) = (b.throwAway ns).throwAway ms := List.foldl_append

/-- A read for which there is nothing changes nothing. -/
theorem readStrided_nothing {n : Nat} (stride : Nat) (h : b.control.Registers)
    (hnone : min n b.getFillLevel = 0) : Alike (b.readStrided n stride).1 b := by
  refine ⟨?_, readStrided_keeps n stride⟩
  rw [control_readStrided, BufferControl.readStrided_nothing h hnone]

end IasLocalAudioBuffer

/-! ## The oldest descriptor -/

namespace IasLocalAudioBufferDesc

variable {q : IasLocalAudioBufferDesc} {desc : AudioBufferDesc}

theorem peek_getLast (q : IasLocalAudioBufferDesc) : q.peek = q.mDescQ.getLast? := by
  unfold peek peekX
  rw [List.getLast?_eq_getElem?]
  split
  · rfl
  · rw [List.getElem?_eq_none (by omega)]

/-- Without a descriptor there is none to be dropped. -/
theorem dropUsed_none (hpeek : q.peek = none) (i : Nat) : q.dropUsed i = q := by
  rw [peek_getLast, List.getLast?_eq_none_iff] at hpeek
  unfold dropUsed setDescQ
  rw [hpeek, List.rdropWhile_nil, ← hpeek]

/-- The descriptor that was looked at is the first one to be dropped. -/
theorem dropUsed_peek (hpeek : q.peek = some desc) (i : Nat) :
    q.dropUsed i = if desc.endIndex ≤ i then q.dequeue.dropUsed i else q := by
  obtain ⟨ds, hds⟩ : ∃ ds, q.mDescQ = ds ++ [desc] := by
    rw [peek_getLast] at hpeek
    exact List.getLast?_eq_some_iff.mp hpeek
  unfold dropUsed dequeue setDescQ
  rw [hds, List.dropLast_concat]
  split
  · rename_i hused
    have hdrop := List.rdropWhile_concat_pos (fun d : AudioBufferDesc => decide (d.endIndex ≤ i))
      ds desc (decide_eq_true hused)
    rw [hdrop]
  · rename_i hunused
    have hkeep := List.rdropWhile_concat_neg (fun d : AudioBufferDesc => decide (d.endIndex ≤ i))
      ds desc (by simpa using hunused)
    rw [hkeep, ← hds]

end IasLocalAudioBufferDesc

/-! ## Orders -/

/-- What is done with the samples of a channel. -/
structure Order where
  /-- Reads whose samples are thrown away. -/
  thrown : List Nat := []
  /-- The samples asked for after that, to be put into frames. -/
  asked : Nat := 0

namespace Order

/-- The samples that go into frames. -/
def placed (o : Order) (c : ShmChannel) : List AudioData :=
  ((c.buffer.throwAway o.thrown).readStrided o.asked (2 * c.step)).2

/-- What stays in the buffer. -/
def rest (o : Order) (c : ShmChannel) : IasLocalAudioBuffer :=
  ((c.buffer.throwAway o.thrown).readStrided o.asked (2 * c.step)).1

/-- Where the reader of a channel comes to. -/
def reader (o : Order) (k : BufferControl) : Nat :=
  ((o.thrown.foldl BufferControl.read k).readStrided o.asked 2).mMonotonicReadIndex

end Order

/-- What a job makes of a channel: some samples are thrown away, those that come next are in the
frames, one after the other, and these are committed. The others stay, unless the buffer is
emptied. -/
structure Accounts (o : Order) (committed : Nat) (emptied : Bool) (c c' : ShmChannel) : Prop where
  placed : ∀ (i : Nat) (h : i < (o.placed c).length), c'.area i = (o.placed c)[i]
  within : (o.placed c).length ≤ committed
  rest : emptied = false → Alike c'.buffer (o.rest c)
  gone : emptied = true → c'.buffer.control = c.buffer.control.reset 0

/-- Channels that follow one rule: the bookkeeping of a channel decides about its samples. -/
def Follow (rule : BufferControl → Order) (committed : Nat) (emptied : Bool)
    (channels channels' : List ShmChannel) : Prop :=
  List.Forall₂ (fun c c' => Accounts (rule c.buffer.control) committed emptied c c') channels
    channels'

/-- The reads only take samples that lie in front of the oldest descriptor. -/
def InFront (oldest : Option AudioBufferDesc) : List Nat → BufferControl → Prop
  | [], _ => True
  | n :: ns, k =>
      (∃ desc ∈ oldest, k.mMonotonicReadIndex + min n k.getFillLevel ≤ desc.bufIndex)
        ∧ InFront oldest ns (k.read n)

/-- What is thrown away is thrown away on purpose: it is overdue, lies in front of the oldest
descriptor, or finds no room in the ring. -/
structure Deliberate (overdue : Option Nat) (room : Bool) (oldest : Option AudioBufferDesc)
    (k : BufferControl) (o : Order) : Prop where
  reads : ∃ lost roomless : List Nat, o.thrown = overdue.toList ++ lost ++ roomless
    ∧ InFront oldest lost (overdue.toList.foldl BufferControl.read k)
    ∧ (room = true → roomless = [])
  roomless : room = false → o.asked = 0

/-! ## What is asked of a channel -/

/-- The reads that throw away what lies in front of a descriptor, period by period. -/
def lostReads (bufIndex periodSize : Nat) : Nat → BufferControl → List Nat
  | 0, _ => []
  | fuel + 1, k =>
      let gap := sub64 bufIndex k.mMonotonicReadIndex % 4294967296
      if gap = 0 then []
      else if min (min gap periodSize) k.getFillLevel = 0 then [min gap periodSize]
      else min gap periodSize :: lostReads bufIndex periodSize fuel (k.read (min gap periodSize))

/-- All of them, for a channel that has not come to the descriptor yet. -/
def lostBefore (desc : AudioBufferDesc) (periodSize : Nat) (k : BufferControl) : List Nat :=
  if k.mMonotonicReadIndex < desc.bufIndex then
    lostReads desc.bufIndex periodSize (k.getFillLevel + 1) k
  else []

/-- What decides about the samples of a channel. -/
structure Demand where
  /-- There are descriptors. -/
  timed : Bool
  ready : Bool
  /-- The samples of the oldest descriptor are to be presented. -/
  due : Bool
  /-- All samples there are may be presented with them. -/
  all : Bool
  periodSize : Nat
  frames : Nat

namespace Demand

/-- The samples of a descriptor that are to be presented. -/
def presented (m : Demand) (desc : AudioBufferDesc) (k : BufferControl) : Nat :=
  if m.due then
    min m.frames (if m.all then k.getFillLevel
      else sub32 desc.sampleCnt (sub64 k.mMonotonicReadIndex desc.bufIndex % 4294967296))
  else 0

def order (m : Demand) (oldest : Option AudioBufferDesc) (k : BufferControl) : Order :=
  if m.ready = false then {}
  else if m.timed = false then { asked := m.frames }
  else
    match oldest with
    | none => {}
    | some desc =>
        { thrown := lostBefore desc m.periodSize k
          asked := m.presented desc ((lostBefore desc m.periodSize k).foldl BufferControl.read k) }

/-- The descriptors, once the last channel has taken those along whose samples are all read. -/
def queue (m : Demand) (q : IasLocalAudioBufferDesc) (readIndex : Nat) : IasLocalAudioBufferDesc :=
  if m.ready && m.timed && m.due then q.dropUsed readIndex else q

/-- The same behind a loop over the channels. -/
def left (m : Demand) (q : IasLocalAudioBufferDesc) (channels : List ShmChannel) :
    IasLocalAudioBufferDesc :=
  match channels.getLast? with
  | none => q
  | some c => m.queue q ((m.order q.peek c.buffer.control).reader c.buffer.control)

theorem presented_le (m : Demand) (desc : AudioBufferDesc) (k : BufferControl) :
    m.presented desc k ≤ m.frames := by
  unfold presented
  split
  · exact Nat.min_le_left _ _
  · exact Nat.zero_le _

section Order

variable {m : Demand} {oldest : Option AudioBufferDesc} {desc : AudioBufferDesc}
  {k : BufferControl}

theorem order_idle (hready : m.ready = false) : m.order oldest k = {} := if_pos hready

theorem order_untimed (hready : m.ready = true) (htimed : m.timed = false) :
    m.order oldest k = { asked := m.frames } :=
  (if_neg (ne_of_eq_of_ne hready (by decide))).trans (if_pos htimed)

theorem order_underrun (htimed : m.timed = true) : m.order none k = {} := by
  unfold order
  rw [if_neg (ne_of_eq_of_ne htimed (by decide))]
  exact ite_self _

theorem order_timed (hready : m.ready = true) (htimed : m.timed = true) :
    m.order (some desc) k = {
      thrown := lostBefore desc m.periodSize k
      asked := m.presented desc
        ((lostBefore desc m.periodSize k).foldl BufferControl.read k) } :=
  (if_neg (ne_of_eq_of_ne hready (by decide))).trans
    (if_neg (ne_of_eq_of_ne htimed (by decide)))

end Order

end Demand

/-- Other samples are thrown away first. -/
def Order.behind (o : Order) (thrown : List Nat) : Order where
  thrown := thrown ++ o.thrown
  asked := o.asked

/-- Without room everything is thrown away. -/
def Order.roomless (o : Order) : Order where
  thrown := o.thrown ++ [o.asked]

theorem lostReads_inFront (bufIndex periodSize fuel : Nat) {desc : AudioBufferDesc}
    {k : BufferControl} (hdesc : desc.bufIndex = bufIndex)
    (hbefore : k.mMonotonicReadIndex ≤ bufIndex) :
    InFront (some desc) (lostReads bufIndex periodSize fuel k) k := by
  induction fuel generalizing k with
  | zero => trivial
  | succ fuel ih =>
      rw [lostReads]
      -- a read takes no more than lies in front of the descriptor
      have hgap : sub64 bufIndex k.mMonotonicReadIndex % 4294967296
          ≤ bufIndex - k.mMonotonicReadIndex := by
        unfold sub64
        omega
      generalize sub64 bufIndex k.mMonotonicReadIndex % 4294967296 = gap at hgap ⊢
      have hhead : k.mMonotonicReadIndex + min (min gap periodSize) k.getFillLevel
          ≤ desc.bufIndex := by omega
      split
      · trivial
      · split
        · exact ⟨⟨desc, rfl, hhead⟩, trivial⟩
        · refine ⟨⟨desc, rfl, hhead⟩, ih ?_⟩
          show add64 k.mMonotonicReadIndex (min (min gap periodSize) k.getFillLevel) ≤ bufIndex
          exact (Nat.mod_le _ _).trans (hdesc ▸ hhead)

/-- An order throws away only what lies in front of the oldest descriptor. -/
theorem Demand.order_inFront (m : Demand) (oldest : Option AudioBufferDesc) (k : BufferControl) :
    InFront oldest (m.order oldest k).thrown k := by
  unfold Demand.order
  split
  · trivial
  · split
    · trivial
    · split
      · trivial
      · show InFront _ (lostBefore _ m.periodSize k) k
        unfold lostBefore
        split
        · rename_i hbefore
          exact lostReads_inFront _ _ _ rfl (Nat.le_of_lt hbefore)
        · trivial

section Channel

variable {o : Order} {c c' : ShmChannel} {committed : Nat}

theorem Order.length_placed (o : Order) (c : ShmChannel) :
    (o.placed c).length = min o.asked (c.buffer.throwAway o.thrown).getFillLevel :=
  IasLocalAudioBuffer.readStrided_length ..

/-- A channel that presents what it is asked for. -/
theorem accounts_take {b : IasLocalAudioBuffer} (hb : Alike b (c.buffer.throwAway o.thrown))
    (hstep : c'.step = c.step) (h : o.asked ≤ committed) :
    Accounts o committed false c (c'.take b o.asked) := by
  obtain ⟨hsamples, hrest⟩ := IasLocalAudioBuffer.readStrided_alike hb o.asked (2 * c'.step)
  rw [hstep] at hsamples hrest
  refine ⟨fun i hi => ?_, ?_, fun _ => ?_, fun h => Bool.noConfusion h⟩
  · show overlay (b.readStrided o.asked (2 * c'.step)).2 c'.area i = _
    rw [hstep, hsamples]
    unfold overlay
    rw [List.getD_eq_getElem?_getD]
    exact congrArg (Option.getD · _) (List.getElem?_eq_getElem hi)
  · have hlength := o.length_placed c
    omega
  · show Alike (b.readStrided o.asked (2 * c'.step)).1 _
    rw [hstep]
    exact hrest

theorem accounts_reader (h : Accounts o committed false c c') :
    c'.buffer.mMonotonicReadIndex = o.reader c.buffer.control := by
  have hindex : c'.buffer.mMonotonicReadIndex = (o.rest c).control.mMonotonicReadIndex :=
    congrArg BufferControl.mMonotonicReadIndex (h.rest rfl).control
  rw [hindex]
  unfold Order.rest Order.reader
  rw [IasLocalAudioBuffer.control_readStrided, IasLocalAudioBuffer.control_throwAway,
    BufferControl.readStrided_monotonic, BufferControl.readStrided_monotonic]

/-- One that only throws samples away. -/
theorem accounts_thrown (hregisters : c.buffer.control.Registers) (h : o.asked = 0)
    (hbuffer : Alike c'.buffer (c.buffer.throwAway o.thrown)) :
    Accounts o committed false c c' where
  placed i hi := by
    rw [o.length_placed, h, Nat.zero_min] at hi
    exact absurd hi (Nat.not_lt_zero i)
  within := by
    rw [o.length_placed, h, Nat.zero_min]
    exact Nat.zero_le _
  rest _ := by
    refine hbuffer.trans (IasLocalAudioBuffer.readStrided_nothing _
      (IasLocalAudioBuffer.registers_throwAway hregisters _) ?_).symm
    rw [h, Nat.zero_min]
  gone h := Bool.noConfusion h

/-- One that is emptied. -/
theorem accounts_reset (h : Accounts o committed false c c') :
    Accounts o committed true c { c' with buffer := c'.buffer.reset 0 } where
  placed := h.placed
  within := h.within
  rest h := Bool.noConfusion h
  gone _ := by
    show (c'.buffer.reset 0).control = _
    rw [IasLocalAudioBuffer.control_reset, (h.rest rfl).control]
    unfold Order.rest
    rw [IasLocalAudioBuffer.control_readStrided, IasLocalAudioBuffer.control_throwAway,
      BufferControl.reset_readStrided, BufferControl.reset_foldl_read]

end Channel

/-! ## The job of a virtual device -/

namespace IasAvbAudioShmProvider

theorem discardGap_throwAway (bufIndex periodSize fuel : Nat) (null : Nat → AudioData)
    (b : IasLocalAudioBuffer) :
    (discardGap bufIndex periodSize fuel null b).2
      = b.throwAway (lostReads bufIndex periodSize fuel b.control) := by
  induction fuel generalizing null b with
  | zero => rfl
  | succ fuel ih =>
      rw [discardGap, lostReads]
      dsimp only
      have hindex : b.control.mMonotonicReadIndex = b.mMonotonicReadIndex := rfl
      rw [hindex]
      generalize sub64 bufIndex b.mMonotonicReadIndex % 4294967296 = gap
      split
      · rfl
      · unfold discard
        dsimp only
        rw [IasLocalAudioBuffer.length_read, ← IasLocalAudioBuffer.control_fill]
        split
        · rfl
        · rw [ih, IasLocalAudioBuffer.control_read]
          rfl

/-- Reaching a descriptor is throwing away what lies in front of it. -/
theorem reached_throwAway (p : IasAvbAudioShmProvider) (desc : AudioBufferDesc)
    (b : IasLocalAudioBuffer) :
    p.reached desc b = b.throwAway (lostBefore desc p.periodSize b.control) := by
  unfold reached reachDescriptor lostBefore
  show _ = b.throwAway (if b.mMonotonicReadIndex < desc.bufIndex then _ else [])
  split
  · exact discardGap_throwAway ..
  · rfl

/-- What decides about the samples in a job. -/
def Job.demand (j : Job) : Demand where
  timed := j.provider.hasBufferDesc
  ready := j.schedule.isReadReady
  due := j.schedule.toBePresented
  all := j.alsaRxSyncStart
  periodSize := j.provider.periodSize
  frames := if j.access.shmNoData then j.numFrames else j.access.shmFrames

section Channel

variable {j : Job} {r : RingAnswers} {last : Bool} {st : JobState} {c : ShmChannel}

/-- What is presented once a channel has come to its descriptor. -/
theorem presented_reached (hdue : j.schedule.toBePresented = true) (desc : AudioBufferDesc)
    (b : IasLocalAudioBuffer) :
    min j.demand.frames (presentable j.alsaRxSyncStart desc
        (b.throwAway (lostBefore desc j.provider.periodSize b.control)))
      = j.demand.presented desc
        ((lostBefore desc j.provider.periodSize b.control).foldl BufferControl.read b.control) := by
  rw [← IasLocalAudioBuffer.control_throwAway]
  exact (if_pos hdue).symm

/-- **A channel of a ring with room** does what it is ordered to. -/
theorem copyChannel_accounts (hstep : c.step ≠ 0) (hroom : j.access.shmNoData = false)
    (hregisters : c.buffer.control.Registers) :
    Accounts (j.demand.order st.descQ.peek c.buffer.control) j.access.shmFrames false c
      (copyChannel j r last st c).2 := by
  have hframes : j.demand.frames = j.access.shmFrames := by
    unfold Job.demand
    rw [hroom]
    rfl
  have hperiod : j.demand.periodSize = j.provider.periodSize := rfl
  have hclient : (st.noteClient j.provider r).descQ = st.descQ := by
    unfold JobState.noteClient
    split <;> rfl
  unfold copyChannel
  rw [if_neg hstep]
  dsimp only
  rw [hclient]
  cases hready : j.schedule.isReadReady with
  | false =>
      rw [Demand.order_idle hready]
      exact accounts_thrown hregisters rfl (Alike.refl _)
  | true =>
      rw [if_neg (by decide)]
      cases htimed : j.provider.hasBufferDesc with
      | false =>
          rw [Demand.order_untimed hready htimed, if_pos (by decide)]
          exact hframes ▸ accounts_take (Alike.refl _) rfl (Nat.le_refl _)
      | true =>
          rw [if_neg (by decide)]
          cases hpeek : st.descQ.peek with
          | none =>
              rw [Demand.order_underrun htimed]
              exact accounts_thrown hregisters rfl (Alike.refl _)
          | some desc =>
              dsimp only
              rw [Demand.order_timed hready htimed, hperiod, reachDescriptor_buffer,
                reached_throwAway]
              cases hdue : j.schedule.toBePresented with
              | false =>
                  exact accounts_thrown hregisters
                    (if_neg (ne_of_eq_of_ne hdue (by decide))) (Alike.refl _)
              | true =>
                  rw [← presented_reached hdue, hframes]
                  exact accounts_take (Alike.refl _) rfl (Nat.min_le_left _ _)

/-- The descriptors behind a channel of a ring with room. -/
theorem copyChannel_queue (hstep : c.step ≠ 0) :
    (copyChannel j r last st c).1.descQ
      = if last then j.demand.queue st.descQ
          (copyChannel j r last st c).2.buffer.mMonotonicReadIndex
        else st.descQ := by
  have hclient : (st.noteClient j.provider r).descQ = st.descQ := by
    unfold JobState.noteClient
    split <;> rfl
  have hkept : ∀ {i : Nat}, j.demand.queue st.descQ i = st.descQ →
      st.descQ = if last then j.demand.queue st.descQ i else st.descQ := by
    intro i hqueue
    rw [hqueue, ite_self]
  unfold copyChannel
  rw [if_neg hstep]
  dsimp only
  rw [hclient]
  cases hready : j.schedule.isReadReady with
  | false => exact hclient.trans (hkept (if_neg (by simp [Job.demand, hready])))
  | true =>
      rw [if_neg (by decide)]
      cases htimed : j.provider.hasBufferDesc with
      | false => exact hclient.trans (hkept (if_neg (by simp [Job.demand, htimed])))
      | true =>
          rw [if_neg (by decide)]
          cases hpeek : st.descQ.peek with
          | none =>
              refine hclient.trans (hkept ?_)
              unfold Demand.queue
              rw [IasLocalAudioBufferDesc.dropUsed_none hpeek, ite_self]
          | some desc =>
              dsimp only
              cases hdue : j.schedule.toBePresented with
              | false => exact hkept (if_neg (by simp [Job.demand, hdue]))
              | true =>
                  rw [if_pos rfl, show Demand.queue _ _ _ = _ from
                    if_pos (by simp [Job.demand, hready, htimed, hdue])]
                  rfl

/-- **A channel without room** throws away what it would have presented. -/
theorem discardChannel_accounts (hroom : j.access.shmNoData = true)
    (hregisters : c.buffer.control.Registers) :
    Accounts (j.demand.order st.descQ.peek c.buffer.control).roomless j.access.shmFrames false c
      (discardChannel j last st c).2 := by
  have hframes : j.demand.frames = j.numFrames := by
    unfold Job.demand
    rw [hroom]
    rfl
  have hperiod : j.demand.periodSize = j.provider.periodSize := rfl
  have hnothing : ∀ {b : IasLocalAudioBuffer}, b.control.Registers → Alike b (b.read 0).1 :=
    fun h => (IasLocalAudioBuffer.readStrided_nothing 2 h (Nat.zero_min _)).symm
  unfold discardChannel
  cases hready : j.schedule.isReadReady with
  | false =>
      rw [Demand.order_idle hready]
      exact accounts_thrown hregisters rfl (hnothing hregisters)
  | true =>
      rw [if_neg (by decide)]
      cases htimed : j.provider.hasBufferDesc with
      | false =>
          rw [Demand.order_untimed hready htimed, if_pos (by decide), hframes]
          exact accounts_thrown hregisters rfl (Alike.refl _)
      | true =>
          rw [if_neg (by decide)]
          cases hpeek : st.descQ.peek with
          | none =>
              rw [Demand.order_underrun htimed]
              exact accounts_thrown hregisters rfl (hnothing hregisters)
          | some desc =>
              dsimp only
              rw [Demand.order_timed hready htimed, hperiod, reachDescriptor_buffer,
                reached_throwAway]
              refine accounts_thrown hregisters rfl ?_
              unfold Order.roomless
              rw [IasLocalAudioBuffer.throwAway_append]
              cases hdue : j.schedule.toBePresented with
              | false =>
                  rw [show j.demand.presented desc _ = 0 from
                    if_neg (ne_of_eq_of_ne hdue (by decide))]
                  exact hnothing (IasLocalAudioBuffer.registers_throwAway hregisters _)
              | true =>
                  rw [← presented_reached hdue, hframes]
                  exact Alike.refl _

end Channel

/-- The order of a job for its channels, once overdue samples are skipped. -/
def Job.order (j : Job) (oldest : Option AudioBufferDesc) (k : BufferControl) : Order :=
  if j.access.shmNoData then (j.demand.order oldest k).roomless else j.demand.order oldest k

section Loop

variable {j : Job} {r : RingAnswers} {cs : List ShmChannel}

/-- **The channels of a job** do what they are ordered to. -/
theorem processChannels_follow (hreset : j.schedule.resetRequested = false) (st : JobState)
    (hcs : ∀ c ∈ cs, c.buffer.control.Registers ∧ c.step ≠ 0) :
    Follow (j.order st.descQ.peek) j.access.shmFrames false cs (processChannels j r st cs).2 := by
  induction cs generalizing st with
  | nil => exact .nil
  | cons c cs ih =>
      obtain ⟨hregisters, hstep⟩ := hcs c List.mem_cons_self
      have hhead : Accounts (j.order st.descQ.peek c.buffer.control) j.access.shmFrames false c
          (processChannel j r cs.isEmpty st c).2 := by
        unfold processChannel Job.order
        rw [if_neg (ne_of_eq_of_ne hreset (by decide))]
        split
        · exact discardChannel_accounts ‹_› hregisters
        · exact copyChannel_accounts hstep (Bool.eq_false_iff.mpr ‹_›) hregisters
      refine .cons hhead ?_
      cases cs with
      | nil => exact .nil
      | cons c₂ cs =>
          rw [← (processChannel_shared j r st c).1]
          exact ih _ fun c' hc' => hcs c' (List.mem_cons_of_mem c hc')

/-- The descriptors behind the loop. -/
theorem processChannels_queue (hreset : j.schedule.resetRequested = false)
    (hroom : j.access.shmNoData = false) (st : JobState)
    (hcs : ∀ c ∈ cs, c.buffer.control.Registers ∧ c.step ≠ 0) :
    (processChannels j r st cs).1.descQ = j.demand.left st.descQ cs := by
  induction cs generalizing st with
  | nil => rfl
  | cons c cs ih =>
      cases cs with
      | nil =>
          obtain ⟨hregisters, hstep⟩ := hcs c List.mem_cons_self
          have hchannel : processChannel j r true st c = copyChannel j r true st c := by
            unfold processChannel
            rw [hreset, hroom]
            rfl
          have haccounts := @copyChannel_accounts j r true st c hstep hroom hregisters
          show (processChannel j r true st c).1.descQ = _
          rw [hchannel, copyChannel_queue hstep, if_pos rfl, accounts_reader haccounts]
          rfl
      | cons c₂ cs =>
          have htail := ih (processChannel j r false st c).1
            fun c' hc' => hcs c' (List.mem_cons_of_mem c hc')
          rw [(processChannel_shared j r st c).1] at htail
          exact htail

/-- A reset keeps the channels from being served. -/
theorem processChannels_reset (hreset : j.schedule.resetRequested = true) (st : JobState) :
    processChannels j r st cs = (st, cs) := by
  induction cs generalizing st with
  | nil => rfl
  | cons c cs ih =>
      have hhead : processChannel j r cs.isEmpty st c = (st, c) := if_pos hreset
      rw [processChannels, hhead]
      dsimp only
      rw [ih]

end Loop

/-- The samples that are overdue come first among those thrown away. -/
theorem accounts_afterSkip {s : Schedule} {o : Order} {committed : Nat} {emptied : Bool}
    {c c' : ShmChannel}
    (h : Accounts o committed emptied { c with buffer := s.afterSkip c.buffer } c') :
    Accounts (o.behind s.samplesToSkip.toList) committed emptied c c' := by
  cases hskip : s.samplesToSkip with
  | none =>
      have hsame : s.afterSkip c.buffer = c.buffer := by
        unfold Schedule.afterSkip
        rw [hskip]
      rw [hsame] at h
      exact h
  | some n =>
      have hread : s.afterSkip c.buffer = (c.buffer.read n).1 := by
        unfold Schedule.afterSkip
        rw [hskip]
      rw [hread] at h
      refine ⟨h.placed, h.within, h.rest, fun hemptied => (h.gone hemptied).trans ?_⟩
      show (c.buffer.read n).1.control.reset 0 = _
      rw [IasLocalAudioBuffer.control_read]
      rfl

/-- The job of the channels, if the device comes to them. -/
def jobOf (p : IasAvbAudioShmProvider) (e : PresentationTimes) (t : TimeBase) (r : RingAnswers)
    (q : IasLocalAudioBufferDesc) (numFrames : Nat) (buffers : List IasLocalAudioBuffer) :
    Option Job :=
  if p.mIsRunning = false ∨ numFrames = 0 ∨ p.periodSize % numFrames ≠ 0 then none
  else r.granted.map fun granted => (p.access r granted numFrames).job e t q numFrames buffers

/-- Every sample a job removes from its channels is put into one frame it commits, the same on
all channels that are in step, or thrown away on purpose. -/
def Accounted (job : Option Job) (oldest : Option AudioBufferDesc) (channels : List ShmChannel)
    (o : Outcome) : Prop :=
  match job with
  | none => o.channels = channels ∧ o.committed = 0
  | some j => ∃ rule,
      (∀ k, Deliberate j.schedule.samplesToSkip (!j.access.shmNoData) oldest k (rule k))
        ∧ Follow rule o.committed j.schedule.resetRequested channels o.channels

section Job

variable {a : Access} {e : PresentationTimes} {t : TimeBase} {r : RingAnswers}
  {q : IasLocalAudioBufferDesc} {numFrames : Nat} {channels : List ShmChannel}

theorem order_deliberate (j : Job) (oldest : Option AudioBufferDesc) (overdue : Option Nat)
    (k : BufferControl) :
    Deliberate overdue (!j.access.shmNoData) oldest k
      ((j.order oldest (overdue.toList.foldl BufferControl.read k)).behind overdue.toList) := by
  unfold Job.order
  cases j.access.shmNoData with
  | false => exact ⟨⟨_, [], (List.append_nil _).symm, j.demand.order_inFront _ _, fun _ => rfl⟩,
      fun h => Bool.noConfusion h⟩
  | true =>
      exact ⟨⟨_, [_], (List.append_assoc ..).symm, j.demand.order_inFront _ _,
        fun h => Bool.noConfusion h⟩, fun _ => rfl⟩

theorem afterSkip_control (s : Schedule) (b : IasLocalAudioBuffer) :
    (s.afterSkip b).control = s.samplesToSkip.toList.foldl BufferControl.read b.control := by
  unfold Schedule.afterSkip
  cases s.samplesToSkip with
  | none => rfl
  | some n => exact IasLocalAudioBuffer.control_read n

theorem process_accounts
    (hchannels : ∀ c ∈ channels, c.buffer.control.Registers ∧ c.step ≠ 0) {j : Job}
    (hj : j = a.job e t q numFrames (channels.map ShmChannel.buffer)) :
    ∃ rule, (∀ k, Deliberate j.schedule.samplesToSkip (!j.access.shmNoData) q.peek k (rule k))
      ∧ Follow rule j.access.shmFrames j.schedule.resetRequested channels
        (process a e t r q numFrames channels).channels := by
  have hnull := skip_eq j.schedule a.provider.mNullData channels
  have haccess : j.access = a := by rw [hj]; rfl
  unfold process
  dsimp only
  rw [← hj, hnull]
  subst haccess
  have hskipped : ∀ c ∈ j.schedule.skipped channels,
      c.buffer.control.Registers ∧ c.step ≠ 0 := by
    intro c hc
    obtain ⟨c', hc', rfl⟩ := List.mem_map.mp hc
    obtain ⟨hregisters, hstep⟩ := hchannels c' hc'
    refine ⟨?_, hstep⟩
    show (j.schedule.afterSkip c'.buffer).control.Registers
    rw [afterSkip_control]
    exact BufferControl.registers_foldl_read hregisters _
  cases hreset : j.schedule.resetRequested with
  | false =>
      refine ⟨fun k => _, fun k => order_deliberate j q.peek j.schedule.samplesToSkip k, ?_⟩
      have hloop : ∀ st : JobState, st.descQ.peek = q.peek →
          Follow (j.order q.peek) j.access.shmFrames false (j.schedule.skipped channels)
            (processChannels j r st (j.schedule.skipped channels)).2 :=
        fun st hst => hst ▸ processChannels_follow hreset st hskipped
      rw [if_neg (by decide)]
      refine .imp (fun c _ h => ?_) (List.forall₂_map_left_iff.mp (hloop _ rfl))
      have hafter := accounts_afterSkip h
      dsimp only at hafter
      rw [afterSkip_control] at hafter
      exact hafter
  | true =>
      refine ⟨fun _ => Order.behind {} j.schedule.samplesToSkip.toList,
        fun _ => ⟨⟨[], [], (List.append_nil _).symm, trivial, fun _ => rfl⟩, fun _ => rfl⟩, ?_⟩
      rw [if_pos rfl, processChannels_reset hreset]
      refine List.forall₂_map_right_iff.mpr (List.forall₂_map_right_iff.mpr
        (List.forall₂_same.mpr fun c hc => ?_))
      have huntouched : Accounts {} j.access.shmFrames false
          { c with buffer := j.schedule.afterSkip c.buffer }
          { c with buffer := j.schedule.afterSkip c.buffer } :=
        accounts_thrown (hskipped _ (List.mem_map_of_mem hc)).1 rfl (Alike.refl _)
      exact accounts_afterSkip (accounts_reset huntouched)

/-- **The job of a virtual device**, whatever the ring answers. -/
theorem copyJob_accounts (p : IasAvbAudioShmProvider) (e : PresentationTimes) (t : TimeBase)
    (r : RingAnswers) (q : IasLocalAudioBufferDesc) (numFrames : Nat)
    (hchannels : ∀ c ∈ channels, c.buffer.control.Registers ∧ c.step ≠ 0) :
    Accounted (p.jobOf e t r q numFrames (channels.map ShmChannel.buffer)) q.peek channels
      (p.copyJob e t r q numFrames false channels) := by
  unfold jobOf copyJob
  by_cases hrunning : p.mIsRunning = false
  · rw [if_pos (Or.inl hrunning), if_pos hrunning]
    exact ⟨rfl, rfl⟩
  by_cases hbad : numFrames = 0 ∨ p.periodSize % numFrames ≠ 0
  · rw [if_pos (Or.inr hbad), if_neg hrunning, if_pos hbad]
    exact ⟨rfl, rfl⟩
  rw [if_neg (not_or.mpr ⟨hrunning, hbad⟩), if_neg hrunning, if_neg hbad]
  cases r.granted with
  | none => exact ⟨rfl, rfl⟩
  | some granted => exact process_accounts hchannels rfl

end Job

end IasAvbAudioShmProvider

end AvbStreamHandler
