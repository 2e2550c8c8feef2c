import AvbStreamHandler.Audio.AvbAudioShmProvider
import AvbStreamHandler.Audio.LocalAudioBufferControl
import AvbStreamHandler.Audio.LocalAudioBufferProof
import Mathlib.Data.List.Forall2

/-!
# What a recording client gets to see

A job commits its frames for all channels at once. A frame is fresh if each channel's sample is
one that its local buffer has just handed out, or silence. For that every channel has to fill
the whole run of frames, and the ways out of the loop for which it does not are many. Here is
when it does, whatever the ring held before.
-/

namespace AvbStreamHandler

open Kit Kit.Word

/-! ## Reads hand out what there is -/

namespace IasLocalAudioBuffer

variable {b : IasLocalAudioBuffer}

theorem loadSamples_length (n : Nat) : (b.loadSamples n).2.length = n := by
  induction n generalizing b with
  | zero => rfl
  | succ n ih =>
      show (_ ++ (b.loadSample.1.loadSamples n).2).length = n + 1
      rw [List.length_append, ih]
      show (List.map b.mBuffer.cell (List.range' b.mReadIndex 1)).length + n = n + 1
      rw [List.length_map, List.length_range', Nat.add_comm]

theorem readStrided_length (n stride : Nat) :
    (b.readStrided n stride).2.length = min n b.getFillLevel := by
  unfold readStrided
  dsimp only
  split
  · exact length_copyOutBlock _
  · exact loadSamples_length _

end IasLocalAudioBuffer

/-! ## Fresh frames -/

/-- What the local buffer of a channel has handed out is what comes next in it, after samples
were thrown away. -/
def HandsOutNext (c c' : ShmChannel) : Prop :=
  ∃ (thrown : List Nat) (n : Nat), c'.handed
    = ((thrown.foldl (fun b n => (b.read n).1) c.buffer).readStrided n (2 * c.step)).2

/-- The first `frames` frames of the area hold what the buffer has handed out, one sample after
the other, or silence. -/
def ShmChannel.Fresh (frames : Nat) (c : ShmChannel) : Prop :=
  ∀ i < frames, (∃ h : i < c.handed.length, c.area i = c.handed[i]) ∨ c.area i = 0

namespace IasAvbAudioShmProvider

/-- What a job commits is fresh on every channel. -/
structure NeverStale (channels : List ShmChannel) (o : Outcome) : Prop where
  next : List.Forall₂ HandsOutNext channels o.channels
  fresh : ∀ c ∈ o.channels, c.Fresh o.committed

/-- A channel before a job, without what its area holds. -/
structure ShmPort where
  buffer : IasLocalAudioBuffer
  step : Nat

/-- The channels of a job, with what their areas happen to hold. -/
def channelsOver : (Nat → Nat → AudioData) → List ShmPort → List ShmChannel
  | _, [] => []
  | areas, port :: ports =>
      { buffer := port.buffer, step := port.step, area := areas 0 }
        :: channelsOver (fun k => areas (k + 1)) ports

/-! ## When a channel fills its area -/

/-- The buffer once what lies in front of the descriptor is thrown away. -/
def reached (p : IasAvbAudioShmProvider) (desc : AudioBufferDesc) (b : IasLocalAudioBuffer) :
    IasLocalAudioBuffer :=
  (p.reachDescriptor desc (fun _ => 0) b).2

/-- There is silence for as many frames in `mNullData`. -/
def Silent (null : Nat → AudioData) (frames : Nat) : Prop := ∀ i < frames, null i = 0

/-- A channel is supplied: no reset is due, the ring has room, and the buffer, from where it is
to be read, has a sample for every frame; an underrun needs silence to fill in. -/
structure Supplied (j : Job) (oldest : Option AudioBufferDesc) (null : Nat → AudioData)
    (b : IasLocalAudioBuffer) (step : Nat) : Prop where
  noReset : j.schedule.resetRequested = false
  room : j.access.shmNoData = false
  stride : step ≠ 0
  ready : j.schedule.isReadReady = true
  untimed : j.provider.hasBufferDesc = false → j.access.shmFrames ≤ b.getFillLevel
  underrun : j.provider.hasBufferDesc = true → oldest = none → step = 1 →
    Silent null j.access.shmFrames
  timed : j.provider.hasBufferDesc = true → ∀ desc ∈ oldest, j.schedule.toBePresented = true
    ∧ j.access.shmFrames ≤ presentable j.alsaRxSyncStart desc (j.provider.reached desc b)
    ∧ j.access.shmFrames ≤ (j.provider.reached desc b).getFillLevel

section Channel

variable {j : Job} {r : RingAnswers} {last : Bool} {st : JobState} {c c' : ShmChannel}
  {b : IasLocalAudioBuffer} {frames n : Nat}

/-- The loop ends by itself: after as many rounds as there are samples nothing is left to
throw away. -/
theorem discardGap_ends {N : Nat} (bufIndex periodSize : Nat) {fuel : Nat} (null : Nat → AudioData)
    (hb : IasLocalAudioBuffer.Rep N b) (hN : N < 2147483648) (hfuel : b.getFillLevel < fuel) :
    discardGap bufIndex periodSize (fuel + 1) null b
      = discardGap bufIndex periodSize fuel null b := by
  induction fuel generalizing null b with
  | zero => exact absurd hfuel (Nat.not_lt_zero _)
  | succ fuel ih =>
      rw [discardGap]
      conv_rhs => rw [discardGap]
      dsimp only
      generalize sub64 bufIndex b.mMonotonicReadIndex % 4294967296 = gap
      split
      · rfl
      · unfold discard
        dsimp only
        split
        · rfl
        · rename_i hread
          have hu := hb.unambiguous hN
          obtain ⟨hrep, hless⟩ := IasLocalAudioBuffer.read_spec hb (by omega) hu
            (min gap periodSize)
          refine ih _ hrep ?_
          rw [IasLocalAudioBuffer.getFillLevel_eq hb (by omega) hu] at hfuel
          rw [IasLocalAudioBuffer.getFillLevel_eq hrep (by omega) (hrep.unambiguous hN)]
          unfold IasLocalAudioBuffer.stored at hless
          omega

/-- What is thrown away does not depend on where it goes. -/
theorem discardGap_buffer (bufIndex periodSize fuel : Nat) (null null' : Nat → AudioData)
    (b : IasLocalAudioBuffer) :
    (discardGap bufIndex periodSize fuel null b).2
      = (discardGap bufIndex periodSize fuel null' b).2 := by
  induction fuel generalizing null null' b with
  | zero => rfl
  | succ fuel ih =>
      rw [discardGap, discardGap]
      dsimp only
      split
      · rfl
      · unfold discard
        dsimp only
        split
        · rfl
        · exact ih ..

theorem reachDescriptor_buffer (p : IasAvbAudioShmProvider) (desc : AudioBufferDesc)
    (null : Nat → AudioData) (b : IasLocalAudioBuffer) :
    (p.reachDescriptor desc null b).2 = p.reached desc b := by
  unfold reached reachDescriptor
  split
  · exact discardGap_buffer ..
  · rfl

/-- Throwing away is reading. -/
theorem discardGap_reads (bufIndex periodSize fuel : Nat) (null : Nat → AudioData)
    (b : IasLocalAudioBuffer) :
    ∃ thrown : List Nat, (discardGap bufIndex periodSize fuel null b).2
      = thrown.foldl (fun b n => (b.read n).1) b := by
  induction fuel generalizing null b with
  | zero => exact ⟨[], rfl⟩
  | succ fuel ih =>
      rw [discardGap]
      dsimp only
      split
      · exact ⟨[], rfl⟩
      · unfold discard
        dsimp only
        split
        · exact ⟨[_], rfl⟩
        · obtain ⟨thrown, hthrown⟩ := ih (overlay (b.read _).2 null) (b.read _).1
          exact ⟨_ :: thrown, hthrown⟩

theorem reached_reads (p : IasAvbAudioShmProvider) (desc : AudioBufferDesc)
    (b : IasLocalAudioBuffer) :
    ∃ thrown : List Nat, p.reached desc b = thrown.foldl (fun b n => (b.read n).1) b := by
  unfold reached reachDescriptor
  split
  · exact discardGap_reads ..
  · exact ⟨[], rfl⟩

theorem handsOutNext_nothing (hhanded : c.handed = []) (hhanded' : c'.handed = c.handed) :
    HandsOutNext c c' := by
  refine ⟨[], 0, ?_⟩
  rw [hhanded', hhanded]
  refine (List.eq_nil_of_length_eq_zero ?_).symm
  rw [IasLocalAudioBuffer.readStrided_length, Nat.zero_min]

theorem handsOutNext_take (hb : ∃ thrown : List Nat,
    b = thrown.foldl (fun b n => (b.read n).1) c.buffer) : HandsOutNext c (c.take b n) := by
  obtain ⟨thrown, hthrown⟩ := hb
  exact ⟨thrown, n, by rw [← hthrown]; rfl⟩

/-- A read that has a sample for every frame. -/
theorem take_fresh (hn : frames ≤ n) (hfill : frames ≤ b.getFillLevel) :
    (c.take b n).Fresh frames := by
  intro i hi
  have hlength := IasLocalAudioBuffer.readStrided_length (b := b) n (2 * c.step)
  have hless : i < (b.readStrided n (2 * c.step)).2.length := by omega
  refine Or.inl ⟨hless, ?_⟩
  show overlay (b.readStrided n (2 * c.step)).2 c.area i = _
  unfold overlay
  rw [List.getD_eq_getElem?_getD, List.getElem?_eq_getElem hless]
  rfl

/-- One that has not leaves the rest of the area as it was. -/
theorem le_of_take_fresh (harea : ∀ i, c.area i = 1) (h : (c.take b n).Fresh frames) :
    frames ≤ n ∧ frames ≤ b.getFillLevel := by
  have hlength := IasLocalAudioBuffer.readStrided_length (b := b) n (2 * c.step)
  by_contra hless
  have hin : min n b.getFillLevel < frames := by omega
  rcases h _ hin with ⟨hread, -⟩ | hzero
  · have hread : min n b.getFillLevel < (b.readStrided n (2 * c.step)).2.length := hread
    omega
  · have hold : (c.take b n).area (min n b.getFillLevel) = 1 := by
      show overlay (b.readStrided n (2 * c.step)).2 c.area _ = 1
      unfold overlay
      rw [List.getD_eq_getElem?_getD, List.getElem?_eq_none (by omega), Option.getD_none, harea]
    rw [hold] at hzero
    exact absurd hzero (by decide)

/-- A channel that has written nothing shows what was there. -/
theorem not_fresh (hframes : frames ≠ 0) (hhanded : c.handed = []) (harea : ∀ i, c.area i = 1)
    (hhanded' : c'.handed = c.handed) (harea' : c'.area = c.area) : ¬ c'.Fresh frames := by
  intro h
  rcases h 0 (Nat.pos_of_ne_zero hframes) with ⟨hread, -⟩ | hzero
  · rw [hhanded', hhanded] at hread
    exact absurd hread (Nat.not_lt_zero _)
  · rw [harea', harea] at hzero
    exact absurd hzero (by decide)

theorem discardChannel_area (j : Job) (last : Bool) (st : JobState) (c : ShmChannel) :
    (discardChannel j last st c).2.area = c.area
      ∧ (discardChannel j last st c).2.handed = c.handed := by
  unfold discardChannel
  split
  · exact ⟨rfl, rfl⟩
  · split
    · exact ⟨rfl, rfl⟩
    · split
      · exact ⟨rfl, rfl⟩
      · dsimp only
        split <;> exact ⟨rfl, rfl⟩

/-- Whatever a channel does, what it hands out is what comes next. -/
theorem processChannel_next (hhanded : c.handed = []) :
    HandsOutNext c (processChannel j r last st c).2 := by
  unfold processChannel
  split
  · exact handsOutNext_nothing hhanded rfl
  · split
    · exact handsOutNext_nothing hhanded (discardChannel_area j last st c).2
    · unfold copyChannel
      split
      · exact handsOutNext_nothing hhanded rfl
      · dsimp only
        split
        · exact handsOutNext_nothing hhanded rfl
        · split
          · exact handsOutNext_take ⟨[], rfl⟩
          · split
            · exact handsOutNext_nothing hhanded rfl
            · rename_i desc _
              rw [reachDescriptor_buffer]
              split
              · exact handsOutNext_take (reached_reads ..)
              · exact handsOutNext_nothing hhanded rfl

/-- **A channel that is supplied is fresh.** -/
theorem processChannel_fresh (h : Supplied j st.descQ.peek st.mNullData c.buffer c.step) :
    (processChannel j r last st c).2.Fresh j.access.shmFrames := by
  unfold processChannel copyChannel
  dsimp only
  rw [if_neg (by rw [h.noReset]; decide), if_neg (by rw [h.room]; decide), if_neg h.stride,
    if_neg (not_not.mpr h.ready)]
  have hsame : (st.noteClient j.provider r).descQ = st.descQ
      ∧ (st.noteClient j.provider r).mNullData = st.mNullData := by
    unfold JobState.noteClient
    split <;> exact ⟨rfl, rfl⟩
  rw [hsame.1, hsame.2]
  cases hdesc : j.provider.hasBufferDesc with
  | false =>
      rw [if_pos (by decide)]
      exact take_fresh (Nat.le_refl _) (h.untimed hdesc)
  | true =>
      rw [if_neg (by decide)]
      cases hpeek : st.descQ.peek with
      | none =>
          intro i hi
          refine Or.inr ?_
          show (if i < j.access.shmFrames then _ else _) = _
          rw [if_pos hi]
          split
          · rename_i hstep
            exact h.underrun hdesc hpeek hstep i hi
          · rfl
      | some desc =>
          obtain ⟨hpresent, hcovered, hfill⟩ := h.timed hdesc desc hpeek
          dsimp only
          rw [if_pos hpresent, reachDescriptor_buffer]
          exact take_fresh (by omega) hfill

/-- **A channel that is fresh is supplied**, unless the ring held silence before. -/
theorem supplied_of_fresh (hframes : j.access.shmFrames ≠ 0) (hhanded : c.handed = [])
    (harea : ∀ i, c.area i = 1)
    (h : (processChannel j r last st c).2.Fresh j.access.shmFrames) :
    Supplied j st.descQ.peek st.mNullData c.buffer c.step := by
  -- a channel that is left as it was still shows what the ring held
  have hstale : ∀ {c' : ShmChannel}, c'.handed = c.handed → c'.area = c.area →
      ¬ c'.Fresh j.access.shmFrames := not_fresh hframes hhanded harea
  unfold processChannel at h
  split at h
  · exact absurd h (hstale rfl rfl)
  · rename_i hreset
    split at h
    · obtain ⟨hsameArea, hsameHanded⟩ := discardChannel_area j last st c
      exact absurd h (hstale hsameHanded hsameArea)
    · rename_i hroom
      unfold copyChannel at h
      split at h
      · exact absurd h (hstale rfl rfl)
      · rename_i hstep
        dsimp only at h
        split at h
        · exact absurd h (hstale rfl rfl)
        · rename_i hready
          -- that the client has come back changes neither descriptors nor null data
          have hsame : (st.noteClient j.provider r).descQ = st.descQ
              ∧ (st.noteClient j.provider r).mNullData = st.mNullData := by
            unfold JobState.noteClient
            split <;> exact ⟨rfl, rfl⟩
          rw [hsame.1, hsame.2] at h
          have hready := not_not.mp hready
          have hreset := Bool.eq_false_iff.mpr hreset
          have hroom := Bool.eq_false_iff.mpr hroom
          cases hdesc : j.provider.hasBufferDesc with
          | false =>
              -- without descriptors the area takes what the buffer has
              rw [if_pos (by rw [hdesc]; decide)] at h
              exact ⟨hreset, hroom, hstep, hready, fun _ => (le_of_take_fresh harea h).2,
                fun htrue => absurd (hdesc.symm.trans htrue) (by decide),
                fun htrue => absurd (hdesc.symm.trans htrue) (by decide)⟩
          | true =>
              rw [if_neg (by rw [hdesc]; decide)] at h
              have huntimed : j.provider.hasBufferDesc = false →
                  j.access.shmFrames ≤ c.buffer.getFillLevel :=
                fun hfalse => absurd (hdesc.symm.trans hfalse) (by decide)
              cases hpeek : st.descQ.peek with
              | none =>
                  -- no descriptor: the area gets the null data, if its step is one
                  rw [hpeek] at h
                  refine ⟨hreset, hroom, hstep, hready, huntimed, ?_, fun _ _ hd => nomatch hd⟩
                  intro _ _ hone i hi
                  rcases h i hi with ⟨hread, -⟩ | hzero
                  · have hread : i < c.handed.length := hread
                    rw [hhanded] at hread
                    exact absurd hread (Nat.not_lt_zero _)
                  · have hzero : (if i < j.access.shmFrames then
                        (if c.step = 1 then st.mNullData i else 0) else c.area i) = 0 := hzero
                    rwa [if_pos hi, if_pos hone] at hzero
              | some desc =>
                  -- the samples behind the descriptor, if it is to be presented
                  rw [hpeek] at h
                  dsimp only at h
                  rw [reachDescriptor_buffer] at h
                  split at h
                  · rename_i hpresent
                    have hle := le_of_take_fresh harea h
                    refine ⟨hreset, hroom, hstep, hready, huntimed, (fun _ hnone => nomatch hnone),
                      ?_⟩
                    intro _ desc' hdesc'
                    obtain rfl := Option.some.inj hdesc'
                    exact ⟨hpresent, by omega, hle.2⟩
                  · exact absurd h (hstale rfl rfl)

end Channel

/-! ## The loop -/

section Loop

variable {j : Job} {r : RingAnswers} {st : JobState} {c : ShmChannel} {cs : List ShmChannel}
  {oldest : Option AudioBufferDesc} {null null' : Nat → AudioData} {b : IasLocalAudioBuffer}
  {step : Nat}

/-- All channels but the last leave the descriptors alone, and an underrun throws nothing
away. -/
theorem processChannel_shared (j : Job) (r : RingAnswers) (st : JobState) (c : ShmChannel) :
    (processChannel j r false st c).1.descQ = st.descQ
      ∧ (j.provider.hasBufferDesc = true → st.descQ.peek = none →
        (processChannel j r false st c).1.mNullData = st.mNullData) := by
  have hclient : (st.noteClient j.provider r).descQ = st.descQ
      ∧ (st.noteClient j.provider r).mNullData = st.mNullData := by
    unfold JobState.noteClient
    split <;> exact ⟨rfl, rfl⟩
  unfold processChannel
  split
  · exact ⟨rfl, fun _ _ => rfl⟩
  · split
    · unfold discardChannel
      split
      · exact ⟨rfl, fun _ _ => rfl⟩
      · split
        · rename_i hdesc
          exact ⟨rfl, fun htrue => absurd htrue hdesc⟩
        · split
          · exact ⟨rfl, fun _ _ => rfl⟩
          · rename_i desc hpeek
            dsimp only
            split <;> exact ⟨rfl, fun _ hnone => nomatch hpeek.symm.trans hnone⟩
    · unfold copyChannel
      split
      · exact ⟨rfl, fun _ _ => rfl⟩
      · dsimp only
        split
        · exact ⟨hclient.1, fun _ _ => hclient.2⟩
        · split
          · exact ⟨hclient.1, fun _ _ => hclient.2⟩
          · rw [hclient.1]
            split
            · exact ⟨hclient.1, fun _ _ => hclient.2⟩
            · rename_i desc hpeek
              split <;> exact ⟨rfl, fun _ hnone => nomatch hpeek.symm.trans hnone⟩

theorem Supplied.congr (h : Supplied j oldest null b step)
    (hnull : j.provider.hasBufferDesc = true → oldest = none → null' = null) :
    Supplied j oldest null' b step := by
  refine ⟨h.noReset, h.room, h.stride, h.ready, h.untimed, ?_, h.timed⟩
  intro hdesc hnone hstep
  rw [hnull hdesc hnone]
  exact h.underrun hdesc hnone hstep

/-- Every channel finds what the first one found. -/
theorem supplied_shared_iff :
    Supplied j (processChannel j r false st c).1.descQ.peek
        (processChannel j r false st c).1.mNullData b step
      ↔ Supplied j st.descQ.peek st.mNullData b step := by
  obtain ⟨hdescQ, hnull⟩ := processChannel_shared j r st c
  rw [hdescQ]
  exact ⟨fun h => h.congr fun hdesc hnone => (hnull hdesc hnone).symm, fun h => h.congr hnull⟩

theorem processChannels_next (j : Job) (r : RingAnswers) (st : JobState)
    (hblank : ∀ c ∈ cs, c.handed = []) :
    List.Forall₂ HandsOutNext cs (processChannels j r st cs).2 := by
  induction cs generalizing st with
  | nil => exact .nil
  | cons c cs ih =>
      exact .cons (processChannel_next (hblank c List.mem_cons_self))
        (ih _ fun c' hc' => hblank c' (List.mem_cons_of_mem c hc'))

/-- **Channels that are supplied are fresh.** -/
theorem processChannels_fresh (st : JobState)
    (h : ∀ c ∈ cs, Supplied j st.descQ.peek st.mNullData c.buffer c.step) :
    ∀ c ∈ (processChannels j r st cs).2, c.Fresh j.access.shmFrames := by
  induction cs generalizing st with
  | nil => exact fun c hc => absurd hc List.not_mem_nil
  | cons c cs ih =>
      have hhead : (processChannel j r cs.isEmpty st c).2.Fresh j.access.shmFrames :=
        processChannel_fresh (h c List.mem_cons_self)
      intro c' hc'
      have hc' : c' ∈ (processChannel j r cs.isEmpty st c).2
        :: (processChannels j r (processChannel j r cs.isEmpty st c).1 cs).2 := hc'
      rcases List.mem_cons.mp hc' with rfl | hc'
      · exact hhead
      · cases cs with
        | nil => exact absurd hc' List.not_mem_nil
        | cons c₂ cs =>
            refine ih _ (fun c₁ hc₁ => ?_) c' hc'
            exact supplied_shared_iff.mpr (h c₁ (List.mem_cons_of_mem c hc₁))

/-- **Channels that are fresh are supplied**, unless the ring held silence before. -/
theorem supplied_of_processChannels (hframes : j.access.shmFrames ≠ 0) (st : JobState)
    (hblank : ∀ c ∈ cs, c.handed = [] ∧ ∀ i, c.area i = 1)
    (h : ∀ c ∈ (processChannels j r st cs).2, c.Fresh j.access.shmFrames) :
    ∀ c ∈ cs, Supplied j st.descQ.peek st.mNullData c.buffer c.step := by
  induction cs generalizing st with
  | nil => exact fun c hc => absurd hc List.not_mem_nil
  | cons c cs ih =>
      have hall : ∀ c' ∈ (processChannel j r cs.isEmpty st c).2
          :: (processChannels j r (processChannel j r cs.isEmpty st c).1 cs).2,
          c'.Fresh j.access.shmFrames := h
      obtain ⟨hhanded, harea⟩ := hblank c List.mem_cons_self
      intro c' hc'
      rcases List.mem_cons.mp hc' with rfl | hc'
      · exact supplied_of_fresh hframes hhanded harea (hall _ List.mem_cons_self)
      · cases cs with
        | nil => exact absurd hc' List.not_mem_nil
        | cons c₂ cs =>
            have htail := ih (processChannel j r false st c).1
              (fun c₁ hc₁ => hblank c₁ (List.mem_cons_of_mem c hc₁))
              (fun c₁ hc₁ => hall c₁ (List.mem_cons_of_mem _ hc₁)) c' hc'
            exact supplied_shared_iff.mp htail

end Loop

/-! ## The job -/

/-- A buffer once overdue samples are skipped. -/
def Schedule.afterSkip (s : Schedule) (b : IasLocalAudioBuffer) : IasLocalAudioBuffer :=
  match s.samplesToSkip with
  | none => b
  | some n => (b.read n).1

/-- The channels once overdue samples are skipped. -/
def Schedule.skipped (s : Schedule) (channels : List ShmChannel) : List ShmChannel :=
  channels.map fun c => { c with buffer := s.afterSkip c.buffer }

/-- When what a job commits is fresh: it commits nothing, or it is no dummy and every channel
is supplied. -/
def Refreshes (p : IasAvbAudioShmProvider) (e : PresentationTimes) (t : TimeBase)
    (r : RingAnswers) (q : IasLocalAudioBufferDesc) (numFrames : Nat) (dummy : Bool)
    (ports : List ShmPort) : Prop :=
  p.mIsRunning = false ∨ (numFrames = 0 ∨ p.periodSize % numFrames ≠ 0)
    ∨ ∀ granted, r.granted = some granted →
      (p.access r granted numFrames).shmFrames = 0 ∨ ∀ port ∈ ports, dummy = false
        ∧ Supplied ((p.access r granted numFrames).job e t q numFrames (ports.map ShmPort.buffer))
          q.peek (p.access r granted numFrames).provider.mNullData
          (((p.access r granted numFrames).job e t q numFrames
            (ports.map ShmPort.buffer)).schedule.afterSkip port.buffer) port.step

section Job

variable {p : IasAvbAudioShmProvider} {e : PresentationTimes} {t : TimeBase} {r : RingAnswers}
  {q : IasLocalAudioBufferDesc} {numFrames : Nat} {dummy : Bool} {ports : List ShmPort}
  {channels : List ShmChannel} {a : Access} {s : Schedule} {null : Nat → AudioData}

theorem skipChannels_eq (n : Nat) (null : Nat → AudioData) (channels : List ShmChannel) :
    (skipChannels n null channels).2
      = channels.map fun c => { c with buffer := (c.buffer.read n).1 } := by
  induction channels generalizing null with
  | nil => rfl
  | cons c cs ih => exact congrArg (_ :: ·) (ih _)

theorem skip_eq (s : Schedule) (null : Nat → AudioData) (channels : List ShmChannel) :
    (s.skip null channels).2 = s.skipped channels := by
  unfold Schedule.skip Schedule.skipped Schedule.afterSkip
  cases s.samplesToSkip with
  | none => exact (List.map_id _).symm
  | some n => exact skipChannels_eq n null channels

/-- Without a descriptor nothing is overdue. -/
theorem skip_null (hnone : q.peek = none) (buffers : List IasLocalAudioBuffer) :
    (((a.job e t q numFrames buffers).schedule.skip null channels).1 : Nat → AudioData) = null := by
  have hskip : (a.provider.scheduleFor e t numFrames buffers q).samplesToSkip = none := by
    unfold scheduleFor
    split
    · unfold schedule
      dsimp only
      split
      · rfl
      · rw [hnone]
    · rfl
  show (Schedule.skip (a.provider.scheduleFor e t numFrames buffers q) null channels).1 = null
  unfold Schedule.skip
  rw [hskip]

/-- What was skipped comes first among what is thrown away. -/
theorem HandsOutNext.afterSkip {c c' : ShmChannel}
    (h : HandsOutNext { c with buffer := s.afterSkip c.buffer } c') : HandsOutNext c c' := by
  obtain ⟨thrown, n, heq⟩ := h
  unfold Schedule.afterSkip at heq
  cases hskip : s.samplesToSkip with
  | none =>
      rw [hskip] at heq
      exact ⟨thrown, n, heq⟩
  | some k =>
      rw [hskip] at heq
      exact ⟨k :: thrown, n, heq⟩

theorem mem_channelsOver {areas : Nat → Nat → AudioData} {c : ShmChannel}
    (hc : c ∈ channelsOver areas ports) : c.handed = [] ∧ ∃ k, c.area = areas k := by
  induction ports generalizing areas with
  | nil => exact absurd hc List.not_mem_nil
  | cons port ports ih =>
      rcases List.mem_cons.mp hc with rfl | hc
      · exact ⟨rfl, 0, rfl⟩
      · obtain ⟨hhanded, k, hk⟩ := ih hc
        exact ⟨hhanded, k + 1, hk⟩

theorem channelsOver_buffers (areas : Nat → Nat → AudioData) (ports : List ShmPort) :
    (channelsOver areas ports).map ShmChannel.buffer = ports.map ShmPort.buffer := by
  induction ports generalizing areas with
  | nil => rfl
  | cons port ports ih => exact congrArg (_ :: ·) (ih _)

/-- What the channels have from their ports. -/
theorem forall_channelsOver {areas : Nat → Nat → AudioData}
    {P : IasLocalAudioBuffer → Nat → Prop} :
    (∀ c ∈ channelsOver areas ports, P c.buffer c.step)
      ↔ ∀ port ∈ ports, P port.buffer port.step := by
  induction ports generalizing areas with
  | nil => exact ⟨fun _ _ h => absurd h List.not_mem_nil, fun _ _ h => absurd h List.not_mem_nil⟩
  | cons port ports ih =>
      show (∀ c ∈ _ :: channelsOver (fun k => areas (k + 1)) ports, P c.buffer c.step) ↔ _
      rw [List.forall_mem_cons, List.forall_mem_cons, ih]

theorem forall_skipped {areas : Nat → Nat → AudioData} {P : IasLocalAudioBuffer → Nat → Prop} :
    (∀ c ∈ s.skipped (channelsOver areas ports), P c.buffer c.step)
      ↔ ∀ port ∈ ports, P (s.afterSkip port.buffer) port.step :=
  List.forall_mem_map.trans (forall_channelsOver (P := fun b step => P (s.afterSkip b) step))

/-- What the channels of a job begin with. -/
def Job.begin (j : Job) (q : IasLocalAudioBufferDesc) (channels : List ShmChannel) : JobState where
  mNullData := (j.schedule.skip j.provider.mNullData channels).1
  descQ := { q with mAlsaRxSyncStart := j.schedule.mAlsaRxSyncStart }
  mBufRstContCnt := j.provider.mBufRstContCnt

/-- The channels behind the loop; a reset empties their buffers. -/
theorem process_channels (a : Access) (e : PresentationTimes) (t : TimeBase) (r : RingAnswers)
    (q : IasLocalAudioBufferDesc) (numFrames : Nat) (channels : List ShmChannel) :
    let j := a.job e t q numFrames (channels.map ShmChannel.buffer)
    ∃ f : IasLocalAudioBuffer → IasLocalAudioBuffer,
      (process a e t r q numFrames channels).channels
        = (processChannels j r (j.begin q channels) (j.schedule.skipped channels)).2.map
          fun c => { c with buffer := f c.buffer } := by
  dsimp only
  rw [← skip_eq _ a.provider.mNullData]
  unfold process
  dsimp only
  split
  · exact ⟨(IasLocalAudioBuffer.reset · 0), rfl⟩
  · exact ⟨id, (List.map_id _).symm⟩

theorem process_next (a : Access) (e : PresentationTimes) (t : TimeBase) (r : RingAnswers)
    (q : IasLocalAudioBufferDesc) (numFrames : Nat) (hblank : ∀ c ∈ channels, c.handed = []) :
    List.Forall₂ HandsOutNext channels (process a e t r q numFrames channels).channels := by
  obtain ⟨f, hchannels⟩ := process_channels a e t r q numFrames channels
  rw [hchannels, List.forall₂_map_right_iff]
  have hskipped : ∀ c ∈ Schedule.skipped (a.job e t q numFrames
      (channels.map ShmChannel.buffer)).schedule channels, c.handed = [] := by
    intro c hc
    obtain ⟨c', hc', rfl⟩ := List.mem_map.mp hc
    exact hblank c' hc'
  have hloop := processChannels_next (a.job e t q numFrames (channels.map ShmChannel.buffer)) r
    ((a.job e t q numFrames (channels.map ShmChannel.buffer)).begin q channels) hskipped
  exact (List.forall₂_map_left_iff.mp hloop).imp fun _ _ h => HandsOutNext.afterSkip h

/-- **A job that is no dummy**: what its areas hold is fresh, whatever the ring held before,
exactly if all channels are supplied. -/
theorem process_fresh_iff (hframes : a.shmFrames ≠ 0) :
    (∀ areas, ∀ c ∈ (process a e t r q numFrames (channelsOver areas ports)).channels,
        c.Fresh a.shmFrames)
      ↔ ∀ port ∈ ports, Supplied (a.job e t q numFrames (ports.map ShmPort.buffer)) q.peek
        a.provider.mNullData ((a.job e t q numFrames
          (ports.map ShmPort.buffer)).schedule.afterSkip port.buffer) port.step := by
  -- the channels behind the loop are fresh exactly if those behind the job are
  have hloop : ∀ areas : Nat → Nat → AudioData,
      (∀ c ∈ (process a e t r q numFrames (channelsOver areas ports)).channels,
        c.Fresh a.shmFrames)
      ↔ ∀ c ∈ (processChannels (a.job e t q numFrames (ports.map ShmPort.buffer)) r
          ((a.job e t q numFrames (ports.map ShmPort.buffer)).begin q (channelsOver areas ports))
          ((a.job e t q numFrames (ports.map ShmPort.buffer)).schedule.skipped
            (channelsOver areas ports))).2,
        c.Fresh a.shmFrames := by
    intro areas
    obtain ⟨f, hchannels⟩ := process_channels a e t r q numFrames (channelsOver areas ports)
    rw [hchannels, channelsOver_buffers, List.forall_mem_map]
    exact Iff.rfl
  -- the loop begins with what the job found
  have hbegin : ∀ (areas : Nat → Nat → AudioData) (b : IasLocalAudioBuffer) (step : Nat),
      Supplied (a.job e t q numFrames (ports.map ShmPort.buffer))
        ((a.job e t q numFrames (ports.map ShmPort.buffer)).begin q
          (channelsOver areas ports)).descQ.peek
        ((a.job e t q numFrames (ports.map ShmPort.buffer)).begin q
          (channelsOver areas ports)).mNullData b step
      ↔ Supplied (a.job e t q numFrames (ports.map ShmPort.buffer)) q.peek a.provider.mNullData b
        step := by
    intro areas b step
    have hnull : q.peek = none → ((a.job e t q numFrames (ports.map ShmPort.buffer)).begin q
        (channelsOver areas ports)).mNullData = a.provider.mNullData :=
      fun hnone => skip_null hnone _
    exact ⟨fun h => h.congr fun _ hnone => (hnull hnone).symm, fun h => h.congr fun _ => hnull⟩
  constructor
  · intro h port hport
    refine (hbegin (fun _ _ => 1) _ _).mp (forall_skipped.mp
      (supplied_of_processChannels hframes _ ?_ ((hloop fun _ _ => 1).mp (h _))) port hport)
    intro c hc
    obtain ⟨c', hc', rfl⟩ := List.mem_map.mp hc
    obtain ⟨hhanded, k, harea⟩ := mem_channelsOver hc'
    exact ⟨hhanded, fun i => congrFun harea i⟩
  · intro h areas
    refine (hloop areas).mpr (processChannels_fresh _ ?_)
    exact forall_skipped.mpr fun port hport => (hbegin areas _ _).mpr (h port hport)

/-- A call that does not come to the ring commits nothing. -/
theorem copyJob_refused (p : IasAvbAudioShmProvider) (e : PresentationTimes) (t : TimeBase)
    (r : RingAnswers) (q : IasLocalAudioBufferDesc) (numFrames : Nat) (dummy : Bool)
    (h : p.mIsRunning = false ∨ (numFrames = 0 ∨ p.periodSize % numFrames ≠ 0)
    ∨ r.granted = none) (channels : List ShmChannel) :
    (p.copyJob e t r q numFrames dummy channels).channels = channels
      ∧ (p.copyJob e t r q numFrames dummy channels).committed = 0 := by
  unfold copyJob
  dsimp only
  split
  · exact ⟨rfl, rfl⟩
  · rename_i hrunning
    split
    · exact ⟨rfl, rfl⟩
    · rename_i hgood
      rw [(h.resolve_left hrunning).resolve_left hgood]
      exact ⟨rfl, rfl⟩

/-- One that does commits what it is left with, whatever the channels did. -/
theorem copyJob_granted (e : PresentationTimes) (t : TimeBase) (q : IasLocalAudioBufferDesc)
    (dummy : Bool) (hrunning : ¬ p.mIsRunning = false)
    (hgood : ¬ (numFrames = 0 ∨ p.periodSize % numFrames ≠ 0)) {granted : Nat}
    (hgranted : r.granted = some granted) (channels : List ShmChannel) :
    (p.copyJob e t r q numFrames dummy channels).channels
        = (if dummy then channels
          else (process (p.access r granted numFrames) e t r q numFrames channels).channels)
      ∧ (p.copyJob e t r q numFrames dummy channels).committed
        = (p.access r granted numFrames).shmFrames := by
  unfold copyJob
  dsimp only
  rw [if_neg hrunning, if_neg hgood, hgranted]
  dsimp only
  split <;> exact ⟨rfl, rfl⟩

/-- Channels that no job has touched have handed out nothing. -/
theorem untouched_next (areas : Nat → Nat → AudioData) :
    List.Forall₂ HandsOutNext (channelsOver areas ports) (channelsOver areas ports) :=
  List.forall₂_same.mpr fun _ hc => handsOutNext_nothing (mem_channelsOver hc).1 rfl

theorem fresh_zero (c : ShmChannel) : c.Fresh 0 := fun i hi => absurd hi (Nat.not_lt_zero i)

/-- A call that does not come to the ring is never stale. -/
theorem neverStale_refused (h : p.mIsRunning = false
      ∨ (numFrames = 0 ∨ p.periodSize % numFrames ≠ 0) ∨ r.granted = none)
    (areas : Nat → Nat → AudioData) :
    NeverStale (channelsOver areas ports)
      (p.copyJob e t r q numFrames dummy (channelsOver areas ports)) := by
  obtain ⟨hchannels, hcommitted⟩ :=
    copyJob_refused p e t r q numFrames dummy h (channelsOver areas ports)
  refine ⟨by rw [hchannels]; exact untouched_next areas, fun c _ => ?_⟩
  rw [hcommitted]
  exact fresh_zero c

/-- One that does hands out what comes next, so that it is never stale if it is fresh. -/
theorem neverStale_granted_iff (hrunning : ¬ p.mIsRunning = false)
    (hgood : ¬ (numFrames = 0 ∨ p.periodSize % numFrames ≠ 0)) {granted : Nat}
    (hgranted : r.granted = some granted) (areas : Nat → Nat → AudioData) :
    NeverStale (channelsOver areas ports)
        (p.copyJob e t r q numFrames dummy (channelsOver areas ports))
      ↔ ∀ c ∈ (if dummy then channelsOver areas ports
            else (process (p.access r granted numFrames) e t r q numFrames
              (channelsOver areas ports)).channels),
          c.Fresh (p.access r granted numFrames).shmFrames := by
  obtain ⟨hchannels, hcommitted⟩ :=
    copyJob_granted e t q dummy hrunning hgood hgranted (channelsOver areas ports)
  rw [← hchannels, ← hcommitted]
  refine ⟨fun h => h.fresh, fun h => ⟨?_, h⟩⟩
  rw [hchannels]
  split
  · exact untouched_next areas
  · exact process_next _ e t r q numFrames fun c hc => (mem_channelsOver hc).1

/-- A dummy shows every channel as the ring holds it, so it is fresh only without channels. -/
theorem dummy_fresh_iff {frames : Nat} (hframes : frames ≠ 0) :
    (∀ areas, ∀ c ∈ channelsOver areas ports, c.Fresh frames) ↔ ∀ port ∈ ports, False := by
  constructor
  · intro h
    have hnone : ∀ c ∈ channelsOver (fun _ _ => 1) ports, False := by
      intro c hc
      obtain ⟨hhanded, k, harea⟩ := mem_channelsOver hc
      exact not_fresh (c := c) hframes hhanded (fun i => congrFun harea i) rfl rfl (h _ c hc)
    exact (forall_channelsOver (P := fun _ _ => False)).mp hnone
  · intro h areas c hc
    exact (forall_channelsOver (P := fun _ _ => False)).mpr h c hc |>.elim

/--
**When a recording client gets fresh frames.**

For every state of the device, the descriptors and the local buffers, and whatever the ring
answers: the frames a job commits hold, on every channel, the samples that come next in the
local buffer, or silence, whatever the ring held before, exactly if the job commits nothing, or
is no dummy and finds every channel supplied.
-/
theorem copyJob_neverStale_iff (p : IasAvbAudioShmProvider) (e : PresentationTimes) (t : TimeBase)
    (r : RingAnswers) (q : IasLocalAudioBufferDesc) (numFrames : Nat) (dummy : Bool)
    (ports : List ShmPort) :
    (∀ areas, NeverStale (channelsOver areas ports)
        (p.copyJob e t r q numFrames dummy (channelsOver areas ports)))
      ↔ p.Refreshes e t r q numFrames dummy ports := by
  unfold Refreshes
  by_cases hrunning : p.mIsRunning = false
  · exact ⟨fun _ => Or.inl hrunning, fun _ => neverStale_refused (Or.inl hrunning)⟩
  by_cases hbad : numFrames = 0 ∨ p.periodSize % numFrames ≠ 0
  · exact ⟨fun _ => Or.inr (Or.inl hbad), fun _ => neverStale_refused (Or.inr (Or.inl hbad))⟩
  cases hgranted : r.granted with
  | none => exact ⟨fun _ => Or.inr (Or.inr fun _ h => nomatch h),
      fun _ => neverStale_refused (Or.inr (Or.inr hgranted))⟩
  | some granted =>
      have honly : ∀ {P : Nat → Prop}, (∀ g, some granted = some g → P g) ↔ P granted :=
        fun {P} => ⟨fun h => h granted rfl, fun h g hg => Option.some.inj hg ▸ h⟩
      rw [or_iff_right hrunning, or_iff_right hbad, honly,
        forall_congr' (neverStale_granted_iff hrunning hbad hgranted)]
      by_cases hframes : (p.access r granted numFrames).shmFrames = 0
      · rw [hframes]
        exact ⟨fun _ => Or.inl rfl, fun _ _ c _ => fresh_zero c⟩
      rw [or_iff_right hframes]
      cases dummy with
      | false =>
          refine (process_fresh_iff hframes).trans ?_
          exact ⟨fun h port hport => ⟨rfl, h port hport⟩, fun h port hport => (h port hport).2⟩
      | true =>
          refine (dummy_fresh_iff hframes).trans ?_
          exact ⟨fun h port hport => (h port hport).elim,
            fun h port hport => Bool.noConfusion (h port hport).1⟩

/-! ## Two recordings -/

instance (frames : Nat) (c : ShmChannel) : Decidable (c.Fresh frames) :=
  inferInstanceAs (Decidable (∀ i < frames, _))

/-- A time-aware device with four frames a period. -/
def recorder : IasAvbAudioShmProvider where
  periodSize := 4
  numPeriods := 4
  samplerate := 48000
  mNullData := fun _ => 0
  mDescMode := .eIasAudioBufferDescModeFailSafe
  mAlsaPrefill := 0

/-- A job of one period, and the ring has room for it. -/
def onePeriod (p : IasAvbAudioShmProvider) (q : IasLocalAudioBufferDesc)
    (channels : List ShmChannel) : Outcome :=
  p.copyJob .whole ⟨0, 1000⟩ { granted := some 4 } q 4 false channels

/-- A mono channel over an area that still holds nines. -/
def overNines (b : IasLocalAudioBuffer) : ShmChannel :=
  { buffer := b, step := 1, area := fun _ => 9 }

/-- **A recording gets old samples.** A stream that is not read-ready leaves the area as it
was, and its nines are committed. A mono stream of six samples, 1 to 6, whose oldest descriptor
begins with the third one, reads the first two into `mNullData`; the job after that has an
underrun, and what it commits for silence begins with them. -/
theorem recording_gets_old_samples :
    let unused := IasLocalAudioBuffer.init 17 true fun _ => 0
    let idle := [overNines { unused with mReadThreshold := 8 }]
    let six := [overNines (unused.write (fun i => BitVec.ofNat 16 (i + 1)) 6).1]
    let notReady := recorder.onePeriod { mDescQsz := 4 } idle
    let first := recorder.onePeriod { mDescQsz := 4, mDescQ := [⟨1000, 2, 4⟩] } six
    let empty := first.channels.map fun c => overNines c.buffer
    let second := first.provider.onePeriod first.descQ empty
    ¬ NeverStale idle notReady ∧ ¬ NeverStale empty second
      ∧ notReady.channels.map (fun c => (List.range 4).map c.area) = [[9, 9, 9, 9]]
      ∧ second.channels.map (fun c => (List.range 4).map c.area) = [[1, 2, 0, 0]] := by
  intro unused idle six notReady first empty second
  have hstale : (¬ ∀ c ∈ notReady.channels, c.Fresh notReady.committed)
      ∧ ¬ ∀ c ∈ second.channels, c.Fresh second.committed := by decide +kernel
  refine ⟨fun h => hstale.1 h.fresh, fun h => hstale.2 h.fresh, ?_⟩
  decide +kernel

end Job

end IasAvbAudioShmProvider

end AvbStreamHandler
