import AvbStreamHandler.Alsa.AlsaEngine
import AvbStreamHandler.Kit.Bins
import AvbStreamHandler.Kit.Registry

/-!
# The registry of ALSA streams

The two maps are one registry: the index finds a stream by its kind and id, and these are what
the stream is labelled with. The worker threads are bins: every stream lies in one of them, and
no bin is empty.

Four things can break that.

- The names are compared within one kind of streams only, so a device of the hardware and a
  virtual one may get the same name and direction.
- A name is searched for with its suffix. A device of the hardware is found by its name without
  one, so nothing is found where it should be; and a virtual one whose name ends with the new
  name is found where it should not be.
- A new worker thread that cannot be started stays in the list with the stream it was made for,
  and the stream is deleted.
- A device of the hardware is started after it was deleted, if no worker thread took it.
-/

namespace AvbStreamHandler

open Kit Kit.Run Kit.Registry Kit.Bins IasAvbProcessingResult

namespace IasAlsaEngine

variable {c : AlsaConfig} {w w' : IasAlsaEngine} {r : AlsaRequest} {o : AlsaOutcome}
  {s : AlsaStream} {k t : Nat} {hw : Bool} {streamId : UInt16}

/-- The stream under a kind and an id. -/
def index (w : IasAlsaEngine) (key : Bool × UInt16) : Option Nat :=
  (w.streamMap key.1).lookup key.2

/-- The kind and the id of a stream. -/
def label (w : IasAlsaEngine) (k : Nat) : Option (Bool × UInt16) :=
  (w.streams k).map fun s => (s.isHw, s.streamId)

/-- The streams of a worker thread. -/
def items (w : IasAlsaEngine) (t : Nat) : List Nat := (w.worker t).mAlsaStreams

/-- A stream has this name and direction. -/
def PairInUse (w : IasAlsaEngine) (s : AlsaStream) : Prop :=
  ∃ k s', w.streams k = some s' ∧ s'.deviceName = s.deviceName ∧ s'.direction = s.direction

/-- What is to hold in every state. -/
structure Sound (w : IasAlsaEngine) : Prop where
  /-- A stream is in one of the maps, once, under its own id. -/
  filed : ∀ k s, w.streams k = some s →
    w.index (s.isHw, s.streamId) = some k ∧
      ∀ key, w.index key = some k → key = (s.isHw, s.streamId)
  /-- No other stream has its name and direction. -/
  named : ∀ k k' s s', w.streams k = some s → w.streams k' = some s' →
    s.deviceName = s'.deviceName → s.direction = s'.direction → k = k'
  /-- One worker thread handles it. -/
  served : ∀ k, w.streams k ≠ none → ∃! t, t ∈ w.mWorkerThreads ∧ k ∈ w.items t
  /-- Worker threads refer to streams that are there. -/
  alive : ∀ t ∈ w.mWorkerThreads, ∀ k ∈ w.items t, w.streams k ≠ none
  /-- And so do the maps. -/
  mapped : ∀ key k, w.index key = some k → w.streams k ≠ none
  unused : w.usedAfterDeletion = false
  busy : ∀ t ∈ w.mWorkerThreads, w.items t ≠ []

/-- What is kept. -/
structure Inv (w : IasAlsaEngine) : Prop where
  idle : w.mIsInitialized = false → ∀ k, w.streams k = none
  bound : ∀ k, w.streams k ≠ none → k < w.allocated
  boundWorkers : ∀ t ∈ w.mWorkerThreads, t < w.allocatedWorkers
  registry : Agree w.index w.label
  named : ∀ k k' s s', w.streams k = some s → w.streams k' = some s' →
    s.deviceName = s'.deviceName → s.direction = s'.direction → k = k'
  service : Assigned (fun k => w.streams k ≠ none) w.mWorkerThreads w.items
  unused : w.usedAfterDeletion = false

theorem label_eq_some (hs : w.streams k = some s) : w.label k = some (s.isHw, s.streamId) := by
  unfold label
  rw [hs]
  rfl

theorem label_eq_none : w.label k = none ↔ w.streams k = none := by
  unfold label
  rw [Option.map_eq_none_iff]

theorem Inv.sound (h : Inv w) : Sound w where
  filed k s hs := by
    have hlabel := label_eq_some hs
    exact ⟨(h.registry _ k).mpr hlabel, fun key hkey =>
      Option.some.inj (((h.registry key k).mp hkey).symm.trans hlabel)⟩
  named := h.named
  served _ hk := h.service.existsUnique hk
  alive t ht k hk := (h.service.served k).mpr ⟨t, ht, hk⟩
  mapped key k hkey hnone := by
    have hlabel := (h.registry key k).mp hkey
    rw [label_eq_none.mpr hnone] at hlabel
    cases hlabel
  unused := h.unused
  busy := h.service.busy

/-! ## What the operations do to the registry -/

theorem streamMap_setMap (hw hw' : Bool) (m : AList fun _ : UInt16 => Nat) :
    (w.setMap hw m).streamMap hw' = if hw' = hw then m else w.streamMap hw' := by
  cases hw <;> cases hw' <;> rfl

theorem index_insert (hw : Bool) (streamId : UInt16) (k : Nat) :
    (w.setMap hw ((w.streamMap hw).insert streamId k)).index
      = Function.update w.index (hw, streamId) (some k) := by
  funext key
  obtain ⟨hw', id'⟩ := key
  unfold index
  rw [streamMap_setMap]
  by_cases hkind : hw' = hw
  · subst hkind
    rw [if_pos rfl]
    by_cases hid : id' = streamId
    · subst hid
      rw [AList.lookup_insert, Function.update_self]
    · rw [AList.lookup_insert_ne hid, Function.update_of_ne (by simp [hid])]
  · rw [if_neg hkind, Function.update_of_ne (by simp [hkind])]

theorem index_erase (hw : Bool) (streamId : UInt16) :
    (w.setMap hw ((w.streamMap hw).erase streamId)).index
      = Function.update w.index (hw, streamId) none := by
  funext key
  obtain ⟨hw', id'⟩ := key
  unfold index
  rw [streamMap_setMap]
  by_cases hkind : hw' = hw
  · subst hkind
    rw [if_pos rfl]
    by_cases hid : id' = streamId
    · subst hid
      rw [AList.lookup_erase, Function.update_self]
    · rw [AList.lookup_erase_ne hid, Function.update_of_ne (by simp [hid])]
  · rw [if_neg hkind, Function.update_of_ne (by simp [hkind])]

theorem label_update (k : Nat) (s : Option AlsaStream) :
    (fun j => (Function.update w.streams k s j).map fun s => (s.isHw, s.streamId))
      = Function.update w.label k (s.map fun s => (s.isHw, s.streamId)) :=
  Function.comp_update (Option.map fun s : AlsaStream => (s.isHw, s.streamId)) w.streams k s

theorem items_update (t : Nat) (d : IasAlsaWorkerThread) :
    (fun j => (Function.update w.worker t d j).mAlsaStreams)
      = Function.update w.items t d.mAlsaStreams :=
  Function.comp_update IasAlsaWorkerThread.mAlsaStreams w.worker t d

/-- **The same streams**, in the same maps and with the same worker threads. -/
structure SameStreams (w w' : IasAlsaEngine) : Prop where
  streams : w'.streams = w.streams
  index : w'.index = w.index
  workers : w'.mWorkerThreads = w.mWorkerThreads
  items : w'.items = w.items
  allocated : w.allocated ≤ w'.allocated
  allocatedWorkers : w'.allocatedWorkers = w.allocatedWorkers
  used : w'.usedAfterDeletion = w.usedAfterDeletion
  initialized : w'.mIsInitialized = w.mIsInitialized

theorem SameStreams.refl (w : IasAlsaEngine) : SameStreams w w :=
  ⟨rfl, rfl, rfl, rfl, Nat.le_refl _, rfl, rfl, rfl⟩

theorem SameStreams.label (h : SameStreams w w') : w'.label = w.label := by
  funext k
  unfold IasAlsaEngine.label
  rw [h.streams]

theorem Inv.of_same (h : Inv w) (hs : SameStreams w w') : Inv w' where
  idle := by
    rw [hs.initialized, hs.streams]
    exact h.idle
  bound k hk := Nat.lt_of_lt_of_le (h.bound k (hs.streams ▸ hk)) hs.allocated
  boundWorkers := by
    rw [hs.workers, hs.allocatedWorkers]
    exact h.boundWorkers
  registry := by
    rw [hs.index, hs.label]
    exact h.registry
  named := by
    rw [hs.streams]
    exact h.named
  service := by
    rw [hs.streams, hs.workers, hs.items]
    exact h.service
  unused := hs.used.trans h.unused

theorem Inv.streams_allocated (h : Inv w) : w.streams w.allocated = none := by
  by_contra hne
  exact Nat.lt_irrefl _ (h.bound _ hne)

/-! ## Worker threads -/

/-- A worker thread the stream fits takes it. -/
theorem addAlsaStream_of_checkStream {d : IasAlsaWorkerThread} (hperiod : s.periodSize ≠ 0)
    (hfreq : s.sampleFrequency ≠ 0) (hk : k ∉ d.mAlsaStreams)
    (hcheck : IasAlsaWorkerThread.checkParameter s.periodSize s.sampleFrequency
      d.mAlsaPeriodSize d.mSampleFrequency = true) :
    d.addAlsaStream k s = ({ d with mAlsaStreams := k :: d.mAlsaStreams }, eIasAvbProcOK) := by
  unfold IasAlsaWorkerThread.checkParameter at hcheck
  simp only [Bool.and_eq_true, beq_iff_eq] at hcheck
  unfold IasAlsaWorkerThread.addAlsaStream
  rw [if_neg (by simp [hperiod, hfreq]), if_neg hk, if_pos hcheck.2]

/-- A new worker thread takes the stream it is made for. -/
theorem addAlsaStream_newWorker (hperiod : s.periodSize ≠ 0) (hfreq : s.sampleFrequency ≠ 0)
    (clockDomain : Nat) :
    ∃ d : IasAlsaWorkerThread, d.mAlsaStreams = [k] ∧
      (newWorker c s clockDomain).addAlsaStream k s = (d, eIasAvbProcOK) := by
  unfold newWorker
  split
  · rename_i hcheck
    refine ⟨_, ?_, addAlsaStream_of_checkStream hperiod hfreq List.not_mem_nil hcheck⟩
    rfl
  · unfold IasAlsaWorkerThread.addAlsaStream
    rw [if_neg (by simp [hperiod, hfreq]), if_neg List.not_mem_nil, if_pos (Nat.mod_self _)]
    refine ⟨_, ?_, rfl⟩
    rfl

/-- Nothing but worker threads is different. -/
structure SameMaps (w w' : IasAlsaEngine) : Prop where
  streams : w'.streams = w.streams
  hw : w'.mAlsaHwDevStreams = w.mAlsaHwDevStreams
  vi : w'.mAlsaViDevStreams = w.mAlsaViDevStreams
  allocated : w'.allocated = w.allocated
  used : w'.usedAfterDeletion = w.usedAfterDeletion
  initialized : w'.mIsInitialized = w.mIsInitialized

/-- What setting a map leaves alone. -/
theorem setMap_frame (w : IasAlsaEngine) (hw : Bool) (m : AList fun _ : UInt16 => Nat) :
    (w.setMap hw m).streams = w.streams ∧ (w.setMap hw m).allocated = w.allocated ∧
      (w.setMap hw m).usedAfterDeletion = w.usedAfterDeletion ∧
      (w.setMap hw m).mIsInitialized = w.mIsInitialized ∧
      (w.setMap hw m).mWorkerThreads = w.mWorkerThreads ∧
      (w.setMap hw m).items = w.items ∧
      (w.setMap hw m).allocatedWorkers = w.allocatedWorkers := by
  cases hw <;> exact ⟨rfl, rfl, rfl, rfl, rfl, rfl, rfl⟩

theorem SameMaps.index (h : SameMaps w w') : w'.index = w.index := by
  funext key
  unfold IasAlsaEngine.index streamMap
  rw [h.hw, h.vi]

/-- A worker thread has the new stream `k` now. -/
structure Takes (k : Nat) (w w' : IasAlsaEngine) : Prop extends SameMaps w w' where
  service : ∀ present : Nat → Prop, ¬ present k → Assigned present w.mWorkerThreads w.items →
    Assigned (fun j => j = k ∨ present j) w'.mWorkerThreads w'.items
  boundWorkers : (∀ t ∈ w.mWorkerThreads, t < w.allocatedWorkers) →
    ∀ t ∈ w'.mWorkerThreads, t < w'.allocatedWorkers

theorem takes_setWorker (ht : t ∈ w.mWorkerThreads) :
    Takes k w (w.setWorker t { w.worker t with mAlsaStreams := k :: w.items t }) where
  toSameMaps := ⟨rfl, rfl, rfl, rfl, rfl, rfl⟩
  service present hk h := by
    show Assigned _ w.mWorkerThreads (fun j => (Function.update w.worker t _ j).mAlsaStreams)
    rw [items_update]
    exact h.put ht hk
  boundWorkers h := h

theorem takes_pushWorker {d : IasAlsaWorkerThread} (hd : d.mAlsaStreams = [k])
    (hbound : ∀ t ∈ w.mWorkerThreads, t < w.allocatedWorkers) : Takes k w (w.pushWorker d) where
  toSameMaps := ⟨rfl, rfl, rfl, rfl, rfl, rfl⟩
  service present hk h := by
    show Assigned _ (w.mWorkerThreads ++ [w.allocatedWorkers])
      (fun j => (Function.update w.worker w.allocatedWorkers d j).mAlsaStreams)
    rw [items_update, hd]
    exact h.opened (fun hmem => Nat.lt_irrefl _ (hbound _ hmem)) hk
  boundWorkers h t ht := by
    show t < w.allocatedWorkers + 1
    rcases List.mem_append.mp ht with hold | hnew
    · exact Nat.lt_succ_of_lt (h t hold)
    · rw [List.mem_singleton.mp hnew]
      exact Nat.lt_succ_self _

/-- No worker thread has the stream `k` any more. -/
structure Drops (k : Nat) (w w' : IasAlsaEngine) : Prop extends SameMaps w w' where
  service : ∀ present : Nat → Prop, Assigned present w.mWorkerThreads w.items →
    Assigned (fun j => j ≠ k ∧ present j) w'.mWorkerThreads w'.items
  boundWorkers : (∀ t ∈ w.mWorkerThreads, t < w.allocatedWorkers) →
    ∀ t ∈ w'.mWorkerThreads, t < w'.allocatedWorkers

/-- **What becomes of a stream that is to be removed.** -/
theorem remove_cases (w : IasAlsaEngine) (k : Nat) (s : AlsaStream) :
    (∃ result, result ≠ eIasAvbProcOK ∧ w.removeFromWorkerThread k s = (w, result)) ∨
      ∃ w', w.removeFromWorkerThread k s = (w', eIasAvbProcOK) ∧ Drops k w w' := by
  unfold removeFromWorkerThread
  cases hget : w.getWorkerThread s.streamId with
  | none => exact Or.inl ⟨_, by decide, rfl⟩
  | some t =>
      have ht : t ∈ w.mWorkerThreads := List.mem_of_find?_eq_some hget
      dsimp only
      split
      swap
      · exact Or.inl ⟨_, by decide, rfl⟩
      rename_i hmem
      refine Or.inr ⟨_, rfl, ?_⟩
      have hitems : (fun j => (Function.update w.worker t { w.worker t with
          mAlsaStreams := (w.worker t).mAlsaStreams.erase k } j).mAlsaStreams)
          = Function.update w.items t ((w.items t).erase k) := items_update t _
      split
      · rename_i hlast
        refine ⟨⟨rfl, rfl, rfl, rfl, rfl, rfl⟩, fun present h => ?_,
          fun h j hj => h j (List.mem_of_mem_erase hj)⟩
        have htake := h.take ht hmem
        rw [if_pos (show (w.items t).erase k = [] from hlast), ← hitems] at htake
        exact htake
      · rename_i hmore
        refine ⟨⟨rfl, rfl, rfl, rfl, rfl, rfl⟩, fun present h => ?_, fun h => h⟩
        have htake := h.take ht hmem
        rw [if_neg (show ¬ (w.items t).erase k = [] from hmore), ← hitems] at htake
        exact htake

/-- A new worker thread is made, and is not to be had. -/
def WorkerFails (w : IasAlsaEngine) (r : AlsaRequest) (o : AlsaOutcome) : Prop :=
  w.matchingWorker r = none ∧
    (o.workerMemory = false ∨ r.clockDomain = none ∨ o.workerInit ≠ eIasAvbProcOK)

/-- A new worker thread is made, and does not start. -/
def WorkerStartFails (w : IasAlsaEngine) (r : AlsaRequest) (o : AlsaOutcome) : Prop :=
  w.matchingWorker r = none ∧ ¬ WorkerFails w r o ∧ w.mIsStarted = true ∧
    o.workerStart ≠ eIasAvbProcOK

/-- **What becomes of a stream that is to be assigned.** -/
theorem assign_cases (hperiod : r.stream.periodSize ≠ 0) (hfreq : r.stream.sampleFrequency ≠ 0)
    (hbound : ∀ t ∈ w.mWorkerThreads, t < w.allocatedWorkers)
    (hnew : ∀ t ∈ w.mWorkerThreads, k ∉ w.items t) :
    (¬ WorkerFails w r o ∧ ¬ WorkerStartFails w r o ∧
      ∃ w', assignToWorkerThread c w k r o = (w', eIasAvbProcOK) ∧ Takes k w w') ∨
    (WorkerFails w r o ∧
      ∃ result, result ≠ eIasAvbProcOK ∧ assignToWorkerThread c w k r o = (w, result)) ∨
    (WorkerStartFails w r o ∧ ∃ d : IasAlsaWorkerThread, d.mAlsaStreams = [k] ∧
      ∃ result, result ≠ eIasAvbProcOK ∧
        assignToWorkerThread c w k r o = (w.pushWorker d, result)) := by
  unfold assignToWorkerThread
  rw [if_neg (by simp [hperiod, hfreq])]
  cases hmatch : w.matchingWorker r with
  | some t =>
      have hany : w.matchingWorker r ≠ none := by simp [hmatch]
      -- a worker with the stream's period and rate serves it along
      refine Or.inl ⟨fun h => hany h.1, fun h => hany h.1, ?_⟩
      have ht : t ∈ w.mWorkerThreads := List.mem_of_find?_eq_some hmatch
      have hcheck := List.find?_some hmatch
      unfold IasAlsaWorkerThread.checkStream at hcheck
      rw [Bool.and_eq_true] at hcheck
      dsimp only
      rw [addAlsaStream_of_checkStream hperiod hfreq (hnew t ht) hcheck.2]
      exact ⟨_, rfl, takes_setWorker ht⟩
  | none =>
      dsimp only
      -- a worker of its own: first it is made, then it is started if the engine runs
      by_cases hmemory : o.workerMemory = false
      · rw [if_pos hmemory]
        exact Or.inr (Or.inl ⟨⟨hmatch, Or.inl hmemory⟩, _, by decide, rfl⟩)
      rw [if_neg hmemory]
      unfold initWorker
      cases hclock : r.clockDomain with
      | none => exact Or.inr (Or.inl ⟨⟨hmatch, Or.inr (Or.inl hclock)⟩, _, by decide, rfl⟩)
      | some clockDomain =>
          obtain ⟨d, hd, hadd⟩ := @addAlsaStream_newWorker c r.stream k hperiod hfreq clockDomain
          dsimp only
          rw [hadd]
          dsimp only
          by_cases hinit : o.workerInit = eIasAvbProcOK
          · -- made, so that only the start is left to fail
            have hfails : ¬ WorkerFails w r o := by
              rintro ⟨-, h | h | h⟩
              · exact hmemory h
              · rw [hclock] at h
                cases h
              · exact h hinit
            rw [hinit]
            dsimp only
            by_cases hstart : w.mIsStarted = true ∧ o.workerStart ≠ eIasAvbProcOK
            · -- the engine keeps the worker that could not be started
              refine Or.inr (Or.inr ⟨⟨hmatch, hfails, hstart⟩, d, hd, o.workerStart, hstart.2, ?_⟩)
              rw [if_pos hstart.1]
            · refine Or.inl ⟨hfails, fun h => hstart h.2.2, w.pushWorker d, ?_,
                takes_pushWorker hd hbound⟩
              by_cases hstarted : w.mIsStarted = true
              · rw [if_pos hstarted, not_not.mp fun h => hstart ⟨hstarted, h⟩]
              · rw [if_neg hstarted]
          · refine Or.inr (Or.inl ⟨⟨hmatch, Or.inr (Or.inr hinit)⟩, o.workerInit, hinit, ?_⟩)
            split
            · rename_i heq
              exact absurd (Prod.mk.inj heq).2 hinit
            · rename_i heq
              rw [(Prod.mk.inj heq).2]

/-! ## What becomes of a call -/

/-- The name is found in the map the stream is for. -/
def NameRejected (w : IasAlsaEngine) (s : AlsaStream) : Prop :=
  w.mIsInitialized = true ∧ w.index (s.isHw, s.streamId) = none ∧ w.deviceNameInUse s = true

/-- All that is asked of a request is given, up to the worker thread. -/
def Accepted (w : IasAlsaEngine) (r : AlsaRequest) (o : AlsaOutcome) : Prop :=
  w.mIsInitialized = true ∧ w.index (r.stream.isHw, r.stream.streamId) = none ∧
    w.deviceNameInUse r.stream = false ∧ o.memory = true ∧
    r.stream.init o.init = eIasAvbProcOK

/-- The stream is made, and is where it belongs. -/
structure Creates (r : AlsaRequest) (w w' : IasAlsaEngine) : Prop where
  streams : w'.streams = Function.update w.streams w.allocated (some r.stream)
  allocated : w'.allocated = w.allocated + 1
  index : w'.index =
    Function.update w.index (r.stream.isHw, r.stream.streamId) (some w.allocated)
  used : w'.usedAfterDeletion = w.usedAfterDeletion
  initialized : w'.mIsInitialized = w.mIsInitialized
  service : ∀ present : Nat → Prop, ¬ present w.allocated →
    Assigned present w.mWorkerThreads w.items →
    Assigned (fun j => j = w.allocated ∨ present j) w'.mWorkerThreads w'.items
  boundWorkers : (∀ t ∈ w.mWorkerThreads, t < w.allocatedWorkers) →
    ∀ t ∈ w'.mWorkerThreads, t < w'.allocatedWorkers

theorem init_eq_ok {result : IasAvbProcessingResult} (h : s.init result = eIasAvbProcOK) :
    s.periodSize ≠ 0 ∧ s.sampleFrequency ≠ 0 := by
  unfold AlsaStream.init at h
  split at h
  · cases h
  rename_i hargs
  push Not at hargs
  split at h
  · rename_i hresult
    exact absurd h hresult
  split at h
  · cases h
  rename_i hfreq
  exact ⟨hargs.1, hfreq⟩

theorem Takes.creates (h : Takes w.allocated (w.newStream r.stream) w') :
    Creates r w (w'.setMap r.stream.isHw
      ((w'.streamMap r.stream.isHw).insert r.stream.streamId w.allocated)) := by
  obtain ⟨hstreams, halloc, hused, hinit, hworkers, hitems, hbound⟩ := setMap_frame w' r.stream.isHw
    ((w'.streamMap r.stream.isHw).insert r.stream.streamId w.allocated)
  have hindex : w'.index = w.index := h.toSameMaps.index
  refine ⟨hstreams.trans h.streams, halloc.trans h.allocated, ?_, hused.trans h.used,
    hinit.trans h.initialized, ?_, ?_⟩
  · rw [index_insert, hindex]
  · rw [hworkers, hitems]
    exact h.service
  · rw [hworkers, hbound]
    exact h.boundWorkers

/-- **What a call to create a stream comes to.** -/
theorem create_cases (h : Inv w) :
    (¬ Accepted w r o ∧ (createAlsaStream c w r o).2 ≠ eIasAvbProcOK ∧
      SameStreams w (createAlsaStream c w r o).1) ∨
    (Accepted w r o ∧ ¬ WorkerFails w r o ∧ ¬ WorkerStartFails w r o ∧
      (createAlsaStream c w r o).2 = eIasAvbProcOK ∧ Creates r w (createAlsaStream c w r o).1) ∨
    (Accepted w r o ∧ WorkerFails w r o ∧ (createAlsaStream c w r o).2 ≠ eIasAvbProcOK ∧
      ∃ w', SameStreams w w' ∧ (createAlsaStream c w r o).1 = w'.useDeleted r.stream.isHw) ∨
    (Accepted w r o ∧ WorkerStartFails w r o ∧ (createAlsaStream c w r o).2 ≠ eIasAvbProcOK ∧
      ∃ t ∈ (createAlsaStream c w r o).1.mWorkerThreads,
        ∃ k ∈ (createAlsaStream c w r o).1.items t,
          (createAlsaStream c w r o).1.streams k = none) := by
  unfold createAlsaStream
  -- the checks of the call, one after the other
  by_cases hinit : w.mIsInitialized = false
  · rw [if_pos hinit]
    exact Or.inl ⟨fun ha => by simp [ha.1] at hinit, nofun, SameStreams.refl w⟩
  rw [if_neg hinit]
  by_cases hid : w.index (r.stream.isHw, r.stream.streamId) = none
  swap
  · have htaken : ((w.streamMap r.stream.isHw).lookup r.stream.streamId).isSome = true :=
      Option.isSome_iff_ne_none.mpr hid
    rw [if_pos htaken]
    exact Or.inl ⟨fun ha => hid ha.2.1, nofun, SameStreams.refl w⟩
  have hfree : ¬ ((w.streamMap r.stream.isHw).lookup r.stream.streamId).isSome = true :=
    fun hsome => Option.isSome_iff_ne_none.mp hsome hid
  rw [if_neg hfree]
  by_cases hname : w.deviceNameInUse r.stream = true
  · rw [if_pos hname]
    exact Or.inl ⟨fun ha => by simp [ha.2.2.1] at hname, nofun, SameStreams.refl w⟩
  rw [if_neg hname]
  by_cases hmemory : o.memory = false
  · rw [if_pos hmemory]
    exact Or.inl ⟨fun ha => by simp [ha.2.2.2.1] at hmemory, nofun, SameStreams.refl w⟩
  rw [if_neg hmemory]
  dsimp only
  -- from here on the stream is allocated, and what fails deletes it again
  have hgone : ∀ w' : IasAlsaEngine,
      w'.streams = Function.update w.streams w.allocated (some r.stream) →
      (w'.setStream w.allocated none).streams = w.streams := by
    intro w' hw'
    show Function.update w'.streams w.allocated none = w.streams
    rw [hw', Function.update_idem, ← h.streams_allocated, Function.update_eq_self]
  by_cases hstream : r.stream.init o.init = eIasAvbProcOK
  swap
  · rw [if_pos hstream]
    exact Or.inl ⟨fun ha => hstream ha.2.2.2.2, hstream, hgone _ rfl, rfl, rfl, rfl,
      Nat.le_succ _, rfl, rfl, rfl⟩
  rw [if_neg fun hne => hne hstream]
  have haccepted : Accepted w r o :=
    ⟨by simpa using hinit, hid, by simpa using hname, by simpa using hmemory, hstream⟩
  obtain ⟨hperiod, hfreq⟩ := init_eq_ok hstream
  have hnew : ∀ t ∈ w.mWorkerThreads, w.allocated ∉ w.items t := fun t ht hmem =>
    (h.service.served _).mpr ⟨t, ht, hmem⟩ h.streams_allocated
  have hassign := @assign_cases c (w.newStream r.stream) r o w.allocated hperiod hfreq
    h.boundWorkers hnew
  rcases hassign with ⟨hfails, hstart, w', heq, htakes⟩ | ⟨hfails, result, hresult, heq⟩ |
    ⟨hstart, d, hd, result, hresult, heq⟩
  · -- a worker serves it
    rw [heq]
    exact Or.inr (Or.inl ⟨haccepted, hfails, hstart, rfl, htakes.creates⟩)
  · -- no worker was made: what was deleted is still looked at
    refine Or.inr (Or.inr (Or.inl ⟨haccepted, hfails, ?_⟩))
    rw [heq]
    split
    · rename_i hok
      exact absurd (Prod.mk.inj hok).2 hresult
    · rename_i hbad
      rw [← (Prod.mk.inj hbad).1, ← (Prod.mk.inj hbad).2]
      exact ⟨hresult, (w.newStream r.stream).setStream w.allocated none,
        ⟨hgone _ rfl, rfl, rfl, rfl, Nat.le_succ _, rfl, rfl, rfl⟩, rfl⟩
  · -- the worker that could not be started still serves the deleted stream
    refine Or.inr (Or.inr (Or.inr ⟨haccepted, hstart, ?_⟩))
    rw [heq]
    split
    · rename_i hok
      exact absurd (Prod.mk.inj hok).2 hresult
    · rename_i hbad
      rw [← (Prod.mk.inj hbad).1, ← (Prod.mk.inj hbad).2]
      refine ⟨hresult, w.allocatedWorkers, List.mem_append_right _ (List.mem_singleton_self _),
        w.allocated, ?_, Function.update_self _ _ _⟩
      show w.allocated ∈ (Function.update w.worker w.allocatedWorkers d
        w.allocatedWorkers).mAlsaStreams
      rw [Function.update_self, hd]
      exact List.mem_singleton_self _

/-- A stream that is removed is in no worker thread any more, and in no map. -/
structure Destroys (k : Nat) (key : Bool × UInt16) (w w' : IasAlsaEngine) : Prop where
  streams : w'.streams = Function.update w.streams k none
  index : w'.index = Function.update w.index key none
  allocated : w'.allocated = w.allocated
  used : w'.usedAfterDeletion = w.usedAfterDeletion
  initialized : w'.mIsInitialized = w.mIsInitialized
  service : Assigned (fun j => j ≠ k ∧ w.streams j ≠ none) w'.mWorkerThreads w'.items
  boundWorkers : ∀ t ∈ w'.mWorkerThreads, t < w'.allocatedWorkers

theorem Drops.destroys (hd : Drops k w w') (h : Inv w) :
    Destroys k (hw, streamId) w
      ((w'.setMap hw ((w'.streamMap hw).erase streamId)).setStream k none) := by
  obtain ⟨hstreams, halloc, hused, hinit, hworkers, hitems, hbound⟩ :=
    setMap_frame w' hw ((w'.streamMap hw).erase streamId)
  refine ⟨?_, ?_, halloc.trans hd.allocated, hused.trans hd.used, hinit.trans hd.initialized,
    ?_, ?_⟩
  · show Function.update (w'.setMap hw _).streams k none = _
    rw [hstreams, hd.streams]
  · show (w'.setMap hw _).index = _
    rw [index_erase, hd.toSameMaps.index]
  · show Assigned _ (w'.setMap hw _).mWorkerThreads (w'.setMap hw _).items
    rw [hworkers, hitems]
    exact hd.service _ h.service
  · show ∀ t ∈ (w'.setMap hw _).mWorkerThreads, t < (w'.setMap hw _).allocatedWorkers
    rw [hworkers, hbound]
    exact hd.boundWorkers h.boundWorkers

/-- **A stream in one of the maps is destroyed, or nothing is.** -/
theorem destroyFound_cases (h : Inv w) (hk : w.index (hw, streamId) = some k) :
    ((w.destroyFound hw streamId k).2 ≠ eIasAvbProcOK ∧
      SameStreams w (w.destroyFound hw streamId k).1) ∨
    ((w.destroyFound hw streamId k).2 = eIasAvbProcOK ∧
      Destroys k (hw, streamId) w (w.destroyFound hw streamId k).1) := by
  unfold destroyFound
  have hlabel := (h.registry _ _).mp hk
  cases hs : w.streams k with
  | none =>
      rw [label_eq_none.mpr hs] at hlabel
      cases hlabel
  | some s =>
      dsimp only
      split
      · exact Or.inl ⟨nofun, SameStreams.refl w⟩
      rcases remove_cases w k s with ⟨result, hresult, heq⟩ | ⟨w', heq, hdrops⟩
      · rw [heq]
        left
        split
        · rename_i hok
          exact absurd (Prod.mk.inj hok).2 hresult
        · rename_i hbad
          rw [← (Prod.mk.inj hbad).1, ← (Prod.mk.inj hbad).2]
          exact ⟨hresult, SameStreams.refl w⟩
      · rw [heq]
        exact Or.inr ⟨rfl, hdrops.destroys h⟩

/-! ## What is kept -/

theorem inv_new : Inv {} where
  idle _ _ := rfl
  bound _ hk := absurd rfl hk
  boundWorkers := nofun
  registry := by
    intro key k
    obtain ⟨hw, id⟩ := key
    refine iff_of_false (fun h => ?_) nofun
    cases hw <;> cases h
  named _ _ _ _ hs := nomatch hs
  service := (assigned_empty _).congr fun _ => iff_of_false (fun h => h rfl) id
  unused := rfl

/-- A stream with a name and direction of its own is created. -/
theorem inv_creates (h : Inv w) (hc : Creates r w w') (hinit : w.mIsInitialized = true)
    (hid : w.index (r.stream.isHw, r.stream.streamId) = none) (hpair : ¬ w.PairInUse r.stream) :
    Inv w' where
  idle hidle := by
    rw [hc.initialized, hinit] at hidle
    cases hidle
  bound k hk := by
    rw [hc.allocated]
    rw [hc.streams] at hk
    by_cases heq : k = w.allocated
    · rw [heq]
      exact Nat.lt_succ_self _
    · rw [Function.update_of_ne heq] at hk
      exact Nat.lt_succ_of_lt (h.bound k hk)
  boundWorkers := hc.boundWorkers h.boundWorkers
  registry := by
    have hlabel : w'.label = Function.update w.label w.allocated
        (some (r.stream.isHw, r.stream.streamId)) := by
      unfold label
      rw [hc.streams]
      exact label_update w.allocated (some r.stream)
    rw [hc.index, hlabel]
    exact h.registry.add hid (label_eq_none.mpr h.streams_allocated)
  named := by
    -- every stream but the new one was there before
    have hother : ∀ k s, w'.streams k = some s → k = w.allocated ∧ s = r.stream ∨
        w.streams k = some s := by
      intro k s hs
      rw [hc.streams] at hs
      by_cases heq : k = w.allocated
      · rw [heq, Function.update_self] at hs
        exact Or.inl ⟨heq, (Option.some.inj hs).symm⟩
      · rw [Function.update_of_ne heq] at hs
        exact Or.inr hs
    intro k k' s s' hs hs' hname hdir
    rcases hother k s hs with ⟨rfl, rfl⟩ | hold
    · rcases hother k' s' hs' with ⟨rfl, -⟩ | hold'
      · rfl
      · exact absurd ⟨k', s', hold', hname.symm, hdir.symm⟩ hpair
    · rcases hother k' s' hs' with ⟨rfl, rfl⟩ | hold'
      · exact absurd ⟨k, s, hold, hname, hdir⟩ hpair
      · exact h.named k k' s s' hold hold' hname hdir
  service := by
    refine (hc.service _ (fun hne => hne h.streams_allocated) h.service).congr fun k => ?_
    rw [hc.streams]
    by_cases heq : k = w.allocated
    · simp [heq]
    · simp [heq]
  unused := hc.used.trans h.unused

theorem inv_destroys {key : Bool × UInt16} (h : Inv w) (hd : Destroys k key w w')
    (hk : w.index key = some k) : Inv w' := by
  have hkeep : ∀ j s, w'.streams j = some s → j ≠ k ∧ w.streams j = some s := by
    intro j s hs
    rw [hd.streams] at hs
    by_cases heq : j = k
    · rw [heq, Function.update_self] at hs
      cases hs
    · rw [Function.update_of_ne heq] at hs
      exact ⟨heq, hs⟩
  have hsome : ∀ j, w'.streams j ≠ none ↔ j ≠ k ∧ w.streams j ≠ none := by
    intro j
    rw [hd.streams]
    by_cases heq : j = k
    · simp [heq]
    · simp [heq]
  refine ⟨?_, ?_, hd.boundWorkers, ?_, ?_, hd.service.congr hsome, hd.used.trans h.unused⟩
  · intro hidle j
    by_contra hne
    exact ((hsome j).mp hne).2 (h.idle (hd.initialized ▸ hidle) j)
  · intro j hj
    rw [hd.allocated]
    exact h.bound j ((hsome j).mp hj).2
  · have hlabel : w'.label = Function.update w.label k none := by
      unfold label
      rw [hd.streams]
      exact label_update k none
    rw [hd.index, hlabel]
    exact h.registry.remove hk
  · intro j j' s s' hs hs'
    exact h.named j j' s s' (hkeep j s hs).2 (hkeep j' s' hs').2

theorem inv_destroyFound (h : Inv w) (hk : w.index (hw, streamId) = some k) :
    Inv (w.destroyFound hw streamId k).1 := by
  rcases destroyFound_cases h hk with ⟨-, hsame⟩ | ⟨-, hdestroys⟩
  · exact h.of_same hsame
  · exact inv_destroys h hdestroys hk

theorem inv_destroy (h : Inv w) (streamId : UInt16) : Inv (w.destroyAlsaStream streamId).1 := by
  unfold destroyAlsaStream
  split
  · exact h
  split
  · rename_i k hk
    exact @inv_destroyFound w k true streamId h hk
  · split
    · rename_i k hk
      exact @inv_destroyFound w k false streamId h hk
    · exact h

theorem inv_init (h : Inv w) : Inv w.init.1 := by
  unfold init
  split
  · exact h
  rename_i hidle
  have hnone := h.idle (by simpa using hidle)
  refine ⟨nofun, h.bound, nofun, ?_, h.named, ?_, h.unused⟩
  · intro key k
    refine iff_of_false (fun hkey => ?_) fun hlabel => ?_
    · obtain ⟨hw, id⟩ := key
      cases hw <;> cases hkey
    · have hk : w.label k = some key := hlabel
      rw [label_eq_none.mpr (hnone k)] at hk
      cases hk
  · exact (assigned_empty _).congr fun k => iff_of_false (fun hk => hk (hnone k)) id

/-- A stream stays what it is when a network stream takes it. -/
theorem inv_setConnected (h : Inv w) (k : Nat) (connected : Bool) :
    Inv (w.setConnected k connected) := by
  unfold setConnected
  cases hs : w.streams k with
  | none =>
      have hsame : Function.update w.streams k none = w.streams := by
        rw [← hs, Function.update_eq_self]
      exact h.of_same ⟨hsame, rfl, rfl, rfl, Nat.le_refl _, rfl, rfl, rfl⟩
  | some s =>
      have hold : ∀ j s', Function.update w.streams k (some { s with connected := connected }) j
          = some s' → ∃ s'', w.streams j = some s'' ∧ s''.deviceName = s'.deviceName ∧
            s''.direction = s'.direction := by
        intro j s' hs'
        by_cases heq : j = k
        · rw [heq, Function.update_self] at hs'
          rw [← Option.some.inj hs', heq]
          exact ⟨s, hs, rfl, rfl⟩
        · rw [Function.update_of_ne heq] at hs'
          exact ⟨s', hs', rfl, rfl⟩
      have hsome : ∀ j, Function.update w.streams k (some { s with connected := connected }) j
          ≠ none ↔ w.streams j ≠ none := by
        intro j
        by_cases heq : j = k
        · simp [heq, hs]
        · simp [heq]
      refine ⟨?_, fun j hj => h.bound j ((hsome j).mp hj), h.boundWorkers, ?_, ?_,
        h.service.congr hsome, h.unused⟩
      · intro hidle
        have hnone := h.idle hidle k
        rw [hs] at hnone
        cases hnone
      · have hlabel : (w.setStream k (some { s with connected := connected })).label = w.label := by
          show (fun j => (Function.update w.streams k (some _) j).map _) = _
          rw [label_update]
          exact Function.update_eq_iff.mpr ⟨(label_eq_some hs).symm, fun _ _ => rfl⟩
        show Agree w.index (w.setStream k (some { s with connected := connected })).label
        rw [hlabel]
        exact h.registry
      · intro j j' s₁ s₂ hs₁ hs₂ hname hdir
        obtain ⟨s₁', hs₁', hname₁, hdir₁⟩ := hold j s₁ hs₁
        obtain ⟨s₂', hs₂', hname₂, hdir₂⟩ := hold j' s₂ hs₂
        exact h.named j j' s₁' s₂' hs₁' hs₂' (by rw [hname₁, hname₂, hname])
          (by rw [hdir₁, hdir₂, hdir])

end IasAlsaEngine

end AvbStreamHandler
