import AvbStreamHandler.Alsa.AlsaRegistry

/-!
# What the calls do to the maps

Whatever the worker threads do: a call to create a stream files it, or leaves the maps and the
streams as they were; a call to destroy one takes it out, or leaves them. Nothing is assumed
about the state but that the number of the next stream is not taken.
-/

namespace AvbStreamHandler

open Kit IasAvbProcessingResult

namespace IasAlsaEngine

variable {c : AlsaConfig} {w w' : IasAlsaEngine} {r : AlsaRequest} {o : AlsaOutcome}
  {s : AlsaStream} {k : Nat} {hw : Bool} {streamId : UInt16}

/-- **The same maps**, with the same streams. -/
structure SameIndex (w w' : IasAlsaEngine) : Prop where
  streams : w'.streams = w.streams
  index : w'.index = w.index
  allocated : w.allocated ≤ w'.allocated

theorem SameIndex.refl (w : IasAlsaEngine) : SameIndex w w := ⟨rfl, rfl, Nat.le_refl _⟩

theorem SameIndex.label (h : SameIndex w w') : w'.label = w.label := by
  funext k
  unfold IasAlsaEngine.label
  rw [h.streams]

/-- Worker threads have nothing to do with the maps. -/
theorem assign_sameMaps (c : AlsaConfig) (w : IasAlsaEngine) (k : Nat) (r : AlsaRequest)
    (o : AlsaOutcome) : SameMaps w (assignToWorkerThread c w k r o).1 := by
  unfold assignToWorkerThread
  split
  · exact ⟨rfl, rfl, rfl, rfl, rfl, rfl⟩
  split
  · exact ⟨rfl, rfl, rfl, rfl, rfl, rfl⟩
  split
  · exact ⟨rfl, rfl, rfl, rfl, rfl, rfl⟩
  split <;> exact ⟨rfl, rfl, rfl, rfl, rfl, rfl⟩

/-- The stream is in its map. -/
structure Files (r : AlsaRequest) (w w' : IasAlsaEngine) : Prop where
  free : w.index (r.stream.isHw, r.stream.streamId) = none
  streams : w'.streams = Function.update w.streams w.allocated (some r.stream)
  index : w'.index =
    Function.update w.index (r.stream.isHw, r.stream.streamId) (some w.allocated)
  allocated : w'.allocated = w.allocated + 1

/-- **A call to create a stream files it, or changes no map.** -/
theorem create_index (hnew : w.streams w.allocated = none) :
    ((createAlsaStream c w r o).2 ≠ eIasAvbProcOK ∧
      SameIndex w (createAlsaStream c w r o).1) ∨
    ((createAlsaStream c w r o).2 = eIasAvbProcOK ∧ Files r w (createAlsaStream c w r o).1) := by
  have hgone : ∀ w' : IasAlsaEngine,
      w'.streams = Function.update w.streams w.allocated (some r.stream) →
      (w'.setStream w.allocated none).streams = w.streams := by
    intro w' hw'
    show Function.update w'.streams w.allocated none = w.streams
    rw [hw', Function.update_idem, ← hnew, Function.update_eq_self]
  unfold createAlsaStream
  split
  · exact Or.inl ⟨nofun, SameIndex.refl w⟩
  split
  · exact Or.inl ⟨nofun, SameIndex.refl w⟩
  rename_i hid
  split
  · exact Or.inl ⟨nofun, SameIndex.refl w⟩
  split
  · exact Or.inl ⟨nofun, SameIndex.refl w⟩
  dsimp only
  split
  · rename_i hinit
    exact Or.inl ⟨hinit, hgone _ rfl, rfl, Nat.le_succ _⟩
  have hmaps := assign_sameMaps c (w.newStream r.stream) w.allocated r o
  split
  · rename_i w' heq
    rw [heq] at hmaps
    obtain ⟨hstreams, halloc, -, -, -, -, -⟩ := setMap_frame w' r.stream.isHw
      ((w'.streamMap r.stream.isHw).insert r.stream.streamId w.allocated)
    refine Or.inr ⟨rfl, ?_, hstreams.trans hmaps.streams, ?_, halloc.trans hmaps.allocated⟩
    · unfold index
      simpa using hid
    · rw [index_insert, hmaps.index]
      rfl
  · rename_i w' result hok heq
    rw [heq] at hmaps
    refine Or.inl ⟨hok, hgone w' hmaps.streams, hmaps.index, ?_⟩
    show w.allocated ≤ w'.allocated
    rw [hmaps.allocated]
    exact Nat.le_succ _

/-- The stream is out of its map. -/
structure Unfiles (k : Nat) (key : Bool × UInt16) (w w' : IasAlsaEngine) : Prop where
  filed : w.index key = some k
  streams : w'.streams = Function.update w.streams k none
  index : w'.index = Function.update w.index key none
  allocated : w'.allocated = w.allocated

theorem destroyFound_index (hk : w.index (hw, streamId) = some k) :
    ((w.destroyFound hw streamId k).2 ≠ eIasAvbProcOK ∧
      SameIndex w (w.destroyFound hw streamId k).1) ∨
    ((w.destroyFound hw streamId k).2 = eIasAvbProcOK ∧
      Unfiles k (hw, streamId) w (w.destroyFound hw streamId k).1) := by
  unfold destroyFound
  split
  · exact Or.inl ⟨nofun, rfl, rfl, Nat.le_refl _⟩
  rename_i s hs
  split
  · exact Or.inl ⟨nofun, SameIndex.refl w⟩
  rcases remove_cases w k s with ⟨result, hresult, heq⟩ | ⟨w', heq, hdrops⟩
  · rw [heq]
    left
    split
    · rename_i hok
      exact absurd (Prod.mk.inj hok).2 hresult
    · rename_i hbad
      rw [← (Prod.mk.inj hbad).1, ← (Prod.mk.inj hbad).2]
      exact ⟨hresult, SameIndex.refl w⟩
  · rw [heq]
    obtain ⟨hstreams, halloc, -, -, -, -, -⟩ := setMap_frame w' hw
      ((w'.streamMap hw).erase streamId)
    refine Or.inr ⟨rfl, hk, ?_, ?_, halloc.trans hdrops.allocated⟩
    · show Function.update (w'.setMap hw _).streams k none = _
      rw [hstreams, hdrops.streams]
    · show (w'.setMap hw _).index = _
      rw [index_erase, hdrops.toSameMaps.index]

/-- **A call to destroy a stream takes out the one under that id, or changes no map.** -/
theorem destroy_index (w : IasAlsaEngine) (streamId : UInt16) :
    SameIndex w (w.destroyAlsaStream streamId).1 ∨
      ∃ hw k, Unfiles k (hw, streamId) w (w.destroyAlsaStream streamId).1 := by
  unfold destroyAlsaStream
  split
  · exact Or.inl (SameIndex.refl w)
  split
  · rename_i k hk
    rcases @destroyFound_index w k true streamId hk with ⟨-, hsame⟩ | ⟨-, hout⟩
    · exact Or.inl hsame
    · exact Or.inr ⟨true, k, hout⟩
  · split
    · rename_i k hk
      rcases @destroyFound_index w k false streamId hk with ⟨-, hsame⟩ | ⟨-, hout⟩
      · exact Or.inl hsame
      · exact Or.inr ⟨false, k, hout⟩
    · exact Or.inl (SameIndex.refl w)

/-- A stream keeps its kind and its id when a network stream takes it. -/
theorem setConnected_index (w : IasAlsaEngine) (k : Nat) (connected : Bool) :
    (w.setConnected k connected).label = w.label ∧ (w.setConnected k connected).index = w.index ∧
      ∀ j, (w.setConnected k connected).streams j ≠ none → w.streams j ≠ none := by
  refine ⟨?_, rfl, ?_⟩
  · show (fun j => (Function.update w.streams k _ j).map _) = _
    rw [label_update, Option.map_map]
    exact Function.update_eq_self k w.label
  · intro j hj
    have hj' : Function.update w.streams k
        ((w.streams k).map fun s => { s with connected := connected }) j ≠ none := hj
    by_cases heq : j = k
    · rw [heq, Function.update_self] at hj'
      rw [heq]
      exact fun hnone => hj' (by rw [hnone]; rfl)
    · rwa [Function.update_of_ne heq] at hj'

/-! ## The state of the engine -/

/-- The engine is initialized and started as before. -/
structure SameState (w w' : IasAlsaEngine) : Prop where
  initialized : w'.mIsInitialized = w.mIsInitialized
  started : w'.mIsStarted = w.mIsStarted

theorem SameState.refl (w : IasAlsaEngine) : SameState w w := ⟨rfl, rfl⟩

theorem SameState.trans {w'' : IasAlsaEngine} (h : SameState w w') (h' : SameState w' w'') :
    SameState w w'' := ⟨h'.initialized.trans h.initialized, h'.started.trans h.started⟩

theorem setMap_sameState (w : IasAlsaEngine) (hw : Bool) (m : AList fun _ : UInt16 => Nat) :
    SameState w (w.setMap hw m) := by
  cases hw <;> exact ⟨rfl, rfl⟩

theorem assign_sameState (c : AlsaConfig) (w : IasAlsaEngine) (k : Nat) (r : AlsaRequest)
    (o : AlsaOutcome) : SameState w (assignToWorkerThread c w k r o).1 := by
  unfold assignToWorkerThread
  split
  · exact .refl w
  split
  · exact ⟨rfl, rfl⟩
  split
  · exact .refl w
  split <;> exact ⟨rfl, rfl⟩

/-- **No call to create a stream starts or stops the engine.** -/
theorem create_sameState (c : AlsaConfig) (w : IasAlsaEngine) (r : AlsaRequest)
    (o : AlsaOutcome) : SameState w (createAlsaStream c w r o).1 := by
  unfold createAlsaStream
  split
  · exact .refl w
  split
  · exact .refl w
  split
  · exact .refl w
  split
  · exact .refl w
  dsimp only
  split
  · exact ⟨rfl, rfl⟩
  have hassign := assign_sameState c (w.newStream r.stream) w.allocated r o
  split
  · rename_i w' heq
    rw [heq] at hassign
    have hassign : SameState w w' := ⟨hassign.initialized, hassign.started⟩
    exact hassign.trans (setMap_sameState w' _ _)
  · rename_i w' result _ heq
    rw [heq] at hassign
    exact ⟨hassign.initialized, hassign.started⟩

theorem remove_sameState (w : IasAlsaEngine) (k : Nat) (s : AlsaStream) :
    SameState w (w.removeFromWorkerThread k s).1 := by
  unfold removeFromWorkerThread
  split
  · exact .refl w
  split
  · dsimp only
    split <;> exact ⟨rfl, rfl⟩
  · exact .refl w

theorem destroyFound_sameState (w : IasAlsaEngine) (hw : Bool) (streamId : UInt16) (k : Nat) :
    SameState w (w.destroyFound hw streamId k).1 := by
  unfold destroyFound
  split
  · exact ⟨rfl, rfl⟩
  split
  · exact .refl w
  rename_i s _ _
  have hremove := remove_sameState w k s
  split
  · rename_i w' heq
    rw [heq] at hremove
    have hset := hremove.trans (setMap_sameState w' hw ((w'.streamMap hw).erase streamId))
    exact ⟨hset.initialized, hset.started⟩
  · rename_i heq
    rw [heq] at hremove
    exact hremove

theorem destroy_sameState (w : IasAlsaEngine) (streamId : UInt16) :
    SameState w (w.destroyAlsaStream streamId).1 := by
  unfold destroyAlsaStream
  split
  · exact .refl w
  split
  · exact destroyFound_sameState w ..
  split
  · exact destroyFound_sameState w ..
  · exact .refl w

end IasAlsaEngine

end AvbStreamHandler
