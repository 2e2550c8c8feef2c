import AvbStreamHandler.Alsa.AlsaRegistry

/-!
# The registry of ALSA streams, over whole runs

What is asked of a call to create a stream, so that the registry is sound after it, and that
nothing less will do.
-/

namespace AvbStreamHandler

open Kit Kit.Run Kit.Registry Kit.Bins IasAvbProcessingResult

namespace IasAlsaEngine

variable {c : AlsaConfig} {w : IasAlsaEngine}

/-- The call does not come across one of the four things that go wrong. -/
structure CreateOk (w : IasAlsaEngine) (r : AlsaRequest) (o : AlsaOutcome) : Prop where
  /-- The name is not just part of another one. -/
  rejected : NameRejected w r.stream → w.PairInUse r.stream
  /-- Nor is it in use where it is not looked for. -/
  named : Accepted w r o → ¬ WorkerFails w r o → ¬ WorkerStartFails w r o →
    ¬ w.PairInUse r.stream
  /-- A device of the hardware gets a worker thread. -/
  taken : Accepted w r o → WorkerFails w r o → r.stream.isHw = false
  /-- A new worker thread starts. -/
  started : Accepted w r o → ¬ WorkerStartFails w r o

instance (w : IasAlsaEngine) (s : AlsaStream) : Decidable (NameRejected w s) :=
  inferInstanceAs (Decidable (_ ∧ _ ∧ _))

def StepOk (w : IasAlsaEngine) : AlsaEvent → Prop
  | .createAlsaStream request outcome => CreateOk w request outcome
  | _ => True

/-- What a step is to do. -/
structure Good (c : AlsaConfig) (w : IasAlsaEngine) (e : AlsaEvent) : Prop where
  sound : Sound (step c w e)
  /-- A stream is there from the call that created it, -/
  created : ∀ r o, e = .createAlsaStream r o → (createAlsaStream c w r o).2 = eIasAvbProcOK →
    (step c w e).streams w.allocated = some r.stream
  /-- to the one that destroyed it. -/
  kept : ∀ k, w.streams k ≠ none → (step c w e).streams k = none →
    ∃ streamId, e = .destroyAlsaStream streamId ∧
      (w.destroyAlsaStream streamId).2 = eIasAvbProcOK ∧ w.getLocalAudioStream streamId = some k
  /-- A name is rejected if it is in use with the direction. -/
  rejected : ∀ r o, e = .createAlsaStream r o → NameRejected w r.stream → w.PairInUse r.stream

/-! ## One step -/

theorem SameStreams.useDeleted_false {w' : IasAlsaEngine} (h : SameStreams w w') :
    SameStreams w (w'.useDeleted false) :=
  ⟨h.streams, h.index, h.workers, h.items, h.allocated, h.allocatedWorkers,
    by show (w'.usedAfterDeletion || false) = _; rw [Bool.or_false, h.used], h.initialized⟩

/-- A call that meets nothing that goes wrong creates a stream, or leaves all as it was. -/
theorem create_ok {r : AlsaRequest} {o : AlsaOutcome} (h : Inv w) (hok : CreateOk w r o) :
    SameStreams w (createAlsaStream c w r o).1 ∨
      (Accepted w r o ∧ ¬ w.PairInUse r.stream ∧
        Creates r w (createAlsaStream c w r o).1) := by
  rcases @create_cases c w r o h with ⟨-, -, hsame⟩ | ⟨ha, hf, hs, -, hc⟩ |
    ⟨ha, hf, -, w', hsame, heq⟩ | ⟨ha, hs, -⟩
  · exact Or.inl hsame
  · exact Or.inr ⟨ha, hok.named ha hf hs, hc⟩
  · rw [heq, hok.taken ha hf]
    exact Or.inl hsame.useDeleted_false
  · exact absurd hs (hok.started ha)

/-- **Kept by every step** that meets nothing that goes wrong. -/
theorem inv_step (w : IasAlsaEngine) (e : AlsaEvent) (h : Inv w) (hok : StepOk w e) :
    Inv (step c w e) := by
  cases e with
  | init => exact inv_init h
  | createAlsaStream r o =>
      rcases @create_ok c w r o h hok with hsame | ⟨ha, hpair, hc⟩
      · exact h.of_same hsame
      · exact inv_creates h hc ha.1 ha.2.1 hpair
  | destroyAlsaStream streamId => exact inv_destroy h streamId
  | setConnected k connected => exact inv_setConnected h k connected
  | start =>
      show Inv w.start.1
      unfold start
      split
      · exact ⟨h.idle, h.bound, h.boundWorkers, h.registry, h.named, h.service, h.unused⟩
      · exact h
  | stop =>
      show Inv w.stop.1
      unfold stop
      split
      · exact ⟨h.idle, h.bound, h.boundWorkers, h.registry, h.named, h.service, h.unused⟩
      · exact h

/-- A stream that is there is destroyed under its own id only. -/
theorem kept_step (h : Inv w) {e : AlsaEvent} (hok : StepOk w e) {k : Nat}
    (hk : w.streams k ≠ none) (hgone : (step c w e).streams k = none) :
    ∃ streamId, e = .destroyAlsaStream streamId ∧
      (w.destroyAlsaStream streamId).2 = eIasAvbProcOK ∧
      w.getLocalAudioStream streamId = some k := by
  have hsame : (step c w e).streams = w.streams → False := fun heq => hk (heq ▸ hgone)
  cases e with
  | init =>
      refine (hsame ?_).elim
      show w.init.1.streams = _
      unfold init
      split <;> rfl
  | createAlsaStream r o =>
      exfalso
      rcases @create_ok c w r o h hok with hs | ⟨-, -, hc⟩
      · exact hsame hs.streams
      · have hne : k ≠ w.allocated := fun heq => hk (heq ▸ h.streams_allocated)
        have hstreams : (createAlsaStream c w r o).1.streams k = none := hgone
        rw [hc.streams, Function.update_of_ne hne] at hstreams
        exact hk hstreams
  | destroyAlsaStream streamId =>
      refine ⟨streamId, rfl, ?_⟩
      have hgone' : (w.destroyAlsaStream streamId).1.streams k = none := hgone
      -- the stream found under the id is the only one that goes
      have hfound : ∀ hw j, w.index (hw, streamId) = some j →
          (w.destroyFound hw streamId j).1.streams k = none →
          (w.destroyFound hw streamId j).2 = eIasAvbProcOK ∧ j = k := by
        intro hw j hj hnone
        rcases destroyFound_cases h hj with ⟨-, hs⟩ | ⟨hres, hd⟩
        · rw [hs.streams] at hnone
          exact absurd hnone hk
        · refine ⟨hres, ?_⟩
          by_contra hne
          rw [hd.streams, Function.update_of_ne (Ne.symm hne)] at hnone
          exact hk hnone
      unfold destroyAlsaStream at hgone' ⊢
      unfold getLocalAudioStream
      split at hgone'
      · exact absurd hgone' hk
      rename_i hinit
      rw [if_neg hinit]
      -- hardware devices are looked through first, then virtual ones
      cases hhw : w.mAlsaHwDevStreams.lookup streamId with
      | some j =>
          rw [hhw] at hgone'
          obtain ⟨hres, rfl⟩ := hfound true j hhw hgone'
          exact ⟨hres, rfl⟩
      | none =>
          rw [hhw] at hgone'
          dsimp only at hgone' ⊢
          cases hvi : w.mAlsaViDevStreams.lookup streamId with
          | some j =>
              rw [hvi] at hgone'
              obtain ⟨hres, rfl⟩ := hfound false j hvi hgone'
              exact ⟨hres, rfl⟩
          | none =>
              rw [hvi] at hgone'
              exact absurd hgone' hk
  | setConnected j connected =>
      exfalso
      have hnone : Function.update w.streams j
          ((w.streams j).map fun s => { s with connected := connected }) k = none := hgone
      by_cases heq : k = j
      · rw [heq, Function.update_self, Option.map_eq_none_iff] at hnone
        exact hk (heq ▸ hnone)
      · rw [Function.update_of_ne heq] at hnone
        exact hk hnone
  | start =>
      refine (hsame ?_).elim
      show w.start.1.streams = _
      unfold start
      split <;> rfl
  | stop =>
      refine (hsame ?_).elim
      show w.stop.1.streams = _
      unfold stop
      split <;> rfl

theorem good_of_ok (h : Inv w) {e : AlsaEvent} (hok : StepOk w e) : Good c w e where
  sound := (inv_step w e h hok).sound
  created := by
    rintro r o rfl hres
    rcases @create_cases c w r o h with ⟨-, hbad, -⟩ | ⟨-, -, -, -, hc⟩ | ⟨-, -, hbad, -⟩ |
      ⟨-, -, hbad, -⟩
    · exact absurd hres hbad
    · show (createAlsaStream c w r o).1.streams w.allocated = _
      rw [hc.streams, Function.update_self]
    · exact absurd hres hbad
    · exact absurd hres hbad
  kept _ hk hgone := kept_step h hok hk hgone
  rejected := by
    rintro r o rfl hrej
    exact hok.rejected hrej

/-- And nothing less will do. -/
theorem ok_of_good (h : Inv w) {e : AlsaEvent} (hgood : Good c w e) : StepOk w e := by
  cases e with
  | createAlsaStream r o =>
      have hsound : Sound (createAlsaStream c w r o).1 := hgood.sound
      refine ⟨hgood.rejected r o rfl, ?_, ?_, ?_⟩
      · rintro ha hf hs ⟨k, s, hk, hname, hdir⟩
        rcases @create_cases c w r o h with ⟨hna, -⟩ | ⟨-, -, -, -, hc⟩ | ⟨-, hf', -⟩ |
          ⟨-, hs', -⟩
        · exact hna ha
        · have hne : k ≠ w.allocated := by
            rintro rfl
            rw [h.streams_allocated] at hk
            cases hk
          have hold : (createAlsaStream c w r o).1.streams k = some s := by
            rw [hc.streams, Function.update_of_ne hne, hk]
          have hnew : (createAlsaStream c w r o).1.streams w.allocated = some r.stream := by
            rw [hc.streams, Function.update_self]
          exact hne (hsound.named k w.allocated s r.stream hold hnew hname hdir)
        · exact hf hf'
        · exact hs hs'
      · intro ha hf
        rcases @create_cases c w r o h with ⟨hna, -⟩ | ⟨-, hf', -⟩ | ⟨-, -, -, w', -, heq⟩ |
          ⟨-, hs, -⟩
        · exact absurd ha hna
        · exact absurd hf hf'
        · have hunused := hsound.unused
          rw [heq] at hunused
          have hboth : (w'.usedAfterDeletion || r.stream.isHw) = false := hunused
          rw [Bool.or_eq_false_iff] at hboth
          exact hboth.2
        · exact absurd hf hs.2.1
      · intro ha hs
        rcases @create_cases c w r o h with ⟨hna, -⟩ | ⟨-, -, hs', -⟩ | ⟨-, hf, -⟩ |
          ⟨-, -, -, t, ht, k, hk, hdead⟩
        · exact hna ha
        · exact hs' hs
        · exact hs.2.1 hf
        · exact hsound.alive t ht k hk hdead
  | _ => trivial

/-! ## Every run -/

/-- **The registry is sound all along exactly if no call meets what goes wrong.** -/
theorem registry_sound_iff (c : AlsaConfig) (es : List AlsaEvent) :
    Always (step c) (Good c) {} es ↔ Always (step c) StepOk {} es :=
  always_congr (fun _ _ h => ⟨ok_of_good h, good_of_ok h⟩)
    (fun w e h hgood => inv_step w e h (ok_of_good h hgood)) inv_new

/-- A virtual device. -/
def virtualRequest (streamId : UInt16) (deviceName : String) : AlsaRequest where
  stream :=
    { alsaDeviceType := .eIasAlsaVirtualDevice, direction := .eIasAvbReceiveFromNetwork,
      streamId := streamId, deviceName := deviceName, periodSize := 256,
      sampleFrequency := 48000 }
  clockDomain := some 0

/-- A name is rejected because another one ends with it. -/
theorem registry_rejects_unused_name :
    ¬ Always (step {}) (Good {}) {}
      [.init, .createAlsaStream (virtualRequest 1 "mstereo_0") {},
        .createAlsaStream (virtualRequest 2 "stereo_0") {}] := by
  rintro ⟨-, -, hgood, -⟩
  obtain ⟨k, s, hs, hname, -⟩ := hgood.rejected _ _ rfl (by decide +kernel)
  cases k with
  | zero =>
      have hold : s.deviceName = "mstereo_0" := by
        rw [← Option.some.inj hs]
        rfl
      exact absurd (hold.symm.trans hname) (by decide)
  | succ k => cases hs

end IasAlsaEngine

end AvbStreamHandler
