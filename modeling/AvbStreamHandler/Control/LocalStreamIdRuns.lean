import AvbStreamHandler.Control.LocalStreamCalls

/-!
# The ids of local streams, over whole runs

No id is ever given twice as long as no test tone stream is asked for under the id of a video
stream.
-/

namespace AvbStreamHandler

open Kit Kit.Run IasAvbProcessingResult LocalStreamKind

namespace LocalStreams

variable {c : AlsaConfig} {w : LocalStreams}

/-- The id a call that creates a stream asks for, and what it returns. -/
def createResult (c : AlsaConfig) (w : LocalStreams) : LocalStreamEvent →
    Option (UInt16 × CreateResult)
  | .createAlsaStream streamId numberOfChannels request engineMemory outcome =>
      some (streamId,
        (createAlsaStream c w streamId numberOfChannels request engineMemory outcome).2)
  | .createTestToneStream streamId format memory initResult =>
      some (streamId, (w.createTestToneStream streamId format memory initResult).2)
  | .createLocalVideoStream streamId direction interfaceMemory memory initResult =>
      some (streamId,
        (w.createLocalVideoStream streamId direction interfaceMemory memory initResult).2)
  | _ => none

/-- A test tone stream that can be created is not asked for under the id of a video stream. -/
def StepOk (w : LocalStreams) : LocalStreamEvent → Prop
  | .createTestToneStream streamId format memory initResult =>
      streamId ≠ 0 → w.initialized = true → w.getLocalAudioStreamById streamId = none →
        format = .eIasAvbAudioFormatSafFloat → memory = true → initResult = eIasAvbProcOK →
        w.getLocalVideoStreamById streamId = none
  | _ => True

/-- What a step is to do. -/
structure Good (c : AlsaConfig) (w : LocalStreams) (e : LocalStreamEvent) : Prop where
  sound : Sound (step c w e)
  /-- A stream that is created is there under the id that is returned, which is the one that
  was asked for, if one was. -/
  created : ∀ asked r, createResult c w e = some (asked, r) → r.result = eIasAvbProcOK →
    (asked ≠ 0 → r.streamId = asked) ∧
      ∃ a, w.idOf a = none ∧ (step c w e).idOf a = some r.streamId

/-- **What a call to create a stream may do**, in one statement for the three kinds. -/
theorem createsOne_step (h : Inv w) {e : LocalStreamEvent} {asked : UInt16} {r : CreateResult}
    (he : createResult c w e = some (asked, r)) : CreatesOne asked w (step c w e) r := by
  cases e with
  | createAlsaStream streamId numberOfChannels request engineMemory outcome =>
      obtain ⟨rfl, rfl⟩ := Prod.mk.inj (Option.some.inj he)
      exact (createAlsaStream_cases h.fresh).1
  | createTestToneStream streamId format memory initResult =>
      obtain ⟨rfl, rfl⟩ := Prod.mk.inj (Option.some.inj he)
      exact (createTestToneStream_cases h.fresh).1
  | createLocalVideoStream streamId direction interfaceMemory memory initResult =>
      obtain ⟨rfl, rfl⟩ := Prod.mk.inj (Option.some.inj he)
      exact (createLocalVideoStream_cases h.fresh).1
  | _ => cases he

/-- The id a stream is created under is free. -/
theorem free_of_ok (h : Inv w) {e : LocalStreamEvent} (hok : StepOk w e) {asked : UInt16}
    {r : CreateResult} (he : createResult c w e = some (asked, r))
    (hres : r.result = eIasAvbProcOK) (kind : LocalStreamKind) :
    w.index (kind, r.streamId) = none := by
  cases e with
  | createAlsaStream streamId numberOfChannels request engineMemory outcome =>
      obtain ⟨rfl, rfl⟩ := Prod.mk.inj (Option.some.inj he)
      exact (createAlsaStream_cases h.fresh).2 hres kind
  | createTestToneStream streamId format memory initResult =>
      obtain ⟨rfl, rfl⟩ := Prod.mk.inj (Option.some.inj he)
      obtain ⟨hcreates, hchecks⟩ := @createTestToneStream_cases w streamId h.fresh format memory
        initResult
      by_cases h0 : streamId = 0
      · exact (hchecks hres).1 h0 kind
      · obtain ⟨hinit, haudio, hformat, hmemory, hresult⟩ := (hchecks hres).2 h0
        have hvideo := hok h0 hinit haudio hformat hmemory hresult
        rcases hcreates with ⟨hbad, -⟩ | ⟨-, -, hgiven, -⟩
        · exact absurd hres hbad
        · rw [hgiven h0]
          refine isLocalStreamIdInUse_eq_false.mp ?_ kind
          unfold isLocalStreamIdInUse
          rw [haudio, hvideo]
          rfl
  | createLocalVideoStream streamId direction interfaceMemory memory initResult =>
      obtain ⟨rfl, rfl⟩ := Prod.mk.inj (Option.some.inj he)
      exact (createLocalVideoStream_cases h.fresh).2 hres kind
  | _ => cases he

theorem inv_create (h : Inv w) {e : LocalStreamEvent} (hok : StepOk w e) {asked : UInt16}
    {r : CreateResult} (he : createResult c w e = some (asked, r)) : Inv (step c w e) := by
  rcases createsOne_step h he with ⟨-, -, hsame⟩ | ⟨hres, hid, -, kind, a, hadds⟩
  · exact h.of_same hsame
  · exact h.adds hadds hid (free_of_ok h hok he hres)

/-- **Kept by every step** but the one that gives an id twice. -/
theorem inv_step (w : LocalStreams) (e : LocalStreamEvent) (h : Inv w) (hok : StepOk w e) :
    Inv (step c w e) := by
  cases e with
  | init => exact h.of_same ⟨rfl, rfl, fun hf => ⟨hf.bound, hf.boundAlsa⟩⟩
  | createAlsaStream streamId numberOfChannels request engineMemory outcome =>
      exact inv_create h hok rfl
  | createTestToneStream streamId format memory initResult => exact inv_create h hok rfl
  | createLocalVideoStream streamId direction interfaceMemory memory initResult =>
      exact inv_create h hok rfl
  | destroyLocalStream streamId =>
      rcases destroyLocalStream_cases w streamId with hsame | ⟨kind, a, hdrops⟩
      · exact h.of_same hsame
      · exact h.drops hdrops
  | setConnected stream connected => exact h.of_same (same_setConnected w stream connected)
  | start =>
      have hsame := same_startEngine w
      exact h.of_same ⟨hsame.index, hsame.ids, fun hf => ⟨hf.bound, (hsame.fresh hf).boundAlsa⟩⟩
  | stop =>
      have hsame := same_stopEngine w
      exact h.of_same ⟨hsame.index, hsame.ids, fun hf => ⟨hf.bound, (hsame.fresh hf).boundAlsa⟩⟩

theorem inv_new : Inv {} where
  filed kind id a h := by cases kind <;> cases h
  found a id h := by cases a <;> cases h
  one kind kind' id h := by cases kind <;> exact absurd rfl h
  nonzero kind := by cases kind <;> rfl
  bound _ h := absurd rfl h
  boundAlsa _ h := nomatch h

theorem good_of_ok (h : Inv w) {e : LocalStreamEvent} (hok : StepOk w e) : Good c w e where
  sound := (inv_step w e h hok).sound
  created asked r he hres := by
    rcases createsOne_step h he with ⟨hbad, -⟩ | ⟨-, -, hgiven, kind, a, hadds⟩
    · exact absurd hres hbad
    · exact ⟨hgiven, a, hadds.absent, by rw [hadds.ids, Function.update_self]⟩

/-- **A test tone stream under the id of a video stream** makes the id ambiguous. -/
theorem ok_of_good (h : Inv w) {e : LocalStreamEvent} (hgood : Good c w e) : StepOk w e := by
  cases e with
  | createTestToneStream streamId format memory initResult =>
      intro h0 hinit haudio hformat hmemory hresult
      have hres : (w.createTestToneStream streamId format memory initResult).2
          = { streamId := streamId, result := eIasAvbProcOK } := by
        unfold createTestToneStream chooseId
        simp [h0, hinit, haudio, hformat, hmemory, hresult]
      obtain ⟨-, a, habsent, ha⟩ := hgood.created streamId _ rfl (by rw [hres])
      rw [hres] at ha
      cases hvideo : w.getLocalVideoStreamById streamId with
      | none => rfl
      | some b =>
          exfalso
          have hmem : b ∈ w.reach streamId := by
            unfold reach
            rw [hvideo]
            simp
          obtain ⟨kind, hkind⟩ := index_of_mem_reach hmem
          have hb := h.filed kind streamId b hkind
          have hne : b ≠ a := fun heq => by
            rw [heq, habsent] at hb
            cases hb
          rcases @createsOne_step c w h (.createTestToneStream streamId format memory initResult)
            streamId _ rfl with ⟨hbad, -⟩ | ⟨-, -, -, kind', a', hadds⟩
          · rw [hres] at hbad
            exact hbad rfl
          · have hb' : (step c w (.createTestToneStream streamId format memory initResult)).idOf b
                = some streamId := by
              rw [hadds.ids, Function.update_of_ne, hb]
              rintro rfl
              rw [hadds.absent] at hb
              cases hb
            exact hne (hgood.sound.unique b a streamId hb' ha)
  | _ => trivial

/-- **Ids are unique all along exactly if no test tone stream takes that of a video stream.** -/
theorem ids_unique_iff (c : AlsaConfig) (es : List LocalStreamEvent) :
    Always (step c) (Good c) {} es ↔ Always (step c) StepOk {} es :=
  always_congr (fun _ _ h => ⟨ok_of_good h, good_of_ok h⟩)
    (fun w e h hgood => inv_step w e h (ok_of_good h hgood)) inv_new

/-- A video stream and a test tone stream under the id five. -/
theorem ids_shared_by_test_tone :
    ¬ Always (step {}) (Good {}) {}
      [.init, .createLocalVideoStream 5 .eIasAvbReceiveFromNetwork true true eIasAvbProcOK,
        .createTestToneStream 5 .eIasAvbAudioFormatSafFloat true eIasAvbProcOK] := by
  rintro ⟨-, -, hgood, -⟩
  exact absurd (hgood.sound.unique (.other 0) (.other 1) 5 (by decide +kernel) (by decide +kernel))
    (by decide)

end LocalStreams

end AvbStreamHandler
