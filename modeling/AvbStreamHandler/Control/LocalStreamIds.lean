import AvbStreamHandler.Alsa.AlsaIndex
import AvbStreamHandler.Control.LocalStreams

/-!
# The ids of local streams

All maps of local streams together are one registry: the index finds a stream by the map and
the id it is filed under, and these are what it is labelled with. An id is to lead to one
stream only, in whichever map that is.

Each call that creates a stream looks for its id in all maps, the loop that chooses one as
well as the checks of an id that is asked for. The exception is a test tone stream: if an id
is asked for, the video streams are not looked at.
-/

namespace AvbStreamHandler

open Kit Kit.Run Kit.Registry Kit.Search IasAvbProcessingResult LocalStreamKind

namespace LocalStreams

variable {c : AlsaConfig} {w w' : LocalStreams} {kind kind' : LocalStreamKind}
  {id streamId : UInt16} {a : LocalStreamRef} {k : Nat}

/-- The stream filed in a map under an id. -/
def index (w : LocalStreams) (key : LocalStreamKind × UInt16) : Option LocalStreamRef :=
  match key.1 with
  | alsaHw => (w.mAlsaEngine.bind fun e => e.index (true, key.2)).map .alsa
  | alsaVirtual => (w.mAlsaEngine.bind fun e => e.index (false, key.2)).map .alsa
  | kind => ((w.otherMap kind).lookup key.2).map .other

/-- `getStreamId` of a stream that is there. -/
def idOf (w : LocalStreams) : LocalStreamRef → Option UInt16
  | .alsa k => (w.mAlsaEngine.bind fun e => e.streams k).map (·.streamId)
  | .other k => (w.streams k).map (·.streamId)

/-! ## What is to hold -/

/-- Ids are unique, and lead to their streams. -/
structure Sound (w : LocalStreams) : Prop where
  unique : ∀ a b id, w.idOf a = some id → w.idOf b = some id → a = b
  nonzero : ∀ a, w.idOf a ≠ some 0
  /-- An operation on an id is passed on to the stream that has it, and to no other. -/
  reached : ∀ a id, w.idOf a = some id ↔ w.reach id = [a]
  /-- An id is chosen as long as one is free. -/
  automatic : (∃ id, id ≠ 0 ∧ ∀ a, w.idOf a ≠ some id) →
    ∃ id, w.nextFreeId = some id ∧ id ≠ 0 ∧ ∀ a, w.idOf a ≠ some id

/-- Every map is a registry, and no id is in two of them. -/
structure Inv (w : LocalStreams) : Prop where
  filed : ∀ kind id a, w.index (kind, id) = some a → w.idOf a = some id
  found : ∀ a id, w.idOf a = some id → ∃ kind, w.index (kind, id) = some a
  one : ∀ kind kind' id, w.index (kind, id) ≠ none → w.index (kind', id) ≠ none → kind = kind'
  nonzero : ∀ kind, w.index (kind, 0) = none
  bound : ∀ k, w.streams k ≠ none → k < w.allocated
  boundAlsa : ∀ e ∈ w.mAlsaEngine, ∀ k, e.streams k ≠ none → k < e.allocated

/-! ## Finding a stream -/

theorem getLocalAudioStreamById_eq (w : LocalStreams) (id : UInt16) :
    w.getLocalAudioStreamById id = ((w.index (alsaHw, id)).or (w.index (alsaVirtual, id))).or
      (w.index (testTone, id)) := by
  unfold getLocalAudioStreamById index
  dsimp only
  cases w.mAlsaEngine with
  | none => rfl
  | some e =>
      show (((e.index (true, id)).or (e.index (false, id))).map _).or _ = _
      rw [Option.map_or]
      rfl

theorem getLocalVideoStreamById_eq (w : LocalStreams) (id : UInt16) :
    w.getLocalVideoStreamById id = (w.index (videoIn, id)).or (w.index (videoOut, id)) := by
  unfold getLocalVideoStreamById index otherMap
  dsimp only
  cases w.mVideoStreamInterface with
  | none => rfl
  | some v =>
      show ((v.mVideoInStreams.lookup id).or (v.mVideoOutStreams.lookup id)).map _ = _
      rw [Option.map_or]
      rfl

theorem isLocalStreamIdInUse_eq_false :
    w.isLocalStreamIdInUse id = false ↔ ∀ kind, w.index (kind, id) = none := by
  unfold isLocalStreamIdInUse
  rw [getLocalAudioStreamById_eq, getLocalVideoStreamById_eq, Bool.or_eq_false_iff]
  simp only [Option.isSome_eq_false_iff, Option.isNone_iff_eq_none, Option.or_eq_none_iff]
  constructor
  · rintro ⟨⟨⟨h₁, h₂⟩, h₃⟩, h₄, h₅⟩ kind
    cases kind <;> assumption
  · intro h
    exact ⟨⟨⟨h _, h _⟩, h _⟩, h _, h _⟩

/-- **An operation reaches the one stream that is filed under the id.** -/
theorem reach_of_index (h : Inv w) (hk : w.index (kind, id) = some a) : w.reach id = [a] := by
  have hnone : ∀ kind', kind' ≠ kind → w.index (kind', id) = none := by
    intro kind' hne
    by_contra hsome
    exact hne (h.one kind' kind id hsome (by rw [hk]; exact nofun))
  unfold reach
  rw [getLocalAudioStreamById_eq, getLocalVideoStreamById_eq]
  cases kind with
  | alsaHw => simp [hk, hnone videoIn (by decide), hnone videoOut (by decide)]
  | alsaVirtual =>
      simp [hk, hnone alsaHw (by decide), hnone videoIn (by decide), hnone videoOut (by decide)]
  | testTone =>
      simp [hk, hnone alsaHw (by decide), hnone alsaVirtual (by decide),
        hnone videoIn (by decide), hnone videoOut (by decide)]
  | videoIn =>
      simp [hk, hnone alsaHw (by decide), hnone alsaVirtual (by decide),
        hnone testTone (by decide)]
  | videoOut =>
      simp [hk, hnone alsaHw (by decide), hnone alsaVirtual (by decide),
        hnone testTone (by decide), hnone videoIn (by decide)]

theorem index_of_mem_reach (h : a ∈ w.reach id) : ∃ kind, w.index (kind, id) = some a := by
  unfold reach at h
  rw [getLocalAudioStreamById_eq, getLocalVideoStreamById_eq, List.mem_append,
    Option.mem_toList, Option.mem_toList] at h
  simp only [Option.or_eq_some_iff] at h
  rcases h with ((h | ⟨-, h⟩) | ⟨-, h⟩) | h | ⟨-, h⟩
  · exact ⟨alsaHw, h⟩
  · exact ⟨alsaVirtual, h⟩
  · exact ⟨testTone, h⟩
  · exact ⟨videoIn, h⟩
  · exact ⟨videoOut, h⟩

/-! ## Choosing an id -/

theorem iterate_succ_uint16 (start : UInt16) (n : Nat) :
    (fun x : UInt16 => x + 1)^[n] start = start + UInt16.ofNat n := by
  induction n with
  | zero => exact (UInt16.add_zero start).symm
  | succ n ih =>
      rw [Function.iterate_succ_apply', ih, UInt16.ofNat_add, ← UInt16.add_assoc]
      rfl

/-- **An id is chosen as long as one is free.** -/
theorem nextFreeId_of_free (w : LocalStreams) (hid : id ≠ 0)
    (hfree : w.isLocalStreamIdInUse id = false) :
    ∃ next, w.nextFreeId = some next ∧ next ≠ 0 ∧ w.isLocalStreamIdInUse next = false := by
  have hreach : (fun x : UInt16 => x + 1)^[(id - w.mNextLocalStreamId).toNat]
      w.mNextLocalStreamId = id := by
    rw [iterate_succ_uint16, UInt16.ofNat_toNat, UInt16.add_comm, UInt16.sub_add_cancel]
  obtain ⟨next, hnext⟩ := @search_some UInt16 _ (· + 1)
    (fun id => id == 0 || w.isLocalStreamIdInUse id) w.mNextLocalStreamId
    (id - w.mNextLocalStreamId).toNat 65536 (by rw [hreach]; simp [hid, hfree])
    (UInt16.toNat_lt _)
  have hfound := search_found hnext
  simp only [Bool.or_eq_false_iff, beq_eq_false_iff_ne] at hfound
  exact ⟨next, hnext, hfound⟩

theorem nextFreeId_spec (h : w.nextFreeId = some id) :
    id ≠ 0 ∧ w.isLocalStreamIdInUse id = false := by
  have hfound := search_found h
  simpa using hfound

theorem Inv.free_iff (h : Inv w) :
    (∀ kind, w.index (kind, id) = none) ↔ ∀ a, w.idOf a ≠ some id := by
  constructor
  · intro hnone a ha
    obtain ⟨kind, hk⟩ := h.found a id ha
    rw [hnone kind] at hk
    cases hk
  · intro hno kind
    cases hk : w.index (kind, id) with
    | none => rfl
    | some a => exact absurd (h.filed kind id a hk) (hno a)

theorem Inv.sound (h : Inv w) : Sound w where
  unique a b id ha hb := by
    obtain ⟨kind, hka⟩ := h.found a id ha
    obtain ⟨kind', hkb⟩ := h.found b id hb
    have heq := h.one kind kind' id (by rw [hka]; exact nofun) (by rw [hkb]; exact nofun)
    subst heq
    exact Option.some.inj (hka.symm.trans hkb)
  nonzero a ha := by
    obtain ⟨kind, hk⟩ := h.found a 0 ha
    rw [h.nonzero kind] at hk
    cases hk
  reached a id := by
    constructor
    · intro ha
      obtain ⟨kind, hk⟩ := h.found a id ha
      exact reach_of_index h hk
    · intro hreach
      obtain ⟨kind, hk⟩ := index_of_mem_reach (hreach ▸ List.mem_singleton_self a)
      exact h.filed kind id a hk
  automatic := by
    rintro ⟨id, hid, hno⟩
    obtain ⟨next, hnext, hne, hfree⟩ := nextFreeId_of_free w hid
      (isLocalStreamIdInUse_eq_false.mpr (h.free_iff.mpr hno))
    exact ⟨next, hnext, hne, h.free_iff.mp (isLocalStreamIdInUse_eq_false.mp hfree)⟩

end LocalStreams

end AvbStreamHandler
