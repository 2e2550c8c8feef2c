import AvbStreamHandler.Control.LocalStreamIds

/-!
# What the calls do to the registry of local streams

A call files a stream under an id, takes one out, or leaves the registry as it is. All but one
of those that file a stream make sure that nothing else has the id.
-/

namespace AvbStreamHandler

open Kit Kit.Run Kit.Registry IasAvbProcessingResult LocalStreamKind

namespace LocalStreams

variable {c : AlsaConfig} {w w' w'' : LocalStreams} {kind : LocalStreamKind}
  {id streamId : UInt16} {a : LocalStreamRef} {k : Nat}

/-- The numbers of the next streams are not taken. -/
structure Fresh (w : LocalStreams) : Prop where
  bound : ∀ k, w.streams k ≠ none → k < w.allocated
  boundAlsa : ∀ e ∈ w.mAlsaEngine, ∀ k, e.streams k ≠ none → k < e.allocated

/-- **The same registry.** -/
structure Same (w w' : LocalStreams) : Prop where
  index : w'.index = w.index
  ids : w'.idOf = w.idOf
  fresh : Fresh w → Fresh w'

/-- A stream is filed that was not there. -/
structure Adds (kind : LocalStreamKind) (id : UInt16) (a : LocalStreamRef)
    (w w' : LocalStreams) : Prop where
  index : w'.index = Function.update w.index (kind, id) (some a)
  ids : w'.idOf = Function.update w.idOf a (some id)
  absent : w.idOf a = none
  fresh : Fresh w → Fresh w'

/-- A stream is taken out. -/
structure Drops (kind : LocalStreamKind) (id : UInt16) (a : LocalStreamRef)
    (w w' : LocalStreams) : Prop where
  filed : w.index (kind, id) = some a
  index : w'.index = Function.update w.index (kind, id) none
  ids : w'.idOf = Function.update w.idOf a none
  fresh : Fresh w → Fresh w'

theorem Same.refl (w : LocalStreams) : Same w w := ⟨rfl, rfl, fun h => h⟩

theorem Same.trans (h : Same w w') (h' : Same w' w'') : Same w w'' :=
  ⟨h'.index.trans h.index, h'.ids.trans h.ids, fun hf => h'.fresh (h.fresh hf)⟩

theorem Same.adds (h : Same w w') (h' : Adds kind id a w' w'') : Adds kind id a w w'' := by
  refine ⟨?_, ?_, ?_, fun hf => h'.fresh (h.fresh hf)⟩
  · rw [h'.index, h.index]
  · rw [h'.ids, h.ids]
  · rw [← h.ids]
    exact h'.absent

theorem Inv.fresh (h : Inv w) : Fresh w := ⟨h.bound, h.boundAlsa⟩

theorem Inv.of_same (h : Inv w) (hs : Same w w') : Inv w' := by
  obtain ⟨hbound, hboundAlsa⟩ := hs.fresh h.fresh
  refine ⟨?_, ?_, ?_, ?_, hbound, hboundAlsa⟩
  · rw [hs.index, hs.ids]
    exact h.filed
  · rw [hs.index, hs.ids]
    exact h.found
  · rw [hs.index]
    exact h.one
  · rw [hs.index]
    exact h.nonzero

/-- **A stream under an id that nothing else has.** -/
theorem Inv.adds (h : Inv w) (ha : Adds kind id a w w') (hid : id ≠ 0)
    (hfree : ∀ kind, w.index (kind, id) = none) : Inv w' := by
  obtain ⟨hbound, hboundAlsa⟩ := ha.fresh h.fresh
  have hother : ∀ key, key ≠ (kind, id) → w'.index key = w.index key := fun key hne => by
    rw [ha.index, Function.update_of_ne hne]
  have hself : w'.index (kind, id) = some a := by rw [ha.index, Function.update_self]
  have hids : ∀ b, b ≠ a → w'.idOf b = w.idOf b := fun b hne => by
    rw [ha.ids, Function.update_of_ne hne]
  have hnew : w'.idOf a = some id := by rw [ha.ids, Function.update_self]
  have hkinds : ∀ kind', w'.index (kind', id) ≠ none → kind' = kind := by
    intro kind' hsome
    by_contra hne
    rw [hother _ (by simp [hne]), hfree kind'] at hsome
    exact hsome rfl
  refine ⟨?_, ?_, ?_, ?_, hbound, hboundAlsa⟩
  · intro kind' id' b hb
    by_cases hkey : (kind', id') = (kind, id)
    · obtain ⟨rfl, rfl⟩ := Prod.mk.inj hkey
      rw [hself] at hb
      rw [← Option.some.inj hb, hnew]
    · rw [hother _ hkey] at hb
      have hold := h.filed kind' id' b hb
      rw [hids b (fun heq => by rw [heq, ha.absent] at hold; cases hold)]
      exact hold
  · intro b id' hb
    by_cases hba : b = a
    · subst hba
      rw [hnew] at hb
      exact ⟨kind, Option.some.inj hb ▸ hself⟩
    · rw [hids b hba] at hb
      obtain ⟨kind', hk'⟩ := h.found b id' hb
      refine ⟨kind', ?_⟩
      rw [hother _ (fun hkey => ?_)]
      · exact hk'
      · rw [hkey, hfree kind] at hk'
        cases hk'
  · intro kind₁ kind₂ id' h₁ h₂
    by_cases hid' : id' = id
    · subst hid'
      rw [hkinds kind₁ h₁, hkinds kind₂ h₂]
    · rw [hother _ (by simp [hid'])] at h₁ h₂
      exact h.one kind₁ kind₂ id' h₁ h₂
  · intro kind'
    rw [hother _ (by simp [hid.symm])]
    exact h.nonzero kind'

theorem Inv.drops (h : Inv w) (hd : Drops kind id a w w') : Inv w' := by
  obtain ⟨hbound, hboundAlsa⟩ := hd.fresh h.fresh
  have hold : ∀ key b, w'.index key = some b → key ≠ (kind, id) ∧ w.index key = some b := by
    intro key b hb
    rw [hd.index] at hb
    by_cases hkey : key = (kind, id)
    · rw [hkey, Function.update_self] at hb
      cases hb
    · rw [Function.update_of_ne hkey] at hb
      exact ⟨hkey, hb⟩
  have hsome : ∀ key, w'.index key ≠ none → w.index key ≠ none := by
    intro key hne
    obtain ⟨b, hb⟩ := Option.ne_none_iff_exists'.mp hne
    rw [(hold key b hb).2]
    exact nofun
  have haid := h.filed kind id a hd.filed
  refine ⟨?_, ?_, ?_, ?_, hbound, hboundAlsa⟩
  · intro kind' id' b hb
    obtain ⟨hkey, hb'⟩ := hold _ b hb
    have hbid := h.filed kind' id' b hb'
    rw [hd.ids, Function.update_of_ne]
    · exact hbid
    · rintro rfl
      have heq : id' = id := Option.some.inj (hbid.symm.trans haid)
      subst heq
      have hkind := h.one kind' kind id' (by rw [hb']; exact nofun)
        (by rw [hd.filed]; exact nofun)
      exact hkey (by rw [hkind])
  · intro b id' hb
    rw [hd.ids] at hb
    by_cases hba : b = a
    · rw [hba, Function.update_self] at hb
      cases hb
    · rw [Function.update_of_ne hba] at hb
      obtain ⟨kind', hk'⟩ := h.found b id' hb
      refine ⟨kind', ?_⟩
      rw [hd.index, Function.update_of_ne]
      · exact hk'
      · intro hkey
        rw [hkey, hd.filed] at hk'
        exact hba (Option.some.inj hk').symm
  · exact fun kind₁ kind₂ id' h₁ h₂ => h.one kind₁ kind₂ id' (hsome _ h₁) (hsome _ h₂)
  · intro kind'
    by_contra hne
    exact hsome _ hne (h.nonzero kind')

/-! ## The other maps -/

/-- The map is one of those, and is there. -/
def IsOther (w : LocalStreams) : LocalStreamKind → Prop
  | testTone => True
  | videoIn => w.mVideoStreamInterface ≠ none
  | videoOut => w.mVideoStreamInterface ≠ none
  | _ => False

theorem otherMap_setOtherMap (h : IsOther w kind) (m : AList fun _ : UInt16 => Nat)
    (kind' : LocalStreamKind) :
    (w.setOtherMap kind m).otherMap kind' = if kind' = kind then m else w.otherMap kind' := by
  cases kind with
  | alsaHw => exact h.elim
  | alsaVirtual => exact h.elim
  | testTone => cases kind' <;> rfl
  | videoIn =>
      obtain ⟨v, hv⟩ := Option.ne_none_iff_exists'.mp h
      cases kind' <;> simp [otherMap, setOtherMap, hv]
  | videoOut =>
      obtain ⟨v, hv⟩ := Option.ne_none_iff_exists'.mp h
      cases kind' <;> simp [otherMap, setOtherMap, hv]

theorem setOtherMap_frame (w : LocalStreams) (kind : LocalStreamKind)
    (m : AList fun _ : UInt16 => Nat) :
    (w.setOtherMap kind m).mAlsaEngine = w.mAlsaEngine := by
  cases kind <;> rfl

/-- A map that is set is an index that is set. -/
theorem index_setOtherMap (h : IsOther w kind) (m : AList fun _ : UInt16 => Nat)
    (r : Option Nat) (hself : m.lookup id = r)
    (hother : ∀ id', id' ≠ id → m.lookup id' = (w.otherMap kind).lookup id') :
    (w.setOtherMap kind m).index = Function.update w.index (kind, id) (r.map .other) := by
  funext key
  obtain ⟨kind', id'⟩ := key
  have halsa : (w.setOtherMap kind m).mAlsaEngine = w.mAlsaEngine := setOtherMap_frame w kind m
  have hmaps := otherMap_setOtherMap h m kind'
  by_cases hkind : kind' = kind
  · subst hkind
    rw [if_pos rfl] at hmaps
    by_cases hid : id' = id
    · subst hid
      rw [Function.update_self]
      unfold index
      cases kind' with
      | alsaHw => exact h.elim
      | alsaVirtual => exact h.elim
      | _ =>
          dsimp only
          rw [hmaps, hself]
    · rw [Function.update_of_ne (by simp [hid])]
      unfold index
      cases kind' with
      | alsaHw => exact h.elim
      | alsaVirtual => exact h.elim
      | _ =>
          dsimp only
          rw [hmaps, hother id' hid]
  · rw [if_neg hkind] at hmaps
    rw [Function.update_of_ne (by simp [hkind])]
    unfold index
    cases kind' <;> dsimp only <;> first | rw [halsa] | rw [hmaps]

theorem idOf_update (k : Nat) (s : Option LocalStream) {w' : LocalStreams}
    (halsa : w'.mAlsaEngine = w.mAlsaEngine) (hs : w'.streams = Function.update w.streams k s) :
    w'.idOf = Function.update w.idOf (.other k) (s.map (·.streamId)) := by
  funext b
  cases b with
  | alsa j =>
      rw [Function.update_of_ne (show LocalStreamRef.alsa j ≠ .other k from nofun)]
      unfold idOf
      dsimp only
      rw [halsa]
  | other j =>
      show (w'.streams j).map _ = _
      rw [hs]
      by_cases hj : j = k
      · rw [hj, Function.update_self, Function.update_self]
      · rw [Function.update_of_ne hj, Function.update_of_ne (by simp [hj])]
        rfl

/-- **A test tone stream or a video stream is created.** -/
theorem adds_addOther (hf : Fresh w) (h : IsOther w kind) (id : UInt16) :
    Adds kind id (.other w.allocated) w (w.addOther kind id) := by
  have hnone : w.streams w.allocated = none := by
    by_contra hne
    exact Nat.lt_irrefl _ (hf.bound _ hne)
  have halsa := setOtherMap_frame w kind ((w.otherMap kind).insert id w.allocated)
  refine ⟨?_, @idOf_update w w.allocated (some { streamId := id }) (w.addOther kind id) halsa rfl,
    ?_, fun hf => ⟨?_, ?_⟩⟩
  · exact index_setOtherMap h _ (some w.allocated) (AList.lookup_insert _)
      fun id' hne => AList.lookup_insert_ne hne
  · show (w.streams w.allocated).map _ = none
    rw [hnone]
    rfl
  · intro k hk
    show k < w.allocated + 1
    have hk' : Function.update w.streams w.allocated _ k ≠ none := hk
    by_cases heq : k = w.allocated
    · rw [heq]
      exact Nat.lt_succ_self _
    · rw [Function.update_of_ne heq] at hk'
      exact Nat.lt_succ_of_lt (hf.bound k hk')
  · show ∀ e ∈ (w.setOtherMap kind _).mAlsaEngine, _
    rw [halsa]
    exact hf.boundAlsa

/-- A test tone stream or a video stream is destroyed, unless it is connected. -/
theorem drops_destroyOther (h : IsOther w kind) (hk : (w.otherMap kind).lookup streamId = some k) :
    Same w (w.destroyOther kind streamId k).1 ∨
      Drops kind streamId (.other k) w (w.destroyOther kind streamId k).1 := by
  unfold destroyOther
  split
  · exact Or.inl (Same.refl w)
  right
  have halsa := setOtherMap_frame w kind ((w.otherMap kind).erase streamId)
  refine ⟨?_, ?_, @idOf_update w k none
    { w.setOtherMap kind ((w.otherMap kind).erase streamId) with
      streams := Function.update w.streams k none } halsa rfl, fun hf => ⟨?_, ?_⟩⟩
  · unfold index
    cases kind with
    | alsaHw => exact h.elim
    | alsaVirtual => exact h.elim
    | _ =>
        dsimp only
        rw [hk]
        rfl
  · exact index_setOtherMap h _ none (AList.lookup_erase _ _)
      fun id' hne => AList.lookup_erase_ne hne
  · intro j hj
    have hj' : Function.update w.streams k none j ≠ none := hj
    by_cases heq : j = k
    · rw [heq, Function.update_self] at hj'
      exact absurd rfl hj'
    · rw [Function.update_of_ne heq] at hj'
      have hbound := hf.bound j hj'
      cases kind <;> exact hbound
  · show ∀ e ∈ (w.setOtherMap kind _).mAlsaEngine, _
    rw [halsa]
    exact hf.boundAlsa

/-! ## The ALSA engine -/

/-- The map a stream of the ALSA engine is in. -/
def alsaKind (hw : Bool) : LocalStreamKind := if hw then alsaHw else alsaVirtual

/-- What another ALSA engine changes: the streams and maps of the engine. -/
theorem index_setEngine {e' : IasAlsaEngine} {f : Bool × UInt16 → Option Nat} {hw : Bool}
    (hold : ∀ key, (w.mAlsaEngine.bind fun e => e.index key) = f key) {r : Option Nat}
    (hindex : e'.index = Function.update f (hw, id) r) :
    ({ w with mAlsaEngine := some e' } : LocalStreams).index
      = Function.update w.index (alsaKind hw, id) (r.map .alsa) := by
  have hnew : ∀ key, ((some e').bind fun e => e.index key) = Function.update f (hw, id) r key :=
    fun key => congrFun hindex key
  funext key
  obtain ⟨kind', id'⟩ := key
  unfold index
  by_cases hkey : (kind', id') = (alsaKind hw, id)
  · obtain ⟨rfl, rfl⟩ := Prod.mk.inj hkey
    rw [Function.update_self]
    cases hw
    · show ((some e').bind fun e => e.index (false, id')).map _ = _
      rw [hnew, Function.update_self]
    · show ((some e').bind fun e => e.index (true, id')).map _ = _
      rw [hnew, Function.update_self]
  · rw [Function.update_of_ne hkey]
    cases kind' with
    | alsaHw =>
        show ((some e').bind fun e => e.index (true, id')).map _ = _
        rw [hnew, Function.update_of_ne, ← hold]
        rintro heq
        obtain ⟨rfl, rfl⟩ := Prod.mk.inj heq
        exact hkey rfl
    | alsaVirtual =>
        show ((some e').bind fun e => e.index (false, id')).map _ = _
        rw [hnew, Function.update_of_ne, ← hold]
        rintro heq
        obtain ⟨rfl, rfl⟩ := Prod.mk.inj heq
        exact hkey rfl
    | testTone => rfl
    | videoIn => rfl
    | videoOut => rfl

theorem idOf_setEngine {e' : IasAlsaEngine} {f : Nat → Option AlsaStream}
    (hold : ∀ j, (w.mAlsaEngine.bind fun e => e.streams j) = f j) {s : Option AlsaStream}
    (hs : e'.streams = Function.update f k s) :
    ({ w with mAlsaEngine := some e' } : LocalStreams).idOf
      = Function.update w.idOf (.alsa k) (s.map (·.streamId)) := by
  funext b
  cases b with
  | alsa j =>
      show ((some e').bind fun e => e.streams j).map _ = _
      have hnew : ((some e').bind fun e => e.streams j) = Function.update f k s j :=
        congrFun hs j
      rw [hnew]
      by_cases hj : j = k
      · rw [hj, Function.update_self, Function.update_self]
      · rw [Function.update_of_ne hj, Function.update_of_ne (by simp [hj]), ← hold]
        rfl
  | other j =>
      rw [Function.update_of_ne (show LocalStreamRef.other j ≠ .alsa k from nofun)]
      rfl

/-- The engine changes in what the registry does not look at. -/
theorem same_setEngine {e e' : IasAlsaEngine} (he : w.mAlsaEngine = some e)
    (hids : ∀ j, (e'.streams j).map (·.streamId) = (e.streams j).map (·.streamId))
    (hindex : e'.index = e.index)
    (hbound : (∀ k, e.streams k ≠ none → k < e.allocated) →
      ∀ k, e'.streams k ≠ none → k < e'.allocated) :
    Same w { w with mAlsaEngine := some e' } := by
  refine ⟨?_, ?_, fun hf => ⟨hf.bound, ?_⟩⟩
  · funext key
    obtain ⟨kind', id'⟩ := key
    unfold index
    cases kind' with
    | alsaHw =>
        show (e'.index (true, id')).map _ = _
        rw [he, hindex]
        rfl
    | alsaVirtual =>
        show (e'.index (false, id')).map _ = _
        rw [he, hindex]
        rfl
    | testTone => rfl
    | videoIn => rfl
    | videoOut => rfl
  · funext b
    cases b with
    | alsa j =>
        show (e'.streams j).map _ = _
        rw [hids]
        unfold idOf
        rw [he]
        rfl
    | other j => rfl
  · rintro e'' ⟨⟩
    exact hbound (hf.boundAlsa e he)

/-- The same for an engine that may not be there. -/
theorem same_mapEngine (w : LocalStreams) (f : IasAlsaEngine → IasAlsaEngine)
    (hf : ∀ e, (f e).streams = e.streams ∧ (f e).index = e.index ∧ (f e).allocated = e.allocated) :
    Same w { w with mAlsaEngine := w.mAlsaEngine.map f } := by
  cases he : w.mAlsaEngine with
  | none =>
      have hw : ({ w with mAlsaEngine := none } : LocalStreams) = w := by rw [← he]
      show Same w { w with mAlsaEngine := none }
      rw [hw]
      exact Same.refl w
  | some e =>
      obtain ⟨hstreams, hindex, halloc⟩ := hf e
      exact same_setEngine he (fun j => by rw [hstreams]) hindex
        fun hb k hk => halloc ▸ hb k (hstreams ▸ hk)

theorem same_startEngine (w : LocalStreams) :
    Same w { w with mAlsaEngine := w.mAlsaEngine.map fun e => e.start.1 } := by
  refine same_mapEngine w _ fun e => ?_
  unfold IasAlsaEngine.start
  split <;> exact ⟨rfl, rfl, rfl⟩

theorem same_stopEngine (w : LocalStreams) :
    Same w { w with mAlsaEngine := w.mAlsaEngine.map fun e => e.stop.1 } := by
  refine same_mapEngine w _ fun e => ?_
  unfold IasAlsaEngine.stop
  split <;> exact ⟨rfl, rfl, rfl⟩

/-- An engine that is made for the call has no streams. -/
theorem same_alsaEngine {e : IasAlsaEngine} {memory : Bool} (he : w.alsaEngine memory = some e) :
    Same w { w with mAlsaEngine := some e } := by
  unfold alsaEngine at he
  cases hold : w.mAlsaEngine with
  | some e₀ =>
      rw [hold] at he
      cases he
      exact same_setEngine hold (fun _ => rfl) rfl fun h => h
  | none =>
      rw [hold] at he
      dsimp only at he
      split at he
      · cases he
      -- the new engine knows no streams, so nothing has an id by it
      have hempty : e.streams = (fun _ => none) ∧ ∀ key, e.index key = none := by
        rw [← Option.some.inj he]
        split <;> exact ⟨rfl, fun ⟨hw, _⟩ => by cases hw <;> rfl⟩
      refine ⟨?_, ?_, fun hf => ⟨hf.bound, ?_⟩⟩
      · funext key
        obtain ⟨kind', id'⟩ := key
        unfold index
        cases kind' with
        | alsaHw =>
            show (e.index (true, id')).map _ = _
            rw [hempty.2, hold]
            rfl
        | alsaVirtual =>
            show (e.index (false, id')).map _ = _
            rw [hempty.2, hold]
            rfl
        | testTone => rfl
        | videoIn => rfl
        | videoOut => rfl
      · funext b
        cases b with
        | alsa j =>
            show (e.streams j).map _ = _
            rw [hempty.1]
            unfold idOf
            rw [hold]
            rfl
        | other j => rfl
      · rintro e' ⟨⟩ k hk
        rw [hempty.1] at hk
        exact absurd rfl hk

/-- The same for the video interface. -/
theorem same_videoInterface (w : LocalStreams) :
    Same w { w with mVideoStreamInterface := some (w.mVideoStreamInterface.getD {}) } := by
  refine ⟨?_, ?_, fun hf => ⟨hf.bound, hf.boundAlsa⟩⟩
  · funext key
    obtain ⟨kind', id'⟩ := key
    unfold index otherMap
    cases kind' with
    | videoIn => cases w.mVideoStreamInterface <;> rfl
    | videoOut => cases w.mVideoStreamInterface <;> rfl
    | _ => rfl
  · rfl

/-- **The id that is chosen**, and what is known about it. -/
theorem chooseId_spec (h : w.chooseId streamId = some (id, w')) :
    w' = { w with mNextLocalStreamId := w'.mNextLocalStreamId } ∧ id ≠ 0 ∧
      (streamId ≠ 0 → id = streamId) ∧
      (streamId = 0 → w.isLocalStreamIdInUse id = false) := by
  unfold chooseId at h
  split at h
  · rename_i hne
    obtain ⟨rfl, rfl⟩ := Prod.mk.inj (Option.some.inj h)
    exact ⟨rfl, hne, fun _ => rfl, fun heq => absurd heq hne⟩
  · rename_i heq
    obtain ⟨next, hnext, hpair⟩ := Option.map_eq_some_iff.mp h
    obtain ⟨rfl, rfl⟩ := Prod.mk.inj hpair
    obtain ⟨hne, hfree⟩ := nextFreeId_spec hnext
    exact ⟨rfl, hne, fun hne' => absurd hne' heq, fun _ => hfree⟩

theorem same_chooseId (h : w.chooseId streamId = some (id, w')) : Same w w' := by
  rw [(chooseId_spec h).1]
  exact ⟨rfl, rfl, fun hf => ⟨hf.bound, hf.boundAlsa⟩⟩

/-! ## The calls -/

/-- What a call that creates a stream may do: nothing, or file a stream under the id that it
returns, which is the one it was asked for, if it was. -/
def CreatesOne (streamId : UInt16) (w w' : LocalStreams) (r : CreateResult) : Prop :=
  (r.result ≠ eIasAvbProcOK ∧ r.streamId = 0 ∧ Same w w') ∨
    (r.result = eIasAvbProcOK ∧ r.streamId ≠ 0 ∧ (streamId ≠ 0 → r.streamId = streamId) ∧
      ∃ kind a, Adds kind r.streamId a w w')

theorem CreatesOne.refused {result : IasAvbProcessingResult} (hr : result ≠ eIasAvbProcOK)
    (hs : Same w w') : CreatesOne streamId w w' (refused result) := Or.inl ⟨hr, rfl, hs⟩

/-- **An ALSA stream** gets an id that nothing else has. -/
theorem createAlsaStream_cases (hf : Fresh w) {numberOfChannels : UInt16} {r : AlsaRequest}
    {engineMemory : Bool} {o : AlsaOutcome} :
    CreatesOne streamId w
        (createAlsaStream c w streamId numberOfChannels r engineMemory o).1
        (createAlsaStream c w streamId numberOfChannels r engineMemory o).2 ∧
      ((createAlsaStream c w streamId numberOfChannels r engineMemory o).2.result
          = eIasAvbProcOK → ∀ kind, w.index (kind,
        (createAlsaStream c w streamId numberOfChannels r engineMemory o).2.streamId) = none) := by
  unfold createAlsaStream
  -- the checks that come before the engine is made
  split
  · exact ⟨.refused nofun (Same.refl w), nofun⟩
  split
  · exact ⟨.refused nofun (Same.refl w), nofun⟩
  split
  · exact ⟨.refused nofun (Same.refl w), nofun⟩
  rename_i e he
  have hengine := same_alsaEngine he
  dsimp only
  split
  · exact ⟨.refused nofun hengine, nofun⟩
  rename_i hasked
  split
  · exact ⟨.refused nofun hengine, nofun⟩
  rename_i id w₂ hchoose
  -- so far nothing but an engine or a counter has come up, and no stream
  have hsame := hengine.trans (same_chooseId hchoose)
  obtain ⟨hw₂, hid, hgiven, hauto⟩ := chooseId_spec hchoose
  split
  · exact ⟨.refused nofun hsame, nofun⟩
  have he₂ : w₂.mAlsaEngine = some e := by rw [hw₂]
  have hfresh := hsame.fresh hf
  have hnew : e.streams e.allocated = none := by
    by_contra hne
    exact Nat.lt_irrefl _ (hfresh.boundAlsa e he₂ _ hne)
  generalize hreq : ({ r with stream := { r.stream with streamId := id } } : AlsaRequest) = request
  have hreqId : request.stream.streamId = id := by rw [← hreq]
  rcases @IasAlsaEngine.create_index c e request o hnew with ⟨hres, hsame'⟩ | ⟨hres, hfiles⟩
  · rw [if_neg hres]
    refine ⟨Or.inl ⟨hres, rfl, hsame.trans ?_⟩, fun h => absurd h hres⟩
    exact same_setEngine he₂ (fun j => by rw [hsame'.streams]) hsame'.index
      fun hb k hk => Nat.lt_of_lt_of_le (hb k (hsame'.streams ▸ hk)) hsame'.allocated
  · rw [if_pos hres]
    -- an id that was asked for was checked, one that was chosen is free by the search
    have hfree : ∀ kind, w.index (kind, id) = none := by
      rw [← hengine.index]
      by_cases h0 : streamId = 0
      · exact isLocalStreamIdInUse_eq_false.mp (hauto h0)
      · rw [hgiven h0]
        exact isLocalStreamIdInUse_eq_false.mp (by simpa [h0] using hasked)
    refine ⟨Or.inr ⟨hres, hid, hgiven, alsaKind request.stream.isHw, .alsa e.allocated,
      hsame.adds ⟨?_, ?_, ?_, fun hf => ⟨hf.bound, ?_⟩⟩⟩, fun _ => hfree⟩
    · -- the index, the id of the new stream, and its place, which was free
      have hindex := hfiles.index
      rw [hreqId] at hindex
      exact @index_setEngine w₂ id _ e.index _ (fun key => by rw [he₂]; rfl) _ hindex
    · have hids := @idOf_setEngine w₂ e.allocated _ e.streams (fun j => by rw [he₂]; rfl) _
        hfiles.streams
      rw [hids, ← hreqId]
      rfl
    · unfold idOf
      dsimp only
      rw [he₂]
      show (e.streams e.allocated).map _ = none
      rw [hnew]
      rfl
    · rintro e' ⟨⟩ k hk
      rw [hfiles.allocated]
      rw [hfiles.streams] at hk
      by_cases heq : k = e.allocated
      · rw [heq]
        exact Nat.lt_succ_self _
      · rw [Function.update_of_ne heq] at hk
        exact Nat.lt_succ_of_lt (hf.boundAlsa e he₂ k hk)

/-- **A test tone stream** gets an id that no audio stream has, if it is asked for, and one
that nothing has, if not. -/
theorem createTestToneStream_cases (hf : Fresh w) {format : IasAvbAudioFormat} {memory : Bool}
    {initResult : IasAvbProcessingResult} :
    CreatesOne streamId w (w.createTestToneStream streamId format memory initResult).1
        (w.createTestToneStream streamId format memory initResult).2 ∧
      ((w.createTestToneStream streamId format memory initResult).2.result = eIasAvbProcOK →
        (streamId = 0 → ∀ kind, w.index (kind,
          (w.createTestToneStream streamId format memory initResult).2.streamId) = none) ∧
        (streamId ≠ 0 → w.initialized = true ∧ w.getLocalAudioStreamById streamId = none ∧
          format = .eIasAvbAudioFormatSafFloat ∧ memory = true ∧
          initResult = eIasAvbProcOK)) := by
  unfold createTestToneStream
  split
  · exact ⟨.refused nofun (Same.refl w), nofun⟩
  rename_i hinit
  split
  · exact ⟨.refused nofun (Same.refl w), nofun⟩
  rename_i haudio
  split
  · exact ⟨.refused nofun (Same.refl w), nofun⟩
  rename_i hformat
  split
  · exact ⟨.refused nofun (Same.refl w), nofun⟩
  rename_i id w₂ hchoose
  have hsame := same_chooseId hchoose
  obtain ⟨hw₂, hid, hgiven, hauto⟩ := chooseId_spec hchoose
  split
  · exact ⟨.refused nofun hsame, nofun⟩
  rename_i hmemory
  split
  · rename_i hresult
    exact ⟨.refused hresult hsame, fun h => absurd h hresult⟩
  rename_i hresult
  refine ⟨Or.inr ⟨rfl, hid, hgiven, testTone, _, hsame.adds
    (@adds_addOther w₂ testTone (hsame.fresh hf) trivial id)⟩, fun _ => ⟨fun h0 => ?_, fun h0 => ?_⟩⟩
  · exact isLocalStreamIdInUse_eq_false.mp (hauto h0)
  · refine ⟨by simpa using hinit, ?_, by simpa [h0] using hformat, by simpa using hmemory,
      by simpa using hresult⟩
    simpa [h0] using haudio

/-- **A video stream** gets an id that nothing else has. -/
theorem createLocalVideoStream_cases (hf : Fresh w) {direction : IasAvbStreamDirection}
    {interfaceMemory memory : Bool} {initResult : IasAvbProcessingResult} :
    CreatesOne streamId w
        (w.createLocalVideoStream streamId direction interfaceMemory memory initResult).1
        (w.createLocalVideoStream streamId direction interfaceMemory memory initResult).2 ∧
      ((w.createLocalVideoStream streamId direction interfaceMemory memory initResult).2.result
          = eIasAvbProcOK → ∀ kind, w.index (kind,
        (w.createLocalVideoStream streamId direction interfaceMemory memory
          initResult).2.streamId) = none) := by
  unfold createLocalVideoStream
  split
  · exact ⟨.refused nofun (Same.refl w), nofun⟩
  split
  · exact ⟨.refused nofun (Same.refl w), nofun⟩
  -- the interface may have come up for the call; then the id is chosen
  have hvideo := same_videoInterface w
  dsimp only
  split
  · exact ⟨.refused nofun hvideo, nofun⟩
  rename_i hasked
  split
  · exact ⟨.refused nofun hvideo, nofun⟩
  rename_i id w₂ hchoose
  have hsame := hvideo.trans (same_chooseId hchoose)
  obtain ⟨hw₂, hid, hgiven, hauto⟩ := chooseId_spec hchoose
  split
  · exact ⟨.refused nofun hsame, nofun⟩
  split
  · exact ⟨.refused nofun hsame, nofun⟩
  split
  · rename_i hresult
    exact ⟨.refused hresult hsame, fun h => absurd h hresult⟩
  -- all has worked out, so the stream is filed under its id
  have hother : IsOther w₂ (videoKind direction) := by
    have hsome : w₂.mVideoStreamInterface ≠ none := by
      rw [hw₂]
      exact nofun
    cases direction <;> exact hsome
  refine ⟨Or.inr ⟨rfl, hid, hgiven, videoKind direction, _, hsame.adds
    (adds_addOther (hsame.fresh hf) hother id)⟩, fun _ => ?_⟩
  show ∀ kind, w.index (kind, id) = none
  rw [← hvideo.index]
  by_cases h0 : streamId = 0
  · exact isLocalStreamIdInUse_eq_false.mp (hauto h0)
  · rw [hgiven h0]
    exact isLocalStreamIdInUse_eq_false.mp (by simpa [h0] using hasked)

/-- The engine takes out the stream that is filed under the id, or none. -/
theorem destroyAlsa_cases {e : IasAlsaEngine} (he : w.mAlsaEngine = some e) :
    Same w { w with mAlsaEngine := some (e.destroyAlsaStream streamId).1 } ∨
      ∃ kind a, Drops kind streamId a w
        { w with mAlsaEngine := some (e.destroyAlsaStream streamId).1 } := by
  rcases IasAlsaEngine.destroy_index e streamId with hsame | ⟨hw, k, hout⟩
  · left
    exact same_setEngine he (fun j => by rw [hsame.streams]) hsame.index
      fun hb k hk => Nat.lt_of_lt_of_le (hb k (hsame.streams ▸ hk)) hsame.allocated
  · refine Or.inr ⟨alsaKind hw, .alsa k, ?_, ?_, ?_, fun hf => ⟨hf.bound, ?_⟩⟩
    · unfold index
      cases hw
      · show (w.mAlsaEngine.bind fun e => e.index (false, streamId)).map _ = _
        rw [he]
        exact congrArg (Option.map LocalStreamRef.alsa) hout.filed
      · show (w.mAlsaEngine.bind fun e => e.index (true, streamId)).map _ = _
        rw [he]
        exact congrArg (Option.map LocalStreamRef.alsa) hout.filed
    · exact @index_setEngine w streamId _ e.index hw (fun key => by rw [he]; rfl) none hout.index
    · exact @idOf_setEngine w k _ e.streams (fun j => by rw [he]; rfl) none hout.streams
    · rintro e' ⟨⟩ j hj
      rw [hout.allocated]
      rw [hout.streams] at hj
      by_cases heq : j = k
      · rw [heq, Function.update_self] at hj
        exact absurd rfl hj
      · rw [Function.update_of_ne heq] at hj
        exact hf.boundAlsa e he j hj

/-- **A stream is taken out of its map, or none is.** -/
theorem destroyLocalStream_cases (w : LocalStreams) (streamId : UInt16) :
    Same w (w.destroyLocalStream streamId).1 ∨
      ∃ kind a, Drops kind streamId a w (w.destroyLocalStream streamId).1 := by
  unfold destroyLocalStream
  split
  · exact Or.inl (Same.refl w)
  split
  · rename_i e _ he
    exact destroyAlsa_cases he
  · split
    · rename_i k hk
      rcases @drops_destroyOther w testTone streamId k trivial hk with hsame | hdrops
      · exact Or.inl hsame
      · exact Or.inr ⟨_, _, hdrops⟩
    · exact Or.inl (Same.refl w)
  · split
    swap
    · exact Or.inl (Same.refl w)
    unfold destroyVideoStream
    have hthere : ∀ kind k, (kind = videoIn ∨ kind = videoOut) →
        (w.otherMap kind).lookup streamId = some k → IsOther w kind := by
      rintro kind k (rfl | rfl) hk hnone <;> simp [otherMap, hnone] at hk
    split
    · rename_i k hk
      rcases drops_destroyOther (hthere videoIn k (Or.inl rfl) hk) hk with hsame | hdrops
      · exact Or.inl hsame
      · exact Or.inr ⟨_, _, hdrops⟩
    · split
      · rename_i k hk
        rcases drops_destroyOther (hthere videoOut k (Or.inr rfl) hk) hk with hsame | hdrops
        · exact Or.inl hsame
        · exact Or.inr ⟨_, _, hdrops⟩
      · exact Or.inl (Same.refl w)

theorem same_setConnected (w : LocalStreams) (stream : LocalStreamRef) (connected : Bool) :
    Same w (w.setConnected stream connected) := by
  cases stream with
  | alsa k =>
      unfold setConnected
      dsimp only
      cases he : w.mAlsaEngine with
      | none =>
          have hw : ({ w with mAlsaEngine := none } : LocalStreams) = w := by rw [← he]
          show Same w { w with mAlsaEngine := none }
          rw [hw]
          exact Same.refl w
      | some e =>
          obtain ⟨-, hindex, hstreams⟩ := IasAlsaEngine.setConnected_index e k connected
          refine same_setEngine he (fun j => ?_) hindex fun hb j hj => hb j (hstreams j hj)
          show (Function.update e.streams k _ j).map _ = _
          by_cases hj : j = k
          · rw [hj, Function.update_self, Option.map_map]
            rfl
          · rw [Function.update_of_ne hj]
  | other k =>
      refine ⟨rfl, ?_, fun hf => ⟨?_, hf.boundAlsa⟩⟩
      · have hids := @idOf_update w k ((w.streams k).map fun s => { s with connected := connected })
          (w.setConnected (.other k) connected) rfl rfl
        rw [hids, Option.map_map]
        exact Function.update_eq_self (.other k) w.idOf
      · intro j hj
        have hj' : Function.update w.streams k
            ((w.streams k).map fun s => { s with connected := connected }) j ≠ none := hj
        refine hf.bound j ?_
        by_cases heq : j = k
        · rw [heq, Function.update_self] at hj'
          rw [heq]
          exact fun hnone => hj' (by rw [hnone]; rfl)
        · rwa [Function.update_of_ne heq] at hj'

end LocalStreams

end AvbStreamHandler
