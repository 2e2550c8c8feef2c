import AvbStreamHandler.Transmit.ShaperCoupling

/-!
# When the low class knows the largest frame of the high class

Every call keeps the books of both sequencers, so the high-class sequencer always knows its
own largest frame. Whether the low-class sequencer knows it too is decided call by call: an
activation or deactivation of a high-class stream tells it, whatever it held before. Only
two calls can break the coupling, the creation of the low-class sequencer while the high
class is sending, and an activation in an engine that does not use the shaper.
-/

namespace AvbStreamHandler

open Kit Kit.Run

namespace ShapedEngine

variable {spec : ShaperSpec} {e : ShapedEngine} {s : Nat} {q q' : ShapedSequencer}

/-! ## Taking a stream in -/

/-- The three ways an activation can go. -/
theorem activateAvbStream_cases (h : Inv spec e) (s : Nat) :
    (e.activateAvbStream spec s = e ∧ ¬ Accepts spec e s) ∨
      ∃ q q', Accepts spec e s ∧ e.getSequencerByClass (spec.getClass s) = some q ∧
        q.addStreamToTransmitList spec s = some q' ∧
        e.activateAvbStream spec s
          = (e.exchange spec s q' true).tellLowClass spec (spec.getClass s) q' := by
  unfold ShapedEngine.activateAvbStream
  split
  · rename_i hs
    have hsome := h.sequencer s hs.1
    split
    · rename_i hnone
      rw [hnone] at hsome
      exact Bool.noConfusion hsome
    · rename_i q hq
      split
      · rename_i hadd
        refine Or.inl ⟨rfl, ?_⟩
        rintro ⟨-, -, r, hr, hadmits⟩
        obtain rfl := Option.some.inj (hq.symm.trans hr)
        exact addStreamToTransmitList_none hadd hadmits
      · rename_i q' hadd
        have hadmits := (addStreamToTransmitList_some hadd).1
        exact Or.inr ⟨q, q', ⟨hs.1, hs.2, q, hq, hadmits⟩, hq, hadd, rfl⟩
  · rename_i hs
    exact Or.inl ⟨rfl, fun hacc => hs ⟨hacc.1, hacc.2.1⟩⟩

theorem Inv.takeIn (h : Inv spec e) (hacc : Accepts spec e s)
    (hq : e.getSequencerByClass (spec.getClass s) = some q)
    (hadd : q.addStreamToTransmitList spec s = some q') :
    Inv spec (e.exchange spec s q' true) := by
  obtain ⟨-, hmem, hnodup, hsize⟩ := addStreamToTransmitList_some hadd
  refine h.exchange hacc.1 hq ?_ (hnodup (h.nodup _ q hq)) ?_ ?_
  · intro t
    rw [hmem t]
    by_cases ht : t = s
    · simp [ht]
    · simp [ht]
  · intro hshaper hc
    have hin := (h.own hshaper q (hc ▸ hq)).insert (Q := ActiveHigh spec (e.exchange spec s q' true))
      s fun t => by
        rw [activeHigh_exchange hacc.1 hc true t]
        by_cases ht : t = s
        · simp [ht]
        · simp [ht]
    rw [hsize]
    simpa only [hshaper, hc, true_and] using hin
  · intro hshaper
    rw [hsize, if_neg (fun hon => absurd (hshaper.symm.trans hon.1) (by simp))]

theorem Inv.activateAvbStream (h : Inv spec e) (s : Nat) :
    Inv spec (e.activateAvbStream spec s) := by
  rcases activateAvbStream_cases h s with ⟨heq, -⟩ | ⟨q, q', hacc, hq, hadd, heq⟩
  · rw [heq]
    exact h
  · rw [heq]
    exact (h.takeIn hacc hq hadd).tellLowClass

/-- A call about a low-class stream. -/
theorem coupled_exchange_low (h : Coupled spec e) (hc : spec.getClass s = .eIasAvbSrClassLow)
    (hq : e.getSequencerByClass (spec.getClass s) = some q)
    (hsize : q'.mMaxFrameSizeHigh = q.mMaxFrameSizeHigh) (b : Bool) :
    Coupled spec (e.exchange spec s q' b) := by
  intro low hlow
  rw [← hc, exchange_get_self] at hlow
  obtain rfl := Option.some.inj hlow
  have hhigh : spec.getClass s ≠ .eIasAvbSrClassHigh := by
    rw [hc]
    simp
  rw [hsize]
  exact (h q (hc ▸ hq)).congr fun t => (activeHigh_exchange_of_low hhigh b t).symm

theorem tellLowClass_of_low (e : ShapedEngine) (q : ShapedSequencer) :
    e.tellLowClass spec .eIasAvbSrClassLow q = e := by
  unfold ShapedEngine.tellLowClass
  rw [if_neg (fun h => IasAvbSrClass.noConfusion h.2)]

theorem tellLowClass_of_off (hoff : spec.mUseShaper = false) (c : IasAvbSrClass) :
    e.tellLowClass spec c q = e := by
  unfold ShapedEngine.tellLowClass
  rw [if_neg (fun h => absurd (hoff.symm.trans h.1) (by simp))]

/-- Without the shaper, the coupling is that nobody in the high class has a frame. -/
theorem Inv.coupled_iff_of_off (h : Inv spec e) (hoff : spec.mUseShaper = false) :
    Coupled spec e ↔
      ((e.getSequencerByClass .eIasAvbSrClassLow).isSome = true → HighSilent spec e) := by
  cases hlow : e.getSequencerByClass .eIasAvbSrClassLow with
  | none => exact ⟨fun _ hsome => Bool.noConfusion hsome, fun _ low h => absurd (hlow ▸ h) (by simp)⟩
  | some low =>
      have hzero : Coupled spec e ↔ HighSilent spec e :=
        coupled_of_zero hlow (h.unused hoff low hlow)
      exact hzero.trans ⟨fun hs _ => hs, fun hs => hs rfl⟩

/-- **An activation keeps the coupling** if the shaper is used, and else if it adds no
frame. -/
theorem coupled_activateAvbStream (h : Inv spec e) (hcoupled : Coupled spec e) :
    Coupled spec (e.activateAvbStream spec s) ↔ StepOk spec e (.activateAvbStream s) := by
  unfold StepOk
  dsimp only
  rcases activateAvbStream_cases h s with ⟨heq, hrefused⟩ | ⟨q, q', hacc, hq, hadd, heq⟩
  · rw [heq]
    exact ⟨fun _ _ _ hacc => absurd hacc hrefused, fun _ => hcoupled⟩
  · rw [heq]
    have hinv := h.takeIn hacc hq hadd
    cases hc : spec.getClass s with
    | eIasAvbSrClassLow =>
        obtain ⟨-, -, -, hsize⟩ := addStreamToTransmitList_some hadd
        rw [if_neg (fun hon => absurd (hc.symm.trans hon.2.1) (by simp))] at hsize
        rw [tellLowClass_of_low]
        exact ⟨fun _ _ habs => IasAvbSrClass.noConfusion habs,
          fun _ => coupled_exchange_low hcoupled hc hq hsize true⟩
    | eIasAvbSrClassHigh =>
        cases hshaper : spec.mUseShaper with
        | true =>
            have hself : (e.exchange spec s q' true).getSequencerByClass .eIasAvbSrClassHigh
                = some q' := hc ▸ exchange_get_self true
            exact ⟨fun _ hoff => Bool.noConfusion hoff,
              fun _ => coupled_tellLowClass hinv hshaper hself⟩
        | false =>
            have hlow : (e.exchange spec s q' true).getSequencerByClass .eIasAvbSrClassLow
                = e.getSequencerByClass .eIasAvbSrClassLow :=
              exchange_get_ne (by rw [hc]; simp) true
            have hhigh : ∀ t, ActiveHigh spec (e.exchange spec s q' true) t ↔ _ :=
              activeHigh_exchange hacc.1 hc true
            rw [tellLowClass_of_off hshaper, hinv.coupled_iff_of_off hshaper, hlow]
            constructor
            · intro hsilent _ _ _ hsome
              exact hsilent hsome s ((hhigh s).mpr (by rw [if_pos rfl]))
            · intro hok hsome t ht
              have ht' := (hhigh t).mp ht
              by_cases hts : t = s
              · subst hts
                exact hok rfl rfl hacc hsome
              · rw [if_neg hts] at ht'
                exact (h.coupled_iff_of_off hshaper).mp hcoupled hsome t ht'

/-! ## Letting a stream go -/

/-- The ways a deactivation can go: nothing to do, confirmed, or taken back. -/
theorem deactivateAvbStream_cases (e : ShapedEngine) (s : Nat) (answered : Bool) :
    ((e.deactivateAvbStream spec s answered).1 = e ∧
        ((e.deactivateAvbStream spec s answered).2 = true → e.mActive s = false)) ∨
      ∃ q, e.mAvbStreams s = true ∧ e.mActive s = true ∧
        e.getSequencerByClass (spec.getClass s) = some q ∧
        e.deactivateAvbStream spec s answered =
          if answered then
            ((e.exchange spec s (q.removeConfirmed spec s) false).tellLowClass spec
              (spec.getClass s) (q.removeConfirmed spec s), true)
          else (e.exchange spec s (q.removeRestored s) true, false) := by
  unfold ShapedEngine.deactivateAvbStream
  split
  · exact Or.inl ⟨rfl, fun h => Bool.noConfusion h⟩
  · rename_i hlisted
    split
    · rename_i hactive
      exact Or.inl ⟨rfl, fun _ => hactive⟩
    · rename_i hactive
      split
      · exact Or.inl ⟨rfl, fun h => Bool.noConfusion h⟩
      · rename_i q hq
        exact Or.inr ⟨q, by simpa using hlisted, by simpa using hactive, hq, rfl⟩

theorem Inv.letGo (h : Inv spec e) (hs : e.mAvbStreams s = true)
    (hq : e.getSequencerByClass (spec.getClass s) = some q) :
    Inv spec (e.exchange spec s (q.removeConfirmed spec s) false) := by
  have hnodup := h.nodup _ q hq
  have hmem : ∀ t, t ∈ (q.removeConfirmed spec s).account.mActiveStreams ↔
      t ≠ s ∧ t ∈ q.account.mActiveStreams := mem_erase hnodup
  refine h.exchange hs hq ?_ (hnodup.erase s) ?_ ?_
  · intro t
    rw [hmem t]
    by_cases ht : t = s
    · simp [ht]
    · simp [ht]
  · intro hshaper hc
    have hserved : ∀ t, t ∈ q.account.mActiveStreams ↔ ActiveHigh spec e t :=
      h.served_high (hc ▸ hq)
    have hrest : ∀ t, ActiveHigh spec (e.exchange spec s (q.removeConfirmed spec s) false) t ↔
        t ≠ s ∧ ActiveHigh spec e t := by
      intro t
      rw [activeHigh_exchange hs hc false t]
      by_cases ht : t = s
      · simp [ht]
      · simp [ht]
    have hrest' : Greatest (fun t => t ≠ s ∧ ActiveHigh spec e t) spec.getMaxFrameSize
        (q.removeConfirmed spec s).mMaxFrameSizeHigh := by
      unfold ShapedSequencer.removeConfirmed
      dsimp only
      split
      · -- the stream may have been the largest
        refine (greatest_spec spec.getMaxFrameSize _).congr ?_
        intro t
        rw [← hserved t]
        exact hmem t
      · rename_i hlarger
        have hlt : spec.getMaxFrameSize s < q.mMaxFrameSizeHigh :=
          Nat.lt_of_not_le fun hle => hlarger ⟨hshaper, hc, hle⟩
        exact (h.own hshaper q (hc ▸ hq)).erase_of_lt hlt fun _ => Iff.rfl
    exact hrest'.congr fun t => (hrest t).symm
  · intro hshaper
    unfold ShapedSequencer.removeConfirmed
    dsimp only
    rw [if_neg (fun hon => absurd (hshaper.symm.trans hon.1) (by simp))]

/-- A removal that is taken back leaves all as it was. -/
theorem Inv.takeBack (h : Inv spec e) (hs : e.mAvbStreams s = true) (hactive : e.mActive s = true)
    (hq : e.getSequencerByClass (spec.getClass s) = some q) :
    Inv spec (e.exchange spec s (q.removeRestored s) true) := by
  have hnodup := h.nodup _ q hq
  have hin : s ∈ q.account.mActiveStreams := (h.served _ q hq s).mpr ⟨hactive, rfl⟩
  refine h.exchange hs hq ?_ (nodup_insert (hnodup.erase s)) ?_ fun _ => rfl
  · intro t
    rw [mem_removeRestored hnodup hin t]
    by_cases ht : t = s
    · simp [ht, hin]
    · simp [ht]
  · intro hshaper hc
    refine (h.own hshaper q (hc ▸ hq)).congr fun t => ?_
    rw [activeHigh_exchange hs hc true t]
    by_cases ht : t = s
    · subst ht
      exact ⟨fun _ => by rw [if_pos rfl], fun _ => ⟨hs, hactive, hc⟩⟩
    · rw [if_neg ht]

theorem coupled_takeBack (hcoupled : Coupled spec e) (hs : e.mAvbStreams s = true)
    (hactive : e.mActive s = true)
    (hq : e.getSequencerByClass (spec.getClass s) = some q) :
    Coupled spec (e.exchange spec s (q.removeRestored s) true) := by
  cases hc : spec.getClass s with
  | eIasAvbSrClassLow =>
      have hsize : (q.removeRestored s).mMaxFrameSizeHigh = q.mMaxFrameSizeHigh := rfl
      exact coupled_exchange_low hcoupled hc hq hsize true
  | eIasAvbSrClassHigh =>
      intro low hlow
      rw [exchange_get_ne (by rw [hc]; simp)] at hlow
      refine (hcoupled low hlow).congr fun t => ?_
      rw [activeHigh_exchange hs hc true t]
      by_cases ht : t = s
      · subst ht
        exact ⟨fun _ => by rw [if_pos rfl], fun _ => ⟨hs, hactive, hc⟩⟩
      · rw [if_neg ht]

theorem coupled_letGo (h : Inv spec e) (hcoupled : Coupled spec e)
    (hs : e.mAvbStreams s = true)
    (hq : e.getSequencerByClass (spec.getClass s) = some q) :
    Coupled spec ((e.exchange spec s (q.removeConfirmed spec s) false).tellLowClass spec
      (spec.getClass s) (q.removeConfirmed spec s)) := by
  have hinv := h.letGo hs hq
  cases hc : spec.getClass s with
  | eIasAvbSrClassLow =>
      rw [tellLowClass_of_low]
      refine coupled_exchange_low hcoupled hc hq ?_ false
      unfold ShapedSequencer.removeConfirmed
      dsimp only
      rw [if_neg (fun hon => absurd (hc.symm.trans hon.2.1) (by simp))]
  | eIasAvbSrClassHigh =>
      cases hshaper : spec.mUseShaper with
      | true =>
          have hself : (e.exchange spec s (q.removeConfirmed spec s) false).getSequencerByClass
              .eIasAvbSrClassHigh = some (q.removeConfirmed spec s) := hc ▸ exchange_get_self false
          exact coupled_tellLowClass hinv hshaper hself
      | false =>
          rw [tellLowClass_of_off hshaper, hinv.coupled_iff_of_off hshaper,
            exchange_get_ne (by rw [hc]; simp)]
          intro hsome t ht
          have ht' := (activeHigh_exchange hs hc false t).mp ht
          by_cases hts : t = s
          · rw [if_pos hts] at ht'
            exact Bool.noConfusion ht'
          · rw [if_neg hts] at ht'
            exact (h.coupled_iff_of_off hshaper).mp hcoupled hsome t ht'

theorem Inv.deactivateAvbStream (h : Inv spec e) (s : Nat) (answered : Bool) :
    Inv spec (e.deactivateAvbStream spec s answered).1 := by
  rcases deactivateAvbStream_cases e s answered with ⟨heq, -⟩ | ⟨q, hs, hactive, hq, heq⟩
  · rw [heq]
    exact h
  · rw [heq]
    split
    · exact (h.letGo hs hq).tellLowClass
    · exact h.takeBack hs hactive hq

/-- **A deactivation keeps the coupling.** -/
theorem coupled_deactivateAvbStream (h : Inv spec e) (hcoupled : Coupled spec e) (s : Nat)
    (answered : Bool) : Coupled spec (e.deactivateAvbStream spec s answered).1 := by
  rcases deactivateAvbStream_cases e s answered with ⟨heq, -⟩ | ⟨q, hs, hactive, hq, heq⟩
  · rw [heq]
    exact hcoupled
  · rw [heq]
    split
    · exact coupled_letGo h hcoupled hs hq
    · exact coupled_takeBack hcoupled hs hactive hq

/-- After a call that succeeds, the stream is inactive. -/
theorem deactivateAvbStream_inactive (e : ShapedEngine) (s : Nat) (answered : Bool)
    (hok : (e.deactivateAvbStream spec s answered).2 = true) :
    (e.deactivateAvbStream spec s answered).1.mActive s = false := by
  rcases deactivateAvbStream_cases e s answered with ⟨heq, hinactive⟩ | ⟨q, -, -, -, heq⟩
  · rw [heq]
    exact hinactive hok
  · rw [heq] at hok ⊢
    split
    · rw [tellLowClass_active]
      exact exchange_active_self false
    · rename_i hno
      rw [if_neg hno] at hok
      exact Bool.noConfusion hok

end ShapedEngine

namespace TxEngine

variable {spec : TxSpec} {e : TxEngine} {s : Nat}

/-! ## The calls of the stepwise engine that nobody comes between -/

theorem exec_activate (hapi : e.api = none) (hlisted : e.mAvbStreams s = true)
    (hinactive : e.mActive s = false) (hadmits : (e.getSequencerByStream spec s).Admits spec s)
    (hunlocked : (e.getSequencerByStream spec s).locked = false) :
    exec (step spec) e [.activateAvbStream s, .api false, .api false, .api false, .api false]
      = (e.updateSequencer (spec.getClass s) fun q =>
          ((q.addSums spec s).insert s).request).setActive s true := by
  obtain ⟨listed, active, sequencer, api⟩ := e
  dsimp only at hapi hlisted hinactive
  subst hapi
  unfold getSequencerByStream at hadmits hunlocked
  dsimp only at hadmits hunlocked
  have hlock : ((sequencer (spec.getClass s)).addSums spec s).locked = false := hunlocked
  simp [step, activateAvbStream, apiStep, getSequencerByStream, updateSequencer, setActive,
    hlisted, hinactive, hadmits, hlock]

theorem exec_deactivate (hapi : e.api = none) (hlisted : e.mAvbStreams s = true)
    (hactive : e.mActive s = true) (hunlocked : (e.getSequencerByStream spec s).locked = false)
    (hstopped : (e.getSequencerByStream spec s).running = false) :
    exec (step spec) e [.deactivateAvbStream s, .api false, .api false, .api false, .api false,
        .api false]
      = (e.updateSequencer (spec.getClass s) fun q =>
          ((q.erase s).request).subSums spec s).setActive s false := by
  obtain ⟨listed, active, sequencer, api⟩ := e
  dsimp only at hapi hlisted hactive
  subst hapi
  unfold getSequencerByStream at hstopped hunlocked
  dsimp only at hstopped hunlocked
  have hstop : ((sequencer (spec.getClass s)).erase s).running = false := hstopped
  simp [step, deactivateAvbStream, apiStep, getSequencerByStream, updateSequencer, setActive,
    hlisted, hactive, hunlocked, hstop]

end TxEngine

namespace ShapedEngine

variable {spec : ShaperSpec} {e : ShapedEngine} {c : IasAvbSrClass} {s : Nat}
  {q q' : ShapedSequencer}

/-- The engine as the stepwise model has it between two calls. -/
def plain (e : ShapedEngine) : TxEngine where
  mAvbStreams := e.mAvbStreams
  mActive := e.mActive
  sequencer c := ((e.getSequencerByClass c).map ShapedSequencer.account).getD {}

theorem plain_sequencer (hq : e.getSequencerByClass c = some q) :
    e.plain.sequencer c = q.account := by
  show ((e.getSequencerByClass c).map ShapedSequencer.account).getD {} = q.account
  rw [hq]
  rfl

theorem plain_exchange (hq : e.getSequencerByClass (spec.getClass s) = some q)
    {f : SequencerAccount → SequencerAccount} (hf : q'.account = f q.account) (b : Bool) :
    (e.exchange spec s q' b).plain
      = (e.plain.updateSequencer (spec.getClass s) f).setActive s b := by
  have hsequencer : (e.exchange spec s q' b).plain.sequencer
      = Function.update e.plain.sequencer (spec.getClass s)
          (f (e.plain.sequencer (spec.getClass s))) := by
    funext c
    by_cases hc : c = spec.getClass s
    · subst hc
      rw [plain_sequencer (exchange_get_self b), Function.update_self, plain_sequencer hq, hf]
    · rw [Function.update_of_ne hc]
      unfold plain
      dsimp only
      rw [exchange_get_ne hc]
  unfold TxEngine.updateSequencer TxEngine.setActive
  rw [← hsequencer]
  rfl

theorem plain_tellLowClass : (e.tellLowClass spec c q).plain = e.plain := by
  unfold plain
  rw [tellLowClass_active, tellLowClass_listed]
  congr 1
  funext c'
  cases h : (e.tellLowClass spec c q).getSequencerByClass c' with
  | none =>
      have hsome : (e.getSequencerByClass c').isSome = false := by
        rw [← tellLowClass_isSome c', h]
        rfl
      have hnone : e.getSequencerByClass c' = none := by simpa using hsome
      rw [hnone]
  | some q' =>
      obtain ⟨q₀, hq₀, haccount, -⟩ := tellLowClass_get h
      rw [hq₀]
      exact haccount.symm

/-- **An activation is the activation of the stepwise engine** with nobody in between. -/
theorem activateAvbStream_plain (h : Inv spec e) (hacc : Accepts spec e s)
    (hunlocked : (e.plain.getSequencerByStream spec.toTxSpec s).locked = false) :
    exec (TxEngine.step spec.toTxSpec) e.plain
        [.activateAvbStream s, .api false, .api false, .api false, .api false]
      = (e.activateAvbStream spec s).plain := by
  rcases activateAvbStream_cases h s with ⟨-, hrefused⟩ | ⟨q, q', -, hq, hadd, heq⟩
  · exact absurd hacc hrefused
  · have hadmits : (e.plain.getSequencerByStream spec.toTxSpec s).Admits spec.toTxSpec s := by
      unfold TxEngine.getSequencerByStream
      rw [plain_sequencer hq]
      exact (addStreamToTransmitList_some hadd).1
    rw [heq, plain_tellLowClass, TxEngine.exec_activate rfl hacc.1 hacc.2.1 hadmits hunlocked]
    refine (plain_exchange hq ?_ true).symm
    unfold ShapedSequencer.addStreamToTransmitList at hadd
    split at hadd
    · obtain rfl := Option.some.inj hadd
      rfl
    · exact absurd hadd (by simp)

/-- **A deactivation is the deactivation of the stepwise engine** whose thread does not run. -/
theorem deactivateAvbStream_plain (hs : e.mAvbStreams s = true) (hactive : e.mActive s = true)
    (hq : e.getSequencerByClass (spec.getClass s) = some q)
    (hunlocked : q.account.locked = false) (hstopped : q.account.running = false) :
    exec (TxEngine.step spec.toTxSpec) e.plain
        [.deactivateAvbStream s, .api false, .api false, .api false, .api false, .api false]
      = (e.deactivateAvbStream spec s true).1.plain := by
  have hseq : e.plain.getSequencerByStream spec.toTxSpec s = q.account := plain_sequencer hq
  rcases deactivateAvbStream_cases e s true with ⟨-, hno⟩ | ⟨q₁, -, -, hq₁, heq⟩
  · unfold ShapedEngine.deactivateAvbStream at hno
    rw [if_neg (by rw [hs]; simp), if_neg (by rw [hactive]; simp), hq] at hno
    exact absurd (hactive.symm.trans (hno rfl)) (by simp)
  · obtain rfl := Option.some.inj (hq.symm.trans hq₁)
    rw [heq, if_pos rfl, plain_tellLowClass, TxEngine.exec_deactivate rfl hs hactive
      (hseq ▸ hunlocked) (hseq ▸ hstopped)]
    exact (plain_exchange hq rfl false).symm

/-! ## Runs -/

theorem inv_step (h : Inv spec e) (ev : Event) : Inv spec (e.step spec ev) := by
  cases ev with
  | createTransmitStream s initOk sequencerOk => exact h.createTransmitStream s initOk sequencerOk
  | createSequencerOnDemand c ok => exact h.createSequencerOnDemand c ok
  | activateAvbStream s => exact h.activateAvbStream s
  | deactivateAvbStream s answered => exact h.deactivateAvbStream s answered
  | destroyAvbStream s answered =>
      have hoff := h.deactivateAvbStream s answered
      show Inv spec (e.destroyAvbStream spec s answered)
      unfold destroyAvbStream
      dsimp only
      split
      · rename_i hok
        exact hoff.setListed (deactivateAvbStream_inactive e s answered hok) (by simp)
      · exact hoff

theorem coupled_createTransmitStream (h : Inv spec e) (hcoupled : Coupled spec e) (s : Nat)
    (initOk sequencerOk : Bool) :
    Coupled spec (e.createTransmitStream spec s initOk sequencerOk) ↔
      StepOk spec e (.createTransmitStream s initOk sequencerOk) := by
  unfold StepOk ShapedEngine.createTransmitStream
  dsimp only
  split
  · rename_i hold
    exact ⟨fun _ hnew => absurd (hold.symm.trans hnew) (by simp), fun _ => hcoupled⟩
  · rename_i hnew
    have hnew' : e.mAvbStreams s = false := by simpa using hnew
    split
    · rename_i hinit
      exact ⟨fun _ _ hok => absurd (hinit.symm.trans hok) (by simp), fun _ => hcoupled⟩
    · rename_i hinit
      have hinit' : initOk = true := by simpa using hinit
      have hcreate := coupled_createSequencerOnDemand hcoupled (spec.getClass s) sequencerOk
      have hsame : Coupled spec (if (e.createSequencerOnDemand (spec.getClass s) sequencerOk).2
            = true then
            (e.createSequencerOnDemand (spec.getClass s) sequencerOk).1.setListed s true
          else (e.createSequencerOnDemand (spec.getClass s) sequencerOk).1) ↔
          Coupled spec (e.createSequencerOnDemand (spec.getClass s) sequencerOk).1 := by
        split
        · refine coupled_setListed ?_ true
          rw [createSequencerOnDemand_active]
          exact h.inactive hnew'
        · exact Iff.rfl
      refine (hsame.trans hcreate).trans ?_
      exact ⟨fun himp _ _ => himp, fun himp => himp hnew' hinit'⟩

/-- **The step lemma**: a call keeps the coupling exactly if it meets the condition. -/
theorem coupled_step (h : Inv spec e) (hcoupled : Coupled spec e) (ev : Event) :
    Coupled spec (e.step spec ev) ↔ StepOk spec e ev := by
  cases ev with
  | createTransmitStream s initOk sequencerOk =>
      exact coupled_createTransmitStream h hcoupled s initOk sequencerOk
  | createSequencerOnDemand c ok => exact coupled_createSequencerOnDemand hcoupled c ok
  | activateAvbStream s => exact coupled_activateAvbStream h hcoupled
  | deactivateAvbStream s answered =>
      exact ⟨fun _ => trivial, fun _ => coupled_deactivateAvbStream h hcoupled s answered⟩
  | destroyAvbStream s answered =>
      refine ⟨fun _ => trivial, fun _ => ?_⟩
      have hkept := coupled_deactivateAvbStream h hcoupled s answered
      show Coupled spec (e.destroyAvbStream spec s answered)
      unfold destroyAvbStream
      dsimp only
      split
      · rename_i hok
        exact (coupled_setListed (deactivateAvbStream_inactive e s answered hok) false).mpr hkept
      · exact hkept

/-- **When the classes stay coupled**, for every run of calls, with and without the
shaper. -/
theorem coupled_iff (spec : ShaperSpec) (events : List Event) :
    (∀ pre, pre <+: events → Coupled spec (exec (step spec) {} pre)) ↔
      Always (step spec) (StepOk spec) {} events := by
  have hgood : ∀ e : ShapedEngine, Inv spec e ∧ Coupled spec e → Coupled spec e := fun _ h => h.2
  refine good_iff_always hgood ?_ ?_ ⟨inv_start spec, fun _ h => nomatch h⟩
  · intro e ev h hok
    exact ⟨inv_step h.1 ev, (coupled_step h.1 h.2 ev).mpr hok⟩
  · intro e ev h hbad hcoupled
    exact hbad ((coupled_step h.1 h.2 ev).mp hcoupled)

/-- Stream 0 is of the high class, all others of the low class. -/
def mixed : ShaperSpec where
  getClass s := if s = 0 then .eIasAvbSrClassHigh else .eIasAvbSrClassLow
  getRequiredBandwidth _ := 5
  getMaxIntervalFrames _ := 1
  getPacketsPerSecondByClass _ := 4000
  txMaxBandwidth := 100000
  txWindowWidth := 24000000
  getTxRingSize := 512
  getMaxFrameSize _ := 200
  mUseShaper := true

/-- **A late low class knows nothing of the high class.** -/
theorem late_low_class_is_not_told :
    ¬ ∀ pre, pre <+: [.createTransmitStream 0 true true, .activateAvbStream 0,
        .createTransmitStream 1 true true] →
      Coupled mixed (exec (step mixed) {} pre) := by
  intro h
  have hbound := (h _ List.prefix_rfl _ rfl).bound 0 ⟨rfl, rfl, rfl⟩
  exact absurd hbound (by decide)

end ShapedEngine

end AvbStreamHandler
