import AvbStreamHandler.Transmit.Ownership

/-!
# Packet ownership over whole runs

`Transmit/Ownership.lean` shows what one visit does to the packets. Here every other
thing that can happen — updates of the sequence, cycles, restarts, the end of the thread,
reclaims, activations — is shown to conserve them without any condition, and the two
directions are put together: in a run, every packet of every pool is in exactly one place
all the time exactly if the device never answers a transmission with `EINVAL`, `ENXIO` or
`ENOSPC`.
-/

namespace AvbStreamHandler.TxWorld

open Kit Kit.Run

variable {w w' : TxWorld} {s p : Nat} {Q : Nat → Bool}

/-- Only fields that do not count differ. -/
theorem Conserves.of_same (hh : WellHomed w) (home : w'.mHome = w.mHome)
    (size : w'.mPoolSize = w.mPoolSize) (stack : w'.mFreeBufferStack = w.mFreeBufferStack)
    (ring : w'.mRing = w.mRing) (device : w'.device = w.device)
    (held : ∀ Q, held Q w'.mSequence = held Q w.mSequence) : Conserves w w' where
  home := home
  size := size
  homed := ⟨by rw [stack, home]; exact hh.stack, by rw [ring, home]; exact hh.ring⟩
  total s Q _ := by
    unfold TxWorld.total loose
    rw [held, stack, ring, device]

/-! ## Updating the sequence -/

/-- An entry leaves the list and its packet goes back. -/
theorem eraseEntry_conserves {kept rest : List StreamData} {e : StreamData} (c : Nat)
    (hf : Full { w with mSequence := kept ++ e :: rest }) :
    Conserves { w with mSequence := kept ++ e :: rest }
      { w.returnEntryPacket e with nextStreamToService := c, mSequence := kept ++ rest } := by
  have hh : WellHomed w := ⟨hf.homed.stack, hf.homed.ring⟩
  unfold returnEntryPacket
  cases hp : e.packet with
  | none =>
      refine Conserves.of_same hf.homed rfl rfl rfl rfl rfl ?_
      intro Q
      dsimp only
      rw [held_append, held_append, held_cons, hp, weigh_none]
      rfl
  | some p =>
      have hfits : Fits w (some p) := by
        have hget : (kept ++ e :: rest)[kept.length]? = some e := by simp
        have := hf.fits (c := kept.length) hget
        rw [hp] at this
        exact this
      have hm := returnPacket_moves hh hfits
      refine ⟨rfl, rfl, ⟨hm.homed.stack, hm.homed.ring⟩, ?_⟩
      intro s Q hQ
      have hb := hm.balance s Q hQ
      show held Q (kept ++ rest) + loose (w.returnPacket p) s Q =
        held Q (kept ++ e :: rest) + loose w s Q
      rw [held_append, held_append, held_cons, hp]
      rw [weigh_none] at hb
      omega

theorem eraseObsolete_conserves :
    ∀ (rest kept : List StreamData) (temp : List Nat) {w : TxWorld},
      Full { w with mSequence := kept ++ rest } →
      Conserves { w with mSequence := kept ++ rest } (eraseObsolete kept rest temp w).2
  | [], kept, temp, w, hf => by
      have : ({ w with mSequence := kept ++ [] } : TxWorld) = { w with mSequence := kept } := by
        rw [List.append_nil]
      rw [this] at hf ⊢
      exact Conserves.refl hf.homed
  | e :: rest, kept, temp, w, hf => by
      rw [eraseObsolete]
      split
      · have : ({ w with mSequence := kept ++ e :: rest } : TxWorld) =
            { w with mSequence := (kept ++ [e]) ++ rest } := by
          rw [List.append_assoc, List.singleton_append]
        rw [this] at hf ⊢
        exact eraseObsolete_conserves rest (kept ++ [e]) _ hf
      · dsimp only
        have h := eraseEntry_conserves
          (cursorAfterErase (kept.length + rest.length + 1) kept.length w.nextStreamToService) hf
        exact h.trans (eraseObsolete_conserves rest kept temp (w := { w.returnEntryPacket e with
          nextStreamToService := cursorAfterErase (kept.length + rest.length + 1) kept.length
            w.nextStreamToService }) (h.full hf))

theorem insertNew_conserves (hh : WellHomed w) (stream : Nat) :
    Conserves w (w.insertNew stream) := by
  have hpush : Conserves w (w.pushFront stream) := by
    refine Conserves.of_same hh rfl rfl rfl rfl rfl ?_
    intro Q
    exact held_cons Q _ _
  exact hpush.trans ((sortByLaunchTime_reorders _).conserves hpush.homed)

theorem foldl_insertNew_conserves :
    ∀ (temp : List Nat) {w : TxWorld}, WellHomed w → Conserves w (temp.foldl insertNew w)
  | [], _, hh => Conserves.refl hh
  | s :: temp, _, hh =>
      (insertNew_conserves hh s).trans
        (foldl_insertNew_conserves temp (insertNew_conserves hh s).homed)

theorem updateOnce_conserves (hf : Full w) : Conserves w w.updateOnce := by
  have herase := eraseObsolete_conserves w.mSequence [] w.mActiveStreams (w := w) hf
  have hins := foldl_insertNew_conserves (eraseObsolete [] w.mSequence w.mActiveStreams w).1
    herase.homed
  exact (herase.trans hins).trans
    (Conserves.of_same hins.homed rfl rfl rfl rfl rfl fun _ => rfl)

theorem iterate_updateOnce_conserves :
    ∀ (n : Nat) {w : TxWorld}, Full w → Conserves w (updateOnce^[n] w)
  | 0, _, hf => Conserves.refl hf.homed
  | n + 1, _, hf =>
      (updateOnce_conserves hf).trans
        (iterate_updateOnce_conserves n ((updateOnce_conserves hf).full hf))

theorem updateSequence_conserves (hf : Full w) : Conserves w w.updateSequence := by
  have h := iterate_updateOnce_conserves (w.mRequestCount - w.mResponseCount).toNat hf
  unfold updateSequence
  dsimp only
  split
  · exact h.trans (Conserves.of_same h.homed rfl rfl rfl rfl rfl fun _ => rfl)
  · exact h

/-! ## Everything else -/

theorem beginCycle_conserves (hh : WellHomed w) : Conserves w w.beginCycle := by
  refine Conserves.of_same hh rfl rfl rfl rfl rfl ?_
  intro Q
  unfold beginCycle held
  rw [List.countP_map]
  rfl

theorem endCycle_conserves (hh : WellHomed w) : Conserves w w.endCycle := by
  unfold endCycle
  split
  · refine Conserves.of_same hh rfl rfl rfl rfl rfl ?_
    intro Q
    exact held_perm (List.mergeSort_perm _ _) Q
  · exact Conserves.refl hh

theorem foldl_toggle_conserves :
    ∀ (l : List Nat) {w : TxWorld}, WellHomed w → Conserves w (l.foldl toggle w)
  | [], _, hh => Conserves.refl hh
  | s :: l, w, hh => by
      have h : Conserves w (w.toggle s) :=
        Conserves.of_same hh rfl rfl rfl rfl rfl fun _ => rfl
      exact h.trans (foldl_toggle_conserves l h.homed)

theorem restartThread_conserves (hh : WellHomed w) : Conserves w w.restartThread := by
  have h := foldl_toggle_conserves w.mActiveStreams hh
  exact h.trans (Conserves.of_same h.homed rfl rfl rfl rfl rfl fun _ => rfl)

/-- Returning the entries' packets one by one is erasing the entries one by one. -/
theorem returnHeld_conserves :
    ∀ (l : List StreamData) {w : TxWorld}, Full { w with mSequence := l } →
      Conserves { w with mSequence := l } { w.returnHeld l with mSequence := [] }
  | [], _, hf => Conserves.refl hf.homed
  | e :: rest, w, hf => by
      have h := @eraseEntry_conserves w [] rest e (w.returnEntryPacket e).nextStreamToService hf
      exact h.trans (returnHeld_conserves rest (h.full hf))

theorem endThread_conserves (hf : Full w) : Conserves w w.endThread := by
  have h := returnHeld_conserves w.mSequence (w := w) hf
  exact h.trans (Conserves.of_same h.homed rfl rfl rfl rfl rfl fun _ => rfl)

theorem reclaimPacket_conserves (hf : Full w) (p : Nat) : Conserves w (w.reclaimPacket p) := by
  unfold reclaimPacket
  split
  · rename_i hp
    have hperm := List.perm_cons_erase hp
    -- the packet is in hand between the device and the pool
    have hm : Moves w none { w with device := w.device.erase p } (some p) := by
      refine ⟨rfl, rfl, rfl, rfl, ⟨hf.homed.stack, hf.homed.ring⟩, ?_⟩
      intro s Q _
      have hc := hperm.countP_eq Q
      rw [List.countP_cons] at hc
      unfold loose
      rw [weigh_none, weigh_some]
      dsimp only
      omega
    have hback := hm.trans (returnPacket_moves hm.homed (hm.fits hf.fits_none))
    refine ⟨hback.home, hback.size, hback.homed, ?_⟩
    intro s Q hQ
    have hb := hback.balance s Q hQ
    unfold TxWorld.total
    rw [hback.sequence]
    rw [weigh_none] at hb
    omega
  · exact Conserves.refl hf.homed

theorem fillRing_conserves (hh : WellHomed w) (s : Nat) : Conserves w (w.fillRing s) := by
  unfold fillRing
  split
  · exact Conserves.refl hh
  · rename_i p rest h
    have hm := popStack_moves hh h w.attime w.mDummyFlag
    have hp : w.mHome p = s := hh.stack s p (by rw [h]; exact List.mem_cons_self)
    refine ⟨rfl, rfl, ⟨hm.homed.stack, ?_⟩, ?_⟩
    · intro t q hq
      dsimp only at hq
      by_cases ht : t = s
      · subst ht
        rw [Function.update_self] at hq
        rcases List.mem_append.mp hq with hq | hq
        · exact hh.ring t q hq
        · rw [List.mem_singleton.mp hq]
          exact hp
      · rw [Function.update_of_ne ht] at hq
        exact hh.ring t q hq
    · intro t Q _
      unfold TxWorld.total loose
      dsimp only
      by_cases ht : t = s
      · subst ht
        rw [Function.update_self, Function.update_self, h, List.countP_append,
          List.countP_singleton, List.countP_cons]
        omega
      · rw [Function.update_of_ne ht, Function.update_of_ne ht]

/-- The condition on one event, in the state it happens in. -/
def StepOk (w : TxWorld) : Event → Prop
  | .service windowStart result _ => VisitOk w windowStart result
  | _ => True

/-- **Every event conserves the packets**, the visits under their condition. -/
theorem step_conserves (hf : Full w) {e : Event} (hok : StepOk w e) : Conserves w (w.step e) := by
  cases e with
  | service windowStart result preps => exact serviceStream_conserves hf hok
  | update => exact updateSequence_conserves hf
  | beginCycle => exact beginCycle_conserves hf.homed
  | endCycle => exact endCycle_conserves hf.homed
  | restart => exact restartThread_conserves hf.homed
  | endThread => exact endThread_conserves hf
  | startThread => exact Conserves.of_same hf.homed rfl rfl rfl rfl rfl fun _ => rfl
  | add s => exact Conserves.of_same hf.homed rfl rfl rfl rfl rfl fun _ => rfl
  | remove s => exact Conserves.of_same hf.homed rfl rfl rfl rfl rfl fun _ => rfl
  | reclaim p => exact reclaimPacket_conserves hf p
  | fillRing s => exact fillRing_conserves hf.homed s

/-! ## Exactly one place -/

/-- The pools of the streams as they are allocated. -/
structure PacketPools where
  home : Nat → Nat
  packets : Nat → List Nat
  /-- A packet is in the pool it calls home. -/
  homed : ∀ s, ∀ p ∈ packets s, home p = s
  /-- A pool's packets are distinct. -/
  nodup : ∀ s, (packets s).Nodup

/-- The packets there are. -/
def PacketPools.Has (pools : PacketPools) (p : Nat) : Prop := p ∈ pools.packets (pools.home p)

instance (pools : PacketPools) (p : Nat) : Decidable (pools.Has p) :=
  inferInstanceAs (Decidable (_ ∈ _))

/-- The sequencer before anything happened: all packets are in their pools. -/
def start (pools : PacketPools) (config : SequencerConfig) (useShaper strictOrder : Bool)
    (shaperBwRate : Nat) : TxWorld where
  mConfig := config
  mUseShaper := useShaper
  mShaperBwRate := shaperBwRate
  mStrictPktOrderEn := strictOrder
  mHome := pools.home
  mFreeBufferStack := pools.packets
  mPoolSize s := (pools.packets s).length

/-- How often a packet is found: in entries of the sequence, with the device, on the
stack of its pool, in the local buffer of its stream. -/
def places (w : TxWorld) (p : Nat) : Nat :=
  w.mSequence.countP (fun e => e.packet == some p) + w.device.count p +
    (w.mFreeBufferStack (w.mHome p)).count p + (w.mRing (w.mHome p)).count p

/-- **Ownership**: every packet is in exactly one place. -/
structure Owned (pools : PacketPools) (w : TxWorld) : Prop where
  /-- Every packet is found exactly once. -/
  once : ∀ p, pools.Has p → places w p = 1
  /-- No packet is in a pool or a local buffer it does not belong to. -/
  homed : WellHomed w

theorem places_eq_total (w : TxWorld) (p : Nat) :
    places w p = total w (w.mHome p) fun q => q == p := by
  have heq : ∀ e : StreamData, (e.packet == some p) = e.packet.any (fun q => q == p) := by
    intro e
    cases e.packet <;> rfl
  unfold places total held loose
  simp only [heq, List.count]
  omega

theorem onHome_single (w : TxWorld) (p : Nat) : OnHome w (w.mHome p) fun q => q == p := by
  intro q hq
  rw [beq_iff_eq.mp hq]

/-- What conservation keeps: the packets of `pools` are once somewhere, and there are no
others. -/
structure Intact (pools : PacketPools) (w : TxWorld) : Prop where
  full : Full w
  home : w.mHome = pools.home
  once : ∀ p, pools.Has p → places w p = 1
  none : ∀ p, ¬ pools.Has p → places w p = 0

theorem Intact.owned {pools : PacketPools} (h : Intact pools w) : Owned pools w :=
  ⟨h.once, h.full.homed⟩

theorem intact_start (pools : PacketPools) (config : SequencerConfig)
    (useShaper strictOrder : Bool) (shaperBwRate : Nat) :
    Intact pools (start pools config useShaper strictOrder shaperBwRate) where
  full := by
    refine ⟨⟨pools.homed, ?_⟩, ?_⟩
    · intro s p hp
      exact absurd hp List.not_mem_nil
    · intro s
      have hall : (pools.packets s).countP (fun p => decide (pools.home p = s)) =
          (pools.packets s).length :=
        List.countP_eq_length.mpr fun p hp => decide_eq_true (pools.homed s p hp)
      show 0 + (0 + _ + 0) = _
      rw [Nat.zero_add, Nat.zero_add, Nat.add_zero]
      exact hall
  home := rfl
  once p hp := by
    have : (pools.packets (pools.home p)).count p = 1 :=
      List.count_eq_one_of_mem (pools.nodup _) hp
    show 0 + 0 + List.count p (pools.packets (pools.home p)) + 0 = 1
    rw [this]
  none p hp := by
    show 0 + 0 + List.count p (pools.packets (pools.home p)) + 0 = 0
    rw [List.count_eq_zero_of_not_mem hp]

theorem Conserves.places (h : Conserves w w') (p : Nat) : places w' p = places w p := by
  rw [places_eq_total, places_eq_total, h.home]
  exact h.total _ _ (onHome_single w p)

theorem Intact.step {pools : PacketPools} (h : Intact pools w) {e : Event} (hok : StepOk w e) :
    Intact pools (w.step e) := by
  have hc := step_conserves h.full hok
  refine ⟨hc.full h.full, hc.home.trans h.home, ?_, ?_⟩
  · intro p hp
    rw [hc.places]
    exact h.once p hp
  · intro p hp
    rw [hc.places]
    exact h.none p hp

/-! ## The three answers lose count -/

theorem serviceStream_of_keep {cur : StreamData} {v : Visit} {windowStart : Nat} {result : Int}
    (preps : List Prepared) (hcur : w.mSequence[w.nextStreamToService]? = some cur)
    (hsend : w.sendCurrent windowStart cur result = v) (hv : v.fetch = false) :
    (w.serviceStream windowStart result preps).1 = v.world.settle v.current v.advance := by
  unfold serviceStream
  rw [hcur]
  simp only [hsend, hv, Bool.false_eq_true, if_false]

theorem serviceStream_of_fetch {cur : StreamData} {v : Visit} {windowStart : Nat} {result : Int}
    (preps : List Prepared) (hcur : w.mSequence[w.nextStreamToService]? = some cur)
    (hsend : w.sendCurrent windowStart cur result = v) (hv : v.fetch = true) :
    (w.serviceStream windowStart result preps).1 =
      (fetchLoop windowStart v.world.mDiag.dropped preps 0 v.world v.current).1.settle
        (fetchLoop windowStart v.world.mDiag.dropped preps 0 v.world v.current).2.1
        (fetchLoop windowStart v.world.mDiag.dropped preps 0 v.world v.current).2.2 := by
  unfold serviceStream
  rw [hcur]
  simp only [hsend, hv, if_true]

/-- After a fatal answer the packet is in its pool and still in its entry. -/
theorem places_after_fatal (hf : Full w) {cur : StreamData}
    (hcur : w.mSequence[w.nextStreamToService]? = some cur) (hp : cur.packet = some p)
    {windowStart : Nat} {result : Int} (preps : List Prepared)
    (ht : w.Transmits windowStart p) (hr : result = -EINVAL ∨ result = - ENXIO) :
    places (w.serviceStream windowStart result preps).1 p = places w p + 1 := by
  have hfits := hf.fits hcur
  rw [hp] at hfits
  have hstamp : Moves w (some p) (w.stampLaunch cur p) (some p) := stampLaunch_moves hf.homed cur
  have hm := hstamp.trans (returnPacket_moves hstamp.homed (hstamp.fits hfits))
  obtain ⟨cur', hp', hsend⟩ : ∃ cur' : StreamData, cur'.packet = some p ∧
      w.sendCurrent windowStart cur result =
        { world := (w.stampLaunch cur p).returnPacket p, current := cur', fetch := false } := by
    refine ⟨{ cur with done := .eTxError }, hp, ?_⟩
    unfold sendCurrent transmit
    simp only [hp, ht.1, ht.2, not_true, if_false, Bool.false_eq_true, hr, if_true]
  have hself : weigh (fun q => q == p) (some p) = 1 := by simp
  have hset := settle_total hcur hm.sequence hm.cursor cur' .stay (w.mHome p) (fun q => q == p)
  have hb := hm.balance _ _ (onHome_single w p)
  have hhome := (settle_reorders ((w.stampLaunch cur p).returnPacket p) cur' .stay).home.trans
    hm.home
  rw [serviceStream_of_keep preps hcur hsend rfl, places_eq_total, places_eq_total]
  dsimp only
  rw [hhome]
  rw [hp, hp', hself] at hset
  rw [weigh_none, hself] at hb
  unfold total at hset ⊢
  omega

/-- After `ENOSPC` the packet is neither with the device nor in its entry. -/
theorem places_after_noSpace (hf : Full w) {cur : StreamData}
    (hcur : w.mSequence[w.nextStreamToService]? = some cur) (hp : cur.packet = some p)
    {windowStart : Nat} (preps : List Prepared) (ht : w.Transmits windowStart p) :
    places (w.serviceStream windowStart ENOSPC preps).1 p + 1 = places w p := by
  have hstamp : Moves w none (w.stampLaunch cur p) none := stampLaunch_moves hf.homed cur
  obtain ⟨v, hv, hsend⟩ : ∃ v, Moves w none v none ∧ w.sendCurrent windowStart cur ENOSPC =
      { world := v, current := cur, fetch := true } := by
    refine ⟨if (w.stampLaunch cur p).mUseShaper ∧ (w.stampLaunch cur p).mShaperBwRate ≠ 100 then
      w.stampLaunch cur p else { w.stampLaunch cur p with cFlagRestartThread := true }, ?_, ?_⟩
    · split
      · exact hstamp
      · exact hstamp.trans (Moves.of_same hstamp.homed rfl rfl rfl rfl rfl rfl rfl)
    · have h1 : ¬ (ENOSPC = -EINVAL ∨ ENOSPC = - ENXIO) := by decide
      have h2 : ¬ ENOSPC = 0 := by decide
      unfold sendCurrent transmit
      simp only [hp, ht.1, ht.2, not_true, if_false, Bool.false_eq_true, if_neg h1, if_neg h2,
        if_true]
  have hm := hv.trans (@fetchLoop_moves windowStart v.mDiag.dropped preps 0 v cur
    hv.homed (hv.fits hf.fits_none))
  have hself : weigh (fun q => q == p) (some p) = 1 := by simp
  have hset := settle_total hcur hm.sequence hm.cursor
    (fetchLoop windowStart v.mDiag.dropped preps 0 v cur).2.1
    (fetchLoop windowStart v.mDiag.dropped preps 0 v cur).2.2 (w.mHome p) (fun q => q == p)
  have hb := hm.balance _ _ (onHome_single w p)
  have hhome := (settle_reorders (fetchLoop windowStart v.mDiag.dropped preps 0 v cur).1
    (fetchLoop windowStart v.mDiag.dropped preps 0 v cur).2.1
    (fetchLoop windowStart v.mDiag.dropped preps 0 v cur).2.2).home.trans hm.home
  rw [serviceStream_of_fetch preps hcur hsend rfl, places_eq_total, places_eq_total]
  dsimp only
  rw [hhome]
  rw [hp, hself] at hset
  rw [weigh_none] at hb
  unfold total at hset ⊢
  omega

/-- **One such answer is enough**: the packet is then in two places or in none. -/
theorem not_owned_of_losesCount {pools : PacketPools} (h : Intact pools w) {e : Event}
    (hok : ¬ StepOk w e) : ¬ Owned pools (w.step e) := by
  cases e with
  | service windowStart result preps =>
      simp only [StepOk, VisitOk, not_forall, not_not] at hok
      obtain ⟨cur, hcur, p, hp, ht, hlose⟩ := hok
      have hcur' : w.mSequence[w.nextStreamToService]? = some cur := hcur
      have hp' : cur.packet = some p := hp
      -- the packet is in an entry, so it is one of the packets there are
      have hheld := weigh_le_held hcur' (fun q => q == p)
      have hself : weigh (fun q => q == p) (some p) = 1 := by simp
      rw [hp', hself] at hheld
      have hhas : pools.Has p := by
        by_contra hno
        have hzero := h.none p hno
        rw [places_eq_total] at hzero
        unfold total at hzero
        omega
      have hone := h.once p hhas
      intro howned
      have hone' : places (w.serviceStream windowStart result preps).1 p = 1 :=
        howned.once p hhas
      rcases hlose with hr | hr | hr
      · have := places_after_fatal h.full hcur' hp' preps ht (Or.inl hr)
        omega
      · have := places_after_fatal h.full hcur' hp' preps ht (Or.inr hr)
        omega
      · subst hr
        have := places_after_noSpace h.full hcur' hp' preps ht
        omega
  | _ => exact absurd trivial hok

/-- **Packet ownership over whole runs.** Whatever happens in whatever order, every
packet is in exactly one place in every state of the run exactly if no transmission of
the run is answered with `EINVAL`, `ENXIO` or `ENOSPC`. -/
theorem owned_iff_stepOk (pools : PacketPools) (config : SequencerConfig)
    (useShaper strictOrder : Bool) (shaperBwRate : Nat) (events : List Event) :
    (∀ pre, pre <+: events →
      Owned pools (exec step (start pools config useShaper strictOrder shaperBwRate) pre)) ↔
    Always step StepOk (start pools config useShaper strictOrder shaperBwRate) events :=
  good_iff_always (fun _ h => h.owned) (fun _ _ h hok => h.step hok)
    (fun _ _ h hok => not_owned_of_losesCount h hok)
    (intact_start pools config useShaper strictOrder shaperBwRate)

/-- One stream with a pool of two packets. -/
def twoPackets : PacketPools where
  home _ := 0
  packets s := if s = 0 then [0, 1] else []
  homed := by
    intro s p hp
    by_cases hs : s = 0
    · exact hs.symm
    · rw [if_neg hs] at hp
      exact absurd hp List.not_mem_nil
  nodup s := by
    by_cases hs : s = 0
    · rw [if_pos hs]
      decide
    · rw [if_neg hs]
      exact List.nodup_nil

/-- The stream is activated and fetches its first packet. -/
def firstFetch : List Event :=
  [.add 0, .update, .beginCycle, .service 0 0 [.fromPool 1000 false]]

/-- **The three answers are no theory.** After `EINVAL` the packet is in its pool and in
its entry; a cycle later it has been handed to the device and fetched once more. After
`ENOSPC` it is nowhere. -/
theorem failing_transmission_breaks :
    ¬ Owned twoPackets (exec step (start twoPackets {} false false 100)
        (firstFetch ++ [.service 0 (-EINVAL) []])) ∧
      places (exec step (start twoPackets {} false false 100)
        (firstFetch ++ [.service 0 (-EINVAL) [], .beginCycle,
          .service 0 0 [.fromPool 2000 false]])) 0 = 2 ∧
      ¬ Owned twoPackets (exec step (start twoPackets {} false false 100)
        (firstFetch ++ [.service 0 ENOSPC [.fromPool 2000 false]])) := by
  refine ⟨?_, by decide, ?_⟩
  · intro h
    have h2 : places (exec step (start twoPackets {} false false 100)
        (firstFetch ++ [.service 0 (-EINVAL) []])) 0 = 2 := by decide
    exact absurd (h.once 0 (by decide)) (by rw [h2]; decide)
  · intro h
    have h0 : places (exec step (start twoPackets {} false false 100)
        (firstFetch ++ [.service 0 ENOSPC [.fromPool 2000 false]])) 0 = 0 := by decide
    exact absurd (h.once 0 (by decide)) (by rw [h0]; decide)

end AvbStreamHandler.TxWorld
