import AvbStreamHandler.Transmit.Sequencer

/-!
# Where a packet is

A packet is in its pool, queued in a video stream's local buffer, held by an entry of
the sequence, or with the device. This module counts: for a stream and any set of its
packets, how many of them each place holds. Returning, preparing and transmitting move a
packet from one place to another, so that a whole visit of a stream keeps the count —
unless the device answers in one of three ways. On `EINVAL` and `ENXIO` the packet goes
back to its pool and the entry keeps pointing to it. On `ENOSPC` the entry is refilled
although the device did not take the packet, which is then nowhere.

The half-way state of a visit holds one packet *in hand*. `Moves` relates two such
states; every helper of the visit has one `Moves` lemma.
-/

namespace AvbStreamHandler.TxWorld

open Kit Kit.Run Kit.Cycle

/-! ## Counting -/

/-- A set of packets that all belong to the pool of `s`. -/
def OnHome (w : TxWorld) (s : Nat) (Q : Nat → Bool) : Prop :=
  ∀ p, Q p = true → w.mHome p = s

/-- The packets of the pool of `s`. -/
def ofPool (w : TxWorld) (s : Nat) (p : Nat) : Bool := decide (w.mHome p = s)

theorem onHome_ofPool (w : TxWorld) (s : Nat) : OnHome w s (w.ofPool s) :=
  fun _ h => of_decide_eq_true h

/-- How much a packet in hand counts. -/
def weigh (Q : Nat → Bool) (hand : Option Nat) : Nat := if hand.any Q then 1 else 0

@[simp] theorem weigh_none (Q : Nat → Bool) : weigh Q none = 0 := rfl

@[simp] theorem weigh_some (Q : Nat → Bool) (p : Nat) :
    weigh Q (some p) = if Q p = true then 1 else 0 := rfl

/-- How many packets the entries hold. -/
def held (Q : Nat → Bool) (l : List StreamData) : Nat := l.countP fun e => e.packet.any Q

/-- How many packets are in the pool, in the local buffer and with the device. -/
def loose (w : TxWorld) (s : Nat) (Q : Nat → Bool) : Nat :=
  w.device.countP Q + (w.mFreeBufferStack s).countP Q + (w.mRing s).countP Q

/-- How many packets there are in all. -/
def total (w : TxWorld) (s : Nat) (Q : Nat → Bool) : Nat := held Q w.mSequence + loose w s Q

/-- The packets of a pool and of a local buffer belong there. -/
structure WellHomed (w : TxWorld) : Prop where
  /-- A free packet lies on the stack of its own pool. -/
  stack : ∀ s, ∀ p ∈ w.mFreeBufferStack s, w.mHome p = s
  /-- A queued packet came from the pool of its stream. -/
  ring : ∀ s, ∀ p ∈ w.mRing s, w.mHome p = s

/-- With `hand` in hand, no pool can overflow. -/
def Fits (w : TxWorld) (hand : Option Nat) : Prop :=
  ∀ s, loose w s (w.ofPool s) + weigh (w.ofPool s) hand ≤ w.mPoolSize s

/-- A packet changed places; the entries and the cursor did not. -/
structure Moves (w : TxWorld) (hand : Option Nat) (w' : TxWorld) (hand' : Option Nat) :
    Prop where
  home : w'.mHome = w.mHome
  size : w'.mPoolSize = w.mPoolSize
  sequence : w'.mSequence = w.mSequence
  cursor : w'.nextStreamToService = w.nextStreamToService
  homed : WellHomed w'
  /-- What left a place is in hand, and what was in hand is in a place. -/
  balance : ∀ s Q, OnHome w s Q →
    loose w' s Q + weigh Q hand' = loose w s Q + weigh Q hand

variable {w w' w'' : TxWorld} {hand hand' hand'' : Option Nat} {s p : Nat} {Q : Nat → Bool}

theorem Moves.trans (h : Moves w hand w' hand') (h' : Moves w' hand' w'' hand'') :
    Moves w hand w'' hand'' where
  home := h'.home.trans h.home
  size := h'.size.trans h.size
  sequence := h'.sequence.trans h.sequence
  cursor := h'.cursor.trans h.cursor
  homed := h'.homed
  balance s Q hQ := by
    have hQ' : OnHome w' s Q := fun p hp => by rw [h.home]; exact hQ p hp
    rw [h'.balance s Q hQ', h.balance s Q hQ]

theorem Moves.fits (h : Moves w hand w' hand') (hf : Fits w hand) : Fits w' hand' := by
  intro s
  have hQ : w'.ofPool s = w.ofPool s := by
    funext p
    unfold ofPool
    rw [h.home]
  rw [hQ, h.balance s _ (onHome_ofPool w s), h.size]
  exact hf s

/-- A change that leaves all places alone moves nothing. -/
theorem Moves.of_same (hh : WellHomed w) (home : w'.mHome = w.mHome)
    (size : w'.mPoolSize = w.mPoolSize) (sequence : w'.mSequence = w.mSequence)
    (cursor : w'.nextStreamToService = w.nextStreamToService)
    (stack : w'.mFreeBufferStack = w.mFreeBufferStack) (ring : w'.mRing = w.mRing)
    (device : w'.device = w.device) : Moves w hand w' hand where
  home := home
  size := size
  sequence := sequence
  cursor := cursor
  homed := ⟨by rw [stack, home]; exact hh.stack, by rw [ring, home]; exact hh.ring⟩
  balance s Q _ := by
    unfold loose
    rw [stack, ring, device]

/-! ## The moves of a packet -/

/-- Under the invariant the pool has room for the packet in hand. -/
theorem Fits.room (hf : Fits w (some p)) (hh : WellHomed w) :
    (w.mFreeBufferStack (w.mHome p)).length < w.mPoolSize (w.mHome p) := by
  have hlen : (w.mFreeBufferStack (w.mHome p)).countP (w.ofPool (w.mHome p)) =
      (w.mFreeBufferStack (w.mHome p)).length :=
    List.countP_eq_length.mpr fun q hq => decide_eq_true (hh.stack _ q hq)
  have hroom := hf (w.mHome p)
  have hself : w.ofPool (w.mHome p) p = true := decide_eq_true rfl
  rw [weigh_some, if_pos hself] at hroom
  unfold loose at hroom
  omega

theorem loose_returnPacket (hroom : (w.mFreeBufferStack (w.mHome p)).length ≤
      w.mPoolSize (w.mHome p)) (hQ : OnHome w s Q) :
    loose (w.returnPacket p) s Q = loose w s Q + weigh Q (some p) := by
  unfold loose returnPacket
  dsimp only
  rw [if_pos hroom, weigh_some]
  by_cases hs : s = w.mHome p
  · subst hs
    rw [Function.update_self, List.countP_cons]
    omega
  · have hp : ¬ Q p = true := fun h => hs (hQ p h).symm
    rw [Function.update_of_ne hs, if_neg hp]
    omega

theorem wellHomed_returnPacket (hh : WellHomed w) : WellHomed (w.returnPacket p) where
  stack s q hq := by
    have hq' : q = p ∧ w.mHome p = s ∨ q ∈ w.mFreeBufferStack s := by
      unfold returnPacket at hq
      dsimp only at hq
      split at hq
      · by_cases hs : s = w.mHome p
        · subst hs
          rw [Function.update_self] at hq
          rcases List.mem_cons.mp hq with h | h
          · exact Or.inl ⟨h, rfl⟩
          · exact Or.inr h
        · rw [Function.update_of_ne hs] at hq
          exact Or.inr hq
      · exact Or.inr hq
    rcases hq' with ⟨h, hp⟩ | h
    · show w.mHome q = s
      rw [h]
      exact hp
    · exact hh.stack s q h
  ring := hh.ring

theorem returnPacket_moves (hh : WellHomed w) (hf : Fits w (some p)) :
    Moves w (some p) (w.returnPacket p) none where
  home := rfl
  size := rfl
  sequence := rfl
  cursor := rfl
  homed := wellHomed_returnPacket hh
  balance s Q hQ := by
    rw [loose_returnPacket (Nat.le_of_lt (hf.room hh)) hQ, weigh_none, Nat.add_zero]

theorem toggle_moves (hh : WellHomed w) : Moves w hand (w.toggle s) hand :=
  Moves.of_same hh rfl rfl rfl rfl rfl rfl rfl

theorem stampLaunch_moves (hh : WellHomed w) (cur : StreamData) :
    Moves w hand (w.stampLaunch cur p) hand :=
  Moves.of_same hh rfl rfl rfl rfl rfl rfl rfl

/-- The device takes the packet in hand. -/
theorem handOver_moves (hh : WellHomed w) (d : SequencerDiag) :
    Moves w (some p) { w with device := p :: w.device, mDiag := d } none where
  home := rfl
  size := rfl
  sequence := rfl
  cursor := rfl
  homed := ⟨hh.stack, hh.ring⟩
  balance s Q _ := by
    unfold loose
    dsimp only
    rw [List.countP_cons, weigh_some, weigh_none]
    omega

/-- Taking the top of a stack. -/
theorem popStack_moves (hh : WellHomed w) {rest : List Nat}
    (h : w.mFreeBufferStack s = p :: rest) (a : Nat → Nat) (d : Nat → Bool) :
    Moves w none { w with
      mFreeBufferStack := Function.update w.mFreeBufferStack s rest
      attime := a, mDummyFlag := d } (some p) where
  home := rfl
  size := rfl
  sequence := rfl
  cursor := rfl
  homed := by
    refine ⟨?_, hh.ring⟩
    intro t q hq
    dsimp only at hq
    by_cases ht : t = s
    · subst ht
      rw [Function.update_self] at hq
      exact hh.stack t q (by rw [h]; exact List.mem_cons_of_mem p hq)
    · rw [Function.update_of_ne ht] at hq
      exact hh.stack t q hq
  balance t Q hQ := by
    unfold loose
    dsimp only
    rw [weigh_some, weigh_none]
    by_cases ht : t = s
    · subst ht
      rw [Function.update_self, h, List.countP_cons]
      omega
    · have hp : ¬ Q p = true := by
        intro hq
        have := hh.stack s p (by rw [h]; exact List.mem_cons_self)
        exact ht ((hQ p hq).symm.trans this)
      rw [Function.update_of_ne ht, if_neg hp]

/-- Taking the oldest packet of a local buffer. -/
theorem popRing_moves (hh : WellHomed w) {rest : List Nat} (h : w.mRing s = p :: rest)
    (a : Nat → Nat) :
    Moves w none { w with mRing := Function.update w.mRing s rest, attime := a } (some p) where
  home := rfl
  size := rfl
  sequence := rfl
  cursor := rfl
  homed := by
    refine ⟨hh.stack, ?_⟩
    intro t q hq
    dsimp only at hq
    by_cases ht : t = s
    · subst ht
      rw [Function.update_self] at hq
      exact hh.ring t q (by rw [h]; exact List.mem_cons_of_mem p hq)
    · rw [Function.update_of_ne ht] at hq
      exact hh.ring t q hq
  balance t Q hQ := by
    unfold loose
    dsimp only
    rw [weigh_some, weigh_none]
    by_cases ht : t = s
    · subst ht
      rw [Function.update_self, h, List.countP_cons]
      omega
    · have hp : ¬ Q p = true := by
        intro hq
        have := hh.ring s p (by rw [h]; exact List.mem_cons_self)
        exact ht ((hQ p hq).symm.trans this)
      rw [Function.update_of_ne ht, if_neg hp]

theorem preparePacket_moves (hh : WellHomed w) (hf : Fits w none) (s : Nat) (prep : Prepared) :
    Moves w none (w.preparePacket s prep).1 (w.preparePacket s prep).2 := by
  have hsame : Moves w none w none := Moves.of_same hh rfl rfl rfl rfl rfl rfl rfl
  cases prep with
  | fromPool attime dummy =>
      unfold preparePacket
      dsimp only
      split
      · exact hsame
      · rename_i p rest h
        exact popStack_moves hh h _ _
  | fromRing attime =>
      unfold preparePacket
      dsimp only
      split
      · exact hsame
      · rename_i p rest h
        exact popRing_moves hh h _
  | ringFailed =>
      unfold preparePacket
      dsimp only
      split
      · exact hsame
      · rename_i p rest h
        have hpop := popRing_moves hh h w.attime
        exact hpop.trans (returnPacket_moves hpop.homed (hpop.fits hf))
  | failed => exact hsame

/-! ## A visit -/

/-- The answers of the device after which the visit loses count. -/
def LosesCount (result : Int) : Prop :=
  result = -EINVAL ∨ result = - ENXIO ∨ result = ENOSPC

instance (result : Int) : Decidable (LosesCount result) := inferInstanceAs (Decidable (_ ∨ _))

/-- Does the visit hand the packet `p` to the device? -/
def Transmits (w : TxWorld) (windowStart p : Nat) : Prop :=
  w.Due windowStart p ∧ w.mDummyFlag p = false

instance (w : TxWorld) (windowStart p : Nat) : Decidable (w.Transmits windowStart p) :=
  inferInstanceAs (Decidable (_ ∧ _))

theorem transmit_moves (hh : WellHomed w) {cur : StreamData} (hcur : cur.packet = some p)
    {result : Int} (hok : ¬ LosesCount result) :
    Moves w (some p) (w.transmit cur p result).world
      (if (w.transmit cur p result).fetch then none
        else (w.transmit cur p result).current.packet) := by
  simp only [LosesCount, not_or] at hok
  obtain ⟨h1, h2, h3⟩ := hok
  have hstamp : Moves w (some p) (w.stampLaunch cur p) (some p) := stampLaunch_moves hh cur
  unfold transmit
  dsimp only
  rw [if_neg (by simp only [h1, h2, or_self, not_false_eq_true]), if_neg h3]
  split
  · exact hstamp.trans (handOver_moves hstamp.homed _)
  · simp only [Bool.false_eq_true, if_false, hcur]
    exact hstamp

/-- **The first half of a visit** leaves in hand what the second half does not
overwrite. -/
theorem sendCurrent_moves (hh : WellHomed w) {cur : StreamData} (hf : Fits w cur.packet)
    {windowStart : Nat} {result : Int}
    (hok : ∀ p, cur.packet = some p → w.Transmits windowStart p → ¬ LosesCount result) :
    Moves w cur.packet (w.sendCurrent windowStart cur result).world
      (if (w.sendCurrent windowStart cur result).fetch then none
        else (w.sendCurrent windowStart cur result).current.packet) := by
  unfold sendCurrent
  split
  · rename_i h
    rw [h]
    exact Moves.of_same hh rfl rfl rfl rfl rfl rfl rfl
  · rename_i p h
    rw [h] at hf ⊢
    split
    · simp only [Bool.false_eq_true, if_false]
      exact Moves.of_same hh rfl rfl rfl rfl rfl rfl rfl
    · rename_i hdue
      split
      · exact returnPacket_moves hh hf
      · rename_i hdummy
        exact transmit_moves hh h (hok p h ⟨not_not.mp hdue, by simpa using hdummy⟩)

/-- **The second half of a visit** overwrites what is in the entry; what it keeps comes
out of a pool or a local buffer. -/
theorem fetchLoop_moves (windowStart droppedOld : Nat) :
    ∀ (preps : List Prepared) (resetCnt : Nat) {w : TxWorld} {cur : StreamData},
      WellHomed w → Fits w none →
      Moves w none (fetchLoop windowStart droppedOld preps resetCnt w cur).1
        (fetchLoop windowStart droppedOld preps resetCnt w cur).2.1.packet
  | [], _, _, _, hh, _ => Moves.of_same hh rfl rfl rfl rfl rfl rfl rfl
  | prep :: preps, resetCnt, w, cur, hh, hf => by
      have hprep := preparePacket_moves hh hf cur.stream prep
      have hfits := hprep.fits hf
      rw [fetchLoop]
      split
      · rename_i w' h
        rw [h] at hprep
        exact hprep
      · rename_i w' p h
        rw [h] at hprep hfits
        -- the packet goes back and the stream is reset or its counters change
        have hback := hprep.trans (returnPacket_moves hprep.homed hfits)
        have hreset := hback.trans (toggle_moves (s := cur.stream) hback.homed)
        have hdrop : Moves w none { w'.returnPacket p with
            mDiag := { (w'.returnPacket p).mDiag with
              dropped := Word.add32 (w'.returnPacket p).mDiag.dropped 1 } } none :=
          hback.trans (Moves.of_same hback.homed rfl rfl rfl rfl rfl rfl rfl)
        dsimp only
        split
        · exact hprep
        · split
          · split
            · exact hreset.trans (fetchLoop_moves windowStart droppedOld preps _ hreset.homed
                (hreset.fits hf))
            · exact hreset
          · split
            · split
              · exact hdrop.trans (toggle_moves hdrop.homed)
              · exact hdrop.trans (fetchLoop_moves windowStart droppedOld preps _ hdrop.homed
                  (hdrop.fits hf))
            · exact hprep

/-! ## The list of entries -/

theorem held_perm {l l' : List StreamData} (h : l.Perm l') (Q : Nat → Bool) :
    held Q l = held Q l' := h.countP_eq _

/-- Replacing an entry exchanges what it held. -/
theorem held_set {l : List StreamData} {c : Nat} {cur : StreamData} (h : l[c]? = some cur)
    (e : StreamData) (Q : Nat → Bool) :
    held Q (l.set c e) + weigh Q cur.packet = held Q l + weigh Q e.packet := by
  obtain ⟨hc, hcur⟩ := List.getElem?_eq_some_iff.mp h
  have hle := List.boole_getElem_le_countP (p := fun e : StreamData => e.packet.any Q) hc
  unfold held
  rw [List.countP_set hc, hcur] at *
  unfold weigh
  omega

theorem weigh_le_held {l : List StreamData} {c : Nat} {cur : StreamData}
    (h : l[c]? = some cur) (Q : Nat → Bool) : weigh Q cur.packet ≤ held Q l := by
  obtain ⟨hc, hcur⟩ := List.getElem?_eq_some_iff.mp h
  have hle := List.boole_getElem_le_countP (p := fun e : StreamData => e.packet.any Q) hc
  rw [hcur] at hle
  exact hle

theorem held_append (Q : Nat → Bool) (l l' : List StreamData) :
    held Q (l ++ l') = held Q l + held Q l' := List.countP_append

theorem held_cons (Q : Nat → Bool) (e : StreamData) (l : List StreamData) :
    held Q (e :: l) = held Q l + weigh Q e.packet := List.countP_cons

/-- The sequence is reordered; nothing else that counts changes. -/
structure Reorders (w w' : TxWorld) : Prop where
  home : w'.mHome = w.mHome
  size : w'.mPoolSize = w.mPoolSize
  stack : w'.mFreeBufferStack = w.mFreeBufferStack
  ring : w'.mRing = w.mRing
  device : w'.device = w.device
  perm : w'.mSequence.Perm w.mSequence

theorem Reorders.refl (w : TxWorld) : Reorders w w := ⟨rfl, rfl, rfl, rfl, rfl, List.Perm.refl _⟩

theorem searchBackward_lt {l : List StreamData} {c launchTime : Nat} :
    ∀ (n : Nat) {backward : Nat}, backward < l.length →
      searchBackward l c launchTime n backward < l.length
  | 0, _, h => h
  | n + 1, backward, h => by
      have hp := prev_lt h
      rw [searchBackward]
      split
      · exact hp
      · split
        · exact hp
        · split
          · exact hp
          · exact searchBackward_lt n hp

theorem sortByLaunchTime_reorders (w : TxWorld) : Reorders w w.sortByLaunchTime := by
  unfold sortByLaunchTime
  dsimp only
  split
  · exact Reorders.refl w
  · rename_i cur hcur
    have hc : w.nextStreamToService < w.mSequence.length :=
      (List.getElem?_eq_some_iff.mp hcur).1
    split
    · exact Reorders.refl w
    · split
      · exact ⟨rfl, rfl, rfl, rfl, rfl, List.Perm.refl _⟩
      · have hpos := next_lt (@searchBackward_lt w.mSequence w.nextStreamToService
          cur.launchTime w.mSequence.length _ hc)
        exact ⟨rfl, rfl, rfl, rfl, rfl, perm_moveBefore hcur (Nat.le_of_lt hpos)⟩

theorem settle_reorders (w : TxWorld) (cur : StreamData) (advance : Advance) :
    Reorders { w with mSequence := w.mSequence.set w.nextStreamToService cur }
      (w.settle cur advance) := by
  unfold settle
  dsimp only
  cases advance with
  | stay => exact ⟨rfl, rfl, rfl, rfl, rfl, List.Perm.refl _⟩
  | next => exact ⟨rfl, rfl, rfl, rfl, rfl, List.Perm.refl _⟩
  | sortByLaunchTime =>
      have h := sortByLaunchTime_reorders
        { w with mSequence := w.mSequence.set w.nextStreamToService cur }
      exact ⟨h.home, h.size, h.stack, h.ring, h.device, h.perm⟩

/-! ## Conservation -/

/-- **Nothing is lost and nothing is doubled**, whatever set of packets is looked at. -/
structure Conserves (w w' : TxWorld) : Prop where
  home : w'.mHome = w.mHome
  size : w'.mPoolSize = w.mPoolSize
  homed : WellHomed w'
  total : ∀ s Q, OnHome w s Q → total w' s Q = total w s Q

/-- The invariant that conservation keeps: the packets of a pool are all somewhere. -/
structure Full (w : TxWorld) : Prop where
  /-- The packets of a pool and of a local buffer belong there. -/
  homed : WellHomed w
  /-- A pool's packets are as many as its size. -/
  complete : ∀ s, total w s (w.ofPool s) = w.mPoolSize s

theorem Conserves.refl (hh : WellHomed w) : Conserves w w := ⟨rfl, rfl, hh, fun _ _ _ => rfl⟩

theorem Conserves.onHome (h : Conserves w w') (hQ : OnHome w s Q) : OnHome w' s Q := by
  intro p hp
  rw [h.home]
  exact hQ p hp

theorem Conserves.trans (h : Conserves w w') (h' : Conserves w' w'') : Conserves w w'' where
  home := h'.home.trans h.home
  size := h'.size.trans h.size
  homed := h'.homed
  total s Q hQ := (h'.total s Q (h.onHome hQ)).trans (h.total s Q hQ)

theorem Conserves.full (h : Conserves w w') (hf : Full w) : Full w' where
  homed := h.homed
  complete s := by
    have hQ : w'.ofPool s = w.ofPool s := by
      funext p
      unfold ofPool
      rw [h.home]
    rw [hQ, h.total s _ (onHome_ofPool w s), h.size]
    exact hf.complete s

/-- A reordering conserves. -/
theorem Reorders.conserves (h : Reorders w w') (hh : WellHomed w) : Conserves w w' where
  home := h.home
  size := h.size
  homed := ⟨by rw [h.stack, h.home]; exact hh.stack, by rw [h.ring, h.home]; exact hh.ring⟩
  total s Q _ := by
    unfold TxWorld.total loose
    rw [held_perm h.perm, h.stack, h.ring, h.device]

theorem Full.fits (hf : Full w) {c : Nat} {cur : StreamData}
    (hcur : w.mSequence[c]? = some cur) : Fits w cur.packet := by
  intro s
  have h := hf.complete s
  have hle := weigh_le_held hcur (w.ofPool s)
  unfold TxWorld.total at h
  omega

theorem Full.fits_none (hf : Full w) : Fits w none := by
  intro s
  have h := hf.complete s
  unfold TxWorld.total at h
  rw [weigh_none]
  omega

/-- What a visit ends with: the entry goes back to its place in the list. -/
theorem settle_total {cur : StreamData} (hcur : w.mSequence[w.nextStreamToService]? = some cur)
    (hseq : w'.mSequence = w.mSequence)
    (hcursor : w'.nextStreamToService = w.nextStreamToService) (cur' : StreamData)
    (advance : Advance) (s : Nat) (Q : Nat → Bool) :
    total (w'.settle cur' advance) s Q + weigh Q cur.packet =
      held Q w.mSequence + weigh Q cur'.packet + loose w' s Q := by
  have hr := settle_reorders w' cur' advance
  have hset := held_set hcur cur' Q
  have hl : loose (w'.settle cur' advance) s Q = loose w' s Q := by
    unfold loose
    rw [hr.stack, hr.ring, hr.device]
  unfold TxWorld.total
  rw [held_perm hr.perm, hl]
  dsimp only
  rw [hseq, hcursor]
  omega

theorem settle_conserves {cur cur' : StreamData}
    (hcur : w.mSequence[w.nextStreamToService]? = some cur)
    (hm : Moves w cur.packet w' cur'.packet) (advance : Advance) :
    Conserves w (w'.settle cur' advance) where
  home := (settle_reorders w' cur' advance).home.trans hm.home
  size := (settle_reorders w' cur' advance).size.trans hm.size
  homed := ((settle_reorders w' cur' advance).conserves ⟨hm.homed.stack, hm.homed.ring⟩).homed
  total s Q hQ := by
    have hset := settle_total hcur hm.sequence hm.cursor cur' advance s Q
    have hb := hm.balance s Q hQ
    unfold TxWorld.total at hset ⊢
    omega

/-- The condition on a visit: whatever it hands to the device, the device does not give
one of the three answers. -/
def VisitOk (w : TxWorld) (windowStart : Nat) (result : Int) : Prop :=
  ∀ cur ∈ w.mSequence[w.nextStreamToService]?, ∀ p ∈ cur.packet,
    w.Transmits windowStart p → ¬ LosesCount result

/-- **A visit conserves**, if the device does not give one of the three answers. -/
theorem serviceStream_conserves (hf : Full w) {windowStart : Nat} {result : Int}
    {preps : List Prepared} (hok : VisitOk w windowStart result) :
    Conserves w (w.serviceStream windowStart result preps).1 := by
  unfold serviceStream
  split
  · exact Conserves.refl hf.homed
  · rename_i cur hcur
    have hsend := sendCurrent_moves hf.homed (hf.fits hcur) (hok cur hcur)
    dsimp only
    split
    · rename_i hfetch
      rw [if_pos hfetch] at hsend
      have hloop := @fetchLoop_moves windowStart
        (w.sendCurrent windowStart cur result).world.mDiag.dropped preps 0 _
        (w.sendCurrent windowStart cur result).current hsend.homed (hsend.fits (hf.fits hcur))
      exact settle_conserves hcur (hsend.trans hloop) _
    · rename_i hfetch
      rw [if_neg hfetch] at hsend
      exact settle_conserves hcur hsend _

end AvbStreamHandler.TxWorld
