import AvbStreamHandler.Transmit.Engine
import AvbStreamHandler.Kit.Greatest

/-!
# The shaper coupling between the traffic classes

The credit of the low class depends on the largest frame of the high class. The high-class
sequencer keeps that size for the streams it serves, and the engine hands it to the
low-class sequencer at the end of each activation and deactivation.

A call of the engine is one step here: the sums and sets are those of `SequencerAccount`,
taken through all phases of the call at once. What the worker thread decides, whether it
answers a removal in time, is part of the event.
-/

namespace AvbStreamHandler

open Kit

/-- What the shaper needs beside the admission data. -/
structure ShaperSpec extends TxSpec where
  getMaxFrameSize : Nat → Nat
  mUseShaper : Bool

structure ShapedSequencer where
  account : SequencerAccount := {}
  mMaxFrameSizeHigh : Nat := 0

/-- A number stands for one stream object. The array of sequencers has a place for each
class. -/
structure ShapedEngine where
  mAvbStreams : Nat → Bool := fun _ => false
  mActive : Nat → Bool := fun _ => false
  mSequencers : IasAvbSrClass → Option ShapedSequencer := fun _ => none

namespace ShapedSequencer

variable (spec : ShaperSpec) (q : ShapedSequencer) (s : Nat)

/-- `none` stands for a refusal, which changes nothing. -/
def addStreamToTransmitList : Option ShapedSequencer :=
  if q.account.Admits spec.toTxSpec s then
    some
      { account := ((q.account.addSums spec.toTxSpec s).insert s).request
        mMaxFrameSizeHigh :=
          if spec.mUseShaper = true ∧ spec.getClass s = .eIasAvbSrClassHigh ∧
              q.mMaxFrameSizeHigh < spec.getMaxFrameSize s then
            spec.getMaxFrameSize s
          else q.mMaxFrameSizeHigh }
  else none

/-- The removal once it is confirmed. -/
def removeConfirmed : ShapedSequencer :=
  let removed := (q.account.erase s).request
  { account := removed.subSums spec.toTxSpec s
    mMaxFrameSizeHigh :=
      if spec.mUseShaper = true ∧ spec.getClass s = .eIasAvbSrClassHigh ∧
          q.mMaxFrameSizeHigh ≤ spec.getMaxFrameSize s then
        greatest spec.getMaxFrameSize removed.mActiveStreams
      else q.mMaxFrameSizeHigh }

/-- The stream is put back because the worker thread did not respond. -/
def removeRestored : ShapedSequencer :=
  { q with account := (((q.account.erase s).request).insert s).request }

end ShapedSequencer

namespace ShapedEngine

variable (spec : ShaperSpec) (e : ShapedEngine)

def setSequencer (c : IasAvbSrClass) (q : ShapedSequencer) : ShapedEngine :=
  { e with mSequencers := Function.update e.mSequencers c (some q) }

def setActive (s : Nat) (b : Bool) : ShapedEngine :=
  { e with mActive := Function.update e.mActive s b }

def setListed (s : Nat) (b : Bool) : ShapedEngine :=
  { e with mAvbStreams := Function.update e.mAvbStreams s b }

def getSequencerByClass (c : IasAvbSrClass) : Option ShapedSequencer := e.mSequencers c

/-- `ok` tells whether the initialisation, the registration and the start of a new
sequencer succeed. -/
def createSequencerOnDemand (c : IasAvbSrClass) (ok : Bool) : ShapedEngine × Bool :=
  match e.getSequencerByClass c with
  | some _ => (e, true)
  | none => if ok then (e.setSequencer c {}, true) else (e, false)

/-- `createTransmitAudioStream`, `createTransmitVideoStream` and
`createTransmitClockReferenceStream`, which differ in the stream object they initialise. -/
def createTransmitStream (s : Nat) (initOk sequencerOk : Bool) : ShapedEngine :=
  if e.mAvbStreams s = true then e
  else if initOk = false then e
  else
    let (created, ok) := e.createSequencerOnDemand (spec.getClass s) sequencerOk
    if ok then created.setListed s true else created

/-- The end of an activation or deactivation, with `q` the sequencer of class `c`. -/
def tellLowClass (c : IasAvbSrClass) (q : ShapedSequencer) : ShapedEngine :=
  if spec.mUseShaper = true ∧ c = .eIasAvbSrClassHigh then
    match e.getSequencerByClass .eIasAvbSrClassLow with
    | none => e
    | some low =>
        e.setSequencer .eIasAvbSrClassLow { low with mMaxFrameSizeHigh := q.mMaxFrameSizeHigh }
  else e

def activateAvbStream (s : Nat) : ShapedEngine :=
  if e.mAvbStreams s = true ∧ e.mActive s = false then
    match e.getSequencerByClass (spec.getClass s) with
    -- asserted not to happen
    | none => e
    | some q =>
        match q.addStreamToTransmitList spec s with
        | none => e
        | some q' =>
            ((e.setSequencer (spec.getClass s) q').setActive s true).tellLowClass spec
              (spec.getClass s) q'
  else e

/-- `answered` tells whether the removal is confirmed, by the worker thread or because it
does not run. The result is whether the call succeeds. -/
def deactivateAvbStream (s : Nat) (answered : Bool) : ShapedEngine × Bool :=
  if e.mAvbStreams s = false then (e, false)
  else if e.mActive s = false then (e, true)
  else
    match e.getSequencerByClass (spec.getClass s) with
    -- asserted not to happen
    | none => (e, false)
    | some q =>
        if answered then
          (((e.setSequencer (spec.getClass s) (q.removeConfirmed spec s)).setActive s false)
            |>.tellLowClass spec (spec.getClass s) (q.removeConfirmed spec s), true)
        else ((e.setSequencer (spec.getClass s) (q.removeRestored s)).setActive s true, false)

def destroyAvbStream (s : Nat) (answered : Bool) : ShapedEngine :=
  let (deactivated, ok) := e.deactivateAvbStream spec s answered
  if ok then deactivated.setListed s false else deactivated

inductive Event
  | createTransmitStream (s : Nat) (initOk sequencerOk : Bool)
  | createSequencerOnDemand (c : IasAvbSrClass) (ok : Bool)
  | activateAvbStream (s : Nat)
  | deactivateAvbStream (s : Nat) (answered : Bool)
  | destroyAvbStream (s : Nat) (answered : Bool)

def step : Event → ShapedEngine
  | .createTransmitStream s initOk sequencerOk => e.createTransmitStream spec s initOk sequencerOk
  | .createSequencerOnDemand c ok => (e.createSequencerOnDemand c ok).1
  | .activateAvbStream s => e.activateAvbStream spec s
  | .deactivateAvbStream s answered => (e.deactivateAvbStream spec s answered).1
  | .destroyAvbStream s answered => e.destroyAvbStream spec s answered

/-! ## The property -/

/-- The active streams of the high class. -/
def ActiveHigh (s : Nat) : Prop :=
  e.mAvbStreams s = true ∧ e.mActive s = true ∧ spec.getClass s = .eIasAvbSrClassHigh

/-- **The coupling**: what the low-class sequencer takes for the largest frame of the high
class is the largest frame of the active high-class streams. -/
def Coupled : Prop :=
  ∀ low, e.getSequencerByClass .eIasAvbSrClassLow = some low →
    Greatest (ActiveHigh spec e) spec.getMaxFrameSize low.mMaxFrameSizeHigh

/-- No active high-class stream has a frame to wait for. -/
def HighSilent : Prop := ∀ s, ActiveHigh spec e s → spec.getMaxFrameSize s = 0

/-- Does `activateAvbStream` take the stream in? -/
def Accepts (s : Nat) : Prop :=
  e.mAvbStreams s = true ∧ e.mActive s = false ∧
    ∃ q, e.getSequencerByClass (spec.getClass s) = some q ∧ q.account.Admits spec.toTxSpec s

/-- When a call keeps the coupling. A new low-class sequencer starts with the size `0`; and
without the shaper nobody keeps the size. -/
def StepOk : Event → Prop
  | .createTransmitStream s initOk sequencerOk =>
      e.mAvbStreams s = false → initOk = true → sequencerOk = true →
        spec.getClass s = .eIasAvbSrClassLow →
        e.getSequencerByClass .eIasAvbSrClassLow = none → HighSilent spec e
  | .createSequencerOnDemand c ok =>
      ok = true → c = .eIasAvbSrClassLow →
        e.getSequencerByClass .eIasAvbSrClassLow = none → HighSilent spec e
  | .activateAvbStream s =>
      spec.mUseShaper = false → spec.getClass s = .eIasAvbSrClassHigh → Accepts spec e s →
        (e.getSequencerByClass .eIasAvbSrClassLow).isSome = true → spec.getMaxFrameSize s = 0
  | .deactivateAvbStream _ _ => True
  | .destroyAvbStream _ _ => True

/-- What every call preserves, whatever becomes of the coupling. -/
structure Inv : Prop where
  /-- A sequencer serves the active streams of its class. -/
  served : ∀ c q, e.getSequencerByClass c = some q → ∀ s,
    s ∈ q.account.mActiveStreams ↔ e.mActive s = true ∧ spec.getClass s = c
  nodup : ∀ c q, e.getSequencerByClass c = some q → q.account.mActiveStreams.Nodup
  listed : ∀ s, e.mActive s = true → e.mAvbStreams s = true
  sequencer : ∀ s, e.mAvbStreams s = true → (e.getSequencerByClass (spec.getClass s)).isSome = true
  /-- The high-class sequencer knows its own largest frame. -/
  own : spec.mUseShaper = true → ∀ q, e.getSequencerByClass .eIasAvbSrClassHigh = some q →
    Greatest (ActiveHigh spec e) spec.getMaxFrameSize q.mMaxFrameSizeHigh
  unused : spec.mUseShaper = false → ∀ q, e.getSequencerByClass .eIasAvbSrClassLow = some q →
    q.mMaxFrameSizeHigh = 0

theorem inv_start : Inv spec {} where
  served _ _ h := nomatch h
  nodup _ _ h := nomatch h
  listed _ h := nomatch h
  sequencer _ h := nomatch h
  own _ _ h := nomatch h
  unused _ _ h := nomatch h

variable {spec e} {e' : ShapedEngine} {c c' : IasAvbSrClass} {s : Nat} {q q' : ShapedSequencer}

@[simp] theorem getSequencerByClass_setSequencer_self :
    (e.setSequencer c q).getSequencerByClass c = some q := Function.update_self ..

theorem getSequencerByClass_setSequencer_ne (h : c' ≠ c) :
    (e.setSequencer c q).getSequencerByClass c' = e.getSequencerByClass c' :=
  Function.update_of_ne h ..

theorem Inv.activeHigh_iff (h : Inv spec e) (s : Nat) :
    ActiveHigh spec e s ↔ e.mActive s = true ∧ spec.getClass s = .eIasAvbSrClassHigh :=
  ⟨fun hs => hs.2, fun hs => ⟨h.listed s hs.1, hs⟩⟩

/-- The set of the high-class sequencer is the set of active high-class streams. -/
theorem Inv.served_high (h : Inv spec e)
    (hq : e.getSequencerByClass .eIasAvbSrClassHigh = some q) (s : Nat) :
    s ∈ q.account.mActiveStreams ↔ ActiveHigh spec e s :=
  (h.served _ q hq s).trans (h.activeHigh_iff s).symm

/-! ## The sets of a sequencer -/

theorem mem_insert (a : SequencerAccount) (t : Nat) :
    t ∈ (a.insert s).mActiveStreams ↔ t = s ∨ t ∈ a.mActiveStreams := by
  unfold SequencerAccount.insert
  dsimp only
  split
  · rename_i hs
    constructor
    · exact Or.inr
    · rintro (rfl | ht)
      · exact hs
      · exact ht
  · exact List.mem_orderedInsert _

theorem nodup_insert {a : SequencerAccount} (h : a.mActiveStreams.Nodup) :
    (a.insert s).mActiveStreams.Nodup := by
  unfold SequencerAccount.insert
  dsimp only
  split
  · exact h
  · rename_i hs
    exact (List.perm_orderedInsert _ s _).nodup_iff.mpr (List.nodup_cons.mpr ⟨hs, h⟩)

theorem mem_erase {a : SequencerAccount} (h : a.mActiveStreams.Nodup) (t : Nat) :
    t ∈ (a.erase s).mActiveStreams ↔ t ≠ s ∧ t ∈ a.mActiveStreams := h.mem_erase_iff

/-- A successful `addStreamToTransmitList`. -/
theorem addStreamToTransmitList_some (h : q.addStreamToTransmitList spec s = some q') :
    q.account.Admits spec.toTxSpec s ∧
      (∀ t, t ∈ q'.account.mActiveStreams ↔ t = s ∨ t ∈ q.account.mActiveStreams) ∧
      (q.account.mActiveStreams.Nodup → q'.account.mActiveStreams.Nodup) ∧
      q'.mMaxFrameSizeHigh =
        if spec.mUseShaper = true ∧ spec.getClass s = .eIasAvbSrClassHigh ∧
            q.mMaxFrameSizeHigh < spec.getMaxFrameSize s then
          spec.getMaxFrameSize s
        else q.mMaxFrameSizeHigh := by
  unfold ShapedSequencer.addStreamToTransmitList at h
  split at h
  · rename_i hadmits
    obtain rfl := Option.some.inj h
    exact ⟨hadmits, mem_insert _, nodup_insert, rfl⟩
  · exact absurd h (by simp)

theorem addStreamToTransmitList_none (h : q.addStreamToTransmitList spec s = none) :
    ¬ q.account.Admits spec.toTxSpec s := by
  unfold ShapedSequencer.addStreamToTransmitList at h
  split at h
  · exact absurd h (by simp)
  · assumption

/-- A removal that fails leaves the set as it was. -/
theorem mem_removeRestored (h : q.account.mActiveStreams.Nodup)
    (hs : s ∈ q.account.mActiveStreams) (t : Nat) :
    t ∈ (q.removeRestored s).account.mActiveStreams ↔ t ∈ q.account.mActiveStreams := by
  refine (mem_insert (((q.account.erase s).request)) t).trans ?_
  have herase := mem_erase (s := s) h t
  by_cases ht : t = s
  · subst ht
    exact ⟨fun _ => hs, fun _ => Or.inl rfl⟩
  · exact ⟨fun hor => (herase.mp (hor.resolve_left ht)).2,
      fun hmem => Or.inr (herase.mpr ⟨ht, hmem⟩)⟩

/-! ## Telling the low class -/

theorem tellLowClass_active : (e.tellLowClass spec c q).mActive = e.mActive := by
  unfold tellLowClass
  split
  · split <;> rfl
  · rfl

theorem tellLowClass_listed : (e.tellLowClass spec c q).mAvbStreams = e.mAvbStreams := by
  unfold tellLowClass
  split
  · split <;> rfl
  · rfl

/-- Only the size in the low-class sequencer changes. -/
theorem tellLowClass_get (h : (e.tellLowClass spec c q).getSequencerByClass c' = some q') :
    ∃ q₀, e.getSequencerByClass c' = some q₀ ∧ q₀.account = q'.account ∧
      (c' = .eIasAvbSrClassHigh ∨ spec.mUseShaper = false → q₀ = q') := by
  unfold tellLowClass at h
  split at h
  · rename_i hshaper
    split at h
    · exact ⟨q', h, rfl, fun _ => rfl⟩
    · rename_i low hlow
      by_cases hc : c' = .eIasAvbSrClassLow
      · subst hc
        rw [getSequencerByClass_setSequencer_self] at h
        obtain rfl := Option.some.inj h
        refine ⟨low, hlow, rfl, ?_⟩
        rintro (habs | hoff)
        · exact IasAvbSrClass.noConfusion habs
        · exact absurd (hoff.symm.trans hshaper.1) (by simp)
      · rw [getSequencerByClass_setSequencer_ne hc] at h
        exact ⟨q', h, rfl, fun _ => rfl⟩
  · exact ⟨q', h, rfl, fun _ => rfl⟩

theorem tellLowClass_isSome (c' : IasAvbSrClass) :
    ((e.tellLowClass spec c q).getSequencerByClass c').isSome
      = (e.getSequencerByClass c').isSome := by
  unfold tellLowClass
  split
  · split
    · rfl
    · rename_i low hlow
      by_cases hc : c' = .eIasAvbSrClassLow
      · subst hc
        rw [getSequencerByClass_setSequencer_self, hlow]
        rfl
      · rw [getSequencerByClass_setSequencer_ne hc]
  · rfl

theorem activeHigh_tellLowClass (s : Nat) :
    ActiveHigh spec (e.tellLowClass spec c q) s ↔ ActiveHigh spec e s := by
  unfold ActiveHigh
  rw [tellLowClass_listed, tellLowClass_active]

theorem Inv.tellLowClass (h : Inv spec e) : Inv spec (e.tellLowClass spec c q) where
  served c' q' hq' t := by
    obtain ⟨q₀, hq₀, haccount, -⟩ := tellLowClass_get hq'
    rw [← haccount, tellLowClass_active]
    exact h.served c' q₀ hq₀ t
  nodup c' q' hq' := by
    obtain ⟨q₀, hq₀, haccount, -⟩ := tellLowClass_get hq'
    exact haccount ▸ h.nodup c' q₀ hq₀
  listed t ht := by
    rw [tellLowClass_active] at ht
    rw [tellLowClass_listed]
    exact h.listed t ht
  sequencer t ht := by
    rw [tellLowClass_listed] at ht
    rw [tellLowClass_isSome]
    exact h.sequencer t ht
  own hshaper q' hq' := by
    obtain ⟨q₀, hq₀, -, hsame⟩ := tellLowClass_get hq'
    rw [← hsame (Or.inl rfl)]
    exact (h.own hshaper q₀ hq₀).congr fun t => (activeHigh_tellLowClass t).symm
  unused hshaper q' hq' := by
    obtain ⟨q₀, hq₀, -, hsame⟩ := tellLowClass_get hq'
    rw [← hsame (Or.inr hshaper)]
    exact h.unused hshaper q₀ hq₀

/-- **Being told couples the low class**, whatever it took for the size before. -/
theorem coupled_tellLowClass (h : Inv spec e) (hshaper : spec.mUseShaper = true)
    (hq : e.getSequencerByClass .eIasAvbSrClassHigh = some q) :
    Coupled spec (e.tellLowClass spec .eIasAvbSrClassHigh q) := by
  intro low hlow
  refine Greatest.congr ?_ fun t => (activeHigh_tellLowClass t).symm
  have hsize : low.mMaxFrameSizeHigh = q.mMaxFrameSizeHigh := by
    unfold ShapedEngine.tellLowClass at hlow
    rw [if_pos ⟨hshaper, rfl⟩] at hlow
    split at hlow
    · rename_i hnone
      exact absurd (hnone.symm.trans hlow) (by simp)
    · rw [getSequencerByClass_setSequencer_self] at hlow
      exact (congrArg ShapedSequencer.mMaxFrameSizeHigh (Option.some.inj hlow)).symm
  exact hsize ▸ h.own hshaper q hq

/-! ## What the calls do to a stream -/

/-- The stream `s` goes into its sequencer's set or out of it, and its flag with it. -/
def exchange (spec : ShaperSpec) (e : ShapedEngine) (s : Nat) (q' : ShapedSequencer) (b : Bool) :
    ShapedEngine :=
  (e.setSequencer (spec.getClass s) q').setActive s b

theorem exchange_active_self (b : Bool) : (e.exchange spec s q' b).mActive s = b :=
  Function.update_self ..

theorem exchange_active_ne {t : Nat} (ht : t ≠ s) (b : Bool) :
    (e.exchange spec s q' b).mActive t = e.mActive t := Function.update_of_ne ht ..

theorem exchange_get_self (b : Bool) :
    (e.exchange spec s q' b).getSequencerByClass (spec.getClass s) = some q' :=
  Function.update_self ..

theorem exchange_get_ne (hc : c ≠ spec.getClass s) (b : Bool) :
    (e.exchange spec s q' b).getSequencerByClass c = e.getSequencerByClass c :=
  Function.update_of_ne hc ..

/-- A stream of the low class does not count. -/
theorem activeHigh_exchange_of_low (hc : spec.getClass s ≠ .eIasAvbSrClassHigh) (b : Bool)
    (t : Nat) : ActiveHigh spec (e.exchange spec s q' b) t ↔ ActiveHigh spec e t := by
  by_cases ht : t = s
  · subst ht
    exact ⟨fun h => absurd h.2.2 hc, fun h => absurd h.2.2 hc⟩
  · unfold ActiveHigh
    rw [exchange_active_ne ht]
    rfl

/-- **The exchange rule**: only the set and the size of one sequencer are left to show. -/
theorem Inv.exchange (h : Inv spec e) (hs : e.mAvbStreams s = true)
    (hq : e.getSequencerByClass (spec.getClass s) = some q) {b : Bool}
    (hset : ∀ t, t ∈ q'.account.mActiveStreams ↔
      if t = s then b = true else t ∈ q.account.mActiveStreams)
    (hnodup : q'.account.mActiveStreams.Nodup)
    (hown : spec.mUseShaper = true → spec.getClass s = .eIasAvbSrClassHigh →
      Greatest (ActiveHigh spec (e.exchange spec s q' b)) spec.getMaxFrameSize
        q'.mMaxFrameSizeHigh)
    (hunused : spec.mUseShaper = false → q'.mMaxFrameSizeHigh = q.mMaxFrameSizeHigh) :
    Inv spec (e.exchange spec s q' b) where
  served c r hr t := by
    -- the sequencer of the class, or one that is left alone
    by_cases hc : c = spec.getClass s
    · subst hc
      rw [exchange_get_self] at hr
      obtain rfl := Option.some.inj hr
      rw [hset t]
      by_cases ht : t = s
      · subst ht
        rw [if_pos rfl, exchange_active_self]
        exact ⟨fun hb => ⟨hb, rfl⟩, fun hb => hb.1⟩
      · rw [if_neg ht, exchange_active_ne ht]
        exact h.served _ q hq t
    · rw [exchange_get_ne hc] at hr
      rw [h.served c r hr t]
      by_cases ht : t = s
      · subst ht
        exact ⟨fun hb => absurd hb.2.symm hc, fun hb => absurd hb.2.symm hc⟩
      · rw [exchange_active_ne ht]
  nodup c r hr := by
    by_cases hc : c = spec.getClass s
    · subst hc
      rw [exchange_get_self] at hr
      obtain rfl := Option.some.inj hr
      exact hnodup
    · rw [exchange_get_ne hc] at hr
      exact h.nodup c r hr
  listed t ht := by
    by_cases hts : t = s
    · subst hts
      exact hs
    · rw [exchange_active_ne hts] at ht
      exact h.listed t ht
  sequencer t ht := by
    by_cases hc : spec.getClass t = spec.getClass s
    · rw [hc, exchange_get_self]
      rfl
    · rw [exchange_get_ne hc]
      exact h.sequencer t ht
  own hshaper r hr := by
    by_cases hc : spec.getClass s = .eIasAvbSrClassHigh
    · rw [← hc, exchange_get_self] at hr
      obtain rfl := Option.some.inj hr
      exact hown hshaper hc
    · rw [exchange_get_ne (Ne.symm hc)] at hr
      exact (h.own hshaper r hr).congr fun t => (activeHigh_exchange_of_low hc b t).symm
  unused hshaper r hr := by
    by_cases hc : spec.getClass s = .eIasAvbSrClassLow
    · rw [← hc, exchange_get_self] at hr
      obtain rfl := Option.some.inj hr
      exact (hunused hshaper).trans (h.unused hshaper q (hc ▸ hq))
    · rw [exchange_get_ne (Ne.symm hc)] at hr
      exact h.unused hshaper r hr

/-- A stream of the high class comes in or goes. -/
theorem activeHigh_exchange (hs : e.mAvbStreams s = true)
    (hc : spec.getClass s = .eIasAvbSrClassHigh) (b : Bool) (t : Nat) :
    ActiveHigh spec (e.exchange spec s q' b) t ↔ if t = s then b = true else ActiveHigh spec e t := by
  by_cases ht : t = s
  · subst ht
    rw [if_pos rfl]
    unfold ActiveHigh
    rw [exchange_active_self]
    exact ⟨fun hb => hb.2.1, fun hb => ⟨hs, hb, hc⟩⟩
  · rw [if_neg ht]
    unfold ActiveHigh
    rw [exchange_active_ne ht]
    rfl

/-! ## Creation -/

/-- An unknown class has no active stream, so a new sequencer starts in order. -/
theorem Inv.newSequencer (h : Inv spec e) (hc : e.getSequencerByClass c = none) :
    Inv spec (e.setSequencer c {}) := by
  -- a stream is only active in a class that has a sequencer
  have hidle : ∀ s, e.mActive s = true → spec.getClass s ≠ c := by
    intro s hs hsc
    have hsome := h.sequencer s (h.listed s hs)
    rw [hsc, hc] at hsome
    exact Bool.noConfusion hsome
  refine ⟨?_, ?_, h.listed, ?_, ?_, ?_⟩
  · intro c' q' hq' s
    by_cases heq : c' = c
    · subst heq
      rw [getSequencerByClass_setSequencer_self] at hq'
      obtain rfl := Option.some.inj hq'
      exact ⟨fun hs => absurd hs List.not_mem_nil, fun hs => absurd hs.2 (hidle s hs.1)⟩
    · rw [getSequencerByClass_setSequencer_ne heq] at hq'
      exact h.served c' q' hq' s
  · intro c' q' hq'
    by_cases heq : c' = c
    · subst heq
      rw [getSequencerByClass_setSequencer_self] at hq'
      obtain rfl := Option.some.inj hq'
      exact List.nodup_nil
    · rw [getSequencerByClass_setSequencer_ne heq] at hq'
      exact h.nodup c' q' hq'
  · intro s hs
    by_cases heq : spec.getClass s = c
    · rw [heq, getSequencerByClass_setSequencer_self]
      rfl
    · rw [getSequencerByClass_setSequencer_ne heq]
      exact h.sequencer s hs
  · intro hshaper q' hq'
    by_cases heq : IasAvbSrClass.eIasAvbSrClassHigh = c
    · subst heq
      rw [getSequencerByClass_setSequencer_self] at hq'
      obtain rfl := Option.some.inj hq'
      exact greatest_zero_iff.mpr fun s hs => absurd hs.2.2 (hidle s hs.2.1)
    · rw [getSequencerByClass_setSequencer_ne heq] at hq'
      exact h.own hshaper q' hq'
  · intro hshaper q' hq'
    by_cases heq : IasAvbSrClass.eIasAvbSrClassLow = c
    · subst heq
      rw [getSequencerByClass_setSequencer_self] at hq'
      obtain rfl := Option.some.inj hq'
      rfl
    · rw [getSequencerByClass_setSequencer_ne heq] at hq'
      exact h.unused hshaper q' hq'

theorem createSequencerOnDemand_cases (e : ShapedEngine) (c : IasAvbSrClass) (ok : Bool) :
    (e.createSequencerOnDemand c ok).1 = e ∨
      (ok = true ∧ e.getSequencerByClass c = none ∧
        (e.createSequencerOnDemand c ok).1 = e.setSequencer c {}) := by
  unfold createSequencerOnDemand
  split
  · exact Or.inl rfl
  · rename_i hnone
    split
    · rename_i hok
      exact Or.inr ⟨hok, hnone, rfl⟩
    · exact Or.inl rfl

theorem createSequencerOnDemand_of_ok {ok : Bool}
    (h : (e.createSequencerOnDemand c ok).2 = true) :
    ((e.createSequencerOnDemand c ok).1.getSequencerByClass c).isSome = true := by
  unfold createSequencerOnDemand at h ⊢
  split
  · rename_i q hq
    exact (congrArg Option.isSome hq).trans rfl
  · rename_i hnone
    rw [hnone] at h
    dsimp only at h
    split
    · rw [getSequencerByClass_setSequencer_self]
      rfl
    · rename_i hok
      rw [if_neg hok] at h
      exact Bool.noConfusion h

theorem Inv.createSequencerOnDemand (h : Inv spec e) (c : IasAvbSrClass) (ok : Bool) :
    Inv spec (e.createSequencerOnDemand c ok).1 := by
  rcases createSequencerOnDemand_cases e c ok with heq | ⟨-, hnone, heq⟩
  · rw [heq]
    exact h
  · rw [heq]
    exact h.newSequencer hnone

/-- A low-class sequencer that has not been told anything. -/
theorem coupled_of_zero {low : ShapedSequencer}
    (hlow : e.getSequencerByClass .eIasAvbSrClassLow = some low)
    (hzero : low.mMaxFrameSizeHigh = 0) : Coupled spec e ↔ HighSilent spec e := by
  refine Iff.trans ⟨fun h => hzero ▸ h low hlow, ?_⟩ greatest_zero_iff
  intro h low' hlow'
  obtain rfl := Option.some.inj (hlow.symm.trans hlow')
  exact hzero ▸ h

/-- **A new low-class sequencer is coupled exactly if the high class is silent.** -/
theorem coupled_createSequencerOnDemand (h : Coupled spec e) (c : IasAvbSrClass) (ok : Bool) :
    Coupled spec (e.createSequencerOnDemand c ok).1 ↔
      (ok = true → c = .eIasAvbSrClassLow →
        e.getSequencerByClass .eIasAvbSrClassLow = none → HighSilent spec e) := by
  unfold ShapedEngine.createSequencerOnDemand
  split
  · rename_i q hq
    refine ⟨fun _ _ hc hnone => ?_, fun _ => h⟩
    subst hc
    exact absurd (hnone.symm.trans hq) (by simp)
  · rename_i hnone
    cases ok with
    | false => exact ⟨fun _ hok => Bool.noConfusion hok, fun _ => h⟩
    | true =>
        cases c with
        | eIasAvbSrClassHigh =>
            refine ⟨fun _ _ hc => IasAvbSrClass.noConfusion hc, ?_⟩
            intro _ low hlow
            exact h low hlow
        | eIasAvbSrClassLow =>
            have hnew : (e.setSequencer .eIasAvbSrClassLow {}).getSequencerByClass
                .eIasAvbSrClassLow = some {} := getSequencerByClass_setSequencer_self
            refine (coupled_of_zero hnew rfl).trans ?_
            exact ⟨fun hsilent _ _ _ => hsilent, fun himp => himp rfl rfl hnone⟩

/-- An inactive stream enters the map or leaves it. -/
theorem activeHigh_setListed (hs : e.mActive s = false) (b : Bool) (t : Nat) :
    ActiveHigh spec (e.setListed s b) t ↔ ActiveHigh spec e t := by
  by_cases ht : t = s
  · subst ht
    exact ⟨fun h => absurd (hs.symm.trans h.2.1) (by simp),
      fun h => absurd (hs.symm.trans h.2.1) (by simp)⟩
  · have hsame : (e.setListed s b).mAvbStreams t = e.mAvbStreams t := Function.update_of_ne ht ..
    unfold ActiveHigh
    rw [hsame]
    rfl

theorem coupled_setListed (hs : e.mActive s = false) (b : Bool) :
    Coupled spec (e.setListed s b) ↔ Coupled spec e :=
  ⟨fun h low hlow => (h low hlow).congr (activeHigh_setListed hs b),
    fun h low hlow => (h low hlow).congr fun t => (activeHigh_setListed hs b t).symm⟩

theorem Inv.setListed (h : Inv spec e) (hs : e.mActive s = false) {b : Bool}
    (hsequencer : b = true → (e.getSequencerByClass (spec.getClass s)).isSome = true) :
    Inv spec (e.setListed s b) where
  served := h.served
  nodup := h.nodup
  listed t ht := by
    have hne : t ≠ s := by
      rintro rfl
      exact absurd (hs.symm.trans ht) (by simp)
    have hsame : (e.setListed s b).mAvbStreams t = e.mAvbStreams t := Function.update_of_ne hne ..
    exact hsame.trans (h.listed t ht)
  sequencer t ht := by
    by_cases hts : t = s
    · subst hts
      have hb : (e.setListed t b).mAvbStreams t = b := Function.update_self ..
      exact hsequencer (hb.symm.trans ht)
    · have hsame : (e.setListed s b).mAvbStreams t = e.mAvbStreams t :=
        Function.update_of_ne hts ..
      exact h.sequencer t (hsame.symm.trans ht)
  own hshaper q hq :=
    (h.own hshaper q hq).congr fun t => (activeHigh_setListed hs b t).symm
  unused := h.unused

theorem Inv.inactive (h : Inv spec e) (hs : e.mAvbStreams s = false) : e.mActive s = false := by
  by_contra hact
  exact absurd (hs.symm.trans (h.listed s (by simpa using hact))) (by simp)

theorem createSequencerOnDemand_active (e : ShapedEngine) (c : IasAvbSrClass) (ok : Bool) :
    (e.createSequencerOnDemand c ok).1.mActive = e.mActive := by
  rcases createSequencerOnDemand_cases e c ok with heq | ⟨-, -, heq⟩
  · rw [heq]
  · rw [heq]
    rfl

theorem Inv.createTransmitStream (h : Inv spec e) (s : Nat) (initOk sequencerOk : Bool) :
    Inv spec (e.createTransmitStream spec s initOk sequencerOk) := by
  unfold ShapedEngine.createTransmitStream
  split
  · exact h
  · rename_i hnew
    split
    · exact h
    · have hcreated := h.createSequencerOnDemand (spec.getClass s) sequencerOk
      dsimp only
      split
      · rename_i hok
        refine hcreated.setListed ?_ fun _ => createSequencerOnDemand_of_ok hok
        rw [createSequencerOnDemand_active]
        exact h.inactive (by simpa using hnew)
      · exact hcreated

end ShapedEngine

end AvbStreamHandler
