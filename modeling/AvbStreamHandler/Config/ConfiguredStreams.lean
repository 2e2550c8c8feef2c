import AvbStreamHandler.Config.CommandLineRuns

/-!
# The streams of a command line

A profile fixes which streams there are. The options that come after it may give a stream of the
network other ids, another address or another number of channels, and an ALSA stream another
channel layout; how many streams there are, their class, their rate and their clocks are those
of the profile. An address that was given by an option has 48 bits.
-/

namespace AvbStreamHandler

open Kit Kit.Run Kit.Past ContinueStatus

/-! ## Edits -/

/-- An address that was there before, or one of 48 bits. -/
def KeepsAddress (dMac dMac' : UInt64) : Prop := dMac' = dMac ∨ dMac'.toNat < 281474976710656

structure StreamParamsAvbRx.EditOf (e e' : StreamParamsAvbRx) : Prop where
  srClass : e'.srClass = e.srClass
  sampleFreq : e'.sampleFreq = e.sampleFreq
  slaveClockId : e'.slaveClockId = e.slaveClockId
  clockDriverId : e'.clockDriverId = e.clockDriverId
  dMac : KeepsAddress e.dMac e'.dMac

structure StreamParamsAvbTx.EditOf (e e' : StreamParamsAvbTx) : Prop where
  srClass : e'.srClass = e.srClass
  sampleFreq : e'.sampleFreq = e.sampleFreq
  clockId : e'.clockId = e.clockId
  activate : e'.activate = e.activate
  dMac : KeepsAddress e.dMac e'.dMac

/-- Nothing but the layout is written. -/
def StreamParamsAlsa.EditOf (e e' : StreamParamsAlsa) : Prop :=
  e' = { e with layout := e'.layout }

/-- **The tables of a profile**, with what options may have written into them. -/
structure ConfiguredFrom (p : ProfileParams) (b : IasAvbConfigurationBase) : Prop where
  rx : List.Forall₂ StreamParamsAvbRx.EditOf (validEntries (·.isValid) p.configAvbRx)
    b.mAvbStreamsRx.used
  tx : List.Forall₂ StreamParamsAvbTx.EditOf (validEntries (·.isValid) p.configAvbTx)
    b.mAvbStreamsTx.used
  alsa : List.Forall₂ StreamParamsAlsa.EditOf (validEntries (·.isValid) p.configAlsa)
    b.mAlsaStreams.used
  videoRx : b.mAvbVideoStreamsRx.used = validEntries (·.isValid) p.configAvbVideoRx
  videoTx : b.mAvbVideoStreamsTx.used = validEntries (·.isValid) p.configAvbVideoTx
  clkRefRx : b.mAvbClkRefStreamRx.used = validEntries (·.isValid) p.configAvbClkRefStreamRx
  clkRefTx : b.mAvbClkRefStreamTx.used = validEntries (·.isValid) p.configAvbClkRefStreamTx
  video : b.mVideoStreams.used = validEntries (·.isValid) p.configVideo
  testTone : b.mTestStreams.used = validEntries (·.isValid) p.configTestTone

theorem forall₂_modify {α : Type} {R : α → α → Prop} {f : α → α} {l l' : List α} {i : Nat}
    (hf : ∀ a b, R a b → R a (f b)) (h : List.Forall₂ R l l') :
    List.Forall₂ R l (l'.modify i f) := by
  induction h generalizing i with
  | nil =>
      rw [List.modify_nil]
      exact .nil
  | cons hab hrest ih =>
      cases i with
      | zero => exact .cons (hf _ _ hab) hrest
      | succ i => exact .cons hab ih

theorem forall₂_refl {α : Type} {R : α → α → Prop} (hR : ∀ a, R a a) (l : List α) :
    List.Forall₂ R l l := by
  induction l with
  | nil => exact .nil
  | cons a l ih => exact .cons (hR a) ih

namespace ConfiguredFrom

variable {p : ProfileParams} {b : IasAvbConfigurationBase} {i : Nat}

/-- A profile that has just been chosen. -/
theorem getProfileInfo (b : IasAvbConfigurationBase) (p : ProfileParams) (set : Bool) :
    ConfiguredFrom p { b.getProfileInfo p with mProfileSet := set } where
  rx := (Table.used_getInfo (t := b.mAvbStreamsRx)).symm ▸
    forall₂_refl (fun _ => ⟨rfl, rfl, rfl, rfl, .inl rfl⟩) _
  tx := (Table.used_getInfo (t := b.mAvbStreamsTx)).symm ▸
    forall₂_refl (fun _ => ⟨rfl, rfl, rfl, rfl, .inl rfl⟩) _
  alsa := (Table.used_getInfo (t := b.mAlsaStreams)).symm ▸
    forall₂_refl (R := StreamParamsAlsa.EditOf) (fun _ => rfl) _
  videoRx := Table.used_getInfo
  videoTx := Table.used_getInfo
  clkRefRx := Table.used_getInfo
  clkRefTx := Table.used_getInfo
  video := Table.used_getInfo
  testTone := Table.used_getInfo

theorem modifyRx (h : ConfiguredFrom p b) {f : StreamParamsAvbRx → StreamParamsAvbRx}
    (hf : ∀ e e', StreamParamsAvbRx.EditOf e e' → StreamParamsAvbRx.EditOf e (f e')) :
    ConfiguredFrom p { b with mAvbStreamsRx := b.mAvbStreamsRx.modify i f } :=
  { h with rx := (Table.used_modify (t := b.mAvbStreamsRx)).symm ▸ forall₂_modify hf h.rx }

theorem modifyTx (h : ConfiguredFrom p b) {f : StreamParamsAvbTx → StreamParamsAvbTx}
    (hf : ∀ e e', StreamParamsAvbTx.EditOf e e' → StreamParamsAvbTx.EditOf e (f e')) :
    ConfiguredFrom p { b with mAvbStreamsTx := b.mAvbStreamsTx.modify i f } :=
  { h with tx := (Table.used_modify (t := b.mAvbStreamsTx)).symm ▸ forall₂_modify hf h.tx }

theorem modifyAlsa (h : ConfiguredFrom p b) {f : StreamParamsAlsa → StreamParamsAlsa}
    (hf : ∀ e e', StreamParamsAlsa.EditOf e e' → StreamParamsAlsa.EditOf e (f e')) :
    ConfiguredFrom p { b with mAlsaStreams := b.mAlsaStreams.modify i f } :=
  { h with alsa := (Table.used_modify (t := b.mAlsaStreams)).symm ▸ forall₂_modify hf h.alsa }

end ConfiguredFrom

/-! ## What the options write -/

theorem getHexVal_le {max uninitialized limit x : Nat} {optarg : List Char} (hlimit : limit ≠ 0)
    (h : getHexVal max optarg uninitialized limit = some x) : x ≤ limit := by
  unfold getHexVal at h
  dsimp only at h
  rw [if_neg hlimit] at h
  split at h
  · exact nomatch h
  · rename_i hle
    rw [← Option.some.inj h]
    exact Nat.le_of_not_lt hle

/-- The address an option gives, or the one that was there. -/
theorem keepsAddress_setDMac {dMac dMac' : UInt64} (optarg : List Char) (uninitialized : Nat)
    (h : KeepsAddress dMac dMac') :
    KeepsAddress dMac
      (((getHexVal maxUInt64 optarg uninitialized 0xFFFFFFFFFFFF).map
        UInt64.ofNat).getD dMac') := by
  cases hvalue : getHexVal maxUInt64 optarg uninitialized 0xFFFFFFFFFFFF with
  | none => exact h
  | some x =>
      have hle : x ≤ 0xFFFFFFFFFFFF := getHexVal_le (by decide) hvalue
      right
      show (UInt64.ofNat x).toNat < 281474976710656
      rw [UInt64.toNat_ofNat_of_lt' (by show x < 18446744073709551616; omega)]
      omega

variable {d : DerivedConfiguration} {config : IasAvbConfigurationBase}
  {registry : IasAvbStreamHandlerEnvironment} {past args : List Argument} {s : ParseState}
  {a : Argument} {p : ProfileParams} {left : Bool}

theorem configured_edit {rx : StreamParamsAvbRx → StreamParamsAvbRx}
    {tx : StreamParamsAvbTx → StreamParamsAvbTx} (h : ConfiguredFrom p s.config)
    (hrx : ∀ e e', StreamParamsAvbRx.EditOf e e' → StreamParamsAvbRx.EditOf e (rx e'))
    (htx : ∀ e e', StreamParamsAvbTx.EditOf e e' → StreamParamsAvbTx.EditOf e (tx e')) :
    ConfiguredFrom p (s.editAvbStream rx tx).config := by
  unfold ParseState.editAvbStream
  split
  · split
    · exact h.modifyTx htx
    · exact h
  · split
    · exact h.modifyRx hrx
    · exact h

/-- **An option that chooses no profile** leaves the streams of the one there is. -/
theorem configured_option {c : Char} {optarg : String} {uninitialized : Nat}
    (h : ConfiguredFrom p s.config)
    (hprofile : optionName c = .profile → s.config.mProfileSet = true) :
    ConfiguredFrom p (s.handleOption d c optarg uninitialized).config := by
  unfold ParseState.handleOption
  cases hname : optionName c <;> dsimp only
  case profile => rw [if_pos (hprofile hname)]; exact h
  case target =>
    unfold ParseState.handleTargetOption
    split
    · exact h
    · split
      · exact { h with }
      · exact h
  case config =>
    split
    · exact h
    · exact h
  case chLayout =>
    unfold ParseState.setLayout
    dsimp only
    split
    · refine h.modifyAlsa fun e e' he => ?_
      unfold StreamParamsAlsa.EditOf at he ⊢
      rw [he]
    · exact h
  case numch =>
    exact configured_edit h (fun _ _ he => ⟨he.1, he.2, he.3, he.4, he.5⟩)
      fun _ _ he => ⟨he.1, he.2, he.3, he.4, he.5⟩
  case localStream =>
    exact configured_edit h (fun _ _ he => ⟨he.1, he.2, he.3, he.4, he.5⟩)
      fun _ _ he => ⟨he.1, he.2, he.3, he.4, he.5⟩
  case streamId =>
    exact configured_edit h (fun _ _ he => ⟨he.1, he.2, he.3, he.4, he.5⟩)
      fun _ _ he => ⟨he.1, he.2, he.3, he.4, he.5⟩
  case dmac =>
    -- the one edit of an address, which a value out of range leaves as it is
    exact configured_edit h
      (fun _ _ he => ⟨he.1, he.2, he.3, he.4, keepsAddress_setDMac _ _ he.5⟩)
      fun _ _ he => ⟨he.1, he.2, he.3, he.4, keepsAddress_setDMac _ _ he.5⟩
  case clockdriver => exact { h with }
  all_goals exact h

/-- The profile that was chosen first is the one that is configured. -/
theorem configured_step (hreads : Reads d config registry past s)
    (h : ∀ p, d.chosenProfile past = some p → ConfiguredFrom p s.config) :
    ∀ p, d.chosenProfile (past ++ [a]) = some p →
      ConfiguredFrom p (ParseState.step d s a).config := by
  intro p hp
  cases a with
  | fixedClock =>
      rw [show ParseState.step d s .fixedClock = s from if_neg hreads.goes]
      exact h p ((DerivedConfiguration.chosenProfile_append rfl).symm.trans hp)
  | hwcapture used =>
      rw [show ParseState.step d s (.hwcapture used)
        = { s with config := { s.config with mUseHwC := used } } from if_neg hreads.goes]
      exact { h p ((DerivedConfiguration.chosenProfile_append rfl).symm.trans hp) with }
  | option c optarg uninitialized =>
      rw [step_option hreads]
      by_cases hname : optionName c = .profile
      · by_cases hset : s.config.mProfileSet = true
        · -- not the first one, and ignored
          have hnamed : namedProfile past ≠ none := by
            intro hnone
            exact Bool.false_ne_true ((hreads.profile_free.mpr hnone).symm.trans hset)
          exact configured_option
            (h p ((DerivedConfiguration.chosenProfile_again hnamed).symm.trans hp)) fun _ => hset
        · have hnamed := hreads.profile_free.mp (Bool.eq_false_iff.mpr hset)
          unfold DerivedConfiguration.chosenProfile at hp
          rw [namedProfile_append, hnamed, Option.none_or,
            show (Argument.option c optarg uninitialized).profile = some optarg from if_pos hname]
            at hp
          unfold ParseState.handleOption
          rw [hname]
          dsimp only
          rw [if_neg hset]
          unfold ParseState.handleProfileOption
          rw [show d.getProfiles.find? _ = some p from hp]
          exact ConfiguredFrom.getProfileInfo s.config p true
      · have hnone : (Argument.option c optarg uninitialized).profile = none := profile_none hname
        exact configured_option
          (h p ((DerivedConfiguration.chosenProfile_append hnone).symm.trans hp))
          fun heq => absurd heq hname

/-- **The streams that an accepted command line configures** are those of the profile that it
names first, but for what it changes in them. -/
theorem configured_streams (d : DerivedConfiguration) (config : IasAvbConfigurationBase)
    (registry : IasAvbStreamHandlerEnvironment) (args : List Argument) (left : Bool)
    (hpre : d.preParseArguments.status = eContinue)
    (haccepted : (passArguments d config registry args left).2 = true) (p : ProfileParams)
    (hp : d.chosenProfile args = some p) :
    ConfiguredFrom p (passArguments d config registry args left).1.config := by
  have hok : ∀ q ∈ withPast [] args, d.OptionOk config q.1 q.2 := by
    obtain ⟨-, hparsed⟩ := passArguments_iff.mp haccepted
    rcases hparsed with hhandled | ⟨-, hok, -⟩
    · exact nomatch hpre.symm.trans hhandled
    · exact hok
  have hloop := Past.inv_exec
    (fun past s =>
      Reads d config (registry.setConfigValues d.preParseArguments.settings) past s ∧
        ∀ p, d.chosenProfile past = some p → ConfiguredFrom p s.config)
    ⟨reads_begin hpre, fun p hp => nomatch hp⟩
    (fun past s a h hok => ⟨reads_step h.1 hok, configured_step h.1 h.2⟩) hok
  have hstreams := hloop.2 p hp
  unfold passArguments
  dsimp only
  rw [if_pos (show (ParseState.begin d config registry).cont = eContinue from hpre)]
  have hfinish : ∀ s : ParseState, (s.finish d).config = s.config := by
    intro s
    unfold ParseState.finish
    split
    · split
      · rfl
      · split <;> rfl
    · rfl
  split
  · show ConfiguredFrom p (ParseState.finish d (exec _ _ args)).config
    rw [hfinish]
    exact hstreams
  · rw [hfinish]
    exact hstreams

theorem configured_streams_startLine :
    ConfiguredFrom unitTests (passArguments theConfigObject {} {} startLine false).1.config :=
  configured_streams theConfigObject {} {} startLine false rfl (by decide +kernel) unitTests rfl

end AvbStreamHandler
