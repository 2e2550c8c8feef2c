import AvbStreamHandler.Config.CommandLine
import AvbStreamHandler.Kit.Past

/-!
# What a command line comes to

What an option does depends on those before it: which profile has been chosen, where the index
stands, whether a target is there already. All of this can be read off the options themselves.
So a command line is accepted or not, and puts this or that into the registry, by what each of
its options says together with the ones before it.

The flags, the index and the counts that `passArguments` keeps are a summary of that past, and
that is the invariant of the loop.
-/

namespace AvbStreamHandler

open Kit Kit.Run Kit.Past ContinueStatus

/-! ## What is read off the options -/

namespace Argument

def target : Argument → Option String
  | .option c optarg _ => if optionName c = .target then some optarg else none
  | _ => none

def profile : Argument → Option String
  | .option c optarg _ => if optionName c = .profile then some optarg else none
  | _ => none

/-- Where the index goes, and whether it is one for transmit streams. -/
def moveIndex (i : UInt32 × Bool) : Argument → UInt32 × Bool
  | .option c optarg _ =>
      match optionName c with
      | .indexRx =>
          (UInt32.ofNat ((extractUnsigned maxUInt32 10 optarg.toList).stored i.1.toNat), false)
      | .indexTx =>
          (UInt32.ofNat ((extractUnsigned maxUInt32 10 optarg.toList).stored i.1.toNat), true)
      | _ => i
  | _ => i

end Argument

/-- The first name counts. -/
def namedTarget (past : List Argument) : Option String := past.findSome? Argument.target

def namedProfile (past : List Argument) : Option String := past.findSome? Argument.profile

def indexAfter (past : List Argument) : UInt32 × Bool := past.foldl Argument.moveIndex (0, false)

namespace DerivedConfiguration

def target (d : DerivedConfiguration) (name : String) : Option TargetParams :=
  d.getTargets.find? (·.targetName = name)

def profile (d : DerivedConfiguration) (name : String) : Option ProfileParams :=
  d.getProfiles.find? (·.profileName = name)

def chosenProfile (d : DerivedConfiguration) (past : List Argument) : Option ProfileParams :=
  (namedProfile past).bind d.profile

/-- How many entries a table has; `before` is the table from before the command line. -/
def numEntries {α : Type} (d : DerivedConfiguration) (isValid : α → Bool)
    (config : ProfileParams → Option (List α)) (before : Table α) (past : List Argument) : Nat :=
  match d.chosenProfile past with
  | some p => getNumEntries isValid (config p)
  | none => before.num

/-- There is a stream where the index stands. -/
def IndexOk (d : DerivedConfiguration) (config : IasAvbConfigurationBase)
    (past : List Argument) : Prop :=
  (indexAfter past).1.toNat <
    if (indexAfter past).2 then
      d.numEntries (·.isValid) (·.configAvbTx) config.mAvbStreamsTx past
    else d.numEntries (·.isValid) (·.configAvbRx) config.mAvbStreamsRx past

/-- **What an option has to be** to be taken. -/
def OptionOk (d : DerivedConfiguration) (config : IasAvbConfigurationBase)
    (past : List Argument) : Argument → Prop
  | .option c optarg _ =>
      match optionName c with
      | .target => namedTarget past = none → (d.target optarg).isSome
      | .profile => namedProfile past = none → (d.profile optarg).isSome
      | .numch => d.IndexOk config past
      | .localStream => d.IndexOk config past
      | .streamId => d.IndexOk config past
      | .dmac => d.IndexOk config past
      | .chLayout =>
          (indexAfter past).1.toNat <
            d.numEntries (·.isValid) (·.configAlsa) config.mAlsaStreams past
      | .config => (settingOf optarg.toList).isSome
      | .help => False
      | .derived => (d.handleDerivedOptions c (indexAfter past).1).status ≠ eError
      | _ => True
  | _ => True

/-- The status an option sets, if it sets any. -/
def decided (d : DerivedConfiguration) (past : List Argument) : Argument → Option ContinueStatus
  | .option c _ _ =>
      match optionName c with
      | .target => if namedTarget past = none then some eContinue else none
      | .profile => if namedProfile past = none then some eContinue else none
      | .numch => some eContinue
      | .localStream => some eContinue
      | .streamId => some eContinue
      | .dmac => some eContinue
      | .derived => some (d.handleDerivedOptions c (indexAfter past).1).status
      | _ => none
  | _ => none

/-- **What an option puts into the registry.** -/
def optionSettings (d : DerivedConfiguration) (past : List Argument) : Argument → List Setting
  | .option c optarg _ =>
      match optionName c with
      | .target =>
          if namedTarget past = none then ((d.target optarg).map (·.settings)).getD [] else []
      | .profile =>
          if namedProfile past = none then ((d.profile optarg).map (·.settings)).getD [] else []
      | .ifname => [.textual IasRegKeys.cNwIfName optarg]
      | .clockdriver =>
          [.textual IasRegKeys.cClockDriverFileName optarg,
            .textual "clockdriver.config.i2cdevice" "/dev/i2c-0"]
      | .config => (settingOf optarg.toList).toList
      | .derived => (d.handleDerivedOptions c (indexAfter past).1).settings
      | _ => []
  | _ => []

/-- The status after some options: the last that was set. -/
def statusAfter (d : DerivedConfiguration) (args : List Argument) : ContinueStatus :=
  ((withPast [] args).filterMap fun p => d.decided p.1 p.2).getLast?.getD eContinue

def settingsOf (d : DerivedConfiguration) (args : List Argument) : List Setting :=
  (withPast [] args).flatMap fun p => d.optionSettings p.1 p.2

variable {d : DerivedConfiguration} {args : List Argument} {a : Argument}

theorem statusAfter_append :
    d.statusAfter (args ++ [a]) = (d.decided args a).getD (d.statusAfter args) := by
  unfold statusAfter
  rw [withPast_append_singleton, List.filterMap_append, List.nil_append]
  cases h : d.decided args a with
  | none =>
      rw [show [(args, a)].filterMap (fun p => d.decided p.1 p.2) = [] from
        List.filterMap_cons_none h, List.append_nil]
      rfl
  | some status =>
      rw [show [(args, a)].filterMap (fun p => d.decided p.1 p.2) = [status] from
        List.filterMap_cons_some h, List.getLast?_concat]
      rfl

theorem settingsOf_append :
    d.settingsOf (args ++ [a]) = d.settingsOf args ++ d.optionSettings args a := by
  unfold settingsOf
  rw [withPast_append_singleton, List.flatMap_append, List.nil_append, List.flatMap_singleton]

/-- Only a profile that is named changes which one is chosen. -/
theorem chosenProfile_append (ha : a.profile = none) :
    d.chosenProfile (args ++ [a]) = d.chosenProfile args := by
  unfold chosenProfile namedProfile
  rw [List.findSome?_append, List.findSome?_cons, ha, List.findSome?_nil, Option.or_none]

theorem chosenProfile_again (hnamed : namedProfile args ≠ none) :
    d.chosenProfile (args ++ [a]) = d.chosenProfile args := by
  unfold chosenProfile namedProfile
  obtain ⟨name, hname⟩ := Option.ne_none_iff_exists'.mp hnamed
  rw [List.findSome?_append, show args.findSome? Argument.profile = some name from hname,
    Option.some_or]

end DerivedConfiguration

theorem namedTarget_append {past : List Argument} {a : Argument} :
    namedTarget (past ++ [a]) = (namedTarget past).or a.target := by
  unfold namedTarget
  rw [List.findSome?_append, List.findSome?_cons, List.findSome?_nil]
  cases a.target <;> rfl

theorem namedProfile_append {past : List Argument} {a : Argument} :
    namedProfile (past ++ [a]) = (namedProfile past).or a.profile := by
  unfold namedProfile
  rw [List.findSome?_append, List.findSome?_cons, List.findSome?_nil]
  cases a.profile <;> rfl

theorem indexAfter_append {past : List Argument} {a : Argument} :
    indexAfter (past ++ [a]) = a.moveIndex (indexAfter past) := List.foldl_append

/-! ## The loop sums it up -/

/-- A configuration with the same flags, and as many entries in the tables that are indexed. -/
structure SameCounts (b b' : IasAvbConfigurationBase) : Prop where
  target : b'.mTargetSet = b.mTargetSet
  profile : b'.mProfileSet = b.mProfileSet
  rx : b'.mAvbStreamsRx.num = b.mAvbStreamsRx.num
  tx : b'.mAvbStreamsTx.num = b.mAvbStreamsTx.num
  alsa : b'.mAlsaStreams.num = b.mAlsaStreams.num

theorem SameCounts.refl (b : IasAvbConfigurationBase) : SameCounts b b := ⟨rfl, rfl, rfl, rfl, rfl⟩

/-- **The invariant of the loop**, for the options it has gone through without an error. -/
structure Reads (d : DerivedConfiguration) (config : IasAvbConfigurationBase)
    (registry : IasAvbStreamHandlerEnvironment) (past : List Argument) (s : ParseState) :
    Prop where
  target : s.config.mTargetSet = (namedTarget past).isSome
  profile : s.config.mProfileSet = (namedProfile past).isSome
  index : (s.index, s.isTxStream) = indexAfter past
  rx : s.config.mAvbStreamsRx.num =
    d.numEntries (·.isValid) (·.configAvbRx) config.mAvbStreamsRx past
  tx : s.config.mAvbStreamsTx.num =
    d.numEntries (·.isValid) (·.configAvbTx) config.mAvbStreamsTx past
  alsa : s.config.mAlsaStreams.num =
    d.numEntries (·.isValid) (·.configAlsa) config.mAlsaStreams past
  registry : s.registry = registry.setConfigValues (d.settingsOf past)
  status : s.cont = d.statusAfter past
  goes : s.cont ≠ eError

namespace Reads

variable {d : DerivedConfiguration} {config : IasAvbConfigurationBase}
  {registry : IasAvbStreamHandlerEnvironment} {past : List Argument} {s s' : ParseState}
  {a : Argument}

/-- An option that names no profile, or names one when there is one. -/
theorem next (h : Reads d config registry past s)
    (hchosen : d.chosenProfile (past ++ [a]) = d.chosenProfile past)
    (htarget : s'.config.mTargetSet = (s.config.mTargetSet || a.target.isSome))
    (hprofile : s'.config.mProfileSet = (s.config.mProfileSet || a.profile.isSome))
    (hrx : s'.config.mAvbStreamsRx.num = s.config.mAvbStreamsRx.num)
    (htx : s'.config.mAvbStreamsTx.num = s.config.mAvbStreamsTx.num)
    (halsa : s'.config.mAlsaStreams.num = s.config.mAlsaStreams.num)
    (hindex : (s'.index, s'.isTxStream) = a.moveIndex (s.index, s.isTxStream))
    (hregistry : s'.registry = s.registry.setConfigValues (d.optionSettings past a))
    (hstatus : s'.cont = (d.decided past a).getD s.cont) (hgoes : s'.cont ≠ eError) :
    Reads d config registry (past ++ [a]) s' where
  target := by
    rw [htarget, h.target, namedTarget_append]
    cases namedTarget past <;> cases a.target <;> rfl
  profile := by
    rw [hprofile, h.profile, namedProfile_append]
    cases namedProfile past <;> cases a.profile <;> rfl
  index := by rw [hindex, h.index, indexAfter_append]
  rx := by
    unfold DerivedConfiguration.numEntries
    rw [hchosen, hrx]
    exact h.rx
  tx := by
    unfold DerivedConfiguration.numEntries
    rw [hchosen, htx]
    exact h.tx
  alsa := by
    unfold DerivedConfiguration.numEntries
    rw [hchosen, halsa]
    exact h.alsa
  registry := by
    rw [hregistry, h.registry, DerivedConfiguration.settingsOf_append,
      IasAvbStreamHandlerEnvironment.setConfigValues_append]
  status := by rw [hstatus, h.status, DerivedConfiguration.statusAfter_append]
  goes := hgoes

/-- An option that has nothing to do with targets and profiles. -/
theorem keeps (h : Reads d config registry past s) (htarget : a.target = none)
    (hprofile : a.profile = none) (hcounts : SameCounts s.config s'.config)
    (hindex : (s'.index, s'.isTxStream) = a.moveIndex (s.index, s.isTxStream))
    (hregistry : s'.registry = s.registry.setConfigValues (d.optionSettings past a))
    (hstatus : s'.cont = (d.decided past a).getD s.cont) (hgoes : s'.cont ≠ eError) :
    Reads d config registry (past ++ [a]) s' := by
  refine h.next (DerivedConfiguration.chosenProfile_append hprofile) ?_ ?_ hcounts.rx hcounts.tx
    hcounts.alsa hindex hregistry hstatus hgoes
  · rw [hcounts.target, htarget, Option.isSome_none, Bool.or_false]
  · rw [hcounts.profile, hprofile, Option.isSome_none, Bool.or_false]

/-! ### Options that write into a table -/

theorem inTable_iff (h : Reads d config registry past s) :
    (s.index.toNat <
        if s.isTxStream then s.config.mAvbStreamsTx.num else s.config.mAvbStreamsRx.num)
      ↔ d.IndexOk config past := by
  unfold DerivedConfiguration.IndexOk
  rw [← h.index, h.rx, h.tx]

theorem edit_ok (h : Reads d config registry past s) (hin : d.IndexOk config past)
    {rx : StreamParamsAvbRx → StreamParamsAvbRx} {tx : StreamParamsAvbTx → StreamParamsAvbTx}
    (htarget : a.target = none) (hprofile : a.profile = none) (hmove : ∀ i, a.moveIndex i = i)
    (hsettings : d.optionSettings past a = [])
    (hdecided : d.decided past a = some eContinue) :
    Reads d config registry (past ++ [a]) (s.editAvbStream rx tx) := by
  have hin' := h.inTable_iff.mpr hin
  have hnext : ∀ b, SameCounts s.config b →
      Reads d config registry (past ++ [a]) { s with config := b, cont := eContinue } := by
    intro b hb
    refine h.keeps htarget hprofile hb (hmove _).symm ?_ ?_ nofun
    · rw [hsettings]
      rfl
    · rw [hdecided]
      rfl
  unfold ParseState.editAvbStream
  by_cases hside : s.isTxStream = true
  · rw [if_pos hside] at hin' ⊢
    rw [if_pos hin']
    exact hnext _ ⟨rfl, rfl, rfl, rfl, rfl⟩
  · rw [if_neg hside] at hin' ⊢
    rw [if_pos hin']
    exact hnext _ ⟨rfl, rfl, rfl, rfl, rfl⟩

theorem edit_failed (h : Reads d config registry past s) (hout : ¬ d.IndexOk config past)
    {rx : StreamParamsAvbRx → StreamParamsAvbRx} {tx : StreamParamsAvbTx → StreamParamsAvbTx} :
    (s.editAvbStream rx tx).cont = eError := by
  have hout' := h.inTable_iff.not.mpr hout
  unfold ParseState.editAvbStream
  by_cases hside : s.isTxStream = true
  · rw [if_pos hside] at hout' ⊢
    rw [if_neg hout']
  · rw [if_neg hside] at hout' ⊢
    rw [if_neg hout']

theorem layout_iff (h : Reads d config registry past s) :
    s.index.toNat < s.config.mAlsaStreams.num ↔
      (indexAfter past).1.toNat <
        d.numEntries (·.isValid) (·.configAlsa) config.mAlsaStreams past := by
  rw [← h.index, h.alsa]

/-! ### Options that name something -/

theorem target_free (h : Reads d config registry past s) :
    s.config.mTargetSet = false ↔ namedTarget past = none := by
  rw [h.target, Option.isSome_eq_false_iff, Option.isNone_iff_eq_none]

theorem profile_free (h : Reads d config registry past s) :
    s.config.mProfileSet = false ↔ namedProfile past = none := by
  rw [h.profile, Option.isSome_eq_false_iff, Option.isNone_iff_eq_none]

theorem target_ok (h : Reads d config registry past s) {c : Char} {optarg : String}
    {uninitialized : Nat} (hname : optionName c = .target)
    (hok : namedTarget past = none → (d.target optarg).isSome) :
    Reads d config registry (past ++ [.option c optarg uninitialized])
      (if s.config.mTargetSet then s else s.handleTargetOption d optarg) := by
  have htarget : (Argument.option c optarg uninitialized).target = some optarg := if_pos hname
  have hprofile : (Argument.option c optarg uninitialized).profile = none :=
    if_neg (by rw [hname]; nofun)
  have hchosen : d.chosenProfile (past ++ [.option c optarg uninitialized])
      = d.chosenProfile past := DerivedConfiguration.chosenProfile_append hprofile
  by_cases hset : s.config.mTargetSet = true
  · -- there is a target already, and this one is ignored
    have hnamed : namedTarget past ≠ none := by
      intro hnone
      exact Bool.false_ne_true ((h.target_free.mpr hnone).symm.trans hset)
    rw [if_pos hset]
    refine h.next hchosen ?_ ?_ rfl rfl rfl ?_ ?_ ?_ h.goes
    · rw [hset, Bool.true_or]
    · rw [hprofile, Option.isSome_none, Bool.or_false]
    · simp only [Argument.moveIndex, hname]
    · simp only [DerivedConfiguration.optionSettings, hname, if_neg hnamed]
      rfl
    · simp only [DerivedConfiguration.decided, hname, if_neg hnamed]
      rfl
  · have hnamed := h.target_free.mp (Bool.eq_false_iff.mpr hset)
    obtain ⟨t, ht⟩ := Option.isSome_iff_exists.mp (hok hnamed)
    have hhandled : s.handleTargetOption d optarg = { s.set t.settings with
        config := { s.config with mTargetSet := true }, cont := eContinue } := by
      unfold ParseState.handleTargetOption
      rw [show d.getTargets.find? _ = some t from ht]
    rw [if_neg hset, hhandled]
    refine h.next hchosen ?_ ?_ rfl rfl rfl ?_ ?_ ?_ nofun
    · rw [htarget, Option.isSome_some, Bool.or_true]
    · rw [hprofile, Option.isSome_none, Bool.or_false]
    · simp only [Argument.moveIndex, hname]
      rfl
    · simp only [DerivedConfiguration.optionSettings, hname, if_pos hnamed, ht]
      rfl
    · simp only [DerivedConfiguration.decided, hname, if_pos hnamed]
      rfl

/-- **A profile that is chosen** tells how many streams there are. -/
theorem profile_ok (h : Reads d config registry past s) {c : Char} {optarg : String}
    {uninitialized : Nat} (hname : optionName c = .profile)
    (hok : namedProfile past = none → (d.profile optarg).isSome) :
    Reads d config registry (past ++ [.option c optarg uninitialized])
      (if s.config.mProfileSet then s else s.handleProfileOption d optarg) := by
  have hprofile : (Argument.option c optarg uninitialized).profile = some optarg := if_pos hname
  have htarget : (Argument.option c optarg uninitialized).target = none :=
    if_neg (by rw [hname]; nofun)
  by_cases hset : s.config.mProfileSet = true
  · -- there is a profile already, and this one is ignored
    have hnamed : namedProfile past ≠ none := by
      intro hnone
      exact Bool.false_ne_true ((h.profile_free.mpr hnone).symm.trans hset)
    rw [if_pos hset]
    refine h.next (DerivedConfiguration.chosenProfile_again hnamed) ?_ ?_ rfl rfl rfl ?_ ?_ ?_
      h.goes
    · rw [htarget, Option.isSome_none, Bool.or_false]
    · rw [hset, Bool.true_or]
    · simp only [Argument.moveIndex, hname]
    · simp only [DerivedConfiguration.optionSettings, hname, if_neg hnamed]
      rfl
    · simp only [DerivedConfiguration.decided, hname, if_neg hnamed]
      rfl
  · have hnamed := h.profile_free.mp (Bool.eq_false_iff.mpr hset)
    obtain ⟨p, hp⟩ := Option.isSome_iff_exists.mp (hok hnamed)
    have hhandled : s.handleProfileOption d optarg = { s.set p.settings with
        config := { s.config.getProfileInfo p with mProfileSet := true }, cont := eContinue } := by
      unfold ParseState.handleProfileOption
      rw [show d.getProfiles.find? _ = some p from hp]
    have hchosen : d.chosenProfile (past ++ [.option c optarg uninitialized]) = some p := by
      unfold DerivedConfiguration.chosenProfile
      rw [namedProfile_append, hnamed, hprofile]
      exact hp
    rw [if_neg hset, hhandled]
    -- the numbers of entries start afresh with the tables of the profile
    constructor
    · rw [namedTarget_append, htarget, Option.or_none]
      exact h.target
    · rw [namedProfile_append, hnamed, hprofile]
      rfl
    · rw [indexAfter_append, ← h.index]
      simp only [Argument.moveIndex, hname]
      rfl
    · unfold DerivedConfiguration.numEntries
      rw [hchosen, ← Table.length_used]
      exact congrArg List.length Table.used_getInfo
    · unfold DerivedConfiguration.numEntries
      rw [hchosen, ← Table.length_used]
      exact congrArg List.length Table.used_getInfo
    · unfold DerivedConfiguration.numEntries
      rw [hchosen, ← Table.length_used]
      exact congrArg List.length Table.used_getInfo
    · rw [DerivedConfiguration.settingsOf_append,
        IasAvbStreamHandlerEnvironment.setConfigValues_append, ← h.registry]
      simp only [DerivedConfiguration.optionSettings, hname, if_pos hnamed, hp]
      rfl
    · rw [DerivedConfiguration.statusAfter_append]
      simp only [DerivedConfiguration.decided, hname, if_pos hnamed]
      rfl
    · exact nofun

end Reads

variable {d : DerivedConfiguration} {config : IasAvbConfigurationBase}
  {registry : IasAvbStreamHandlerEnvironment} {past : List Argument} {s : ParseState}
  {a : Argument}

section Option

variable {c : Char} {optarg : String} {uninitialized : Nat}

theorem target_none (hname : optionName c ≠ .target) :
    (Argument.option c optarg uninitialized).target = none := if_neg hname

theorem profile_none (hname : optionName c ≠ .profile) :
    (Argument.option c optarg uninitialized).profile = none := if_neg hname

theorem step_option (h : Reads d config registry past s) :
    ParseState.step d s (.option c optarg uninitialized)
      = s.handleOption d c optarg uninitialized := if_neg h.goes

theorem reads_edit (h : Reads d config registry past s)
    (hname : optionName c = .numch ∨ optionName c = .localStream ∨ optionName c = .streamId ∨
      optionName c = .dmac) (hin : d.IndexOk config past)
    (rx : StreamParamsAvbRx → StreamParamsAvbRx) (tx : StreamParamsAvbTx → StreamParamsAvbTx) :
    Reads d config registry (past ++ [.option c optarg uninitialized])
      (s.editAvbStream rx tx) := by
  have key : ∀ name, optionName c = name → name ≠ .target → name ≠ .profile →
      (Argument.option c optarg uninitialized).target = none ∧
        (Argument.option c optarg uninitialized).profile = none := by
    rintro name rfl htarget hprofile
    exact ⟨target_none htarget, profile_none hprofile⟩
  rcases hname with hname | hname | hname | hname
  all_goals
    obtain ⟨htarget, hprofile⟩ := key _ hname nofun nofun
    refine h.edit_ok hin htarget hprofile ?_ ?_ ?_
    · simp only [Argument.moveIndex, hname, implies_true]
    · simp only [DerivedConfiguration.optionSettings, hname]
    · simp only [DerivedConfiguration.decided, hname]

/-- The options that are neither a name nor an edit of a stream. -/
theorem reads_other (h : Reads d config registry past s)
    (hok : d.OptionOk config past (.option c optarg uninitialized))
    (htarget : optionName c ≠ .target) (hprofile : optionName c ≠ .profile)
    (hnumch : optionName c ≠ .numch) (hlocal : optionName c ≠ .localStream)
    (hstreamId : optionName c ≠ .streamId) (hdmac : optionName c ≠ .dmac) :
    Reads d config registry (past ++ [.option c optarg uninitialized])
      (s.handleOption d c optarg uninitialized) := by
  -- what the option does is said once, so that the cases below only have to look it up
  suffices hsummary : ∃ s', s.handleOption d c optarg uninitialized = s' ∧
      SameCounts s.config s'.config ∧
      (s'.index, s'.isTxStream)
        = (Argument.option c optarg uninitialized).moveIndex (s.index, s.isTxStream) ∧
      s'.registry = s.registry.setConfigValues
        (d.optionSettings past (.option c optarg uninitialized)) ∧
      s'.cont = (d.decided past (.option c optarg uninitialized)).getD s.cont ∧
      s'.cont ≠ eError by
    obtain ⟨s', hs', hcounts, hindex, hregistry, hstatus, hgoes⟩ := hsummary
    rw [hs']
    exact h.keeps (target_none htarget) (profile_none hprofile) hcounts hindex hregistry hstatus
      hgoes
  refine ⟨_, rfl, ?_⟩
  unfold DerivedConfiguration.OptionOk at hok
  unfold ParseState.handleOption Argument.moveIndex DerivedConfiguration.optionSettings
    DerivedConfiguration.decided
  cases hname : optionName c <;> simp only [hname] at hok ⊢
  case target => exact absurd hname htarget
  case profile => exact absurd hname hprofile
  case numch => exact absurd hname hnumch
  case localStream => exact absurd hname hlocal
  case streamId => exact absurd hname hstreamId
  case dmac => exact absurd hname hdmac
  case chLayout =>
    unfold ParseState.setLayout
    rw [if_pos (h.layout_iff.mpr hok)]
    exact ⟨⟨rfl, rfl, rfl, rfl, rfl⟩, rfl, rfl, rfl, h.goes⟩
  case config =>
    obtain ⟨setting, hsetting⟩ := Option.isSome_iff_exists.mp hok
    rw [hsetting]
    exact ⟨SameCounts.refl _, rfl, rfl, rfl, h.goes⟩
  case derived =>
    have hindex : s.index = (indexAfter past).1 := congrArg Prod.fst h.index
    rw [hindex]
    exact ⟨SameCounts.refl _, congrArg (·, s.isTxStream) hindex, rfl, rfl, hok⟩
  case clockdriver => exact ⟨⟨rfl, rfl, rfl, rfl, rfl⟩, rfl, rfl, rfl, h.goes⟩
  case numstreams => exact ⟨SameCounts.refl _, trivial, rfl, rfl, h.goes⟩
  case query => exact ⟨SameCounts.refl _, trivial, rfl, rfl, h.goes⟩
  all_goals exact ⟨SameCounts.refl _, rfl, rfl, rfl, h.goes⟩

end Option

/-- **An option that is taken** keeps the summary. -/
theorem reads_step (h : Reads d config registry past s) (hok : d.OptionOk config past a) :
    Reads d config registry (past ++ [a]) (ParseState.step d s a) := by
  cases a with
  | fixedClock =>
      rw [show ParseState.step d s .fixedClock = s from if_neg h.goes]
      exact h.keeps rfl rfl (SameCounts.refl _) rfl rfl rfl h.goes
  | hwcapture used =>
      rw [show ParseState.step d s (.hwcapture used)
        = { s with config := { s.config with mUseHwC := used } } from if_neg h.goes]
      exact h.keeps rfl rfl ⟨rfl, rfl, rfl, rfl, rfl⟩ rfl rfl rfl h.goes
  | option c optarg uninitialized =>
      rw [step_option h]
      have hin := hok
      unfold DerivedConfiguration.OptionOk at hin
      by_cases hother : optionName c ≠ .target ∧ optionName c ≠ .profile ∧ optionName c ≠ .numch ∧
          optionName c ≠ .localStream ∧ optionName c ≠ .streamId ∧ optionName c ≠ .dmac
      · obtain ⟨htarget, hprofile, hnumch, hlocal, hstreamId, hdmac⟩ := hother
        exact reads_other h hok htarget hprofile hnumch hlocal hstreamId hdmac
      · unfold ParseState.handleOption
        cases hname : optionName c <;> simp only [hname] at hin ⊢
        case target => exact h.target_ok hname hin
        case profile => exact h.profile_ok hname hin
        case numch => exact reads_edit h (.inl hname) hin _ _
        case localStream => exact reads_edit h (.inr (.inl hname)) hin _ _
        case streamId => exact reads_edit h (.inr (.inr (.inl hname))) hin _ _
        case dmac => exact reads_edit h (.inr (.inr (.inr hname))) hin _ _
        all_goals
          exact absurd (by rw [hname]; exact ⟨nofun, nofun, nofun, nofun, nofun, nofun⟩) hother

/-- **One that is not** ends the loop. -/
theorem failed_step (h : Reads d config registry past s) (hnot : ¬ d.OptionOk config past a) :
    (ParseState.step d s a).cont = eError := by
  cases a with
  | fixedClock => exact absurd trivial hnot
  | hwcapture used => exact absurd trivial hnot
  | option c optarg uninitialized =>
      rw [step_option h]
      unfold DerivedConfiguration.OptionOk at hnot
      unfold ParseState.handleOption
      cases hname : optionName c <;> simp only [hname] at hnot ⊢
      case target =>
        -- only the first one is looked up
        obtain ⟨hnamed, hnone⟩ := Classical.not_imp.mp hnot
        rw [if_neg (Bool.eq_false_iff.mp (h.target_free.mpr hnamed))]
        unfold ParseState.handleTargetOption
        rw [show d.getTargets.find? _ = none from Option.not_isSome_iff_eq_none.mp hnone]
      case profile =>
        obtain ⟨hnamed, hnone⟩ := Classical.not_imp.mp hnot
        rw [if_neg (Bool.eq_false_iff.mp (h.profile_free.mpr hnamed))]
        unfold ParseState.handleProfileOption
        rw [show d.getProfiles.find? _ = none from Option.not_isSome_iff_eq_none.mp hnone]
      case numch => exact h.edit_failed hnot
      case localStream => exact h.edit_failed hnot
      case streamId => exact h.edit_failed hnot
      case dmac => exact h.edit_failed hnot
      case chLayout =>
        unfold ParseState.setLayout
        rw [if_neg (h.layout_iff.not.mpr hnot)]
      case config => rw [Option.not_isSome_iff_eq_none.mp hnot]
      case derived =>
        rw [show s.index = (indexAfter past).1 from congrArg Prod.fst h.index]
        exact not_not.mp hnot
      all_goals exact absurd trivial hnot

/-! ## The whole command line -/

theorem reads_begin (hpre : d.preParseArguments.status = eContinue) :
    Reads d config (registry.setConfigValues d.preParseArguments.settings) []
      (ParseState.begin d config registry) where
  target := rfl
  profile := rfl
  index := rfl
  rx := rfl
  tx := rfl
  alsa := rfl
  registry := rfl
  status := hpre
  goes := by
    rw [show (ParseState.begin d config registry).cont = d.preParseArguments.status from rfl, hpre]
    nofun

variable {args : List Argument} {left : Bool}

theorem loop_iff (registry : IasAvbStreamHandlerEnvironment)
    (hpre : d.preParseArguments.status = eContinue) :
    (exec (ParseState.step d) (ParseState.begin d config registry) args).cont ≠ eError ↔
      ∀ p ∈ withPast [] args, d.OptionOk config p.1 p.2 :=
  not_failed_iff (Reads d config (registry.setConfigValues d.preParseArguments.settings))
    (fun s => s.cont = eError) (reads_begin hpre) (fun _ _ h => h.goes)
    (fun _ _ _ h hok => reads_step h hok) (fun _ _ _ h hnot => failed_step h hnot)
    fun _ _ hfailed => if_pos hfailed

theorem reads_exec (hpre : d.preParseArguments.status = eContinue)
    (hok : ∀ p ∈ withPast [] args, d.OptionOk config p.1 p.2) :
    Reads d config (registry.setConfigValues d.preParseArguments.settings) args
      (exec (ParseState.step d) (ParseState.begin d config registry) args) :=
  Past.inv_exec _ (reads_begin hpre) (fun _ _ _ h hok => reads_step h hok) hok

/-- What follows the loop. -/
theorem finish_cont (h : Reads d config registry args s) :
    (s.finish d).cont ≠ eError ↔ d.statusAfter args = eHandled ∨
      (namedProfile args).isSome ∧ (namedTarget args).isSome ∧
        d.postParseArguments.status ≠ eError := by
  unfold ParseState.finish
  rw [← h.status, ← h.profile, ← h.target]
  cases hcont : s.cont with
  | eError => exact absurd hcont h.goes
  | eHandled =>
      rw [if_neg nofun]
      exact iff_of_true (by rw [hcont]; nofun) (.inl rfl)
  | eContinue =>
      rw [if_pos rfl, or_iff_right (by nofun)]
      by_cases hprofile : s.config.mProfileSet = false
      · rw [if_pos hprofile]
        exact iff_of_false (fun hne => hne rfl)
          fun hset => Bool.false_ne_true (hprofile.symm.trans hset.1)
      · rw [if_neg hprofile]
        by_cases htarget : s.config.mTargetSet = false
        · rw [if_pos htarget]
          exact iff_of_false (fun hne => hne rfl)
            fun hset => Bool.false_ne_true (htarget.symm.trans hset.2.1)
        · rw [if_neg htarget]
          have hset : s.config.mProfileSet = true ∧ s.config.mTargetSet = true :=
            ⟨Bool.eq_true_of_not_eq_false hprofile, Bool.eq_true_of_not_eq_false htarget⟩
          exact ⟨fun hne => ⟨hset.1, hset.2, hne⟩, fun hall => hall.2.2⟩

/-- What is left over is asked for last. -/
theorem passArguments_iff :
    (passArguments d config registry args left).2 = true ↔
      left = false ∧ (d.preParseArguments.status = eHandled ∨
        d.preParseArguments.status = eContinue ∧
          (∀ p ∈ withPast [] args, d.OptionOk config p.1 p.2) ∧
          (d.statusAfter args = eHandled ∨
            (namedProfile args).isSome ∧ (namedTarget args).isSome ∧
              d.postParseArguments.status ≠ eError)) := by
  have hleft : ∀ s : ParseState,
      (if s.cont ≠ eError ∧ left = true then { s with cont := eError } else s).cont ≠ eError ↔
        left = false ∧ s.cont ≠ eError := by
    intro s
    cases left with
    | true =>
        by_cases hs : s.cont ≠ eError
        · rw [if_pos ⟨hs, rfl⟩]
          exact iff_of_false (fun hne => hne rfl) fun h => nomatch h.1
        · rw [if_neg fun h => hs h.1]
          exact iff_of_false hs fun h => nomatch h.1
    | false =>
        rw [if_neg fun h => nomatch h.2]
        exact (and_iff_right rfl).symm
  unfold passArguments
  dsimp only
  rw [decide_eq_true_iff, hleft]
  refine and_congr_right fun _ => ?_
  have hbegin : (ParseState.begin d config registry).cont = d.preParseArguments.status := rfl
  cases hpre : d.preParseArguments.status with
  | eError =>
      rw [hpre] at hbegin
      rw [if_neg (by rw [hbegin]; nofun)]
      unfold ParseState.finish
      rw [if_neg (by rw [hbegin]; nofun)]
      exact iff_of_false (fun hne => hne hbegin) (by rintro (h | ⟨h, -⟩) <;> exact nomatch h)
  | eHandled =>
      -- the options are not looked at, and no profile or target is asked for
      rw [hpre] at hbegin
      rw [if_neg (by rw [hbegin]; nofun)]
      unfold ParseState.finish
      rw [if_neg (by rw [hbegin]; nofun)]
      exact iff_of_true (by rw [hbegin]; nofun) (.inl rfl)
  | eContinue =>
      rw [if_pos (hbegin.trans hpre), or_iff_right nofun, and_iff_right rfl]
      by_cases hok : ∀ p ∈ withPast [] args, d.OptionOk config p.1 p.2
      · rw [and_iff_right hok]
        exact finish_cont (reads_exec hpre hok)
      · -- the error of an option is final: `finish` does not ask for more
        have hfailed := not_not.mp ((loop_iff registry hpre).not.mpr hok)
        refine iff_of_false (fun hne => hne ?_) fun h => hok h.1
        unfold ParseState.finish
        rw [if_neg (by rw [hfailed]; nofun)]
        exact hfailed

namespace DerivedConfiguration

/-- What an accepted command line puts into the registry, in its order. -/
def commandLineSettings (d : DerivedConfiguration) (args : List Argument) : List Setting :=
  d.preParseArguments.settings ++
    if d.preParseArguments.status = eContinue then
      d.settingsOf args ++
        if d.statusAfter args = eHandled then [] else d.postParseArguments.settings
    else []

end DerivedConfiguration

theorem registry_of_accepted (haccepted : (passArguments d config registry args left).2 = true) :
    (passArguments d config registry args left).1.registry
      = registry.setConfigValues (d.commandLineSettings args) := by
  obtain ⟨hleft, hparsed⟩ := passArguments_iff.mp haccepted
  unfold passArguments DerivedConfiguration.commandLineSettings
  dsimp only
  rw [hleft, if_neg fun h => nomatch h.2]
  have hbegin : (ParseState.begin d config registry).cont = d.preParseArguments.status := rfl
  rcases hparsed with hpre | ⟨hpre, hok, hlast⟩
  · -- all was handled before the options, which are not looked at
    rw [hpre] at hbegin
    rw [if_neg (by rw [hbegin]; nofun), if_neg (by rw [hpre]; nofun), List.append_nil]
    unfold ParseState.finish
    rw [if_neg (by rw [hbegin]; nofun)]
    rfl
  · rw [if_pos (hbegin.trans hpre), if_pos hpre]
    have hreads : Reads d config (registry.setConfigValues d.preParseArguments.settings) args
        (exec (ParseState.step d) (ParseState.begin d config registry) args) :=
      reads_exec hpre hok
    rw [IasAvbStreamHandlerEnvironment.setConfigValues_append,
      IasAvbStreamHandlerEnvironment.setConfigValues_append, ← hreads.registry, ← hreads.status]
    unfold ParseState.finish
    by_cases hhandled : (exec (ParseState.step d) (ParseState.begin d config registry) args).cont
        = eHandled
    · -- the last override is not asked
      rw [if_neg (by rw [hhandled]; nofun), if_pos hhandled]
      rfl
    · rw [← hreads.status] at hlast
      obtain ⟨hprofile, htarget, -⟩ := hlast.resolve_left hhandled
      have hcont : (exec (ParseState.step d) (ParseState.begin d config registry) args).cont
          = eContinue := by
        cases hstatus : (exec (ParseState.step d) (ParseState.begin d config registry) args).cont
        case eContinue => rfl
        case eError => exact absurd hstatus hreads.goes
        case eHandled => exact absurd hstatus hhandled
      rw [if_pos hcont, if_neg hhandled, hreads.profile, hreads.target, hprofile, htarget,
        if_neg nofun, if_neg nofun]
      rfl

/-- Once the registry is locked, all has been set in one go. -/
theorem registry_of_configured {preproduction : Bool}
    (haccepted : (configure preproduction d config args left).2 = true) (later : List Setting) :
    (configure preproduction d config args left).1.registry.setConfigValues later
      = (IasAvbStreamHandlerEnvironment.setConfigValues {}
          (IasAvbStreamHandlerEnvironment.defaultConfigValues
            ++ d.commandLineSettings args)).validateRegistryEntries preproduction := by
  have hsettings : (passArguments d config
      (IasAvbStreamHandlerEnvironment.setDefaultConfigValues {}) args left).1.registry
      = IasAvbStreamHandlerEnvironment.setConfigValues {}
        (IasAvbStreamHandlerEnvironment.defaultConfigValues ++ d.commandLineSettings args) := by
    rw [registry_of_accepted haccepted, IasAvbStreamHandlerEnvironment.setConfigValues_append]
    rfl
  have hlocked : (configure preproduction d config args left).1.registry.mRegistryLocked = true :=
    rfl
  rw [IasAvbStreamHandlerEnvironment.setConfigValues_locked hlocked, ← hsettings]
  rfl

theorem doGetConfigValue_configured {preproduction : Bool}
    (haccepted : (configure preproduction d config args left).2 = true) (later : List Setting)
    (key : String) :
    ((configure preproduction d config args left).1.registry.setConfigValues
        later).doGetConfigValue key
      = IasAvbStreamHandlerEnvironment.validated preproduction key
          (Setting.latestNumber key (IasAvbStreamHandlerEnvironment.defaultConfigValues
            ++ d.commandLineSettings args)) := by
  rw [registry_of_configured haccepted,
    IasAvbStreamHandlerEnvironment.doGetConfigValue_validateRegistryEntries,
    IasAvbStreamHandlerEnvironment.doGetConfigValue_setConfigValues rfl]
  exact congrArg _ Option.or_none

/-- **What is read from the registry** once the stream handler has started with an accepted
command line, whatever is tried to be set after that: under every key the last number, and the
last text, that the defaults and the options gave it. -/
theorem effective_settings (preproduction : Bool) (d : DerivedConfiguration)
    (config : IasAvbConfigurationBase) (args : List Argument) (left : Bool)
    (haccepted : (configure preproduction d config args left).2 = true) (later : List Setting)
    (key : String) :
    let registry := (configure preproduction d config args left).1.registry.setConfigValues later
    let settings :=
      IasAvbStreamHandlerEnvironment.defaultConfigValues ++ d.commandLineSettings args
    registry.doGetConfigValue key
        = IasAvbStreamHandlerEnvironment.validated preproduction key
            (Setting.latestNumber key settings)
      ∧ registry.getTextualConfigValue key = Setting.latestText key settings := by
  dsimp only
  refine ⟨doGetConfigValue_configured haccepted later key, ?_⟩
  rw [registry_of_configured haccepted,
    IasAvbStreamHandlerEnvironment.getTextualConfigValue_validateRegistryEntries,
    IasAvbStreamHandlerEnvironment.getTextualConfigValue_setConfigValues rfl]
  exact Option.or_none

/-- A profile of the reference configuration, in extracts. -/
def unitTests : ProfileParams where
  profileName := "UnitTests"
  configAvbRx := some [
    { srClass := 'H', maxNumChannels := 8, sampleFreq := 48000, streamId := 0, dMac := 0
      localStreamdIDToConnect := 0, slaveClockId := 0, clockDriverId := 0 },
    { srClass := 'H', maxNumChannels := 0, sampleFreq := 0, streamId := 0, dMac := 0
      localStreamdIDToConnect := 0, slaveClockId := 0, clockDriverId := 0 }]
  configReg := some [
    { keyName := some "tspec.vlanid.low", isNum := true, numValue := 2 },
    { keyName := some "compatibility.audio", isNum := false, textValue := "SAF" },
    { keyName := none, isNum := false }]

def theConfigObject : DerivedConfiguration where
  getTargets := [
    { targetName := "NGIO", ifName := "eth1" },
    { targetName := "GrMrb", ifName := "eth0"
      configReg := some [
        { keyName := some "clock.hwcapture.nominal", isNum := true },
        { keyName := none, isNum := false }] }]
  getProfiles := [unitTests]

def startLine : List Argument :=
  [.option 't' "GrMrb" 0, .option 'p' "UnitTests" 0, .option 'x' "0" 0,
    .option 'm' "91E0F0000012" 0, .option 'k' "Receive.Validation.Mode=0" 0]

/-- The validation of received packets cannot be switched off. -/
theorem effective_settings_startLine :
    ((configure false theConfigObject {} startLine false).1.registry.setConfigValues
        [.numeric IasRegKeys.cRxValidationMode 0]).doGetConfigValue IasRegKeys.cRxValidationMode
      = some 1 :=
  (effective_settings false theConfigObject {} startLine false (by decide +kernel)
    [.numeric IasRegKeys.cRxValidationMode 0] IasRegKeys.cRxValidationMode).1.trans
    (by decide +kernel)

end AvbStreamHandler
