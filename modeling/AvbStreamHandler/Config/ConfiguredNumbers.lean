import AvbStreamHandler.Config.CommandLineRuns

/-!
# Numbers on the command line

A number that is printed in decimal, or in hexadecimal with `0x` in front of it, and given with
its key to option `k` comes out of the registry as that number: nothing of it is lost, and it is
not taken for a text. Two keys are excepted by the look through, and only in a release build.
-/

namespace AvbStreamHandler

open Kit Kit.Numerals ContinueStatus

/-- `key=number`. -/
def numberArgument (key : List Char) (hex : Bool) (number : UInt64) : List Char :=
  key ++ '=' ::
    if hex then '0' :: 'x' :: Nat.toDigits 16 number.toNat else Nat.toDigits 10 number.toNat

def lowerCase (key : List Char) : String := String.ofList (key.map Char.toLower)

variable {key value : List Char} {c : Char} {base n : Nat}

theorem splitSetting_eq (hkey : '=' ∉ key) (hvalue : value ≠ []) :
    splitSetting (key ++ '=' :: value) = some (key, value) := by
  have hspan : (key ++ '=' :: value).span (· ≠ '=') = (key, '=' :: value) := by
    rw [List.span_eq_takeWhile_dropWhile]
    have hall : ∀ c ∈ key, decide (c ≠ '=') = true :=
      fun c hc => decide_eq_true fun heq => hkey (heq ▸ hc)
    rw [List.takeWhile_append_of_pos hall, List.dropWhile_append_of_pos hall]
    simp
  unfold splitSetting
  rw [hspan]
  cases value with
  | nil => exact absurd rfl hvalue
  | cons c value => rfl

/-! ## Digits are no blanks, signs or prefixes -/

theorem zero_le_digit (hc : isDigit base c = true) : '0' ≤ c := by
  unfold isDigit digitValue at hc
  split at hc
  · rename_i h
    exact h.1
  · split at hc
    · rename_i h
      exact Char.le_trans (by decide : '0' ≤ 'a') h.1
    · split at hc
      · rename_i h
        exact Char.le_trans (by decide : '0' ≤ 'A') h.1
      · exact nomatch hc

theorem isSpace_digit (hc : isDigit base c = true) : isSpace c = false := by
  have hzero := zero_le_digit hc
  unfold isSpace
  rw [Bool.or_eq_false_iff, Bool.and_eq_false_iff]
  constructor
  · refine decide_eq_false ?_
    rintro rfl
    exact absurd hzero (by decide)
  · right
    refine decide_eq_false fun hle => ?_
    exact absurd (Char.le_trans hzero hle) (by decide)

theorem digit_ne_sign (hc : isDigit base c = true) : c ≠ '-' ∧ c ≠ '+' := by
  have hzero := zero_le_digit hc
  constructor
  · rintro rfl
    exact absurd hzero (by decide)
  · rintro rfl
    exact absurd hzero (by decide)

theorem digit_ne_x (hc : isDigit base c = true) : c ≠ 'x' ∧ c ≠ 'X' := by
  constructor
  · rintro rfl
    exact nomatch hc
  · rintro rfl
    exact nomatch hc

/-- The digits of a number do not begin with `0x`. -/
theorem dropHexPrefix_toDigits (hone : 1 < base) (hbase : base ≤ 16) :
    dropHexPrefix (Nat.toDigits base n) = Nat.toDigits base n := by
  have hdigits := isDigit_of_mem_toDigits (n := n) hone hbase
  unfold dropHexPrefix
  split
  · rename_i c rest heq
    have hc := digit_ne_x (hdigits c (heq ▸ List.mem_cons_of_mem _ List.mem_cons_self))
    rw [if_neg (not_or.mpr hc)]
    exact heq.symm
  · rfl

/-- **A printed number is read** as it was. -/
theorem extractUnsigned_toDigits {max : Nat} (hone : 1 < base) (hbase : base ≤ 16)
    (hn : n ≤ max) : extractUnsigned max base (Nat.toDigits base n) = .extracted n := by
  have hdigits := isDigit_of_mem_toDigits (n := n) hone hbase
  obtain ⟨c, rest, htext⟩ := List.exists_cons_of_ne_nil (Nat.toDigits_ne_nil (n := n) (b := base))
  have hc : isDigit base c = true := hdigits c (htext ▸ List.mem_cons_self)
  have hnumeral : numeral base (Nat.toDigits base n) = Nat.toDigits base n := by
    have h : numeral base (Nat.toDigits base n ++ []) = _ := numeral_toDigits hone hbase nofun
    rwa [List.append_nil] at h
  have hblank : (Nat.toDigits base n).dropWhile isSpace = c :: rest := by
    rw [htext, List.dropWhile_cons_of_neg (by rw [isSpace_digit hc]; exact Bool.false_ne_true)]
  have hsign : ¬ (c = '-' ∨ c = '+') := not_or.mpr (digit_ne_sign hc)
  unfold extractUnsigned
  rw [hblank]
  dsimp only
  rw [if_neg hsign, ← htext, dropHexPrefix_toDigits hone hbase, ite_self, hnumeral,
    value_toDigits hone hbase, if_neg Nat.toDigits_ne_nil,
    if_neg (Nat.not_lt_of_le hn), if_neg (digit_ne_sign hc).1]

/-- A decimal number does not begin with `0x` either. -/
theorem parseValue_decimal (hn : n ≤ maxUInt64) :
    parseValue (Nat.toDigits 10 n) = .extracted n := by
  have hnot : ¬ ['0', 'x'].isPrefixOf (Nat.toDigits 10 n) = true := by
    intro hprefixed
    have hmem : 'x' ∈ Nat.toDigits 10 n :=
      (List.isPrefixOf_iff_prefix.mp hprefixed).subset (by decide)
    exact (digit_ne_x (isDigit_of_mem_toDigits (by decide) (by decide) 'x' hmem)).1 rfl
  unfold parseValue
  rw [if_neg hnot]
  exact extractUnsigned_toDigits (by decide) (by decide) hn

theorem parseValue_hexadecimal (hn : n ≤ maxUInt64) :
    parseValue ('0' :: 'x' :: Nat.toDigits 16 n) = .extracted n := by
  unfold parseValue
  rw [if_pos (by simp)]
  exact extractUnsigned_toDigits (by decide) (by decide) hn

/-- **Both ways to write a number** come to the same setting. -/
theorem settingOf_numberArgument (hkey : '=' ∉ key) (hex : Bool) (number : UInt64) :
    settingOf (numberArgument key hex number) = some (.numeric (lowerCase key) number) := by
  have hn : number.toNat ≤ maxUInt64 := Nat.le_of_lt_succ number.toNat_lt
  unfold settingOf numberArgument
  cases hex with
  | true =>
      rw [if_pos rfl, splitSetting_eq hkey (List.cons_ne_nil _ _), Option.map_some]
      dsimp only
      rw [parseValue_hexadecimal hn]
      exact congrArg _ (congrArg _ UInt64.ofNat_toNat)
  | false =>
      rw [if_neg Bool.false_ne_true, splitSetting_eq hkey Nat.toDigits_ne_nil, Option.map_some]
      dsimp only
      rw [parseValue_decimal hn]
      exact congrArg _ (congrArg _ UInt64.ofNat_toNat)

/-! ## From the command line to the reader -/

/-- **A number given last** is the one that is read, whatever was set before, and whatever is
tried to be set once the stream handler has started. -/
theorem configured_number (preproduction : Bool) (d : DerivedConfiguration)
    (config : IasAvbConfigurationBase) (args : List Argument) (left : Bool)
    (hpre : d.preParseArguments.status = eContinue)
    (hpost : d.postParseArguments.settings = []) (key : List Char) (hkey : key ≠ [])
    (hdelimiter : '=' ∉ key) (hex : Bool) (number : UInt64) (uninitialized : Nat)
    (haccepted : (configure preproduction d config
      (args ++ [.option 'k' (String.ofList (numberArgument key hex number)) uninitialized])
      left).2 = true) (later : List Setting) :
    ((configure preproduction d config
        (args ++ [.option 'k' (String.ofList (numberArgument key hex number)) uninitialized])
        left).1.registry.setConfigValues later).doGetConfigValue (lowerCase key)
      = IasAvbStreamHandlerEnvironment.validated preproduction (lowerCase key) (some number) := by
  have hsetting := settingOf_numberArgument hdelimiter hex number
  have hlower : lowerCase key ≠ "" := by
    intro hempty
    have hnil : (lowerCase key).toList = [] := congrArg String.toList hempty
    rw [lowerCase, String.toList_ofList, List.map_eq_nil_iff] at hnil
    exact hkey hnil
  have hoption : d.optionSettings args
      (.option 'k' (String.ofList (numberArgument key hex number)) uninitialized)
      = [.numeric (lowerCase key) number] := by
    show (settingOf (String.ofList (numberArgument key hex number)).toList).toList = _
    rw [String.toList_ofList, hsetting]
    rfl
  rw [doGetConfigValue_configured haccepted]
  congr 1
  -- the option sets its key last: nothing follows it but the override, which sets nothing
  unfold DerivedConfiguration.commandLineSettings
  rw [if_pos hpre, hpost, ite_self, List.append_nil, DerivedConfiguration.settingsOf_append,
    hoption, ← List.append_assoc, ← List.append_assoc, Setting.latestNumber_append]
  have hlast : Setting.latestNumber (lowerCase key) [.numeric (lowerCase key) number]
      = some number := by
    unfold Setting.latestNumber
    rw [List.filterMap_cons_some (show (Setting.numeric (lowerCase key) number).number
      = some (lowerCase key, number) from if_neg hlower)]
    show (none : Option UInt64).or (if lowerCase key = lowerCase key then some number else none) = _
    rw [if_pos rfl, Option.none_or]
  rw [hlast, Option.some_or]

theorem configured_number_startLine :
    ((configure true theConfigObject {}
        (startLine ++ [.option 'k' (String.ofList
          (numberArgument "Debug.LogLevel._ASH".toList true 5)) 0])
        false).1.registry.setConfigValues []).doGetConfigValue
          (lowerCase "Debug.LogLevel._ASH".toList)
      = some 5 :=
  configured_number true theConfigObject {} startLine false rfl rfl "Debug.LogLevel._ASH".toList
    (by decide +kernel) (by decide +kernel) true 5 0 (by decide +kernel) []

end AvbStreamHandler
