import AvbStreamHandler.Config.StreamTables
import AvbStreamHandler.Kit.Numerals
import AvbStreamHandler.Kit.Run

/-!
# The command line

`IasAvbConfigurationBase::passArguments`: one option after the other, as `getopt_long` returns
them. An option may choose the target or the profile, once each, move an index along the tables
of streams and change the entry it is at, or put something into the registry. After an option
that fails no other is looked at.

A number is read from a text the way a stream reads it: blanks, a sign and the digits, whatever
comes behind them. One that is too large leaves the largest there is behind, and no digits at all
leave zero; of a text with nothing in it the variable is not written, and what it held before is
an argument of the model.

A derived class names the targets and the profiles and may handle options of its own. What its
overrides return, and what they put into the registry, is a parameter here.
-/

namespace AvbStreamHandler

open Kit

/-! ## Numbers in texts -/

/-- What `operator>>` makes of a variable. -/
inductive Extraction
  /-- Nothing is stored. -/
  | nothing
  /-- It failed, and stored this. -/
  | failed (value : Nat)
  | extracted (value : Nat)
deriving DecidableEq, Repr

def Extraction.stored (old : Nat) : Extraction → Nat
  | nothing => old
  | failed value => value
  | extracted value => value

def isSpace (c : Char) : Bool := c = ' ' || ('\t' ≤ c && c ≤ '\r')

/-- `0x` in front of a hexadecimal number. -/
def dropHexPrefix : List Char → List Char
  | '0' :: c :: rest => if c = 'x' ∨ c = 'X' then rest else '0' :: c :: rest
  | text => text

/-- An unsigned number of a type with the greatest value `max`. -/
def extractUnsigned (max base : Nat) (text : List Char) : Extraction :=
  match text.dropWhile isSpace with
  | [] => .nothing
  | sign :: rest =>
      let unsigned := if sign = '-' ∨ sign = '+' then rest else sign :: rest
      let digits :=
        Numerals.numeral base (if base = 16 then dropHexPrefix unsigned else unsigned)
      if digits = [] then .failed 0
      else if max < Numerals.value base digits then .failed max
      else if sign = '-' then .extracted ((max + 1 - Numerals.value base digits) % (max + 1))
      else .extracted (Numerals.value base digits)

def maxUInt8 : Nat := 255
def maxUInt16 : Nat := 65535
def maxUInt32 : Nat := 4294967295
def maxUInt64 : Nat := 18446744073709551615

/-! ## What the derived class adds -/

inductive ContinueStatus
  | eContinue
  | eError
  | eHandled
deriving DecidableEq, Repr

open ContinueStatus

/-- What an override of the derived class does. -/
structure Override where
  settings : List Setting := []
  status : ContinueStatus := eContinue

structure DerivedConfiguration where
  getTargets : List TargetParams
  getProfiles : List ProfileParams
  preParseArguments : Override := {}
  handleDerivedOptions : Char → UInt32 → Override := fun _ _ => { status := eError }
  postParseArguments : Override := {}

/-! ## The options -/

/-- The options of the base class, by their long names. -/
inductive OptionName
  | profile
  | target
  | ifname
  | clockdriver
  | numch
  | chLayout
  | streamId
  | dmac
  | localStream
  | indexRx
  | indexTx
  | numstreams
  | config
  | query
  | help
  /-- None of these. -/
  | derived
deriving DecidableEq, Repr

def optionName : Char → OptionName
  -- `system` is the name `profile` had before
  | 's' => .profile
  | 'p' => .profile
  | 't' => .target
  | 'n' => .ifname
  | 'e' => .clockdriver
  | 'c' => .numch
  | 'l' => .chLayout
  | 'i' => .streamId
  | 'm' => .dmac
  | 'o' => .localStream
  | 'x' => .indexRx
  | 'X' => .indexTx
  | 'a' => .numstreams
  | 'k' => .config
  | 'q' => .query
  | 'h' => .help
  | _ => .derived

/-- What a call of `getopt_long` returns. A flag has been stored already. -/
inductive Argument
  | fixedClock
  | hwcapture (used : Bool)
  /-- The option, its argument, and what an uninitialised variable holds meanwhile. -/
  | option (c : Char) (optarg : String) (uninitialized : Nat)

/-- The object, the registry it was given, and the variables of the loop. -/
structure ParseState where
  config : IasAvbConfigurationBase := {}
  registry : IasAvbStreamHandlerEnvironment := {}
  index : UInt32 := 0
  isTxStream : Bool := false
  cont : ContinueStatus := eContinue

def RegistryEntries.setting (e : RegistryEntries) : Setting :=
  if e.isNum then .numeric (e.keyName.getD "") e.numValue
  else .textual (e.keyName.getD "") e.textValue

/-- The calls of `setRegistryValues`. -/
def registryValues (regValues : Option (List RegistryEntries)) : List Setting :=
  (validEntries (·.isValid) regValues).map (·.setting)

def TargetParams.settings (t : TargetParams) : List Setting :=
  .textual IasRegKeys.cNwIfName t.ifName :: registryValues t.configReg

def ProfileParams.settings (p : ProfileParams) : List Setting := registryValues p.configReg

/-- `key=value`, if it is that: the value is not empty. -/
def splitSetting (arg : List Char) : Option (List Char × List Char) :=
  match arg.span (· ≠ '=') with
  | (_, []) => none
  | (_, [_]) => none
  | (key, _ :: value) => some (key, value)

/-- A value in a base of ten, of sixteen if it begins with `0x`; anything else is a text. -/
def parseValue (value : List Char) : Extraction :=
  if ['0', 'x'].isPrefixOf value then extractUnsigned maxUInt64 16 (value.drop 2)
  else extractUnsigned maxUInt64 10 value

/-- What `config` puts into the registry. -/
def settingOf (arg : List Char) : Option Setting :=
  (splitSetting arg).map fun (key, value) =>
    let key := String.ofList (key.map Char.toLower)
    match parseValue value with
    | .extracted number => .numeric key (UInt64.ofNat number)
    | _ => .textual key (String.ofList value)

/-- `getHexVal`: the value for the target, if it is within the limit. -/
def getHexVal (max : Nat) (optarg : List Char) (uninitialized limit : Nat) : Option Nat :=
  let x := (extractUnsigned maxUInt64 16 optarg).stored uninitialized
  if (if limit = 0 then max else limit) < x then none else some x

namespace ParseState

def set (s : ParseState) (settings : List Setting) : ParseState :=
  { s with registry := s.registry.setConfigValues settings }

def handleTargetOption (d : DerivedConfiguration) (s : ParseState) (name : String) : ParseState :=
  match d.getTargets.find? (·.targetName = name) with
  | some t =>
      { s.set t.settings with config := { s.config with mTargetSet := true }, cont := eContinue }
  | none => { s with cont := eError }

def handleProfileOption (d : DerivedConfiguration) (s : ParseState) (name : String) : ParseState :=
  match d.getProfiles.find? (·.profileName = name) with
  | some p =>
      { s.set p.settings with
        config := { s.config.getProfileInfo p with mProfileSet := true }
        cont := eContinue }
  | none => { s with cont := eError }

/-- `indexRx` and `indexTx`. -/
def setIndex (s : ParseState) (optarg : List Char) (isTxStream : Bool) : ParseState :=
  { s with
    index := UInt32.ofNat ((extractUnsigned maxUInt32 10 optarg).stored s.index.toNat)
    isTxStream := isTxStream }

/-- `numch`, `localStream`, `streamId` and `dmac`, which differ in the field they write. -/
def editAvbStream (s : ParseState) (rx : StreamParamsAvbRx → StreamParamsAvbRx)
    (tx : StreamParamsAvbTx → StreamParamsAvbTx) : ParseState :=
  if s.isTxStream then
    if s.index.toNat < s.config.mAvbStreamsTx.num then
      { s with
        config := { s.config with
          mAvbStreamsTx := s.config.mAvbStreamsTx.modify s.index.toNat tx }
        cont := eContinue }
    else { s with cont := eError }
  else if s.index.toNat < s.config.mAvbStreamsRx.num then
    { s with
      config := { s.config with
        mAvbStreamsRx := s.config.mAvbStreamsRx.modify s.index.toNat rx }
      cont := eContinue }
  else { s with cont := eError }

def setMaxNumChannels (s : ParseState) (optarg : List Char) (uninitialized : Nat) : ParseState :=
  let numCh := UInt16.ofNat ((extractUnsigned maxUInt16 10 optarg).stored uninitialized)
  s.editAvbStream (fun e => { e with maxNumChannels := numCh })
    fun e => { e with maxNumChannels := numCh }

def setLocalStreamId (s : ParseState) (optarg : List Char) (uninitialized : Nat) : ParseState :=
  let id := (getHexVal maxUInt16 optarg uninitialized 0).map UInt16.ofNat
  s.editAvbStream
    (fun e => { e with localStreamdIDToConnect := id.getD e.localStreamdIDToConnect })
    fun e => { e with localStreamdIDToConnect := id.getD e.localStreamdIDToConnect }

def setStreamId (s : ParseState) (optarg : List Char) (uninitialized : Nat) : ParseState :=
  let id := (getHexVal maxUInt64 optarg uninitialized 0).map UInt64.ofNat
  s.editAvbStream (fun e => { e with streamId := id.getD e.streamId })
    fun e => { e with streamId := id.getD e.streamId }

def setDMac (s : ParseState) (optarg : List Char) (uninitialized : Nat) : ParseState :=
  let dMac := (getHexVal maxUInt64 optarg uninitialized 0xFFFFFFFFFFFF).map UInt64.ofNat
  s.editAvbStream (fun e => { e with dMac := dMac.getD e.dMac })
    fun e => { e with dMac := dMac.getD e.dMac }

/-- `chLayout`. The status is not set if it succeeds. -/
def setLayout (s : ParseState) (optarg : List Char) (uninitialized : Nat) : ParseState :=
  let layout := (getHexVal maxUInt8 optarg uninitialized 0).map UInt8.ofNat
  if s.index.toNat < s.config.mAlsaStreams.num then
    { s with
      config := { s.config with
        mAlsaStreams := s.config.mAlsaStreams.modify s.index.toNat fun e =>
          { e with layout := layout.getD e.layout } } }
  else { s with cont := eError }

/-- `clockdriver`. -/
def setClockDriver (s : ParseState) (optarg : String) : ParseState :=
  { s.set [.textual IasRegKeys.cClockDriverFileName optarg,
      .textual "clockdriver.config.i2cdevice" "/dev/i2c-0"] with
    config := { s.config with mUseClkRec := true } }

def handleOption (d : DerivedConfiguration) (s : ParseState) (c : Char) (optarg : String)
    (uninitialized : Nat) : ParseState :=
  match optionName c with
  | .target => if s.config.mTargetSet then s else s.handleTargetOption d optarg
  | .profile => if s.config.mProfileSet then s else s.handleProfileOption d optarg
  | .indexRx => s.setIndex optarg.toList false
  | .indexTx => s.setIndex optarg.toList true
  | .numstreams => s
  | .numch => s.setMaxNumChannels optarg.toList uninitialized
  | .localStream => s.setLocalStreamId optarg.toList uninitialized
  | .chLayout => s.setLayout optarg.toList uninitialized
  | .streamId => s.setStreamId optarg.toList uninitialized
  | .dmac => s.setDMac optarg.toList uninitialized
  | .ifname => s.set [.textual IasRegKeys.cNwIfName optarg]
  | .clockdriver => s.setClockDriver optarg
  | .config =>
      match settingOf optarg.toList with
      | some setting => s.set [setting]
      | none => { s with cont := eError }
  | .query => s
  | .help => { s with cont := eError }
  | .derived =>
      let handled := d.handleDerivedOptions c s.index
      { s.set handled.settings with cont := handled.status }

/-- One turn of the loop. After an error it is left. -/
def step (d : DerivedConfiguration) (s : ParseState) (a : Argument) : ParseState :=
  if s.cont = eError then s
  else
    match a with
    | .fixedClock => s
    | .hwcapture used => { s with config := { s.config with mUseHwC := used } }
    | .option c optarg uninitialized => s.handleOption d c optarg uninitialized

/-- A profile and a target have to be chosen, and then the derived class has the last word. -/
def finish (d : DerivedConfiguration) (s : ParseState) : ParseState :=
  if s.cont = eContinue then
    if s.config.mProfileSet = false then { s with cont := eError }
    else if s.config.mTargetSet = false then { s with cont := eError }
    else
      { s.set d.postParseArguments.settings with cont := d.postParseArguments.status }
  else s

/-- The state in which the first option is looked at. -/
def begin (d : DerivedConfiguration) (config : IasAvbConfigurationBase)
    (registry : IasAvbStreamHandlerEnvironment) : ParseState where
  config := { config with
    mUseHwC := false, mUseClkRec := false, mProfileSet := false, mTargetSet := false }
  registry := registry.setConfigValues d.preParseArguments.settings
  cont := d.preParseArguments.status

end ParseState

/-- `left` tells whether an argument is left that is no option. The result is whether the
command line is accepted. -/
def passArguments (d : DerivedConfiguration) (config : IasAvbConfigurationBase)
    (registry : IasAvbStreamHandlerEnvironment) (args : List Argument) (left : Bool) :
    ParseState × Bool :=
  let s := ParseState.begin d config registry
  let s := if s.cont = eContinue then Run.exec (ParseState.step d) s args else s
  let s := s.finish d
  let s := if s.cont ≠ eError ∧ left = true then { s with cont := eError } else s
  (s, s.cont ≠ eError)

/-- The registry after the start of the stream handler: the defaults, the command line, and the
look through, whatever became of the command line. -/
def configure (preproduction : Bool) (d : DerivedConfiguration)
    (config : IasAvbConfigurationBase) (args : List Argument) (left : Bool) :
    ParseState × Bool :=
  let r := passArguments d config
    (IasAvbStreamHandlerEnvironment.setDefaultConfigValues {}) args left
  ({ r.1 with registry := r.1.registry.validateRegistryEntries preproduction }, r.2)

end AvbStreamHandler
