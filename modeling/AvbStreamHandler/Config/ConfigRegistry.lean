import AvbStreamHandler.Control.StreamHandler
import AvbStreamHandler.Kit.Overlay

/-!
# The configuration registry

`IasAvbStreamHandlerEnvironment` keeps what is configured: numbers and texts under keys, in one
map each. It is filled with default values, then from the command line, and then looked through
once and locked; what comes after that is refused. A number and a text may stand under the same
key, and do not cover each other: who asks for a number gets the last number.

In a release build the look through takes out the numbers for debugging, and does not leave the
validation of received packets switched off.
-/

namespace AvbStreamHandler

open Kit

namespace IasRegKeys

def cNwIfName : String := "network.interface.name"
def cClockDriverFileName : String := "clockdriver.filename"
def cAlsaNumFrames : String := "local.alsa.frames"
def cAlsaRingBuffer : String := "local.alsa.periods"
def cAlsaBaseFreq : String := "local.alsa.basefreq"
def cAlsaBasePeriod : String := "local.alsa.baseperiod"
def cAudioBaseFillMultiplier : String := "audio.basefill.multiplier"
def cAudioTstampBuffer : String := "audio.tstamp.buffer"
def cRxClkUpdateInterval : String := "receive.clock.updateinterval"
def cRxValidationMode : String := "receive.validation.mode"
def cSchedPolicy : String := "sched.policy"
def cSchedPriority : String := "sched.priority"
def cIgbAccessTimeoutCnt : String := "igb.access.to.cnt"

end IasRegKeys

/-- `AudioBufferDescMode::eIasAudioBufferDescModeFailSafe`. -/
def eIasAudioBufferDescModeFailSafe : UInt64 := 1

/-- The arguments of `setConfigValue`, of which there are two. -/
inductive Setting
  | numeric (key : String) (value : UInt64)
  | textual (key : String) (value : String)
deriving DecidableEq, Repr

/-- The registry, of all that there is in the environment. -/
structure IasAvbStreamHandlerEnvironment where
  mRegistryNumeric : AList fun _ : String => UInt64 := ∅
  mRegistryTextual : AList fun _ : String => String := ∅
  mRegistryLocked : Bool := false

namespace IasAvbStreamHandlerEnvironment

def setConfigValue (w : IasAvbStreamHandlerEnvironment) :
    Setting → IasAvbStreamHandlerEnvironment × IasAvbResult
  | .numeric key value =>
      if w.mRegistryLocked then (w, .eIasAvbResultErr)
      else if key = "" then (w, .eIasAvbResultInvalidParam)
      else ({ w with mRegistryNumeric := w.mRegistryNumeric.insert key value }, .eIasAvbResultOk)
  | .textual key value =>
      if w.mRegistryLocked then (w, .eIasAvbResultErr)
      else if key = "" then (w, .eIasAvbResultInvalidParam)
      else ({ w with mRegistryTextual := w.mRegistryTextual.insert key value }, .eIasAvbResultOk)

/-- One call after the other, whatever they return. -/
def setConfigValues (w : IasAvbStreamHandlerEnvironment) (ss : List Setting) :
    IasAvbStreamHandlerEnvironment :=
  ss.foldl (fun w s => (w.setConfigValue s).1) w

/-- `doGetConfigValue`, and `queryConfigValue` for a number. -/
def doGetConfigValue (w : IasAvbStreamHandlerEnvironment) (key : String) : Option UInt64 :=
  w.mRegistryNumeric.lookup key

/-- `getConfigValue` for a number of any type; `cast` is the conversion to it. -/
def getConfigValue {T : Type} (cast : UInt64 → T) (w : IasAvbStreamHandlerEnvironment)
    (key : String) : Option T :=
  (w.doGetConfigValue key).map cast

/-- `getConfigValue` for a text, and `queryConfigValue` for one. -/
def getTextualConfigValue (w : IasAvbStreamHandlerEnvironment) (key : String) : Option String :=
  w.mRegistryTextual.lookup key

def defaultConfigValues : List Setting := [
  .textual IasRegKeys.cNwIfName "eth0",
  .numeric IasRegKeys.cAlsaNumFrames 256,
  .numeric IasRegKeys.cAlsaRingBuffer 12,
  .numeric IasRegKeys.cAlsaBaseFreq 48000,
  .numeric IasRegKeys.cAlsaBasePeriod 128,
  .numeric IasRegKeys.cAudioBaseFillMultiplier 15,
  .numeric IasRegKeys.cAudioTstampBuffer eIasAudioBufferDescModeFailSafe,
  .numeric IasRegKeys.cRxClkUpdateInterval 10000,
  .textual IasRegKeys.cSchedPolicy "fifo",
  .numeric IasRegKeys.cSchedPriority 20,
  .numeric IasRegKeys.cIgbAccessTimeoutCnt 100]

def setDefaultConfigValues (w : IasAvbStreamHandlerEnvironment) :
    IasAvbStreamHandlerEnvironment :=
  w.setConfigValues defaultConfigValues

/-- `find("debug.") == 0`. -/
def isDebugKey (key : String) : Bool := "debug.".toList.isPrefixOf key.toList

def removeDebugValues (w : IasAvbStreamHandlerEnvironment) : IasAvbStreamHandlerEnvironment :=
  { w with
    mRegistryNumeric :=
      Overlay.drop w.mRegistryNumeric (w.mRegistryNumeric.keys.filter isDebugKey) }

def correctValidationMode (w : IasAvbStreamHandlerEnvironment) : IasAvbStreamHandlerEnvironment :=
  if w.doGetConfigValue IasRegKeys.cRxValidationMode = some 0 then
    { w with mRegistryNumeric := w.mRegistryNumeric.insert IasRegKeys.cRxValidationMode 1 }
  else w

/-- `preproduction` is `IAS_PREPRODUCTION_SW`. The result is true in any case. -/
def validateRegistryEntries (preproduction : Bool) (w : IasAvbStreamHandlerEnvironment) :
    IasAvbStreamHandlerEnvironment :=
  let w := if preproduction then w else w.removeDebugValues.correctValidationMode
  { w with mRegistryLocked := true }

end IasAvbStreamHandlerEnvironment

/-! ## What the settings come to -/

namespace Setting

def number : Setting → Option (String × UInt64)
  | numeric key value => if key = "" then none else some (key, value)
  | textual _ _ => none

def text : Setting → Option (String × String)
  | numeric _ _ => none
  | textual key value => if key = "" then none else some (key, value)

/-- The last number for a key. -/
def latestNumber (key : String) (ss : List Setting) : Option UInt64 :=
  Overlay.latest key (ss.filterMap number)

/-- The last text for a key. -/
def latestText (key : String) (ss : List Setting) : Option String :=
  Overlay.latest key (ss.filterMap text)

theorem latestNumber_append {key : String} {ss ss' : List Setting} :
    latestNumber key (ss ++ ss') = (latestNumber key ss').or (latestNumber key ss) := by
  unfold latestNumber
  rw [List.filterMap_append, Overlay.latest_append]

end Setting

namespace IasAvbStreamHandlerEnvironment

open Setting

variable {w : IasAvbStreamHandlerEnvironment} {ss : List Setting} {key : String}

theorem setConfigValue_open (hopen : w.mRegistryLocked = false) (s : Setting) :
    (w.setConfigValue s).1 = { w with
      mRegistryNumeric := Overlay.put w.mRegistryNumeric s.number.toList
      mRegistryTextual := Overlay.put w.mRegistryTextual s.text.toList } := by
  have hopen' : ¬ w.mRegistryLocked = true := by rw [hopen]; exact Bool.false_ne_true
  cases s with
  | numeric key value =>
      unfold setConfigValue
      dsimp only
      rw [if_neg hopen']
      by_cases hkey : key = ""
      · rw [if_pos hkey, show (numeric key value).number = none from if_pos hkey]
        rfl
      · rw [if_neg hkey, show (numeric key value).number = some (key, value) from if_neg hkey]
        rfl
  | textual key value =>
      unfold setConfigValue
      dsimp only
      rw [if_neg hopen']
      by_cases hkey : key = ""
      · rw [if_pos hkey, show (textual key value).text = none from if_pos hkey]
        rfl
      · rw [if_neg hkey, show (textual key value).text = some (key, value) from if_neg hkey]
        rfl

/-- A locked registry takes nothing. -/
theorem setConfigValue_locked (hlocked : w.mRegistryLocked = true) (s : Setting) :
    w.setConfigValue s = (w, .eIasAvbResultErr) := by
  cases s with
  | numeric key value => exact if_pos hlocked
  | textual key value => exact if_pos hlocked

/-- **What the maps hold** after some settings. -/
theorem setConfigValues_open (hopen : w.mRegistryLocked = false) (ss : List Setting) :
    w.setConfigValues ss = { w with
      mRegistryNumeric := Overlay.put w.mRegistryNumeric (ss.filterMap number)
      mRegistryTextual := Overlay.put w.mRegistryTextual (ss.filterMap text) } := by
  induction ss generalizing w with
  | nil => rfl
  | cons s ss ih =>
      show (w.setConfigValue s).1.setConfigValues ss = _
      have hstep := setConfigValue_open hopen s
      rw [ih (by rw [hstep]; exact hopen), hstep]
      dsimp only
      rw [← Overlay.put_append, ← Overlay.put_append]
      cases hnumber : s.number <;> cases htext : s.text <;>
        simp only [List.filterMap_cons, hnumber, htext, Option.toList, List.nil_append,
          List.cons_append]

theorem setConfigValues_append (ss' : List Setting) :
    w.setConfigValues (ss ++ ss') = (w.setConfigValues ss).setConfigValues ss' :=
  List.foldl_append

theorem setConfigValues_locked (hlocked : w.mRegistryLocked = true) (ss : List Setting) :
    w.setConfigValues ss = w := by
  induction ss with
  | nil => rfl
  | cons s ss ih =>
      show (w.setConfigValue s).1.setConfigValues ss = w
      rw [setConfigValue_locked hlocked s]
      exact ih

theorem doGetConfigValue_setConfigValues (hopen : w.mRegistryLocked = false) :
    (w.setConfigValues ss).doGetConfigValue key
      = (latestNumber key ss).or (w.doGetConfigValue key) := by
  rw [setConfigValues_open hopen]
  exact Overlay.lookup_put

theorem getTextualConfigValue_setConfigValues (hopen : w.mRegistryLocked = false) :
    (w.setConfigValues ss).getTextualConfigValue key
      = (latestText key ss).or (w.getTextualConfigValue key) := by
  rw [setConfigValues_open hopen]
  exact Overlay.lookup_put

/-! ## The look through -/

/-- What becomes of a number that was set. -/
def validated (preproduction : Bool) (key : String) (value : Option UInt64) : Option UInt64 :=
  if preproduction then value
  else if isDebugKey key then none
  else if key = IasRegKeys.cRxValidationMode ∧ value = some 0 then some 1
  else value

theorem doGetConfigValue_removeDebugValues :
    w.removeDebugValues.doGetConfigValue key
      = if isDebugKey key then none else w.doGetConfigValue key :=
  Overlay.lookup_drop_filter isDebugKey

theorem doGetConfigValue_correctValidationMode :
    w.correctValidationMode.doGetConfigValue key
      = if key = IasRegKeys.cRxValidationMode ∧ w.doGetConfigValue key = some 0 then some 1
        else w.doGetConfigValue key := by
  unfold correctValidationMode
  by_cases hzero : w.doGetConfigValue IasRegKeys.cRxValidationMode = some 0
  · rw [if_pos hzero]
    by_cases hmode : key = IasRegKeys.cRxValidationMode
    · subst hmode
      rw [if_pos ⟨rfl, hzero⟩]
      exact AList.lookup_insert _
    · rw [if_neg (And.left.mt hmode)]
      exact AList.lookup_insert_ne hmode
  · rw [if_neg hzero, if_neg]
    rintro ⟨rfl, h⟩
    exact hzero h

/-- **What there is to be read** after the look through. -/
theorem doGetConfigValue_validateRegistryEntries (preproduction : Bool) :
    (w.validateRegistryEntries preproduction).doGetConfigValue key
      = validated preproduction key (w.doGetConfigValue key) := by
  unfold validateRegistryEntries validated
  cases preproduction with
  | true => rfl
  | false =>
      show w.removeDebugValues.correctValidationMode.doGetConfigValue key = _
      rw [doGetConfigValue_correctValidationMode, doGetConfigValue_removeDebugValues]
      by_cases hdebug : isDebugKey key = true
      · rw [if_pos hdebug, if_neg (by exact fun h => nomatch h.2), if_neg Bool.false_ne_true,
          if_pos hdebug]
      · rw [if_neg hdebug, if_neg Bool.false_ne_true, if_neg hdebug]

theorem correctValidationMode_textual :
    w.correctValidationMode.mRegistryTextual = w.mRegistryTextual := by
  unfold correctValidationMode
  split <;> rfl

/-- Texts are left alone. -/
theorem getTextualConfigValue_validateRegistryEntries (preproduction : Bool) :
    (w.validateRegistryEntries preproduction).getTextualConfigValue key
      = w.getTextualConfigValue key := by
  cases preproduction with
  | true => rfl
  | false =>
      exact congrArg (AList.lookup key) (@correctValidationMode_textual w.removeDebugValues)

end IasAvbStreamHandlerEnvironment

end AvbStreamHandler
