import AvbStreamHandler.Config.ConfigRegistry
import AvbStreamHandler.Clock.ClockReferenceStream
import AvbStreamHandler.Video.TransferPacket

/-!
# The tables of a configuration

What a configuration is made of: tables of streams, one for each kind, and of settings for the
registry. A profile names one table of each kind, or none. In the source a table is an array that
ends at the first entry that is not valid; what is counted are the entries before that.

`IasAvbConfigurationBase` holds a pointer into the array and the number of its entries. The two
are not always set together: a profile without a table of some kind resets the number alone. A
table here carries the proof that its number stays within what the pointer points to.
-/

namespace AvbStreamHandler

inductive IasAvbTestToneMode
  | eIasAvbTestToneSine
  | eIasAvbTestTonePulse
  | eIasAvbTestToneSawtooth
  | eIasAvbTestToneFile
deriving DecidableEq, Repr

structure RegistryEntries where
  /-- Without a key for the entry that ends the table. -/
  keyName : Option String
  isNum : Bool
  numValue : UInt64 := 0
  textValue : String := ""

structure StreamParamsAvbRx where
  srClass : Char
  maxNumChannels : UInt16
  sampleFreq : UInt32
  streamId : UInt64
  dMac : UInt64
  localStreamdIDToConnect : UInt16
  slaveClockId : UInt32
  clockDriverId : UInt32
deriving DecidableEq, Repr

structure StreamParamsAvbTx where
  srClass : Char
  maxNumChannels : UInt16
  sampleFreq : UInt32
  clockId : UInt32
  streamId : UInt64
  dMac : UInt64
  localStreamdIDToConnect : UInt16
  activate : Bool
deriving DecidableEq, Repr

structure StreamParamsAvbVideoRx where
  srClass : Char
  maxPacketRate : UInt16
  maxPacketSize : UInt32
  format : IasAvbVideoFormat
  streamId : UInt64
  dMac : UInt64
  localStreamdIDToConnect : UInt16

structure StreamParamsAvbVideoTx where
  srClass : Char
  maxPacketRate : UInt16
  maxPacketSize : UInt32
  format : IasAvbVideoFormat
  clockId : UInt32
  streamId : UInt64
  dMac : UInt64
  localStreamdIDToConnect : UInt16
  activate : Bool

structure StreamParamsAvbClockReferenceRx where
  srClass : Char
  type : IasAvbClockReferenceStreamType
  maxCrfStampsPerPdu : UInt16
  streamId : UInt64
  dMac : UInt64
  clockId : UInt32
  slaveClockId : UInt32
  clockDriverId : UInt32

structure StreamParamsAvbClockReferenceTx where
  srClass : Char
  crfStampsPerPdu : UInt16
  crfStampInterval : UInt16
  baseFreq : UInt32
  pull : IasAvbClockMultiplier
  clockId : UInt32
  assignMode : IasAvbIdAssignMode
  streamId : UInt64
  dMac : UInt64
  activate : Bool

structure StreamParamsAlsa where
  streamDirection : IasAvbStreamDirection
  numChannels : UInt16
  sampleFreq : UInt32
  clockId : UInt32
  periodSize : UInt32
  numPeriods : UInt32
  layout : UInt8
  hasSideChannel : Bool
  deviceName : String
  streamId : UInt16
  alsaDeviceType : IasAlsaDeviceTypes
  sampleFreqASRC : UInt32

structure StreamParamsVideo where
  streamDirection : IasAvbStreamDirection
  maxPacketRate : UInt16
  maxPacketSize : UInt16
  format : IasAvbVideoFormat
  ipcName : String
  streamId : UInt16

structure TestToneParams where
  localStreamId : UInt16
  channel : UInt16
  signalFrequency : UInt32
  level : Int
  mode : IasAvbTestToneMode
  userParam : Int

structure StreamParamsTestTone where
  numberOfChannels : UInt16
  sampleFreq : UInt32
  format : IasAvbAudioFormat
  channelLayout : UInt8
  streamId : UInt16
  toneParams : Option (List TestToneParams)

/-! ## Where a table ends -/

def RegistryEntries.isValid (e : RegistryEntries) : Bool := e.keyName.isSome
def StreamParamsAvbRx.isValid (e : StreamParamsAvbRx) : Bool := e.sampleFreq ≠ 0
def StreamParamsAvbTx.isValid (e : StreamParamsAvbTx) : Bool := e.sampleFreq ≠ 0
def StreamParamsAvbVideoRx.isValid (e : StreamParamsAvbVideoRx) : Bool := e.maxPacketRate ≠ 0
def StreamParamsAvbVideoTx.isValid (e : StreamParamsAvbVideoTx) : Bool := e.maxPacketRate ≠ 0
def StreamParamsAvbClockReferenceRx.isValid (e : StreamParamsAvbClockReferenceRx) : Bool :=
  e.maxCrfStampsPerPdu ≠ 0
def StreamParamsAvbClockReferenceTx.isValid (e : StreamParamsAvbClockReferenceTx) : Bool :=
  e.crfStampsPerPdu ≠ 0
def StreamParamsAlsa.isValid (e : StreamParamsAlsa) : Bool := e.numChannels ≠ 0
def StreamParamsVideo.isValid (e : StreamParamsVideo) : Bool := e.maxPacketRate ≠ 0
def TestToneParams.isValid (e : TestToneParams) : Bool := e.signalFrequency ≠ 0
def StreamParamsTestTone.isValid (e : StreamParamsTestTone) : Bool := e.toneParams.isSome

/-- The entries before the one that ends the table. -/
def validEntries {α : Type} (isValid : α → Bool) (params : Option (List α)) : List α :=
  (params.getD []).takeWhile isValid

def getNumEntries {α : Type} (isValid : α → Bool) (params : Option (List α)) : Nat :=
  (validEntries isValid params).length

/-- A pointer to an array, and the number of entries that are used. -/
structure Table (α : Type) where
  entries : Option (List α) := none
  num : Nat := 0
  within : num ≤ (entries.getD []).length := by exact Nat.zero_le _

namespace Table

variable {α : Type}

/-- What there is for `getProfileInfo` to do with one kind of table. -/
def getInfo (t : Table α) (isValid : α → Bool) (config : Option (List α)) : Table α :=
  match config with
  | none => { entries := t.entries }
  | some params =>
      if 0 = getNumEntries isValid (some params) then {}
      else
        { entries := some params
          num := getNumEntries isValid (some params)
          within := (List.takeWhile_prefix isValid).length_le }

theorem length_modified (entries : Option (List α)) (index : Nat) (f : α → α) :
    ((entries.map fun l => l.modify index f).getD []).length = (entries.getD []).length := by
  cases entries with
  | none => rfl
  | some l => exact List.length_modify ..

/-- One entry is written. -/
def modify (t : Table α) (index : Nat) (f : α → α) : Table α where
  entries := t.entries.map fun l => l.modify index f
  num := t.num
  within := (length_modified t.entries index f).symm ▸ t.within

/-- What a loop over the table comes across. -/
def used (t : Table α) : List α := (t.entries.getD []).take t.num

end Table

structure ProfileParams where
  profileName : String
  configAvbRx : Option (List StreamParamsAvbRx) := none
  configAvbTx : Option (List StreamParamsAvbTx) := none
  configAvbVideoRx : Option (List StreamParamsAvbVideoRx) := none
  configAvbVideoTx : Option (List StreamParamsAvbVideoTx) := none
  configAvbClkRefStreamRx : Option (List StreamParamsAvbClockReferenceRx) := none
  configAvbClkRefStreamTx : Option (List StreamParamsAvbClockReferenceTx) := none
  configAlsa : Option (List StreamParamsAlsa) := none
  configVideo : Option (List StreamParamsVideo) := none
  configReg : Option (List RegistryEntries) := none
  configTestTone : Option (List StreamParamsTestTone) := none

structure TargetParams where
  targetName : String
  ifName : String
  configReg : Option (List RegistryEntries) := none

/-- The entry that ends the table is counted too. -/
def DefaultSetupAvbRx : Table StreamParamsAvbRx where
  entries := some [
    { srClass := 'H', maxNumChannels := 2, sampleFreq := 48000, streamId := 0
      dMac := 0x91E0F0000000, localStreamdIDToConnect := 2, slaveClockId := 0
      clockDriverId := 0 },
    { srClass := 'H', maxNumChannels := 0, sampleFreq := 0, streamId := 0, dMac := 0
      localStreamdIDToConnect := 0, slaveClockId := 0, clockDriverId := 0 }]
  num := 2
  within := Nat.le_refl 2

def DefaultSetupAvbTx : Table StreamParamsAvbTx where
  entries := some [
    { srClass := 'H', maxNumChannels := 2, sampleFreq := 48000
      clockId := cIasAvbPtpClockDomainId, streamId := 0x91E0F000FE010000
      dMac := 0x91E0F000FE01, localStreamdIDToConnect := 1, activate := true },
    { srClass := 'H', maxNumChannels := 0, sampleFreq := 0, clockId := 0, streamId := 0, dMac := 0
      localStreamdIDToConnect := 0, activate := false }]
  num := 2
  within := Nat.le_refl 2

/-- What is configured, but for the registry. -/
structure IasAvbConfigurationBase where
  mAvbStreamsRx : Table StreamParamsAvbRx := DefaultSetupAvbRx
  mAvbStreamsTx : Table StreamParamsAvbTx := DefaultSetupAvbTx
  mAvbVideoStreamsRx : Table StreamParamsAvbVideoRx := {}
  mAvbVideoStreamsTx : Table StreamParamsAvbVideoTx := {}
  mAvbClkRefStreamRx : Table StreamParamsAvbClockReferenceRx := {}
  mAvbClkRefStreamTx : Table StreamParamsAvbClockReferenceTx := {}
  mAlsaStreams : Table StreamParamsAlsa := {}
  mVideoStreams : Table StreamParamsVideo := {}
  mTestStreams : Table StreamParamsTestTone := {}
  mUseHwC : Bool := false
  mUseClkRec : Bool := false
  mProfileSet : Bool := false
  mTargetSet : Bool := false

namespace IasAvbConfigurationBase

def getProfileInfo (b : IasAvbConfigurationBase) (theProfile : ProfileParams) :
    IasAvbConfigurationBase :=
  { b with
    mAvbStreamsRx := b.mAvbStreamsRx.getInfo (·.isValid) theProfile.configAvbRx
    mAvbStreamsTx := b.mAvbStreamsTx.getInfo (·.isValid) theProfile.configAvbTx
    mAvbVideoStreamsRx := b.mAvbVideoStreamsRx.getInfo (·.isValid) theProfile.configAvbVideoRx
    mAvbVideoStreamsTx := b.mAvbVideoStreamsTx.getInfo (·.isValid) theProfile.configAvbVideoTx
    mAvbClkRefStreamTx :=
      b.mAvbClkRefStreamTx.getInfo (·.isValid) theProfile.configAvbClkRefStreamTx
    mAvbClkRefStreamRx :=
      b.mAvbClkRefStreamRx.getInfo (·.isValid) theProfile.configAvbClkRefStreamRx
    mAlsaStreams := b.mAlsaStreams.getInfo (·.isValid) theProfile.configAlsa
    mVideoStreams := b.mVideoStreams.getInfo (·.isValid) theProfile.configVideo
    mTestStreams := b.mTestStreams.getInfo (·.isValid) theProfile.configTestTone }

end IasAvbConfigurationBase

/-! ## What a table comes to -/

namespace Table

variable {α : Type} {t : Table α} {isValid : α → Bool} {config : Option (List α)} {index : Nat}
  {f : α → α}

theorem length_used : t.used.length = t.num := by
  unfold used
  rw [List.length_take]
  exact Nat.min_eq_left t.within

/-- **The entries of a profile** are what is used from then on. -/
theorem used_getInfo : (t.getInfo isValid config).used = validEntries isValid config := by
  cases config with
  | none => exact List.take_zero
  | some params =>
      unfold getInfo
      dsimp only
      split
      · rename_i hzero
        exact (List.eq_nil_of_length_eq_zero hzero.symm).symm
      · exact (List.prefix_iff_eq_take.mp (List.takeWhile_prefix isValid)).symm

theorem take_modify (l : List α) (n : Nat) :
    (l.modify index f).take n = (l.take n).modify index f := by
  refine List.ext_getElem? fun i => ?_
  rw [List.getElem?_take, List.getElem?_modify, List.getElem?_modify, List.getElem?_take]
  split <;> rfl

theorem used_modify : (t.modify index f).used = t.used.modify index f := by
  obtain ⟨entries, num, within⟩ := t
  show ((entries.map fun l => l.modify index f).getD []).take num
    = ((entries.getD []).take num).modify index f
  cases entries with
  | none =>
      show ([] : List α).take num = (([] : List α).take num).modify index f
      rw [List.take_nil, List.modify_nil]
  | some l => exact take_modify l num

end Table

end AvbStreamHandler
