import AvbStreamHandler.Clock.ClockController

/-!
# The clock domain

`IasAvbClockDomain`: two filters follow the measured rate ratio, a fast and a slow one. The fast
one is the rate ratio the domain reports, kept within a band around the slow one. The domain is
locked once a measured value is close to the fast filter and the fast filter is close to the slow
one, and stays locked as long as the filters are close to each other.

Numbers are rational. What the exponential function makes of a time constant is a filter
coefficient, any number from zero up to one. The debug output is left out.
-/

namespace AvbStreamHandler

open Kit IasAvbLockState

/-- A filter coefficient. -/
structure Coefficient where
  val : ℚ
  nonneg : 0 ≤ val
  lt_one : val < 1

namespace Coefficient

/-- The coefficient of a filter that follows at once. -/
def zero : Coefficient := ⟨0, by decide, by decide⟩

end Coefficient

/-- `smooth`. -/
def Coefficient.smooth (coeff : Coefficient) (stateBuf newVal : ℚ) : ℚ :=
  coeff.val * stateBuf + (1 - coeff.val) * newVal

/-- What `calculateCoefficient` comes to for the four filters. -/
structure FilterCoefficients where
  mCoeffFastLocked : Coefficient := .zero
  mCoeffFastUnlocked : Coefficient := .zero
  mCoeffSlowLocked : Coefficient := .zero
  mCoeffSlowUnlocked : Coefficient := .zero

structure AvbClockDomain where
  mTimeConstant : ℚ := 0
  mRateRatio : ℚ := 1
  mCompensation : ℚ := 1
  mRateRatioSlow : ℚ := 1
  mRateRatioFast : ℚ := 1
  coefficients : FilterCoefficients := {}
  mThresholdSlowLow : ℚ := 0
  mThresholdSlowHigh : ℚ := 0
  mThresholdFastLow : ℚ := 0
  mThresholdFastHigh : ℚ := 0
  mInitialValue : ℚ := 1
  mLockState : IasAvbLockState := eIasAvbLockStateInit
  mClient : Option Nat := none
  /-- Who was notified of a change of the lock state, and what `getLockState` told them then. The
  last one comes first. -/
  notified : List (Nat × IasAvbLockState) := []

/-- The calls of a clock domain. The ones that set the filters carry the new coefficients. -/
inductive ClockDomainCall where
  | updateRateRatio (newRatio : ℚ)
  | setFilter (timeConstant : ℚ) (coefficients : FilterCoefficients)
  | setDerivationFactors (coefficients : FilterCoefficients)
  | setLockThreshold1 (ppm : Nat)
  | setLockThreshold2 (ppm : Nat)
  | setInitialValue (initVal : ℚ)
  | setDriftCompensation (val : Int)
  | registerClient (client : Option Nat)
  | unregisterClient (client : Option Nat)

namespace AvbClockDomain

def setLockState (d : AvbClockDomain) (s : IasAvbLockState) : AvbClockDomain :=
  { d with mLockState := s }

/-- Both filters start at a value. -/
def setFilters (d : AvbClockDomain) (value : ℚ) : AvbClockDomain :=
  { d with mRateRatioSlow := value, mRateRatioFast := value }

/-- A client that asks for the lock state in the notification is given the present one. -/
def lockStateChanged (d : AvbClockDomain) : AvbClockDomain :=
  { d with notified := d.mClient.toList.map (fun client => (client, d.mLockState)) ++ d.notified }

/-! ## A measured value -/

/-- `locked1`: the measured value is close to the fast filter. -/
def locked1 (d : AvbClockDomain) (newRatio : ℚ) : Bool :=
  decide (newRatio < d.mThresholdFastHigh * d.mRateRatioFast)
    && decide (d.mThresholdFastLow * d.mRateRatioFast < newRatio)

def smoothed (d : AvbClockDomain) (newRatio : ℚ) : AvbClockDomain :=
  if d.mLockState = eIasAvbLockStateLocked then
    { d with
      mRateRatioSlow := d.coefficients.mCoeffSlowLocked.smooth d.mRateRatioSlow newRatio
      mRateRatioFast := d.coefficients.mCoeffFastLocked.smooth d.mRateRatioFast newRatio }
  else
    { d with
      mRateRatioSlow := d.coefficients.mCoeffSlowUnlocked.smooth d.mRateRatioSlow newRatio
      mRateRatioFast := d.coefficients.mCoeffFastUnlocked.smooth d.mRateRatioFast newRatio }

def rateRatioMax (d : AvbClockDomain) : ℚ := d.mThresholdSlowHigh * d.mRateRatioSlow

def rateRatioMin (d : AvbClockDomain) : ℚ := d.mThresholdSlowLow * d.mRateRatioSlow

/-- `locked2`: the fast filter is close to the slow one. -/
def locked2 (d : AvbClockDomain) : Bool :=
  decide (d.mRateRatioFast < d.rateRatioMax) && decide (d.rateRatioMin < d.mRateRatioFast)

/-- What a state below `eIasAvbLockStateLocked` comes to. -/
def lock (d : AvbClockDomain) (locked1 locked2 : Bool) : AvbClockDomain :=
  if locked1 && locked2 then (d.setLockState eIasAvbLockStateLocked).lockStateChanged
  else d.setLockState eIasAvbLockStateLocking

/-- The `switch` over the lock state. The first value to be measured starts the filters. -/
def switchLockState (d : AvbClockDomain) (locked1 locked2 : Bool) : AvbClockDomain :=
  match d.mLockState with
  | .eIasAvbLockStateInit =>
      (d.setFilters d.mInitialValue).lock locked1 locked2
  | .eIasAvbLockStateUnlocked => d.lock locked1 locked2
  | .eIasAvbLockStateLocking => d.lock locked1 locked2
  | .eIasAvbLockStateLocked =>
      if locked2 then d else (d.setLockState eIasAvbLockStateUnlocked).lockStateChanged

/-- The fast filter, kept between two bounds. -/
def clamp (x rateRatioMin rateRatioMax : ℚ) : ℚ :=
  if rateRatioMax < x then rateRatioMax else if x < rateRatioMin then rateRatioMin else x

/-- The measured value passes the sanity check. -/
def Accepts (newRatio : ℚ) : Prop := 0 ≤ newRatio ∧ newRatio ≤ 10

instance (newRatio : ℚ) : Decidable (Accepts newRatio) := inferInstanceAs (Decidable (_ ∧ _))

/-- The bounds are those of the slow filter as it follows the measured value, also where the
`switch` starts the filters anew. -/
def updateRateRatio (d : AvbClockDomain) (newRatio : ℚ) : AvbClockDomain :=
  if Accepts newRatio then
    let s := d.smoothed newRatio
    let s' := s.switchLockState (d.locked1 newRatio) s.locked2
    { s' with
      mRateRatio := clamp s'.mRateRatioFast s.rateRatioMin s.rateRatioMax * s'.mCompensation }
  else d

/-! ## Settings -/

def setDriftCompensation (d : AvbClockDomain) (val : Int) : AvbClockDomain :=
  if 0 ≤ val ∧ val ≤ 1000000 then { d with mCompensation := 1 / (1 + val * (1 / 1000000)) }
  else if val < 0 ∧ -1000000 ≤ val then
    { d with mCompensation := 1 + (-val : Int) * (1 / 1000000) }
  else d

def setInitialValue (d : AvbClockDomain) (initVal : ℚ) : AvbClockDomain :=
  if 0 ≤ initVal then { d with mInitialValue := initVal } else d

/-- A domain that is locked, or about to be, has to lock anew. -/
def setFilter (d : AvbClockDomain) (timeConstant : ℚ) (coefficients : FilterCoefficients) :
    AvbClockDomain :=
  if 0 ≤ timeConstant then
    let d := { d with mTimeConstant := timeConstant, coefficients := coefficients }
    if d.mLockState = eIasAvbLockStateLocking ∨ d.mLockState = eIasAvbLockStateLocked then
      (d.setLockState eIasAvbLockStateUnlocked).lockStateChanged
    else d
  else d

def setDerivationFactors (d : AvbClockDomain) (coefficients : FilterCoefficients) :
    AvbClockDomain :=
  d.setFilter d.mTimeConstant coefficients

/-- `1.0 + (1e-6 * double(ppm))`. -/
def thresholdHigh (ppm : Nat) : ℚ := 1 + 1 / 1000000 * ppm

def setLockThreshold1 (d : AvbClockDomain) (ppm : Nat) : AvbClockDomain :=
  if 0 < ppm then
    { d with mThresholdFastHigh := thresholdHigh ppm, mThresholdFastLow := 1 / thresholdHigh ppm }
  else d

def setLockThreshold2 (d : AvbClockDomain) (ppm : Nat) : AvbClockDomain :=
  if 0 < ppm then
    { d with mThresholdSlowHigh := thresholdHigh ppm, mThresholdSlowLow := 1 / thresholdHigh ppm }
  else d

def registerClient (d : AvbClockDomain) (client : Option Nat) : AvbClockDomain :=
  if client.isSome && d.mClient.isNone then { d with mClient := client } else d

def unregisterClient (d : AvbClockDomain) (client : Option Nat) : AvbClockDomain :=
  if client = d.mClient then { d with mClient := none } else d

def step (d : AvbClockDomain) : ClockDomainCall → AvbClockDomain
  | .updateRateRatio newRatio => d.updateRateRatio newRatio
  | .setFilter timeConstant coefficients => d.setFilter timeConstant coefficients
  | .setDerivationFactors coefficients => d.setDerivationFactors coefficients
  | .setLockThreshold1 ppm => d.setLockThreshold1 ppm
  | .setLockThreshold2 ppm => d.setLockThreshold2 ppm
  | .setInitialValue initVal => d.setInitialValue initVal
  | .setDriftCompensation val => d.setDriftCompensation val
  | .registerClient client => d.registerClient client
  | .unregisterClient client => d.unregisterClient client

end AvbClockDomain

end AvbStreamHandler
