import Mathlib.Tactic.Basic

/-!
# Types shared by all components

The results that fallible functions of the stream handler report, and what a local stream
tells its client.
-/

namespace AvbStreamHandler

inductive IasAvbProcessingResult
  | eIasAvbProcOK
  | eIasAvbProcErr
  | eIasAvbProcInvalidParam
  | eIasAvbProcOff
  | eIasAvbProcInitializationFailed
  | eIasAvbProcNotInitialized
  | eIasAvbProcNoSpaceLeft
  | eIasAvbProcNotEnoughMemory
  | eIasAvbProcAlreadyInUse
  | eIasAvbProcCallbackError
  | eIasAvbProcUnsupportedFormat
  | eIasAvbProcNotImplemented
  | eIasAvbProcThreadStartFailed
  | eIasAvbProcThreadStopFailed
  | eIasAvbProcNullPointerAccess
  | eIasAvbProcTimeout
deriving DecidableEq, Repr

inductive DiscontinuityEvent
  | eIasUnspecific
  | eIasOverrun
  | eIasUnderrun
deriving DecidableEq, Repr

end AvbStreamHandler
