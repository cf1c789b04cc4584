/-!
# Why a device refuses an input

* `DeviceError`: the causes, with one wording each.
-/

namespace SyntheticInput

/-- Why a device did not deliver an input or did not answer a query. -/
inductive DeviceError where
  /-- The operation failed, for the stated reason. -/
  | operation (reason : String)
  /-- There is no such device on this platform. -/
  | platformNotSupported
  deriving Repr, DecidableEq

/-- The wording of a device error. -/
def DeviceError.message : DeviceError → String
  | operation reason => "Backend operation failed: " ++ reason
  | platformNotSupported => "Platform not supported"

end SyntheticInput
