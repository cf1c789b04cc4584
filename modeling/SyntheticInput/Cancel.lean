/-!
# Cancellation tokens

* `CancelToken`: a flag that stops a running trajectory before its next step.
-/

namespace SyntheticInput

/-- Whether the running trajectory has been asked to stop. Everybody who holds the token sees the
same flag. -/
structure CancelToken where
  isSet : Bool := false
  deriving Repr, DecidableEq

namespace CancelToken

/-- Asks the running trajectory to stop. -/
def cancel (_ : CancelToken) : CancelToken := ⟨true⟩

/-- Makes the token ready for the next trajectory. -/
def reset (_ : CancelToken) : CancelToken := ⟨false⟩

/-- The token after something during which a cancellation was asked for, or was not. -/
def cancelIf (t : CancelToken) (asked : Bool) : CancelToken := ⟨t.isSet || asked⟩

end CancelToken

end SyntheticInput
