/-!
# Script instructions

* `Instruction`: what one line of a script asks for.
-/

namespace SyntheticInput

/-- What one line of a script asks for. A pause is a number of milliseconds. -/
inductive Instruction where
  | move (x y : Int32) (speed : Option Float)
  | setPosition (x y : Int32)
  | sleep (pause : UInt64)
  | key (command : String)
  deriving Repr

end SyntheticInput
