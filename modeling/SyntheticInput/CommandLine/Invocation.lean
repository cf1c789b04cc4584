import SyntheticInput.Point

/-!
# What the program can be asked for

* `Job`: what is to be done with the devices.
* `Invocation`: a job with the options that hold for every job.
* `Request`: an invocation, or a question about the program itself.
-/

namespace SyntheticInput.CommandLine

/-- What is to be done with the devices. -/
inductive Job where
  /-- Run one key command. -/
  | send (command : String)
  /-- Move the cursor along a curved path. -/
  | move (target : Point) (speed : Option Float)
  /-- Place the cursor at once. -/
  | setPosition (target : Point)
  /-- Run the lines of standard input. -/
  | run
  deriving Repr

/-- A job and how it is to be done. -/
structure Invocation where
  job : Job
  /-- The configuration file, if not the default one. -/
  config : Option String := none
  /-- Record the events and print them. -/
  dryRun : Bool := false
  /-- The seed of the randomness, before the one in the configuration. -/
  seed : Option UInt64 := none
  deriving Repr

/-- What the program is started for. -/
inductive Request where
  | invoke (i : Invocation)
  | version
  | help
  deriving Repr

end SyntheticInput.CommandLine
