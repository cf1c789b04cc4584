import SyntheticInput.CommandLine.Execution

/-!
# The program

Gathers the environment of an invocation, prints what it is answered with and ends with its exit
code.
-/

namespace SyntheticInput.CommandLine

/-- The reason for which the system refuses to read a file. -/
def fileError : IO.Error → FileError
  | .noFileOrDirectory .. => .notFound
  | .inappropriateType _ code _ => ofCode code
  | e => .other e.toString
where
  /-- Twenty-one, with either sign, says that a directory was read; the other causes of this kind
  say that the path leads through a file. -/
  ofCode (code : UInt32) : FileError :=
    if code = 21 ∨ code = -21 then .isDirectory else .notDirectory

/-- The bytes of a file, or why there are none. -/
def readFile (path : String) : IO (Except FileError ByteArray) := do
  try
    return .ok (← IO.FS.readBinFile path)
  catch e => return .error (fileError e)

/-- Reads what an invocation can look at. -/
def gather (i : Invocation) : IO Environment := do
  let content ← readFile (i.config.getD Config.defaultPath)
  let input ←
    match i.job with
    | .run => do pure (← (← IO.getStdin).readBinToEnd).toList
    | _ => pure []
  let entropy := (← IO.getRandomBytes 8).foldl (fun n b => n * 256 + b.toUInt64) 0
  return { files := fun _ => content, input, entropy }

/-- Prints an answer. -/
def print (a : Answer) : IO UInt32 := do
  IO.eprint a.diagnostics
  a.output.forM fun l => IO.println l
  return a.code

end SyntheticInput.CommandLine

open SyntheticInput.CommandLine in
/-- Answers the arguments. -/
def main (arguments : List String) : IO UInt32 := do
  let level := some SyntheticInput.Level.info
  match Request.ofArguments arguments with
  | .ok (.invoke i) => print (respond arguments (← gather i) level)
  | _ => print (respond arguments { files := fun _ => .error .notFound } level)
