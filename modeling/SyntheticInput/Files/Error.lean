/-!
# Why a file cannot be read

* `FileError`: the causes, with the wording of the operating system.
* `FileError.isMissing`: the causes that mean that there is no such file.
-/

namespace SyntheticInput

/-- Why a file cannot be read as text. -/
inductive FileError where
  | notFound
  | notDirectory
  | isDirectory
  | nameTooLong
  | nulInName
  | notUtf8
  /-- Anything else, in the words of the system. -/
  | other (message : String)
  deriving Repr, DecidableEq

namespace FileError

/-- The wording of a file error. -/
def message : FileError → String
  | notFound => "No such file or directory (os error 2)"
  | notDirectory => "Not a directory (os error 20)"
  | isDirectory => "Is a directory (os error 21)"
  | nameTooLong => "File name too long (os error 36)"
  | nulInName => "file name contained an unexpected NUL byte"
  | notUtf8 => "stream did not contain valid UTF-8"
  | other message => message

/-- Nothing exists under the name; a directory or an unreadable file does exist. -/
def isMissing : FileError → Bool
  | isDirectory => false
  | notUtf8 => false
  | other _ => false
  | _ => true

end FileError

end SyntheticInput
