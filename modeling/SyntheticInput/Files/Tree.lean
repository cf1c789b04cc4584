import SyntheticInput.Files.Error
import SyntheticInput.Text.Split

/-!
# A directory tree in memory

Configurations are read through any function from paths to bytes. The program passes the disk; a
driver that tries out invocations on files given as data passes a tree. This module has what such
files need, and nothing else in the library depends on it.

Files and directories are found by path names as an operating system finds them: a path leads from
directory to directory, `.` stays, `..` goes up, and only the last name may be a file. An empty tree
has just the working directory and what lies above it; what a machine has besides is for the driver to
add.

* `Place`, `target`, `trail`: where a path leads, and what it passes on the way.
* `FileTree`: files and directories by their places.
* `FileTree.add`: adds given files, those with relative paths in the working directory.
* `FileTree.read`: the bytes of a file.
-/

namespace SyntheticInput

/-! ## Places -/

/-- The names that lead to a place from the root of the system. -/
abbrev Place := List String

namespace Place

/-- The working directory. Its own name is left empty, so that no path can spell it. -/
def workingDirectory : Place := ["tmp", ""]

/-- One name further: `.` and the empty name stay, and the root is above itself. -/
def step (p : Place) (name : String) : Place :=
  if name = "" ∨ name = "." then p
  else if name = ".." then p.dropLast
  else p ++ [name]

/-- The names of a path; empty ones stand where slashes are doubled or at an end. -/
def names (path : String) : List String := (Text.splitAt '/' path.toList).map String.ofList

/-- Where a path starts: at the root if it begins with a slash. -/
def origin (path : String) : Place :=
  if path.toList.head? = some '/' then [] else workingDirectory

/-- Where a path leads if there is a directory at each of its names. -/
def target (path : String) : Place := (names path).foldl step (origin path)

/-- The places on the way along some names, the first and the last included. -/
def trail (p : Place) : List String → List Place
  | [] => [p]
  | n :: ns => p :: trail (p.step n) ns

end Place

/-- The places of standard input among the devices. -/
def standardInputPlaces : List Place :=
  [["dev", "stdin"], ["dev", "fd", "0"], ["proc", "self", "fd", "0"]]

/-! ## Trees -/

/-- Files and directories by their places. What lies above a file or a directory is a directory,
too. -/
structure FileTree where
  files : List (Place × ByteArray) := []
  directories : List Place := [Place.workingDirectory]

namespace FileTree

open Place (workingDirectory names origin target trail)

/-- Adds a file together with the directories on the way to it. One that was there before is
replaced. -/
def addFile (t : FileTree) (path : String) (content : ByteArray) : FileTree where
  files := (target path, content) :: t.files
  directories := trail (origin path) (names path).dropLast ++ t.directories

/-- Adds a directory together with those on the way to it. -/
def addDirectory (t : FileTree) (path : String) : FileTree :=
  { t with directories := trail (origin path) (names path) ++ t.directories }

/-- Adds some paths, each with its bytes, or with nothing where it is a directory. Of two with the
same place the later counts. -/
def add (t : FileTree) (entries : List (String × Option ByteArray)) : FileTree :=
  entries.foldl (fun t e =>
    match e.2 with
    | some content => t.addFile e.1 content
    | none => t.addDirectory e.1) t

/-- The tree in which standard input can be opened like a file. -/
def withStandardInput (t : FileTree) (content : ByteArray) : FileTree :=
  { t with files := standardInputPlaces.map (·, content) ++ t.files }

/-- What is found at a place. -/
inductive Entry where
  | file (content : ByteArray)
  | directory

/-- What lies at a place. -/
def entry? (t : FileTree) (p : Place) : Option Entry :=
  match t.files.find? (·.1 == p) with
  | some f => some (.file f.2)
  | none =>
    if t.directories.any (p.isPrefixOf ·) || t.files.any (p.isPrefixOf ·.1) then some .directory
    else none

/-- Follows names from a directory. -/
def walk (t : FileTree) : Place → List String → Except FileError ByteArray
  | _, [] => .error .isDirectory
  | p, n :: ns =>
    if 255 < n.utf8ByteSize then .error .nameTooLong
    else
      match t.entry? (p.step n) with
      | none => .error .notFound
      | some .directory => walk t (p.step n) ns
      | some (.file content) => if ns.isEmpty then .ok content else .error .notDirectory

/-- The bytes of the file with a path. -/
def read (t : FileTree) (path : String) : Except FileError ByteArray :=
  if path.toList.any (·.toNat = 0) then .error .nulInName
  else if path = "" then .error .notFound
  else if 4095 < path.utf8ByteSize then .error .nameTooLong
  else t.walk (origin path) (names path)

end FileTree

/-- The path names standard input. -/
def isStandardInput (path : String) : Bool := standardInputPlaces.contains (Place.target path)

end SyntheticInput
