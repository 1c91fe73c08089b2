import EditorKit.Text.Basic

/-!
# Paths

A path is a row of steps between slashes. A step is a name, or one dot for the folder that one is
in, or two dots for the folder above. Empty steps are left out; a path that ends with a slash has to
lead to a folder.

* `Fault` are the ways in which a file operation can fail, with the words of the operating system;
* `Path.read` reads a path for a file operation, which some texts are not fit for;
* `Path.fileName` and `Path.parentOf` take a path apart: for them a single dot is no step.
-/

namespace EditorKit

/-! ## Faults -/

/-- Why a file operation failed; `other` is for what has no name of its own here. -/
inductive Fault where
  | notFound
  | alreadyExists
  | notDirectory
  | isDirectory
  | notEmpty
  | nameTooLong
  | busy
  | nulInPath
  | notText
  | unnamed
  | other (words : Text)
deriving DecidableEq, Repr

/-- The words for a failed file operation. -/
def Fault.message : Fault → Text
  | .notFound => "No such file or directory (os error 2)".toList
  | .alreadyExists => "File exists (os error 17)".toList
  | .notDirectory => "Not a directory (os error 20)".toList
  | .isDirectory => "Is a directory (os error 21)".toList
  | .notEmpty => "Directory not empty (os error 39)".toList
  | .nameTooLong => "File name too long (os error 36)".toList
  | .busy => "Device or resource busy (os error 16)".toList
  | .nulInPath => "file name contained an unexpected NUL byte".toList
  | .notText => "stream did not contain valid UTF-8".toList
  | .unnamed => "Invalid file name".toList
  | .other words => words

/-! ## Paths -/

/-- A path: where it starts, its steps, and whether it ends with a slash. -/
structure Path where
  isAbsolute : Bool
  steps : List Text
  endsInSlash : Bool
deriving DecidableEq, Repr

namespace Path

/-- The step to the folder that one is in. -/
def here : Text := ['.']

/-- The step to the folder above. -/
def up : Text := ['.', '.']

/-- Reads a path. -/
def ofText (t : Text) : Path :=
  ⟨t.head? == some '/', (t.splitOn '/').filter (! ·.isEmpty), t.getLast? == some '/'⟩

/-- The number of bytes that a name may have. -/
def nameLimit : Nat := 255

/-- The number of bytes that a whole path may have. -/
def pathLimit : Nat := 4095

/-- Reads a path for a file operation. A path is not empty, has no zero character in it, and is not
too long as a whole. -/
def read (t : Text) : Except Fault Path :=
  if t.contains '\x00' then .error .nulInPath
  else if t.isEmpty then .error .notFound
  else if pathLimit < t.byteSize then .error .nameTooLong
  else .ok (ofText t)

/-- Whether a path ends with a name. -/
def endsInName (path : Path) : Bool :=
  match path.steps.getLast? with
  | some step => step != here && step != up
  | none => false

/-- A path to the folder that the last step of a path is taken in. -/
def holder (path : Path) : Path := ⟨path.isAbsolute, path.steps.dropLast ++ [here], false⟩

/-- The steps of a path that lead somewhere else. -/
def moves (path : Path) : List Text := path.steps.filter (· != here)

/-- The last step of a path, if it is a name; single dots behind it do not count. -/
def fileName (path : Path) : Option Text := path.moves.getLast?.filter (· != up)

/-- Whether a part between two slashes is no step that leads somewhere else. -/
def isIdle (part : Text) : Bool := part.isEmpty || part == here

/-- Parts between slashes without the idle ones at the end. -/
def dropIdle (parts : List Text) : List Text := (parts.reverse.dropWhile isIdle).reverse

/-- The path of what a path stands in, as a text. It is empty for a single name. -/
def parentOf (t : Text) : Text :=
  ['/'].intercalate (dropIdle (dropIdle (t.splitOn '/')).dropLast)

end Path

end EditorKit
