import EditorKit.Toml.Value

/-!
# Documents of TOML

A document is a table, written line by line: a line gives a value to a path of keys, or it is the
header of the table that the following lines are for. What has been given once is never given again.

* `Members.put` gives a value to a path, and `Members.start` starts a table with a header;
* `readDocument` reads a document.
-/

namespace EditorKit.Toml

/-! ## Tables -/

namespace Members

/-- Members with another value for a name that is there. -/
def replace (members : Members) (name : Text) (value : Value) : Members :=
  members.map fun (other, old) => (other, if other = name then value else old)

/-- Members with a value for a path. The tables on the way are there only for this kind of path. -/
def put (value : Value) : (path : List Text) → Members → Option Members
  | [], _ => none
  | [key], members =>
    match members.lookup key with
    | none => some (members ++ [(key, value)])
    | some _ => none
  | key :: path, members =>
    match members.lookup key with
    | none => (put value path []).map fun inner => members ++ [(key, .table .dotted inner)]
    | some (.table .dotted inner) =>
      (put value path inner).map fun inner => members.replace key (.table .dotted inner)
    | some _ => none

/-- Members with the members of the table at a path changed. Tables on the way that are not there
are implied. -/
def change (f : Members → Option Members) : (path : List Text) → Members → Option Members
  | [], members => f members
  | key :: path, members =>
    match members.lookup key with
    | none => (change f path []).map fun inner => members ++ [(key, .table .implied inner)]
    | some (.table .inline _) => none
    | some (.table form inner) =>
      (change f path inner).map fun inner => members.replace key (.table form inner)
    | some _ => none

/-- Members with a table that has a header of its own. -/
def head (key : Text) (members : Members) : Option Members :=
  match members.lookup key with
  | none => some (members ++ [(key, .table .headed [])])
  | some (.table .implied inner) => some (members.replace key (.table .headed inner))
  | some _ => none

/-- Members with a header for the table at a path. -/
def start (path : List Text) (members : Members) : Option Members :=
  match path.getLast? with
  | none => none
  | some key => members.change (head key) path.dropLast

end Members

/-! ## Lines -/

/-- Reads a header behind its opening bracket, to the end of the line. -/
def readHeader (t : Text) : Option (List Text × Text) := do
  match ← readPath t with
  | (path, ']' :: rest) => return (path, ← restOfLine rest)
  | _ => none

/-- Reads a path, an equals sign and a value, to the end of the line. -/
def readEntry (t : Text) : Option ((List Text × Value) × Text) := do
  match ← readPath t with
  | (path, '=' :: rest) =>
    let (value, rest) ← readValue (skipSpace rest)
    return ((path, value), ← restOfLine rest)
  | _ => none

/-- Reads the lines of a document, with the table that they are for and what has been read. -/
def readLines : (fuel : Nat) → (table : List Text) → Members → Text → Option Members
  | 0, _, _, _ => none
  | fuel + 1, table, members, t =>
    match skipSpace t with
    | [] => some members
    | '[' :: rest => do
      let (path, rest) ← readHeader rest
      readLines fuel path (← members.start path) rest
    | line =>
      match restOfLine line with
      | some rest => readLines fuel table members rest
      | none => do
        let ((path, value), rest) ← readEntry line
        readLines fuel table (← members.change (Members.put value path) table) rest

/-- Reads a document. A byte order mark in front is passed over. -/
def readDocument (document : Text) : Option Members :=
  match document with
  | '\uFEFF' :: rest => readLines (rest.length + 1) [] [] rest
  | _ => readLines (document.length + 1) [] [] document

end EditorKit.Toml
