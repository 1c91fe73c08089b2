import EditorKit.Json.Value
import EditorKit.Toml.String

/-!
# Values of TOML

The values that documents for settings are made of: strings, and tables, which stand for a choice
when they have an empty member. No setting is a number, a date or an array with items, so these are
refused at once.

* `readPath` reads the keys in front of a value;
* `readValue` reads a value;
* `Value.toJson` is the same value without the ways in which it can be written.
-/

namespace EditorKit.Toml

/-- How a table came to be: in one piece, by a header of its own, by the header of a table in it, or
by keys with dots. -/
inductive Form where
  | inline
  | headed
  | implied
  | dotted
deriving DecidableEq, Repr

/-- A value. The members of a table are in the order in which they are given. -/
inductive Value where
  | text (t : Text)
  | emptyArray
  | table (form : Form) (members : List (Text × Value))

/-- The names of a table with their values. -/
abbrev Members := List (Text × Value)

/-! ## Keys -/

/-- Reads a key: letters, digits, low lines and hyphens, or a string of one line. -/
def readKey : Text → Option (Text × Text)
  | '"' :: rest => readBasic (rest.length + 1) rest
  | '\x27' :: rest => readLiteral rest
  | t =>
    let key := t.takeWhile isKeyChar
    if key.isEmpty then none else some (key, t.dropWhile isKeyChar)

/-- Reads keys with dots between them, and the spaces around. -/
def readKeys : (fuel : Nat) → Text → Option (List Text × Text)
  | 0, _ => none
  | fuel + 1, t => do
    let (key, rest) ← readKey (skipSpace t)
    match skipSpace rest with
    | '.' :: rest =>
      let (keys, rest) ← readKeys fuel rest
      return (key :: keys, rest)
    | rest => return ([key], rest)

/-- Reads the path to a value: keys with dots between them. -/
def readPath (t : Text) : Option (List Text × Text) := readKeys (t.length + 1) t

/-! ## Values -/

mutual

/-- Reads a value. -/
def readNested : (fuel : Nat) → Text → Option (Value × Text)
  | 0, _ => none
  | _, '[' :: rest =>
    match skipSpread false rest with
    | ']' :: rest => some (.emptyArray, rest)
    | _ => none
  | fuel + 1, '\x7b' :: rest =>
    match skipSpace rest with
    | '\x7d' :: rest => some (.table .inline [], rest)
    | rest => do
      let (members, rest) ← readMembers fuel rest
      return (.table .inline members, rest)
  | _, t => do
    let (value, rest) ← readString t
    return (.text value, rest)

/-- Reads the members of a table in one piece, up to its closing brace. -/
def readMembers : (fuel : Nat) → Text → Option (Members × Text)
  | 0, _ => none
  | fuel + 1, t => do
    let (key, rest) ← readKey (skipSpace t)
    match skipSpace rest with
    | '=' :: rest =>
      let (value, rest) ← readNested fuel (skipSpace rest)
      match skipSpace rest with
      | ',' :: rest =>
        let (members, rest) ← readMembers fuel rest
        return ((key, value) :: members, rest)
      | '\x7d' :: rest => return ([(key, value)], rest)
      | _ => none
    | _ => none

end

/-- Reads a value. -/
def readValue (t : Text) : Option (Value × Text) := readNested (t.length + 1) t

/-! ## Meaning -/

/-- Whether a value is an array or a table with nothing in it. -/
def Value.isEmpty : Value → Bool
  | .emptyArray | .table _ [] => true
  | _ => false

mutual

/-- What a value says, however it is written. -/
def Value.toJson : Value → Json.Value
  | .text t => .text t
  | .emptyArray => .list []
  | .table _ members => .record (membersToJson members)

/-- What the members of a table say. A member with nothing in it is only a name. -/
def membersToJson : Members → List (Text × Json.Value)
  | [] => []
  | (name, value) :: rest =>
    (name, if value.isEmpty then .null else value.toJson) :: membersToJson rest

end

end EditorKit.Toml
