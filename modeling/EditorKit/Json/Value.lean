import EditorKit.Number.Decimal

/-!
# JSON values

The values of JSON, how they are written on one line without spaces, and how the values of a program
are read from them. The members of a record keep the order in which they are given.

* `Value.write` writes a value;
* `asText`, `asBool` and `asNat` read plain values, and `asChoice` a name out of several, alone or
  as the only member of a record with a null behind it;
* `asOptional` takes null for a value that is missing;
* `readFields` reads the fields of a structure from a record, where each goes by one of its names,
  or from a list, where they come in order.
-/

namespace EditorKit.Json

/-! ## Values -/

/-- A JSON value. Numbers without a fraction are kept apart from the others. -/
inductive Value where
  | null
  | bool (b : Bool)
  | int (n : Int)
  | real (x : Float)
  | text (t : Text)
  | list (items : List Value)
  | record (members : List (Text × Value))
deriving Inhabited

/-- The spelling of a character between quotes: quote, backslash and the controls below the space
are escaped. -/
def escapedChar (c : Char) : Text :=
  match c with
  | '"' => ['\\', '"']
  | '\\' => ['\\', '\\']
  | '\x08' => ['\\', 'b']
  | '\x0c' => ['\\', 'f']
  | '\n' => ['\\', 'n']
  | '\r' => ['\\', 'r']
  | '\t' => ['\\', 't']
  | c => if c.toNat < 0x20 then ['\\', 'u'] ++ Text.padZeros 4 (Text.hex c.toNat) else [c]

/-- Writes a text between quotes. -/
def writeText (t : Text) : Text := '"' :: (t.flatMap escapedChar ++ ['"'])

/-- Writes a number that need not be whole. What is not finite is written as null. -/
def writeReal (x : Float) : Text :=
  if x.isFinite then Number.floatText x else "null".toList

mutual

/-- Writes a value. -/
def Value.write : Value → Text
  | .null => "null".toList
  | .bool true => "true".toList
  | .bool false => "false".toList
  | .int n => Text.decimalInt n
  | .real x => writeReal x
  | .text t => writeText t
  | .list items => '[' :: writeItems items
  | .record members => '\x7b' :: writeMembers members

/-- Writes the items of a list and the bracket behind them. -/
def writeItems : List Value → Text
  | [] => [']']
  | [item] => item.write ++ [']']
  | item :: rest => item.write ++ ',' :: writeItems rest

/-- Writes the members of a record and the brace behind them. -/
def writeMembers : List (Text × Value) → Text
  | [] => ['\x7d']
  | [(name, value)] => writeText name ++ ':' :: value.write ++ ['\x7d']
  | (name, value) :: rest => writeText name ++ ':' :: value.write ++ ',' :: writeMembers rest

end

/-! ## Reading plain values -/

/-- Reads a text. -/
def asText : Value → Option Text
  | .text t => some t
  | _ => none

/-- Reads a truth value. -/
def asBool : Value → Option Bool
  | .bool b => some b
  | _ => none

/-- Reads a whole number from zero to `limit`. -/
def asNat (limit : Nat) : Value → Option Nat
  | .int n => if 0 ≤ n ∧ n ≤ limit then some n.toNat else none
  | _ => none

/-- Reads a name out of several. -/
def asChoice {α : Type} (ofName : Text → Option α) : Value → Option α
  | .text name => ofName name
  | .record [(name, .null)] => ofName name
  | _ => none

/-- Reads a value that may be missing. -/
def asOptional {α : Type} (read : Value → Option α) : Value → Option (Option α)
  | .null => some none
  | value => (read value).map some

/-! ## Structures -/

/-- A field of a structure: the names that it goes by, and whether it may be missing. -/
structure Field where
  names : List Text
  mayMiss : Bool

/-- A field that has to be there. -/
def Field.required (name : String) : Field := ⟨[name.toList], false⟩

/-- A field that may be missing. -/
def Field.optional (names : List String) : Field := ⟨names.map String.toList, true⟩

/-- The value of a field among the members of a record. Two members for one field are refused. -/
def memberOf (members : List (Text × Value)) (field : Field) : Option (Option Value) :=
  match members.filter fun (name, _) => field.names.contains name with
  | [] => if field.mayMiss then some none else none
  | [(_, value)] => some (some value)
  | _ => none

/-- The values of fields from the items of a list, in order. -/
def itemsOf : List Field → List Value → Option (List (Option Value))
  | [], [] => some []
  | [], _ :: _ => none
  | field :: fields, [] => if field.mayMiss then (itemsOf fields []).map (none :: ·) else none
  | _ :: fields, value :: values => (itemsOf fields values).map (some value :: ·)

/-- The values of the fields of a structure, one for each field; a value is missing only where it
may be. A closed structure refuses members that are no fields. -/
def readFields (fields : List Field) (isClosed : Bool) : Value → Option (List (Option Value))
  | .list values => itemsOf fields values
  | .record members =>
    if isClosed && members.any fun (name, _) => !fields.any (·.names.contains name) then none
    else fields.mapM (memberOf members)
  | _ => none

end EditorKit.Json
