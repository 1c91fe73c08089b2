import EditorKit.Search.Rank

/-!
# Outlines

An outline lists the declarations of a source file in order, each with its depth in the tree that
they form. It is read from a dump with one declaration a line and four fields between tabs: kind,
name, line and level. A fifth field marks a declaration as disabled. A line that is no declaration
is passed over.

* `Kind` are the kinds of declarations, each with a name;
* `Item.ofLine` reads one line, and `markParents` compares the levels of neighbours;
* `readDump` reads an outline, and `readNotices` is what that leaves in the log;
* `Item.toValue` is a declaration as a JSON value, and `Item.ofValue` reads one, in which the two
  flags may be missing.
-/

namespace EditorKit.Outline

/-! ## Kinds -/

/-- A kind of declaration. -/
inductive Kind where
  | root
  | procedure
  | function
  | method
  | constructor
  | destructor
  | property
  | event
  | includeFile
  | preprocessor
  | label
  | block
  | table
  | buffer
  | variableName
  | parameter
deriving DecidableEq, Repr

namespace Kind

/-- The kinds in their order. -/
def all : List Kind :=
  [root, procedure, function, method, constructor, destructor, property, event, includeFile,
    preprocessor, label, block, table, buffer, variableName, parameter]

/-- The name of a kind. -/
def name : Kind → Text
  | root => "root".toList
  | procedure => "procedure".toList
  | function => "function".toList
  | method => "method".toList
  | constructor => "constructor".toList
  | destructor => "destructor".toList
  | property => "property".toList
  | event => "event".toList
  | includeFile => "include".toList
  | preprocessor => "preprocessor".toList
  | label => "label".toList
  | block => "block".toList
  | table => "table".toList
  | buffer => "buffer".toList
  | variableName => "variable".toList
  | parameter => "parameter".toList

/-- Whether declarations of a kind can have others inside. -/
def isContainer : Kind → Bool
  | root | procedure | function | method | constructor | destructor | block => true
  | _ => false

/-- The kind with exactly this name. -/
def ofExactName (name : Text) : Option Kind := all.find? fun kind => kind.name == name

/-- The kind with a given name, in any letter case and with white space around. -/
def ofText (t : Text) : Except Error Kind :=
  match ofExactName t.trim.asciiLower with
  | some kind => .ok kind
  | none => .error (.unknownKind t)

end Kind

/-! ## Declarations -/

/-- A declaration: what it is called, where it stands, and how deep in the tree. -/
structure Item where
  name : Text
  kind : Kind
  line : UInt32
  level : UInt8
  isDisabled : Bool
  hasChildren : Bool
deriving DecidableEq, Repr

/-- Declarations are listed by name. -/
instance : Search.Listable Item := ⟨Item.name, Item.isDisabled⟩

/-- The words that mark a declaration as disabled, in lower case. -/
def disabledWords : List Text := ["disabled".toList, "true".toList, "1".toList]

/-- Whether the fifth field of a line marks its declaration as disabled. -/
def isDisabledMark (field : Text) : Bool := disabledWords.contains (Text.asciiLower field)

/-- Reads the first four fields of a line. -/
def Item.ofFields (kind name line level : Text) (isDisabled : Bool) : Option Item := do
  guard !name.isEmpty
  let kind ← (Kind.ofText kind).toOption
  let line ← Text.readWord line
  let level ← Text.readByte level
  return ⟨name, kind, line, level, isDisabled, false⟩

/-- Reads a line. -/
def Item.ofLine (line : Text) : Option Item :=
  match (line.splitOn '\t').map Text.trim with
  | [kind, name, line, level] => Item.ofFields kind name line level false
  | [kind, name, line, level, mark] => Item.ofFields kind name line level (isDisabledMark mark)
  | _ => none

/-- Marks the declarations that have others inside: the next one is deeper. -/
def markParents : List Item → List Item
  | item :: next :: rest =>
    { item with hasChildren := item.hasChildren || item.level < next.level }
      :: markParents (next :: rest)
  | items => items

/-- Reads an outline. -/
def readDump (dump : Text) : List Item := markParents (dump.lines.filterMap Item.ofLine)

/-! ## Notices -/

/-- The task of reading an outline. -/
def readTask (dump : Text) : Log.Task :=
  ⟨Log.topic ["outline"], "parse_outline".toList, [("bytes".toList, .number dump.byteSize)]⟩

/-- The notices that reading an outline leaves in the log. -/
def readNotices (dump : Text) : List Log.Notice :=
  let notice := Log.Notice.of .debug (Log.topic ["outline"])
  let refused := dump.lines.filter fun line =>
    !Text.isBlankText line && (Item.ofLine line).isNone
  let skipped := refused.map fun _ => notice "skipping outline line" ["line_number"]
  (skipped ++ [notice "outline parsed" ["item_count"]]).map (.during (readTask dump))

/-! ## Values -/

open Json (Value Field)

/-- The value of a kind. -/
def Kind.toValue (kind : Kind) : Value := .text kind.name

/-- Reads a kind by its exact name. -/
def Kind.ofValue : Value → Option Kind := Json.asChoice Kind.ofExactName

namespace Item

/-- The fields of a declaration. -/
def fields : List Field :=
  [.required "name", .required "kind", .required "line", .required "level",
    .optional ["is_disabled"], .optional ["has_children"]]

/-- The value of a declaration. -/
def toValue (item : Item) : Value :=
  .record [("name".toList, .text item.name), ("kind".toList, item.kind.toValue),
    ("line".toList, .int item.line.toNat), ("level".toList, .int item.level.toNat),
    ("is_disabled".toList, .bool item.isDisabled), ("has_children".toList, .bool item.hasChildren)]

/-- Reads a flag; one that is missing is not set. -/
def readFlag : Option Value → Option Bool
  | none => some false
  | some value => Json.asBool value

/-- Reads a declaration from a value. -/
def ofValue (value : Value) : Option Item := do
  match ← Json.readFields fields false value with
  | [some name, some kind, some line, some level, isDisabled, hasChildren] =>
    return {
      name := ← Json.asText name
      kind := ← Kind.ofValue kind
      line := UInt32.ofNat (← Json.asNat 0xFFFFFFFF line)
      level := UInt8.ofNat (← Json.asNat 255 level)
      isDisabled := ← readFlag isDisabled
      hasChildren := ← readFlag hasChildren }
  | _ => none

end Item

end EditorKit.Outline
