import EditorKit.Log.Pattern.SetReader
import EditorKit.Text.Letter

/-!
# Reading patterns

The written form of patterns: characters stand for themselves, `.` for any character, sets stand
between square brackets, groups between round ones, `|` separates choices, and `*`, `+` and `?`
repeat what stands before them, with a further `?` as few times as possible.

Reading keeps the groups that are open in a stack of frames and goes through the text once. A
pattern whose parts are nested too deep is refused.
-/

namespace EditorKit.Log.Pattern

/-! ## Groups -/

/-- A part of a group: a pattern, or flags, which cannot be repeated. -/
structure Part where
  pattern : Nested Pattern
  canRepeat : Bool

/-- A group that is being read: the choices before the last bar and the parts behind it, the last
ones first, and the flags in force. -/
structure Frame where
  choices : List (Nested Pattern)
  parts : List Part
  flags : Flags

namespace Frame

/-- A group of which nothing has been read. -/
def empty (flags : Flags) : Frame := ⟨[], [], flags⟩

/-- The pattern of what stands behind the last bar. -/
def lastChoice (frame : Frame) : Nested Pattern :=
  Nested.row .sequence .nothing (frame.parts.map Part.pattern)

/-- The pattern of a whole group. -/
def whole (frame : Frame) : Nested Pattern :=
  Nested.row .choice .nothing (frame.lastChoice :: frame.choices)

/-- A group with one more pattern. -/
def add (frame : Frame) (pattern : Nested Pattern) : Frame :=
  { frame with parts := ⟨pattern, true⟩ :: frame.parts }

/-- A group with other flags from here on. -/
def withFlags (frame : Frame) (flags : Flags) : Frame :=
  { frame with parts := ⟨.leaf nothing, false⟩ :: frame.parts, flags := flags }

/-- A group behind one more bar. -/
def bar (frame : Frame) : Frame :=
  { frame with choices := frame.lastChoice :: frame.choices, parts := [] }

/-- A group with its last pattern repeated as a sign says. -/
def repeatLast (frame : Frame) (sign : Char) (isEager : Bool) : Option Frame :=
  match frame.parts with
  | ⟨pattern, true⟩ :: parts =>
    let isEager := isEager != frame.flags.takesFew
    let body :=
      if sign = '*' then repeated isEager
      else if sign = '+' then repeatedOnce isEager
      else optional isEager
    some { frame with parts := ⟨pattern.around body, true⟩ :: parts }
  | _ => none

end Frame

/-! ## Opening brackets -/

/-- What an opening bracket starts: flags for the rest of the group that it stands in, or a group
with flags and maybe a name. -/
inductive Opening where
  | flags (flags : Flags)
  | group (flags : Flags) (name : Option Text)

/-- Whether a character may stand in the name of a group, and in front of it. -/
def isNameChar (isFirst : Bool) (c : Char) : Bool :=
  c == '_' ||
    if isFirst then Text.isLetter c else ".[]".toList.contains c || Text.isLetterOrNumber c

/-- Reads the name of a group up to its closing angle. -/
def readGroupName (t : Text) : Option (Text × Text) :=
  match t.takeWhile (· != '>'), t.dropWhile (· != '>') with
  | first :: rest, _ :: behind =>
    if isNameChar true first && rest.all (isNameChar false) then some (first :: rest, behind)
    else none
  | _, _ => none

/-- Reads what stands behind an opening bracket: a name, flags, or nothing of that kind. -/
def readOpening (flags : Flags) : Text → Option (Opening × Text)
  | '?' :: 'P' :: '<' :: rest | '?' :: '<' :: rest =>
    (readGroupName rest).map fun (name, rest) => (.group flags (some name), rest)
  | '?' :: ')' :: _ => none
  | '?' :: rest =>
    match flags.read [] rest with
    | some (flags, ')' :: rest) => some (.flags flags, rest)
    | some (flags, _ :: rest) => some (.group flags none, rest)
    | _ => none
  | rest => some (.group flags none, rest)

/-! ## Whole patterns -/

/-- The most levels that the parts of a pattern may be nested. -/
def maxDepth : Nat := 250

/-- The pattern of an atom. -/
def ofAtom (flags : Flags) : Atom → Option Pattern
  | .char c => flags.literal c
  | .set set => some (oneOf set)
  | .boundary b => some (.boundary b)

/-- Reads a text in the innermost of some open groups, with the names of groups so far. -/
def readFrom : (fuel : Nat) → (names : List Text) → (frame : Frame) → (outer : List Frame) →
    Text → Option (Nested Pattern)
  | 0, _, _, _, _ => none
  | fuel + 1, names, frame, outer, t =>
    let leaf (pattern : Pattern) (rest : Text) : Option (Nested Pattern) :=
      readFrom fuel names (frame.add (.leaf pattern)) outer rest
    match frame.flags.skip t with
    | [] => if outer.isEmpty then some frame.whole else none
    | '(' :: rest => do
      match ← readOpening frame.flags (frame.flags.skip rest) with
      | (.flags flags, rest) => readFrom fuel names (frame.withFlags flags) outer rest
      | (.group flags none, rest) => readFrom fuel names (.empty flags) (frame :: outer) rest
      | (.group flags (some name), rest) =>
        guard !(names.contains name)
        readFrom fuel (name :: names) (.empty flags) (frame :: outer) rest
    | ')' :: rest =>
      match outer with
      | [] => none
      | parent :: outer => readFrom fuel names (parent.add (frame.whole.around id)) outer rest
    | '|' :: rest => readFrom fuel names frame.bar outer rest
    | '[' :: rest => do
      let (set, rest) ← readSet frame.flags fuel rest
      readFrom fuel names (frame.add ⟨oneOf set.value, set.depth⟩) outer rest
    | '\\' :: rest => do
      let (atom, rest) ← readEscape frame.flags rest
      leaf (← ofAtom frame.flags atom) rest
    | '.' :: rest => if frame.flags.isAscii then none else leaf (oneOf .all) rest
    | '^' :: rest => leaf (boundary .textStart) rest
    | '$' :: rest => leaf (boundary .textEnd) rest
    | '\x7b' :: _ => none
    | c :: rest =>
      if c = '*' || c = '+' || c = '?' then
        match rest with
        | '?' :: rest => do readFrom fuel names (← frame.repeatLast c false) outer rest
        | rest => do readFrom fuel names (← frame.repeatLast c true) outer rest
      else do leaf (← frame.flags.literal c) rest

/-- Reads a pattern. -/
def ofText? (t : Text) : Option Pattern :=
  match readFrom (t.length + 1) [] (.empty .bare) [] t with
  | some pattern => if pattern.depth ≤ maxDepth then some pattern.value else none
  | none => none

end EditorKit.Log.Pattern
