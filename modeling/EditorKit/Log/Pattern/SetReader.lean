import EditorKit.Log.Pattern.Flags

/-!
# Reading sets of characters

The written form of sets, between square brackets: characters and ranges, further sets, sets with a
name between colons, and operators between them. A hat in front takes all other characters.

* `readSet` reads a set;
* `Nested` keeps how deep the parts of a pattern are nested, which is limited.
-/

namespace EditorKit.Log.Pattern

/-! ## Nesting -/

/-- A part of a pattern, with the number of levels that its own parts are nested in it. -/
structure Nested (α : Type) where
  value : α
  depth : Nat

namespace Nested

variable {α : Type}

/-- A part without parts of its own. -/
def leaf (value : α) : Nested α := ⟨value, 0⟩

/-- A part with a single part in it. -/
def around (f : α → α) (part : Nested α) : Nested α := ⟨f part.value, part.depth + 1⟩

/-- A part with two parts in it. -/
def pair (f : α → α → α) (a b : Nested α) : Nested α :=
  ⟨f a.value b.value, max a.depth b.depth + 1⟩

/-- The parts of a row, the last one first, put together. A row of one part is no further level. -/
def row (f : α → α → α) (bare : α) : List (Nested α) → Nested α
  | [] => leaf bare
  | [part] => part
  | last :: parts =>
    parts.foldl (fun rest part => ⟨f part.value rest.value, max (part.depth + 1) rest.depth⟩)
      ⟨last.value, last.depth + 1⟩

end Nested

/-! ## Names -/

/-- The sets that have a name. -/
def posixSets : List (Text × List (Char × Char)) :=
  [("alnum".toList, [('0', '9'), ('A', 'Z'), ('a', 'z')]),
    ("alpha".toList, [('A', 'Z'), ('a', 'z')]),
    ("ascii".toList, [('\x00', '\x7f')]),
    ("blank".toList, [('\t', '\t'), (' ', ' ')]),
    ("cntrl".toList, [('\x00', '\x1f'), ('\x7f', '\x7f')]),
    ("digit".toList, digits),
    ("graph".toList, [('!', '~')]),
    ("lower".toList, [('a', 'z')]),
    ("print".toList, [(' ', '~')]),
    ("punct".toList, [('!', '/'), (':', '@'), ('[', '\x60'), ('\x7b', '~')]),
    ("space".toList, blanks),
    ("upper".toList, [('A', 'Z')]),
    ("word".toList, wordChars),
    ("xdigit".toList, [('0', '9'), ('A', 'F'), ('a', 'f')])]

/-- Reads a name between colons behind its opening bracket: its ranges, whether a hat stands in
front, and the text behind the closing bracket. -/
def readName : Text → Option (List (Char × Char) × Bool × Text)
  | ':' :: rest =>
    let (isNegated, rest) :=
      match rest with
      | '^' :: rest => (true, rest)
      | rest => (false, rest)
    match rest.dropWhile (· != ':') with
    | ':' :: ']' :: behind =>
      (posixSets.lookup (rest.takeWhile (· != ':'))).map fun ranges => (ranges, isNegated, behind)
    | _ => none
  | _ => none

/-- The set of some ranges, by the flags. -/
def namedSet (flags : Flags) (ranges : List (Char × Char)) (isNegated : Bool) : Option CharSet := do
  let set ← flags.cased (.ofRanges ranges)
  if isNegated then flags.complement set else return set

/-! ## Characters and ranges -/

/-- Reads a character or what stands behind a backslash. -/
def readAtom (flags : Flags) : Text → Option (Atom × Text)
  | [] => none
  | '\\' :: rest => readEscape flags rest
  | c :: rest => some (.char c, rest)

/-- The set of an atom on its own. -/
def Atom.toSet (flags : Flags) : Atom → Option CharSet
  | .char c => flags.range c c
  | .set s => some s
  | .boundary _ => none

/-- The character behind a hyphen, past blanks and past the sign of a comment. -/
def charBehind (flags : Flags) (t : Text) : Option Char :=
  if flags.skipsBlanks then
    match t.dropWhile Text.isBlank with
    | '#' :: comment => (comment.dropWhile Text.isBlank).head?
    | t => t.head?
  else t.head?

/-- Reads a character, a range, or what stands behind a backslash. A hyphen before another one or
before the closing bracket makes no range. -/
def readItem (flags : Flags) (t : Text) : Option (CharSet × Text) := do
  let (first, rest) ← readAtom flags t
  let single : Option (CharSet × Text) := do return (← first.toSet flags, rest)
  match flags.skip rest with
  | '-' :: behind =>
    if charBehind flags behind = some ']' || charBehind flags behind = some '-' then single
    else
      match first, ← readAtom flags (flags.skip behind) with
      | .char first, (.char last, rest) => return (← flags.range first last, rest)
      | _, _ => none
  | _ => single

/-! ## Open sets -/

/-- What an operator makes of the sets on its two sides. -/
abbrev Operator := CharSet → CharSet → CharSet

/-- A set that is being read: whether a hat stands in front, the side before the last operator, the
items behind that, the last one first, and whether all of them are hyphens in front. -/
structure OpenSet where
  isNegated : Bool
  left : Option (Nested CharSet × Operator)
  items : List (Nested CharSet)
  isFresh : Bool

namespace OpenSet

/-- A set with one more item. -/
def add (s : OpenSet) (item : Nested CharSet) : OpenSet :=
  { s with items := item :: s.items, isFresh := false }

/-- What has been read, without the hat. -/
def content (s : OpenSet) : Nested CharSet :=
  let right := Nested.row .union .empty s.items
  match s.left with
  | none => right
  | some (left, operator) => Nested.pair operator left right

/-- A set behind one more operator. -/
def operate (s : OpenSet) (operator : Operator) : OpenSet :=
  { s with left := some (s.content, operator), items := [], isFresh := false }

/-- The whole of a set. -/
def whole (flags : Flags) (s : OpenSet) : Option (Nested CharSet) := do
  let content := s.content
  let set ← if s.isNegated then flags.complement content.value else some content.value
  return ⟨set, content.depth + 1⟩

end OpenSet

/-- Reads the start of a set behind its opening bracket. -/
def openSet (flags : Flags) (t : Text) : OpenSet × Text :=
  match flags.skip t with
  | '^' :: rest => (⟨true, none, [], true⟩, rest)
  | rest => (⟨false, none, [], true⟩, rest)

/-- Reads the innermost of some open sets to its end. In front of a set, hyphens and then a closing
bracket stand for themselves. -/
def readOpenSet (flags : Flags) : (fuel : Nat) → (inner : OpenSet) → (outer : List OpenSet) →
    Text → Option (Nested CharSet × Text)
  | 0, _, _, _ => none
  | fuel + 1, inner, outer, t =>
    let item (t : Text) : Option (Nested CharSet × Text) := do
      let (set, rest) ← readItem flags t
      readOpenSet flags fuel (inner.add (.leaf set)) outer rest
    let operate (operator : Operator) (t : Text) : Option (Nested CharSet × Text) :=
      readOpenSet flags fuel (inner.operate operator) outer t
    match flags.skip t with
    | [] => none
    | '[' :: rest =>
      match readName rest with
      | some (ranges, isNegated, rest) => do
        let set ← namedSet flags ranges isNegated
        readOpenSet flags fuel (inner.add (.leaf set)) outer rest
      | none =>
        let (next, rest) := openSet flags rest
        readOpenSet flags fuel next (inner :: outer) rest
    | ']' :: rest =>
      if inner.isFresh && inner.items.isEmpty then do
        let set ← flags.range ']' ']'
        readOpenSet flags fuel (inner.add (.leaf set)) outer rest
      else do
        let set ← inner.whole flags
        match outer with
        | [] => return (set, rest)
        | parent :: outer => readOpenSet flags fuel (parent.add set) outer rest
    | '-' :: rest =>
      if inner.isFresh then do
        let set ← flags.range '-' '-'
        readOpenSet flags fuel { inner.add (.leaf set) with isFresh := true } outer rest
      else
        match rest with
        | '-' :: rest => operate .difference rest
        | rest => item ('-' :: rest)
    | '&' :: '&' :: rest => operate .intersection rest
    | '~' :: '~' :: rest => operate .eitherOf rest
    | rest => item rest

/-- Reads a set behind its opening bracket. Fuel of more than the length of the text is enough. -/
def readSet (flags : Flags) (fuel : Nat) (t : Text) : Option (Nested CharSet × Text) :=
  let (inner, rest) := openSet flags t
  readOpenSet flags fuel inner [] rest

end EditorKit.Log.Pattern
