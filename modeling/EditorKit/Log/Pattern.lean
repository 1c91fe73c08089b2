import EditorKit.Text.Basic

/-!
# Patterns

Patterns of characters with choices and repetitions. A pattern takes its choices in order of
preference: `choice` its first side first, and repetitions more rounds first if they are eager, and
fewer first if they are not.

* `CharSet` and `Boundary` are the smallest patterns, for one character and for none;
* `Pattern` is what they are put together to;
* `Pattern.mayBeEmpty` tells whether a pattern can match no character at all.
-/

namespace EditorKit.Log

/-! ## Sets of characters -/

/-- A set of characters. -/
inductive CharSet where
  | empty
  | range (first last : Char)
  /-- The characters of a set, with the letters `A` to `Z` in both cases. -/
  | anyCase (set : CharSet)
  | union (a b : CharSet)
  | intersection (a b : CharSet)
  | difference (a b : CharSet)
  /-- The characters of one of two sets, but not of both. -/
  | eitherOf (a b : CharSet)
  | complement (set : CharSet)
deriving DecidableEq, Repr

namespace CharSet

/-- Whether a character belongs to a set. -/
def contains (c : Char) : CharSet → Bool
  | empty => false
  | range first last => first ≤ c && c ≤ last
  | anyCase set => set.contains c.toLower || set.contains c.toUpper
  | union a b => a.contains c || b.contains c
  | intersection a b => a.contains c && b.contains c
  | difference a b => a.contains c && !b.contains c
  | eitherOf a b => a.contains c != b.contains c
  | complement set => !set.contains c

/-- The set of all characters. -/
def all : CharSet := complement empty

/-- The characters of several ranges. -/
def ofRanges (ranges : List (Char × Char)) : CharSet :=
  ranges.foldr (fun (first, last) set => union (range first last) set) empty

end CharSet

/-! ## Boundaries -/

/-- A place in a text: its start or its end, a place where a word starts or ends or either, or a
place where none does. -/
inductive Boundary where
  | textStart
  | textEnd
  | wordStart
  | wordEnd
  | word
  | noWord
deriving DecidableEq, Repr

namespace Boundary

/-- Whether there is a character that belongs to a word. -/
def isInWord (c : Option Char) : Bool := c.any fun c => c.isAlphanum || c == '_'

/-- Whether a boundary is between two characters, which are missing at the ends of the text. -/
def isBetween (before after : Option Char) : Boundary → Bool
  | textStart => before.isNone
  | textEnd => after.isNone
  | wordStart => !isInWord before && isInWord after
  | wordEnd => isInWord before && !isInWord after
  | word => isInWord before != isInWord after
  | noWord => isInWord before == isInWord after

end Boundary

/-! ## Patterns -/

/-- A pattern. -/
inductive Pattern where
  | nothing
  | boundary (b : Boundary)
  | oneOf (set : CharSet)
  | sequence (first second : Pattern)
  | choice (first second : Pattern)
  | optional (isEager : Bool) (body : Pattern)
  | repeated (isEager : Bool) (body : Pattern)
  | repeatedOnce (isEager : Bool) (body : Pattern)
deriving DecidableEq, Repr

namespace Pattern

/-- Whether a pattern can match without any character. -/
def mayBeEmpty : Pattern → Bool
  | nothing | boundary _ | optional _ _ | repeated _ _ => true
  | oneOf _ => false
  | sequence first second => first.mayBeEmpty && second.mayBeEmpty
  | choice first second => first.mayBeEmpty || second.mayBeEmpty
  | repeatedOnce _ body => body.mayBeEmpty

end Pattern
end EditorKit.Log
