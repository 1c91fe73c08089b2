import EditorKit.Text.Lower

/-!
# Spans and folded text

A span is a run of consecutive positions. `Span.merge` joins the spans of a list that overlap or
touch, so that what is left is in order and has gaps in between.

A folded text is a text in lower case in which every character remembers the position that it comes
from. A character may fold to two, so positions in the folded text and in the text itself can
differ; `Folded.span` leads a run of folded positions back to positions of the text.
-/

namespace EditorKit.Search

/-! ## Spans -/

/-- The `length` positions from `start` on. -/
structure Span where
  start : Nat
  length : Nat
deriving DecidableEq, Repr

namespace Span

/-- The first position behind a span. -/
def stop (s : Span) : Nat := s.start + s.length

/-- Whether a position belongs to a span. -/
def covers (s : Span) (position : Nat) : Prop := s.start ≤ position ∧ position < s.stop

instance (s : Span) (position : Nat) : Decidable (s.covers position) :=
  inferInstanceAs (Decidable (_ ∧ _))

/-- The order of spans: by start, and by length where the starts agree. -/
def atMost (s t : Span) : Bool := s.start < t.start || (s.start == t.start && s.length ≤ t.length)

/-- Joins spans in order, the first of which is `current`: it grows while the next one starts at
most at its end, and is finished when one starts later. -/
def joinFrom (current : Span) : List Span → List Span
  | [] => [current]
  | s :: rest =>
    if s.start ≤ current.stop then
      joinFrom ⟨current.start, max current.stop s.stop - current.start⟩ rest
    else current :: joinFrom s rest

/-- Joins spans that are in order. -/
def join : List Span → List Span
  | [] => []
  | s :: rest => joinFrom s rest

/-- Joins the spans of a list that overlap or touch, in whatever order they come. -/
def merge (spans : List Span) : List Span := join (spans.mergeSort atMost)

end Span

/-! ## Folded text -/

/-- Folded characters, each with the position of the character that it comes from. -/
abbrev Folded := List (Char × Nat)

namespace Folded

/-- Folds a text. -/
def ofText (t : Text) : Folded :=
  t.zipIdx.flatMap fun (c, position) => (Text.lowerChar c).map (·, position)

/-- The folded characters. -/
def chars (folded : Folded) : Text := folded.map Prod.fst

/-- The position in the text that a folded position comes from. -/
def origin (folded : Folded) (k : Nat) : Nat := (folded[k]?.map Prod.snd).getD 0

/-- The span of the text that the folded positions from `first` to `last` come from. -/
def span (folded : Folded) (first last : Nat) : Span :=
  ⟨folded.origin first, folded.origin last + 1 - folded.origin first⟩

/-- The spans of ascending folded positions, one for each run of consecutive positions. The run from
`first` to `last` is still open. -/
def spansFrom (folded : Folded) (first last : Nat) : List Nat → List Span
  | [] => [folded.span first last]
  | k :: rest =>
    if k = last + 1 then folded.spansFrom first k rest
    else folded.span first last :: folded.spansFrom k k rest

/-- The spans of ascending folded positions. -/
def spans (folded : Folded) : List Nat → List Span
  | [] => []
  | k :: rest => folded.spansFrom k k rest

end Folded

end EditorKit.Search
