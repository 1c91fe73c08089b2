import EditorKit.Error
import EditorKit.Search.Alignment
import EditorKit.Search.Folded

/-!
# Outcomes

What a query finds in a text. A query is cut into words, its tokens; a text matches it in full when
every token occurs, and the ranges of an outcome are the places where tokens occur, joined. A token
occurs without gaps, or in order with gaps allowed: these are the two modes.

The dispersion of an outcome measures how far the ranges are from one range at the start:

    sum of the starts + 10 for each range after the first + 0.01 for each matched character

* `findToken` looks for one token, `evaluateTokens` for all tokens of a query, and `evaluate` for a
  query as it is typed;
* `Outcome.dispersion` is the measure that rows are sorted by.
-/

namespace EditorKit.Search

/-! ## Modes -/

/-- How a token has to occur: without gaps, or in order with gaps allowed. -/
inductive Mode where
  | substring
  | fuzzy
deriving DecidableEq, Repr, Inhabited

namespace Mode

/-- The modes. -/
def all : List Mode := [.substring, .fuzzy]

/-- The name of a mode. -/
def name : Mode → Text
  | .substring => "substring".toList
  | .fuzzy => "fuzzy".toList

/-- The second name under which a mode can be asked for. -/
def otherName : Mode → Text
  | .substring => "contains".toList
  | .fuzzy => "subsequence".toList

/-- The mode with exactly this name. -/
def ofExactName (name : Text) : Option Mode := all.find? fun mode => mode.name == name

/-- The mode with a given name or second name, in any letter case and with white space around. -/
def ofText (t : Text) : Except Error Mode :=
  let wanted := t.trim.asciiLower
  match all.find? fun mode => mode.name == wanted || mode.otherName == wanted with
  | some mode => .ok mode
  | none => .error (.unknownMode wanted)

end Mode

/-! ## Outcomes and their dispersion -/

/-- What a query finds in a text: the joined ranges of its tokens, and whether all were found. -/
structure Outcome where
  ranges : List Span
  isFull : Bool
deriving DecidableEq, Repr

/-- What a query without tokens finds: everything matches, and nothing is marked. -/
def Outcome.everything : Outcome := ⟨[], true⟩

/-- The sum of the starts of some spans. -/
def startSum : List Span → Nat
  | [] => 0
  | range :: rest => range.start + startSum rest

/-- The number of positions in some spans that do not overlap. -/
def matchedCount : List Span → Nat
  | [] => 0
  | range :: rest => range.length + matchedCount rest

/-- How far ranges are from one range at the start, computed in doubles from left to right. -/
def dispersion (ranges : List Span) : Float :=
  if ranges.isEmpty then 0.0
  else
    Float.ofNat (startSum ranges) + Float.ofNat (ranges.length - 1) * 10.0
      + Float.ofNat (matchedCount ranges) * 0.01

/-- How far the ranges of an outcome are from one range at the start. Lower is tighter. -/
def Outcome.dispersion (outcome : Outcome) : Float := Search.dispersion outcome.ranges

/-! ## Tokens -/

/-- The first position where `block` stands in a text without a gap. -/
def firstBlock (block : Text) : Text → Option Nat
  | [] => if block.isEmpty then some 0 else none
  | c :: rest =>
    if block.isPrefixOf (c :: rest) then some 0 else (firstBlock block rest).map (· + 1)

/-- The tokens of a query: its words in lower case. -/
def tokens (query : Text) : List Text := query.words.map Text.lower

/-- Looks for a token in a folded text. The second part of the answer is the storage for the next
search, which the search without gaps leaves alone. -/
def findToken (mode : Mode) (cells : Cells) (folded : Folded) (token : Text) :
    Option (List Span) × Cells :=
  if token.isEmpty then (some [], cells)
  else
    match mode with
    | .substring =>
      ((firstBlock token folded.chars).map fun k => [folded.span k (k + token.length - 1)], cells)
    | .fuzzy =>
      let (positions, cells) := align cells token folded.chars
      (positions.map folded.spans, cells)

/-- Looks for several tokens in a folded text: the spans of those that are found, whether all are,
and the storage for the next search. -/
def findTokens (mode : Mode) (folded : Folded) :
    (cells : Cells) → List Text → (List Span × Bool) × Cells
  | cells, [] => (([], true), cells)
  | cells, token :: rest =>
    let (found, cells) := findToken mode cells folded token
    let ((spans, isFull), cells) := findTokens mode folded cells rest
    match found with
    | some more => ((more ++ spans, isFull), cells)
    | none => ((spans, false), cells)

/-! ## Queries -/

/-- What the tokens of a query find in a text, with storage from earlier searches. -/
def evaluateTokens (mode : Mode) (cells : Cells) (tokens : List Text) (text : Text) :
    Outcome × Cells :=
  if tokens.isEmpty then (.everything, cells)
  else
    let ((spans, isFull), cells) := findTokens mode (.ofText text) cells tokens
    (⟨Span.merge spans, isFull⟩, cells)

/-- What a query finds in a text. -/
def evaluate (mode : Mode) (query text : Text) : Outcome :=
  (evaluateTokens mode #[] (tokens query) text).1

end EditorKit.Search
