import EditorKit.Text.Basic

/-!
# Alignments

An alignment places the characters of a pattern on equal characters of a text, in order and with
gaps allowed. Of all alignments this file looks for one with a high score: a hit earns `hitScore`
and a bonus for standing at the start of a word or next to another hit, a gap costs `gapStart` for
its first character and `gapMore` for each further one.

The scores are kept in a table with a row for each pattern character and a column for each text
character, stored row by row in one array. Its storage, `Cells`, is handed on from one search to the
next: `Cells.fit` changes its size alone, and a search clears the cells that it starts from, so the
bonus of a cell may be one that an earlier search has left.

* `firstPositions` decides whether there is an alignment, by taking every character as early as it
  comes;
* `fillRows` computes the table, `bestColumn` finds the end of the best alignment, and `traceBack`
  follows the moves from there to the start;
* `align` puts them together.
-/

namespace EditorKit.Search

/-! ## Scores -/

/-- Whether the best way into a cell has a hit or a gap at the position before. -/
inductive Move where
  | hit
  | gap
deriving DecidableEq, Repr

/-- One cell of the table: the best score of an alignment that ends there with a hit, and with a
gap, each with the move that leads to it, and the bonus for the next hit. -/
structure Cell where
  hit : Int
  hitMove : Move
  gap : Int
  gapMove : Move
  bonus : Int
deriving DecidableEq, Repr

/-- The score of what cannot be. -/
def noScore : Int := -32768

/-- What a hit earns. -/
def hitScore : Int := 16

/-- What a gap costs for its first character. -/
def gapStart : Int := 4

/-- What a gap costs for every further character. -/
def gapMore : Int := 1

/-- The least bonus of a hit next to another hit. -/
def runBonus : Int := 4

/-- A cell that nothing has reached. -/
def Cell.fresh : Cell := ⟨noScore, .gap, noScore, .gap, 0⟩

/-- The classes of characters that decide where a word starts. -/
inductive CharClass where
  | start
  | hardBreak
  | softBreak
  | digit
  | upper
  | lower
deriving DecidableEq, Repr

/-- The class of a character. -/
def CharClass.ofChar (c : Char) : CharClass :=
  if c = '\x00' then .start
  else if c ∈ " /\\|()[]\x7b\x7d".toList then .hardBreak
  else if c ∈ "!\"#$%&'*+,-.:;<=>?@^_\x60~".toList then .softBreak
  else if '0' ≤ c ∧ c ≤ '9' then .digit
  else if 'A' ≤ c ∧ c ≤ 'Z' then .upper
  else .lower

/-- The bonus of a hit on a character of class `here` behind one of class `before`. -/
def placeBonus (before here : CharClass) : Int :=
  match before, here with
  | .start, _ | .hardBreak, _ => 8
  | .softBreak, _ => 7
  | .lower, .upper | .digit, .upper => 6
  | _, _ => 0

/-- The bonuses of the characters of a text behind a character of class `before`. -/
def placeBonuses (before : CharClass) : Text → List Int
  | [] => []
  | c :: rest =>
    let here := CharClass.ofChar c
    placeBonus before here :: placeBonuses here rest

/-- The bonus of every column: none for the column before the text, twice its bonus for the first
character, and its bonus for each further one. -/
def columnBonuses (t : Text) : List Int :=
  match placeBonuses .start t with
  | [] => [0]
  | first :: rest => 0 :: 2 * first :: rest

/-! ## The first alignment -/

/-- The positions of the alignment that takes every character of the pattern as early as it comes,
where the text starts at position `k`. -/
def firstPositions : (pattern text : Text) → (k : Nat) → Option (List Nat)
  | [], _, _ => some []
  | _ :: _, [], _ => none
  | p :: ps, c :: cs, k =>
    if p = c then (firstPositions ps cs (k + 1)).map (k :: ·)
    else firstPositions (p :: ps) cs (k + 1)

/-! ## The table -/

/-- The storage of a table, row by row. -/
abbrev Cells := Array Cell

namespace Cells

/-- The cell at a place of the storage. -/
def get (cells : Cells) (k : Nat) : Cell := cells.getD k Cell.fresh

/-- The storage with one cell replaced. -/
def put (cells : Cells) (k : Nat) (cell : Cell) : Cells := cells.setIfInBounds k cell

/-- Gives the storage `size` cells: cells at its end are dropped, or fresh ones are added, and all
others stay as they are. -/
def fit (cells : Cells) (size : Nat) : Cells :=
  cells.take size ++ Array.replicate (size - cells.size) Cell.fresh

end Cells

/-- A text and a pattern laid out for a search. -/
structure Layout where
  text : Array Char
  bonuses : Array Int
  pattern : List Char
  firsts : List Nat

namespace Layout

/-- The number of columns: one for each character and one before the text. -/
def columns (layout : Layout) : Nat := layout.text.size + 1

/-- The number of rows: one for each character of the pattern and one before it. -/
def rows (layout : Layout) : Nat := layout.pattern.length + 1

/-- The place of a cell in the storage. -/
def place (layout : Layout) (row column : Nat) : Nat := row * layout.columns + column

/-- Clears the cell before the first place of every pattern character, in the rows from `row` on. -/
def clearStarts (layout : Layout) (cells : Cells) (row : Nat) : List Nat → Cells
  | [] => cells
  | first :: rest => layout.clearStarts (cells.put (layout.place row first) .fresh) (row + 1) rest

/-- Clears the row before the pattern, where a gap costs no more than its start. -/
def clearTop (layout : Layout) (cells : Cells) : Cells :=
  (List.range layout.columns).foldl
    (fun cells column => cells.put (layout.place 0 column) { Cell.fresh with gap := -gapMore })
    cells

/-- Computes the cell of pattern character `p`, which is character number `row`, at `column`. -/
def fillCell (layout : Layout) (row : Nat) (p : Char) (cells : Cells) (column : Nat) : Cells :=
  let herePlace := layout.place (row + 1) column
  let leftPlace := layout.place (row + 1) (column - 1)
  let here := cells.get herePlace
  let left := cells.get leftPlace
  let diagonal := cells.get (layout.place row (column - 1))
  let byGap (cell : Cell) : Cell :=
    if left.hit - gapStart ≥ left.gap - gapMore then
      { cell with gap := left.hit - gapStart, gapMove := .hit }
    else { cell with gap := left.gap - gapMore, gapMove := .gap }
  if layout.text[column - 1]? = some p then
    let placeBonus := layout.bonuses.getD column 0
    let bonus := max (max left.bonus placeBonus) runBonus
    let cells := cells.put leftPlace { left with bonus }
    let afterHit := diagonal.hit + bonus
    let afterGap := diagonal.gap + placeBonus
    let cell : Cell :=
      if afterHit ≥ afterGap then { here with hit := afterHit + hitScore, hitMove := .hit }
      else { here with hit := afterGap + hitScore, hitMove := .gap }
    cells.put herePlace (byGap cell)
  else
    cells.put herePlace (byGap { here with hit := noScore, hitMove := .gap, bonus := 0 })

/-- Computes the row of one pattern character, behind its first place. -/
def fillRow (layout : Layout) (row : Nat) (p : Char) (first : Nat) (cells : Cells) : Cells :=
  (List.range' (first + 1) (layout.columns - (first + 1))).foldl (layout.fillCell row p) cells

/-- Computes the rows of the pattern characters from number `row` on. -/
def fillRows (layout : Layout) (cells : Cells) (row : Nat) : List (Char × Nat) → Cells
  | [] => cells
  | (p, first) :: rest => layout.fillRows (layout.fillRow row p first cells) (row + 1) rest

/-- The table of a search, in storage that earlier searches may have used. -/
def fill (layout : Layout) (cells : Cells) : Cells :=
  let sized := cells.fit (layout.rows * layout.columns)
  let cleared := layout.clearTop (layout.clearStarts sized 1 layout.firsts)
  layout.fillRows cleared 0 (layout.pattern.zip layout.firsts)

/-! ## The best alignment -/

/-- The last column with the highest score in the last row, from the first place of the last pattern
character on. -/
def bestColumn (layout : Layout) (cells : Cells) : Nat :=
  let first := layout.firsts.getLastD 0
  let score (column : Nat) := (cells.get (layout.place layout.pattern.length column)).hit
  (List.range' first (layout.columns - first)).foldl
    (fun best column => if score best ≤ score column then column else best) first

/-- Follows the moves from a cell back to the start and adds the positions of the hits in front of
`found`. -/
def traceBack (layout : Layout) (cells : Cells) :
    (row column : Nat) → Move → (found : List Nat) → List Nat
  | _, 0, _, found => found
  | row, column + 1, move, found =>
    if row = 0 ∨ column + 1 ≤ layout.firsts.headD 0 then found
    else
      let cell := cells.get (layout.place row (column + 1))
      match move with
      | .hit => layout.traceBack cells (row - 1) column cell.hitMove (column :: found)
      | .gap => layout.traceBack cells row column cell.gapMove found

end Layout

/-- The positions of a good alignment of a pattern in a text, in ascending order, and the storage
for the next search. Without any alignment the storage stays as it is. -/
def align (cells : Cells) (pattern text : Text) : Option (List Nat) × Cells :=
  match firstPositions pattern text 0 with
  | none => (none, cells)
  | some firsts =>
    let layout : Layout := ⟨text.toArray, (columnBonuses text).toArray, pattern, firsts⟩
    let table := layout.fill cells
    (some (layout.traceBack table pattern.length (layout.bestColumn table) .hit []), table)

end EditorKit.Search
