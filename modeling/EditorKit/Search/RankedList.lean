import EditorKit.Search.Rank

/-!
# Ranked lists

A list with a query, an optional further condition and a selected row. After every change of the
items, the query or the condition the results are computed again, and the selection stays where it
is as far as there are results.

* `setItems`, `setQuery`, `setCondition` and `clearCondition` change the list, `moveDown` and
  `moveUp` the selection;
* `window` is the run of results to show on a given number of lines, and `render` what to show
  there.
-/

namespace EditorKit.Search

/-- A list of items, what it is filtered by, and the row that is selected. -/
structure RankedList (α : Type) where
  items : List α
  query : Text
  mode : Mode
  condition : Option (α → Bool)
  results : List (Row α)
  selectedIndex : Nat

/-- What to show of a result: its row and position, and whether it is selected and has marks. -/
structure RowView (α : Type) where
  row : Row α
  position : Nat
  isSelected : Bool
  drawsHighlights : Bool

namespace RankedList

variable {α : Type} [Listable α]

/-- Computes the results again and keeps the selection inside them. -/
def refresh (list : RankedList α) : RankedList α :=
  let results :=
    match list.condition with
    | some condition => applyWith list.mode (some list.query) list.items condition
    | none => apply list.mode (some list.query) list.items
  { list with results, selectedIndex := min list.selectedIndex (results.length - 1) }

/-- A list that shows all items. -/
def ofItems (mode : Mode) (items : List α) : RankedList α :=
  refresh ⟨items, [], mode, none, [], 0⟩

/-- Replaces the items. -/
def setItems (list : RankedList α) (items : List α) : RankedList α := refresh { list with items }

/-- Replaces the query. -/
def setQuery (list : RankedList α) (query : Text) : RankedList α := refresh { list with query }

/-- Adds a condition that the items have to satisfy besides the query. -/
def setCondition (list : RankedList α) (condition : α → Bool) : RankedList α :=
  refresh { list with condition := some condition }

/-- Drops the condition. -/
def clearCondition (list : RankedList α) : RankedList α := refresh { list with condition := none }

omit [Listable α]

/-- The selected row; there is one unless there are no results. -/
def selected (list : RankedList α) : Option (Row α) := list.results[list.selectedIndex]?

/-- Selects the next row, and the first one after the last. -/
def moveDown (list : RankedList α) : RankedList α :=
  if list.results.isEmpty then list
  else { list with selectedIndex := (list.selectedIndex + 1) % list.results.length }

/-- Selects the row before, and the last one before the first. -/
def moveUp (list : RankedList α) : RankedList α :=
  if list.results.isEmpty then list
  else if list.selectedIndex = 0 then { list with selectedIndex := list.results.length - 1 }
  else { list with selectedIndex := list.selectedIndex - 1 }

/-- The first position to show on `lines` lines and the first one behind those: the selection stands
in the middle, or lower when the end of the list is near. -/
def window (list : RankedList α) (lines : Nat) : Nat × Nat :=
  let total := list.results.length
  let start := list.selectedIndex - lines / 2
  let stop := min (start + lines) total
  if stop - start < lines ∧ lines ≤ total then (stop - lines, stop) else (start, stop)

/-- The rows to show on `lines` lines, from top to bottom. -/
def render (list : RankedList α) (lines : Nat) : List (RowView α) :=
  let (start, stop) := list.window lines
  (list.results.zipIdx.drop start).take (stop - start) |>.map fun (row, position) =>
    ⟨row, position, position == list.selectedIndex, row.drawsHighlights⟩

/-- A summary of a list for logs: its query, mode and sizes. -/
def summary (list : RankedList α) : Text :=
  let mode :=
    match list.mode with
    | .substring => "Substring"
    | .fuzzy => "Fuzzy"
  "RankedList \x7b query: ".toList ++ list.query.quoted
    ++ ", engine: FilterEngine \x7b mode: ".toList ++ mode.toList
    ++ " \x7d, items: ".toList ++ Text.decimal list.items.length
    ++ ", results: ".toList ++ Text.decimal list.results.length
    ++ ", selected_index: ".toList ++ Text.decimal list.selectedIndex ++ ", .. \x7d".toList

end RankedList
end EditorKit.Search
