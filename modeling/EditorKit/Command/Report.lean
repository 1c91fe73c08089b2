import EditorKit.Search.RankedList
import EditorKit.Outline.Item
import EditorKit.Theme.Json
import EditorKit.Theme.Store

/-!
# Reports

What the command line prints: one line for each row of a list, or the entry of one style key, as
text or as JSON. In text, ranges stand between brackets and the selected row has a mark in front.
-/

namespace EditorKit.Command

open Search (Listable RankedList RowView Span)

/-- A text with brackets around ranges, from a given position on. -/
def bracketFrom (position : Nat) : Text → List Span → Text
  | t, [] => t
  | [], _ => []
  | c :: rest, range :: ranges =>
    let opened := if range.start = position then ['[', c] else [c]
    if position + 1 = range.stop then opened ++ ']' :: bracketFrom (position + 1) rest ranges
    else opened ++ bracketFrom (position + 1) rest (range :: ranges)

/-- A text with brackets around ranges. -/
def bracket (t : Text) (ranges : List Span) : Text := bracketFrom 0 t ranges

section Rows

variable {α : Type} [Listable α]

/-- A row as a line of text: a mark, the label, and the dispersion with two places. -/
def textRow (view : RowView α) : Text :=
  let label := Listable.label view.row
  let shown := if view.drawsHighlights then bracket label view.row.outcome.ranges else label
  (if view.isSelected then '>' else ' ') :: ' ' :: shown
    ++ '\t' :: Number.fixedText 2 view.row.outcome.dispersion ++ ['\n']

/-- A row as a line of JSON. -/
def jsonRow (itemValue : α → Json.Value) (view : RowView α) : Text :=
  (view.row.toValue itemValue).write ++ ['\n']

/-- All rows of a list, line by line. -/
def rows (asJson : Bool) (itemValue : α → Json.Value) (list : RankedList α) : Text :=
  (list.render list.results.length).flatMap (if asJson then jsonRow itemValue else textRow)

/-- The rows of the items that match a query, line by line. -/
def filterItems (asJson : Bool) (itemValue : α → Json.Value) (mode : Search.Mode) (query : Text)
    (items : List α) : Text :=
  rows asJson itemValue ((RankedList.ofItems mode items).setQuery query)

end Rows

/-- The entry of a style key in the active theme of a store. -/
def resolved (asJson : Bool) (store : Theme.Store) (key : Theme.StyleKey) : Text :=
  let entry := store.resolveInherited key .empty
  if asJson then entry.toValue.write ++ ['\n']
  else
    ['\t'].intercalate [store.active.name, key.name, entry.fore.toText, entry.back.toText,
      Text.decimal entry.font.bits.toNat] ++ ['\n']

end EditorKit.Command
