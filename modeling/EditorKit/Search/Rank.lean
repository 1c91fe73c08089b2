import EditorKit.Json.Value
import EditorKit.Log.Notice
import EditorKit.Search.Outcome

/-!
# Ranking

Rows pair items with what a query finds in their labels.

* `rank` gives every item its row, in the order of the items;
* `apply` keeps the rows that match in full and sorts them by dispersion; equal rows keep their
  order;
* `applyWith` keeps of those the ones whose item satisfies a further condition, and `applyWithM`
  does so for a condition that may do something when it is asked;
* `asked` are the items that such a condition is asked about;
* `Row.toValue` is a row as a JSON value.

A missing query is an empty one.
-/

namespace EditorKit.Search

/-- Items that can be listed: they have a label, and may be shown as disabled. -/
class Listable (α : Type) where
  label : α → Text
  isDisabled : α → Bool

instance : Listable Text := ⟨id, fun _ => false⟩

/-- An item with its place in the list and what a query finds in its label. -/
structure Row (α : Type) where
  item : α
  index : Nat
  isDisabled : Bool
  outcome : Outcome
deriving DecidableEq, Repr

namespace Row

variable {α : Type}

/-- Whether the ranges of a row are to be marked: there are some, and the row is not disabled. -/
def drawsHighlights (row : Row α) : Bool := !row.isDisabled && !row.outcome.ranges.isEmpty

/-- Whether a row sorts before another or ties with it. -/
def atMost (a b : Row α) : Bool :=
  Number.totalOrderKey a.outcome.dispersion ≤ Number.totalOrderKey b.outcome.dispersion

end Row

/-- A row can itself be listed, under the label of its item. -/
instance {α : Type} [Listable α] : Listable (Row α) :=
  ⟨fun row => Listable.label row.item, Row.isDisabled⟩

variable {α : Type} [Listable α]

/-- The rows of the items from position `index` on, with storage that is handed on from row to row.
-/
def rankFrom (mode : Mode) (tokens : List Text) : Cells → (index : Nat) → List α → List (Row α)
  | _, _, [] => []
  | cells, index, item :: rest =>
    let (outcome, cells) := evaluateTokens mode cells tokens (Listable.label item)
    ⟨item, index, Listable.isDisabled item, outcome⟩ :: rankFrom mode tokens cells (index + 1) rest

/-- The rows of all items, in order. -/
def rank (mode : Mode) (query : Option Text) (items : List α) : List (Row α) :=
  rankFrom mode (tokens (query.getD [])) #[] 0 items

/-- The rows of the items that match a query in full. -/
def fullRows (mode : Mode) (query : Option Text) (items : List α) : List (Row α) :=
  (rank mode query items).filter (·.outcome.isFull)

/-- The rows of the items that match a query in full and satisfy a condition, tightest first. -/
def applyWith (mode : Mode) (query : Option Text) (items : List α) (condition : α → Bool) :
    List (Row α) :=
  ((fullRows mode query items).filter fun row => condition row.item).mergeSort Row.atMost

/-- The rows of the items that match a query in full, tightest first. -/
def apply (mode : Mode) (query : Option Text) (items : List α) : List (Row α) :=
  applyWith mode query items fun _ => true

/-- `applyWith` with a condition that may do something when it is asked. It is asked about the item
of a row only after the row has been found to match in full, and before the rows are sorted. -/
def applyWithM {m : Type → Type} [Monad m] (mode : Mode) (query : Option Text) (items : List α)
    (condition : α → m Bool) : m (List (Row α)) := do
  let rows ← (rank mode query items).filterM fun row =>
    if row.outcome.isFull then condition row.item else pure false
  return rows.mergeSort Row.atMost

omit [Listable α] in
/-- A condition that notes down what it is asked about. -/
def noting (condition : α → Bool) (item : α) : StateM (List α) Bool := do
  modify (· ++ [item])
  return condition item

/-- The items that a condition is asked about, in order. Its answers make no difference to that. -/
def asked (mode : Mode) (query : Option Text) (items : List α) : List α :=
  ((applyWithM mode query items (noting fun _ => true)).run []).2

/-- The notice that `applyWith` leaves in the log, for a number of items. -/
def applyNotice (mode : Mode) (query : Text) (total : Nat) : Log.Notice :=
  let topic := Log.topic ["filter", "engine"]
  let details : List (Text × Log.Detail) :=
    [("total_items".toList, .number total), ("query_len".toList, .number query.byteSize),
      ("mode".toList, .word mode.name)]
  (Log.Notice.of .debug topic "filter applied" ["matched_count"]).during
    ⟨topic, "filter_apply".toList, details⟩

/-! ## Values -/

open Json (Value)

/-- The value of a mode. -/
def Mode.toValue (mode : Mode) : Value := .text mode.name

/-- The value of a span. -/
def Span.toValue (span : Span) : Value :=
  .record [("start".toList, .int span.start), ("length".toList, .int span.length)]

/-- The value of a row, given the value of its item. -/
def Row.toValue {α : Type} (itemValue : α → Value) (row : Row α) : Value :=
  .record [("item".toList, itemValue row.item), ("index".toList, .int row.index),
    ("is_disabled".toList, .bool row.isDisabled),
    ("matched_ranges".toList, .list (row.outcome.ranges.map Span.toValue)),
    ("fully_matches".toList, .bool row.outcome.isFull),
    ("dispersion_level".toList, .real row.outcome.dispersion)]

end EditorKit.Search
