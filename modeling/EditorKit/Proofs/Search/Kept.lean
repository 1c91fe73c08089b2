import EditorKit.Proofs.Search.Order
import EditorKit.Proofs.Text.Lower

/-!
# Which items a query keeps

A query keeps the items in whose labels all its words occur, with the case of letters set aside.
What occurs in a text passes on to its pieces, and every word of a piece of a query lies in a word
of the query. So a longer query keeps less, and a piece of a label finds it.

* `Row.source` is the item of a row with its place, and `perm_source` says which ones a result has;
* `Matches` says when a query matches a text, and `mem_source_iff` that this is what is kept;
* `apply_append_subperm` and `mem_apply_of_isInfix` are the main results.
-/

namespace EditorKit.Search

variable {α : Type}

/-- The item of a row with its place in the list that it comes from. -/
def Row.source (row : Row α) : α × Nat := (row.item, row.index)

variable [Listable α] {mode : Mode} {query : Option Text} {items : List α}

/-! ## The items of a result -/

theorem rank_eq (mode : Mode) (query : Option Text) (items : List α) :
    rank mode query items = items.zipIdx.map fun (item, i) => rowAt mode query items i item := by
  apply List.ext_getElem?
  intro i
  simp only [rank_getElem?, List.getElem?_map, List.getElem?_zipIdx, Option.map_map,
    Function.comp_def, Nat.zero_add]

@[simp] theorem source_rowAt (i : Nat) (item : α) :
    (rowAt mode query items i item).source = (item, i) := rfl

@[simp] theorem isFull_rowAt (i : Nat) (item : α) :
    (rowAt mode query items i item).outcome.isFull =
      (evaluate mode (query.getD []) (Listable.label item)).isFull :=
  isFull_eq_evaluate

/-- The rows that match in full come from exactly the items that match, in their order. -/
theorem source_fullRows (mode : Mode) (query : Option Text) (items : List α) :
    (fullRows mode query items).map Row.source = items.zipIdx.filter fun (item, _) =>
      (evaluate mode (query.getD []) (Listable.label item)).isFull := by
  rw [fullRows, rank_eq, List.filter_map, List.map_map]
  simp only [Function.comp_def, source_rowAt, isFull_rowAt]
  exact List.map_id _

/-- The rows that match in full show exactly the items that match, in their order. -/
theorem item_fullRows (mode : Mode) (query : Option Text) (items : List α) :
    (fullRows mode query items).map Row.item = items.filter fun item =>
      (evaluate mode (query.getD []) (Listable.label item)).isFull := by
  have hsource := congrArg (List.map Prod.fst) (source_fullRows mode query items)
  rw [List.map_map] at hsource
  conv_rhs => rw [← List.zipIdx_map_fst 0 items, List.filter_map]
  exact hsource

/-- The rows of a result come from exactly the items that match, from each once. -/
theorem perm_source (mode : Mode) (query : Option Text) (items : List α) :
    ((apply mode query items).map Row.source).Perm (items.zipIdx.filter fun (item, _) =>
      (evaluate mode (query.getD []) (Listable.label item)).isFull) := by
  rw [← source_fullRows]
  exact perm_apply.map Row.source

/-! ## Queries that match -/

/-- Whether a query matches a text: all its words occur there, both in lower case. -/
def Matches (mode : Mode) (query text : Text) : Prop :=
  ∀ word, Text.IsWord word query → Occurs mode word.lower text.lower

theorem mem_source_iff {item : α} {i : Nat} :
    (item, i) ∈ (apply mode query items).map Row.source ↔
      items[i]? = some item ∧ Matches mode (query.getD []) (Listable.label item) := by
  rw [(perm_source mode query items).mem_iff, List.mem_filter, List.mem_zipIdx_iff_getElem?]
  exact and_congr_right fun _ => evaluate_isFull_iff

theorem Occurs.self (mode : Mode) (text : Text) : Occurs mode text text := by
  cases mode with
  | substring => exact List.infix_rfl
  | fuzzy => exact List.Sublist.refl text

/-- Where a token occurs, its pieces do. -/
theorem Occurs.of_isInfix {piece token text : Text} (h : Occurs mode token text)
    (hpiece : piece <:+: token) : Occurs mode piece text := by
  cases mode with
  | substring => exact List.IsInfix.trans hpiece h
  | fuzzy => exact List.Sublist.trans hpiece.sublist h

/-- What a query matches, each piece of the query matches. -/
theorem Matches.of_isInfix {piece query text : Text} (h : Matches mode query text)
    (hpiece : piece <:+: query) : Matches mode piece text := by
  intro word hword
  obtain ⟨-, -, -, hne, hblank, -⟩ := id hword
  obtain ⟨longer, hlonger, hin⟩ :=
    Text.exists_isWord_of_isInfix (hword.isInfix.trans hpiece) hne hblank
  exact (h longer hlonger).of_isInfix (Text.lower_isInfix hin)

/-- A query matches a text if it is a piece of the text, with the case of letters set aside. -/
theorem matches_of_lower_isInfix {query text : Text} (h : query.lower <:+: text.lower) :
    Matches mode query text := by
  intro word hword
  exact (Occurs.self mode text.lower).of_isInfix ((Text.lower_isInfix hword.isInfix).trans h)

/-! ## Longer queries and pieces of labels -/

/-- **Typing more narrows the result**: whatever stands before and behind a query, be it letters
that make a word longer, white space or further words, the result has no item that the query alone
does not keep, and none more often. -/
theorem apply_append_subperm (mode : Mode) (front query back : Text) (items : List α) :
    ((apply mode (some (front ++ query ++ back)) items).map Row.source).Subperm
      ((apply mode (some query) items).map Row.source) := by
  have hnarrow : ∀ entry : α × Nat,
      (evaluate mode (front ++ query ++ back) (Listable.label entry.1)).isFull →
      (evaluate mode query (Listable.label entry.1)).isFull := by
    intro entry h
    have hmatches : Matches mode (front ++ query ++ back) (Listable.label entry.1) :=
      evaluate_isFull_iff.1 h
    exact evaluate_isFull_iff.2 (hmatches.of_isInfix (List.infix_append ..))
  have hlonger := (perm_source mode (some (front ++ query ++ back)) items).subperm
  have hshorter := (perm_source mode (some query) items).symm.subperm
  have hsublist := List.monotone_filter_right items.zipIdx hnarrow
  exact (hlonger.trans hsublist.subperm).trans hshorter

/-- **Every piece of its label finds an item**, the label as a whole included, and so does the piece
in lower case. -/
theorem mem_apply_of_isInfix {item : α} {i : Nat} {piece : Text} (hitem : items[i]? = some item)
    (hpiece : piece <:+: Listable.label item) :
    (item, i) ∈ (apply mode (some piece) items).map Row.source ∧
      (item, i) ∈ (apply mode (some piece.lower) items).map Row.source := by
  rw [mem_source_iff, mem_source_iff]
  refine ⟨⟨hitem, matches_of_lower_isInfix (Text.lower_isInfix hpiece)⟩, hitem, ?_⟩
  refine matches_of_lower_isInfix ?_
  rw [Option.getD_some, Text.lower_lower]
  exact Text.lower_isInfix hpiece

/-- A piece with a capital sigma and a dotted capital I, which fold in ways of their own. -/
theorem mem_apply_of_isInfix_sigma :
    ["x".toList, "ΟΔΟΣ İx".toList][1]? = some "ΟΔΟΣ İx".toList ∧
      "ΟΣ İ".toList <:+: Listable.label "ΟΔΟΣ İx".toList ∧
      ("ΟΔΟΣ İx".toList, 1) ∈
        (apply .fuzzy (some "ΟΣ İ".toList) ["x".toList, "ΟΔΟΣ İx".toList]).map Row.source ∧
      ("ΟΔΟΣ İx".toList, 1) ∈ (apply .fuzzy (some (Text.lower "ΟΣ İ".toList))
        ["x".toList, "ΟΔΟΣ İx".toList]).map Row.source := by
  have hitem : ["x".toList, "ΟΔΟΣ İx".toList][1]? = some "ΟΔΟΣ İx".toList := rfl
  have hpiece : "ΟΣ İ".toList <:+: Listable.label "ΟΔΟΣ İx".toList :=
    ⟨"ΟΔ".toList, "x".toList, by decide⟩
  exact ⟨hitem, hpiece, mem_apply_of_isInfix hitem hpiece⟩

end EditorKit.Search
