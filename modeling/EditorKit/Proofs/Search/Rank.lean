import EditorKit.Proofs.Search.Storage
import EditorKit.Search.Rank
import Mathlib

/-!
# What a row depends on

A ranking hands one storage on from item to item, so a row could depend on all items before its own.
Whether it matches in full never does (`isFull_iff_occurs`): that is a matter of the words of the
query and of the label alone. Its ranges can, in the search with gaps (`exists_row_ne_evaluate`):
a bonus from an item before may make another alignment the best one. `row_outcome_eq_evaluate` says
where this cannot happen.

* `rowAt` is the row of an item, with what the query finds in the storage that the items before it
  leave;
* `rank_getElem?` and `mem_rank_iff` say that the rows of a ranking are exactly these.
-/

namespace EditorKit.Search

open Layout

variable {α : Type} [Listable α]

/-! ## Rows -/

/-- The storage that the search for tokens in some texts leaves. -/
def storageAfter (mode : Mode) (tokens : List Text) (cells : Cells) (texts : List Text) : Cells :=
  texts.foldl (fun cells text => (evaluateTokens mode cells tokens text).2) cells

theorem bonusAtMost_storageAfter {mode : Mode} {tokens : List Text} {cells : Cells}
    {texts : List Text} (h : cells.BonusAtMost bonusLimit) :
    (storageAfter mode tokens cells texts).BonusAtMost bonusLimit := by
  induction texts generalizing cells with
  | nil => exact h
  | cons text texts ih => exact ih (bonusAtMost_evaluateTokens h)

theorem rankFrom_getElem? (mode : Mode) (tokens : List Text) (cells : Cells) (index : Nat)
    (items : List α) (i : Nat) :
    (rankFrom mode tokens cells index items)[i]? = items[i]?.map fun item =>
      ⟨item, index + i, Listable.isDisabled item,
        (evaluateTokens mode (storageAfter mode tokens cells ((items.take i).map Listable.label))
          tokens (Listable.label item)).1⟩ := by
  induction items generalizing cells index i with
  | nil => simp [rankFrom]
  | cons item items ih =>
    cases i with
    | zero => simp [rankFrom, storageAfter]
    | succ i =>
      rw [rankFrom, List.getElem?_cons_succ, ih, List.getElem?_cons_succ, List.take_succ_cons,
        List.map_cons, Nat.add_assoc, Nat.add_comm 1]
      rfl

/-- The row of an item at a position, with what the query finds in the storage that the items before
it leave. -/
def rowAt (mode : Mode) (query : Option Text) (items : List α) (i : Nat) (item : α) : Row α where
  item := item
  index := i
  isDisabled := Listable.isDisabled item
  outcome :=
    (evaluateTokens mode
      (storageAfter mode (tokens (query.getD [])) #[] ((items.take i).map Listable.label))
      (tokens (query.getD [])) (Listable.label item)).1

/-- The rows of a ranking are those of its items, in order. -/
theorem rank_getElem? (mode : Mode) (query : Option Text) (items : List α) (i : Nat) :
    (rank mode query items)[i]? = items[i]?.map (rowAt mode query items i) := by
  rw [rank, rankFrom_getElem?]
  simp only [Nat.zero_add]
  rfl

theorem rank_getElem?_eq_some {mode : Mode} {query : Option Text} {items : List α} {i : Nat}
    {item : α} (h : items[i]? = some item) :
    (rank mode query items)[i]? = some (rowAt mode query items i item) := by
  rw [rank_getElem?, h, Option.map_some]

theorem mem_rank_iff {mode : Mode} {query : Option Text} {items : List α} {row : Row α} :
    row ∈ rank mode query items ↔
      ∃ i item, items[i]? = some item ∧ rowAt mode query items i item = row := by
  simp only [List.mem_iff_getElem?, rank_getElem?, Option.map_eq_some_iff]

theorem length_rankFrom (mode : Mode) (tokens : List Text) (cells : Cells) (index : Nat)
    (items : List α) : (rankFrom mode tokens cells index items).length = items.length := by
  induction items generalizing cells index with
  | nil => rfl
  | cons item items ih => rw [rankFrom, List.length_cons, List.length_cons, ih]

@[simp] theorem length_rank (mode : Mode) (query : Option Text) (items : List α) :
    (rank mode query items).length = items.length :=
  length_rankFrom ..

/-! ## Full matches -/

/-- With any storage, a text matches in full exactly where all tokens occur. -/
theorem evaluateTokens_isFull_iff_tokens {mode : Mode} {cells : Cells} {tokens : List Text}
    {text : Text} :
    (evaluateTokens mode cells tokens text).1.isFull ↔
      ∀ token ∈ tokens, Occurs mode token text.lower := by
  rw [evaluateTokens]
  split
  · rename_i hempty
    have hnil : tokens = [] := by simpa using hempty
    simp [hnil, Outcome.everything]
  · rw [← Folded.chars_ofText]
    exact findTokens_isFull_iff

/-- With any storage, the tokens of a query are all found exactly where all its words occur. -/
theorem evaluateTokens_isFull_iff {mode : Mode} {cells : Cells} {query text : Text} :
    (evaluateTokens mode cells (tokens query) text).1.isFull ↔
      ∀ word, Text.IsWord word query → Occurs mode word.lower text.lower := by
  rw [evaluateTokens_isFull_iff_tokens]
  simp only [tokens, List.forall_mem_map, Text.mem_words_iff]

theorem evaluate_isFull_iff {mode : Mode} {query text : Text} :
    (evaluate mode query text).isFull ↔
      ∀ word, Text.IsWord word query → Occurs mode word.lower text.lower :=
  evaluateTokens_isFull_iff

/-- What matches without gaps matches with gaps allowed. -/
theorem isFull_fuzzy_of_substring {cells cells' : Cells} {query text : Text}
    (h : (evaluateTokens .substring cells (tokens query) text).1.isFull) :
    (evaluateTokens .fuzzy cells' (tokens query) text).1.isFull := by
  rw [evaluateTokens_isFull_iff] at h ⊢
  intro word hword
  exact (h word hword).fuzzy_of_substring

section Rows

variable {mode : Mode} {query : Option Text} {items : List α} {row : Row α}

theorem isFull_rowAt_iff {i : Nat} {item : α} :
    (rowAt mode query items i item).outcome.isFull ↔ ∀ word, Text.IsWord word (query.getD []) →
      Occurs mode word.lower (Listable.label item).lower :=
  evaluateTokens_isFull_iff

theorem mem_fullRows_iff :
    row ∈ fullRows mode query items ↔ row ∈ rank mode query items ∧ row.outcome.isFull :=
  List.mem_filter

theorem mem_apply_iff :
    row ∈ apply mode query items ↔ row ∈ rank mode query items ∧ row.outcome.isFull := by
  rw [apply, applyWith, List.mem_mergeSort, List.mem_filter, mem_fullRows_iff]
  simp

/-- What is kept without gaps is kept with gaps allowed. -/
theorem exists_mem_apply_fuzzy (h : row ∈ apply .substring query items) :
    ∃ row' ∈ apply .fuzzy query items, row'.item = row.item ∧ row'.index = row.index := by
  obtain ⟨hmem, hfull⟩ := mem_apply_iff.1 h
  obtain ⟨i, item, hitem, rfl⟩ := mem_rank_iff.1 hmem
  have hmem' : rowAt .fuzzy query items i item ∈ rank .fuzzy query items :=
    mem_rank_iff.2 ⟨i, item, hitem, rfl⟩
  exact ⟨_, mem_apply_iff.2 ⟨hmem', isFull_fuzzy_of_substring hfull⟩, rfl, rfl⟩

end Rows

/-- **A text matches in full exactly if every word of the query occurs in it**, both in lower case:
without gaps in one mode and with gaps in the other. It is so for a search of its own, with any
storage, and for every row of a ranking; and what the search without gaps keeps, the other one keeps
as well. -/
theorem isFull_iff_occurs :
    (∀ mode query text, (evaluate mode query text).isFull ↔
      ∀ word, Text.IsWord word query → Occurs mode word.lower text.lower) ∧
    (∀ mode cells query text, (evaluateTokens mode cells (tokens query) text).1.isFull ↔
      ∀ word, Text.IsWord word query → Occurs mode word.lower text.lower) ∧
    (∀ (mode : Mode) (query : Option Text) (items : List α) (i : Nat) (item : α),
      items[i]? = some item →
      ∃ row : Row α, (rank mode query items)[i]? = some row ∧ row.item = item ∧ row.index = i ∧
        (row.outcome.isFull ↔ ∀ word, Text.IsWord word (query.getD []) →
          Occurs mode word.lower (Listable.label item).lower)) ∧
    (∀ query text, (evaluate .substring query text).isFull →
      (evaluate .fuzzy query text).isFull) ∧
    ∀ (query : Option Text) (items : List α), ∀ row ∈ apply .substring query items,
      ∃ row' ∈ apply .fuzzy query items, row'.item = row.item ∧ row'.index = row.index := by
  refine ⟨?_, ?_, ?_, ?_, ?_⟩
  · intro mode query text
    exact evaluate_isFull_iff
  · intro mode cells query text
    exact evaluateTokens_isFull_iff
  · intro mode query items i item hitem
    exact ⟨_, rank_getElem?_eq_some hitem, rfl, rfl, isFull_rowAt_iff⟩
  · intro query text h
    exact isFull_fuzzy_of_substring h
  · intro query items row hrow
    exact exists_mem_apply_fuzzy hrow

/-- Two rows of a list, and a query that is found in one of them. -/
theorem isFull_iff_occurs_two_items :
    (["f-o".toList, "Foo".toList][1]? = some "Foo".toList ∧
      ∃ row : Row Text,
        (rank .fuzzy (some "OO".toList) ["f-o".toList, "Foo".toList])[1]? = some row ∧
        row.item = "Foo".toList ∧ row.index = 1 ∧
        (row.outcome.isFull ↔ ∀ word, Text.IsWord word "OO".toList →
          Occurs .fuzzy word.lower (Text.lower "Foo".toList))) ∧
    ((evaluate .substring "OO".toList "Foo".toList).isFull ∧
      (evaluate .fuzzy "OO".toList "Foo".toList).isFull) ∧
    ∃ row ∈ apply .substring (some "OO".toList) ["f-o".toList, "Foo".toList],
      ∃ row' ∈ apply .fuzzy (some "OO".toList) ["f-o".toList, "Foo".toList],
        row'.item = row.item ∧ row'.index = row.index := by
  have hfull : (evaluate .substring "OO".toList "Foo".toList).isFull := by cbv
  have hmem : (⟨"Foo".toList, 1, false, ⟨[⟨1, 2⟩], true⟩⟩ : Row Text) ∈
      apply .substring (some "OO".toList) ["f-o".toList, "Foo".toList] := by
    refine mem_apply_iff.2 ⟨List.mem_of_getElem? (i := 1) ?_, rfl⟩
    cbv
  obtain ⟨-, -, hrow, hfuzzy, hmem'⟩ := isFull_iff_occurs (α := Text)
  exact ⟨⟨rfl, hrow _ _ _ _ _ rfl⟩, ⟨hfull, hfuzzy _ _ hfull⟩, _, hmem, hmem' _ _ _ hmem⟩

/-! ## Whole outcomes -/

section Outcomes

variable {mode : Mode} {query : Option Text} {items : List α}

/-- A row matches in full exactly if its label does in a search of its own. -/
theorem isFull_eq_evaluate {cells : Cells} {query text : Text} :
    (evaluateTokens mode cells (tokens query) text).1.isFull =
      (evaluate mode query text).isFull := by
  rw [Bool.eq_iff_iff, evaluateTokens_isFull_iff, evaluate_isFull_iff]

/-- The row of the first item, and that of an item whose search is steady, is as in a search of its
own. -/
theorem outcome_rowAt_eq {i : Nat} {item : α}
    (h : i = 0 ∨ IsSteady mode (tokens (query.getD [])) (Listable.label item)) :
    (rowAt mode query items i item).outcome =
      evaluate mode (query.getD []) (Listable.label item) := by
  rcases h with rfl | hsteady
  · rfl
  · have hempty : Cells.BonusAtMost bonusLimit #[] := by
      refine Cells.bonusAtMost_empty fun k => ?_
      show (0 : Int) ≤ 16
      decide
    exact evaluateTokens_eq_of_isSteady hsteady (bonusAtMost_storageAfter hempty) hempty

theorem eq_evaluate_of_mem_rank {row : Row α} (h : row ∈ rank mode query items)
    (hsteady : IsSteady mode (tokens (query.getD [])) (Listable.label row.item)) :
    row.outcome = evaluate mode (query.getD []) (Listable.label row.item) := by
  obtain ⟨i, item, -, rfl⟩ := mem_rank_iff.1 h
  exact outcome_rowAt_eq (.inr hsteady)

end Outcomes

/-- With gaps there is a row that is not as in a search of its own: its label has a double in common
with the token, and the storage of the row before holds a bonus for it. -/
theorem exists_row_ne_evaluate :
    ∃ row ∈ rank .fuzzy (some "bb".toList) ["-b--b-".toList, "-babbb".toList],
      row.outcome ≠ evaluate .fuzzy "bb".toList row.item := by
  refine ⟨⟨"-babbb".toList, 1, false, ⟨[⟨3, 2⟩], true⟩⟩, List.mem_of_getElem? (i := 1) ?_, ?_⟩
  · cbv
  · intro heq
    have halone : (evaluate .fuzzy "bb".toList "-babbb".toList).ranges = [⟨4, 2⟩] := by cbv
    have hranges := congrArg Outcome.ranges heq
    rw [halone] at hranges
    contradiction

/-- **The outcome of an item does not depend on the other items** in the search without gaps, nor
for the first item, nor where the label is not too long and has no double in common with a token;
equal labels then have equal outcomes in all lists. Whether an item matches in full never depends on
the other items, and its ranges do so in the search with gaps alone. -/
theorem row_outcome_eq_evaluate :
    (∀ (mode : Mode) (query : Option Text) (items : List α) (i : Nat) (item : α),
      items[i]? = some item →
      ∃ row : Row α, (rank mode query items)[i]? = some row ∧ row.item = item ∧ row.index = i ∧
        row.outcome.isFull = (evaluate mode (query.getD []) (Listable.label item)).isFull ∧
        (i = 0 ∨ IsSteady mode (tokens (query.getD [])) (Listable.label item) →
          row.outcome = evaluate mode (query.getD []) (Listable.label item))) ∧
    (∀ (mode : Mode) (query : Option Text) (items items' : List α),
      ∀ row ∈ rank mode query items, ∀ row' ∈ rank mode query items',
      Listable.label row.item = Listable.label row'.item →
      IsSteady mode (tokens (query.getD [])) (Listable.label row.item) →
      row.outcome = row'.outcome) ∧
    ∀ mode : Mode, (∀ (query : Option Text) (items : List Text), ∀ row ∈ rank mode query items,
      row.outcome = evaluate mode (query.getD []) row.item) ↔ mode = .substring := by
  refine ⟨?_, ?_, ?_⟩
  · intro mode query items i item hitem
    exact ⟨_, rank_getElem?_eq_some hitem, rfl, rfl, isFull_eq_evaluate, outcome_rowAt_eq⟩
  · intro mode query items items' row hrow row' hrow' hlabel hsteady
    rw [eq_evaluate_of_mem_rank hrow hsteady, hlabel,
      eq_evaluate_of_mem_rank hrow' (hlabel ▸ hsteady)]
  · intro mode
    constructor
    · intro h
      cases mode with
      | substring => rfl
      | fuzzy =>
        obtain ⟨row, hrow, hne⟩ := exists_row_ne_evaluate
        exact absurd (h (some "bb".toList) _ row hrow) hne
    · rintro rfl query items row hrow
      exact eq_evaluate_of_mem_rank hrow trivial

/-- The same label in two lists, for a query without a double. -/
theorem row_outcome_eq_evaluate_twice :
    (["bbb".toList, "x-aBb".toList][1]? = some "x-aBb".toList ∧
      IsSteady .fuzzy (tokens "AB".toList) "x-aBb".toList ∧
      ∃ row : Row Text,
        (rank .fuzzy (some "AB".toList) ["bbb".toList, "x-aBb".toList])[1]? = some row ∧
        row.outcome = evaluate .fuzzy "AB".toList "x-aBb".toList) ∧
    ∃ row ∈ rank .fuzzy (some "AB".toList) ["bbb".toList, "x-aBb".toList],
      ∃ row' ∈ rank .fuzzy (some "AB".toList) ["x-aBb".toList],
        row.item = row'.item ∧ row.outcome = row'.outcome := by
  have hsteady : IsSteady .fuzzy (tokens "AB".toList) "x-aBb".toList := by
    have htokens : tokens "AB".toList = [['a', 'b']] := by cbv
    rw [htokens]
    refine ⟨by cbv, ?_⟩
    intro token htoken
    obtain rfl := List.mem_singleton.1 htoken
    exact noCommonDouble_of_isChain (by decide) _
  obtain ⟨hrow, hequal, -⟩ := row_outcome_eq_evaluate (α := Text)
  obtain ⟨row, hrow, hitem, -, -, houtcome⟩ :=
    hrow .fuzzy (some "AB".toList) ["bbb".toList, "x-aBb".toList] 1 _ rfl
  obtain ⟨row', hrow', hitem', -⟩ :=
    row_outcome_eq_evaluate.1 .fuzzy (some "AB".toList) ["x-aBb".toList] 0 _ rfl
  have hmem := List.mem_of_getElem? hrow
  have hmem' := List.mem_of_getElem? hrow'
  have hsame : row.item = row'.item := hitem.trans hitem'.symm
  refine ⟨⟨rfl, hsteady, row, hrow, houtcome (.inr hsteady)⟩, row, hmem, row', hmem', hsame, ?_⟩
  refine hequal _ _ _ _ row hmem row' hmem' hsame ?_
  rw [hitem]
  exact hsteady

/-- The storage that the first item leaves makes another alignment of the second one the best. -/
theorem rank_remembers_bonuses :
    (rank .fuzzy (some "bb".toList) ["-b--b-".toList, "-babbb".toList]).map (·.outcome.ranges) =
        [[⟨1, 1⟩, ⟨4, 1⟩], [⟨3, 2⟩]] ∧
      (evaluate .fuzzy "bb".toList "-babbb".toList).ranges = [⟨4, 2⟩] := by
  constructor
  · cbv
  · cbv

end EditorKit.Search
