import EditorKit.Proofs.Search.Rank

/-!
# Queries with the same tokens

What a query finds in a text depends on the set of its tokens alone: order, repetition, white space
and letter case make no difference. With gaps allowed all tokens are looked for in one storage, so
this is not plain to see. But all of these searches are searches in the same text, where a column
has the same bonus for all of them.

* `ownBonus` is the most that searches in one text leave in a column. A hit there earns as much
  anyway, so no search in this text can see it (`align_eq_of_ownBonus`);
* `isHit_iff` says which positions are hit, without a word about the storage;
* `evaluate_eq_of_isToken_iff` is the main result.
-/

namespace EditorKit.Search

open Layout

/-! ## Searches in one text -/

/-- The most that searches in a text leave as the bonus of a place of the storage: what a hit in its
column earns behind another hit. -/
def ownBonus (text : Text) (k : Nat) : Int :=
  Score.runEarning 0 ((columnBonuses text).toArray.getD (k % (text.length + 1) + 1) 0)

section OneText

variable {pattern text : Text} {firsts : List Nat} {cells cells' : Cells}

theorem ownBonus_eq (pattern text : Text) (firsts : List Nat) (k : Nat) :
    ownBonus text k = Score.runEarning 0
      ((ofFirsts pattern text firsts).placeBonusAt (k % (text.length + 1))) := rfl

theorem isLimit_ownBonus (pattern text : Text) (firsts : List Nat) :
    (ofFirsts pattern text firsts).IsLimit (ownBonus text) :=
  fun k => Int.le_of_eq (ownBonus_eq pattern text firsts k).symm

theorem ownBonus_le (text : Text) (k : Nat) : ownBonus text k ≤ 16 := by
  have hfirsts : firstPositions [] text 0 = some [] := by rw [firstPositions]
  have hsound := isSound_ofFirsts (isPlacement_firstPositions hfirsts)
  have hplace := hsound.place_le (k % (text.length + 1))
  rw [ownBonus_eq [] text []]
  simp only [Score.runEarning, runBonus]
  omega

/-- A bonus that another search in the same text has left earns nothing more. -/
theorem runEarning_eq_of_le_ownBonus {row column : Nat} {bonus : Int}
    (hcolumn : column < text.length + 1)
    (h : bonus ≤ ownBonus text ((ofFirsts pattern text firsts).place row column)) :
    Score.runEarning bonus ((ofFirsts pattern text firsts).placeBonusAt column) =
      Score.runEarning 0 ((ofFirsts pattern text firsts).placeBonusAt column) := by
  have hmod : (ofFirsts pattern text firsts).place row column % (text.length + 1) = column :=
    place_mod_columns hcolumn
  rw [ownBonus_eq pattern text firsts, hmod] at h
  simp only [Score.runEarning, runBonus] at h ⊢
  omega

theorem isSettled_ownBonus (table : Cells) :
    (ofFirsts pattern text firsts).IsSettled (ownBonus text) table := by
  intro row p first column _ _ hcolumn bonus bonus' hbonus hbonus' _
  have hlt : column < text.length + 1 := Nat.lt_succ_of_lt hcolumn
  apply Score.next_congr
  rw [runEarning_eq_of_le_ownBonus hlt hbonus, runEarning_eq_of_le_ownBonus hlt hbonus']

/-- An alignment does not depend on what searches in the same text have left. -/
theorem align_eq_of_ownBonus (hsize : text.length ≤ maxLength)
    (h : cells.BonusAtMost (ownBonus text)) (h' : cells'.BonusAtMost (ownBonus text)) :
    (align cells pattern text).1 = (align cells' pattern text).1 := by
  refine align_eq_of_isSettled (ownBonus_le text) hsize h h' ?_
  intro firsts _
  exact ⟨isLimit_ownBonus pattern text firsts, fun table _ => isSettled_ownBonus table⟩

end OneText

/-! ## Several tokens -/

section Tokens

variable {mode : Mode} {cells : Cells} {text : Text}

theorem ownBonus_nonneg (text : Text) (k : Nat) : 0 ≤ ownBonus text k :=
  (isLimit_ownBonus [] text []).nonneg k

theorem bonusAtMost_ownBonus_findToken (h : cells.BonusAtMost (ownBonus text.lower))
    (token : Text) :
    (findToken mode cells (.ofText text) token).2.BonusAtMost (ownBonus text.lower) := by
  by_cases hne : token = []
  · rw [hne, findToken_nil]
    exact h
  · cases mode with
    | substring =>
      rw [findToken_substring _ _ hne]
      exact h
    | fuzzy =>
      rw [findToken_fuzzy _ _ hne, Folded.chars_ofText]
      exact bonusAtMost_align_of_isLimit (fun firsts _ => isLimit_ownBonus _ _ firsts) h

/-- Which positions a search uses does not depend on the searches in the same text before it. -/
theorem uses_iff_of_ownBonus (hsize : mode = .fuzzy → text.lower.length ≤ maxLength)
    (h : cells.BonusAtMost (ownBonus text.lower)) {token : Text} {positions : List Nat} :
    Uses mode cells text.lower token positions ↔ Uses mode #[] text.lower token positions := by
  cases mode with
  | substring => exact Iff.rfl
  | fuzzy =>
    have hempty := Cells.bonusAtMost_empty (ownBonus_nonneg text.lower)
    rw [Uses, Uses, align_eq_of_ownBonus (hsize rfl) h hempty]

/-- A position is hit if a token of the query, looked for on its own, uses a folded position that
comes from it. -/
theorem isHit_iff (hsize : mode = .fuzzy → text.lower.length ≤ maxLength)
    (h : cells.BonusAtMost (ownBonus text.lower)) {tokens : List Text} {position : Nat} :
    IsHit mode cells tokens text position ↔
      ∃ token ∈ tokens, ∃ positions, Uses mode #[] text.lower token positions ∧
        ∃ k ∈ positions, ∃ c, (Folded.ofText text)[k]? = some (c, position) := by
  induction tokens generalizing cells with
  | nil => simp [IsHit]
  | cons token rest ih =>
    rw [isHit_cons, ih (bonusAtMost_ownBonus_findToken h token), List.exists_mem_cons_iff]
    simp only [uses_iff_of_ownBonus hsize h]

end Tokens

/-! ## Queries -/

/-- Whether a token belongs to a query: it is one of its words in lower case. -/
def IsToken (token query : Text) : Prop := ∃ word, Text.IsWord word query ∧ word.lower = token

theorem mem_tokens_iff {token query : Text} : token ∈ tokens query ↔ IsToken token query := by
  simp only [tokens, List.mem_map, Text.mem_words_iff, IsToken]

/-- **What a query finds depends on the set of its tokens alone**: queries with the same tokens, in
whatever order and however often they come, find the same in every text. Where gaps are allowed the
text may have at most `maxLength` folded characters, which are 32765. -/
theorem evaluate_eq_of_isToken_iff {mode : Mode} {query query' text : Text}
    (htokens : ∀ token, IsToken token query ↔ IsToken token query')
    (hsize : mode = .fuzzy → text.lower.length ≤ maxLength) :
    (evaluate mode query text).ranges = (evaluate mode query' text).ranges ∧
      (evaluate mode query text).isFull = (evaluate mode query' text).isFull ∧
      (evaluate mode query text).dispersion = (evaluate mode query' text).dispersion := by
  have hmem : ∀ token, token ∈ tokens query ↔ token ∈ tokens query' := by
    simpa only [mem_tokens_iff] using htokens
  have hranges : (evaluate mode query text).ranges = (evaluate mode query' text).ranges := by
    have hempty := Cells.bonusAtMost_empty (ownBonus_nonneg text.lower)
    refine (isRuns_evaluate mode query text).eq
      ((isRuns_evaluate mode query' text).congr fun position => ?_)
    rw [isHit_iff hsize hempty, isHit_iff hsize hempty]
    simp only [hmem]
  have hfull : (evaluate mode query text).isFull = (evaluate mode query' text).isFull := by
    rw [Bool.eq_iff_iff, evaluate, evaluate, evaluateTokens_isFull_iff_tokens,
      evaluateTokens_isFull_iff_tokens]
    simp only [hmem]
  exact ⟨hranges, hfull, congrArg dispersion hranges⟩

/-- Two tokens with a double, once in this order and once in the other, with white space around them
and one of them twice. -/
theorem evaluate_eq_of_isToken_iff_twice :
    (∀ token, IsToken token "BB -b".toList ↔ IsToken token "\t-b bB  -B ".toList) ∧
      (Mode.fuzzy = .fuzzy → (Text.lower "-bA-Bbb".toList).length ≤ maxLength) ∧
      (evaluate .fuzzy "BB -b".toList "-bA-Bbb".toList).ranges =
        (evaluate .fuzzy "\t-b bB  -B ".toList "-bA-Bbb".toList).ranges := by
  have htokens : tokens "BB -b".toList = [['b', 'b'], ['-', 'b']] := by cbv
  have htokens' : tokens "\t-b bB  -B ".toList = [['-', 'b'], ['b', 'b'], ['-', 'b']] := by cbv
  have hsame : ∀ token, IsToken token "BB -b".toList ↔ IsToken token "\t-b bB  -B ".toList := by
    intro token
    rw [← mem_tokens_iff, ← mem_tokens_iff, htokens, htokens']
    simp only [List.mem_cons, List.not_mem_nil, or_false]
    tauto
  have hsize : Mode.fuzzy = .fuzzy → (Text.lower "-bA-Bbb".toList).length ≤ maxLength := by
    intro _
    cbv
  exact ⟨hsame, hsize, (evaluate_eq_of_isToken_iff hsame hsize).1⟩

end EditorKit.Search
