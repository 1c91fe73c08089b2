import EditorKit.Proofs.Search.Kept
import EditorKit.Proofs.Search.Tokens

/-!
# Marks and flags

A row is shown with marks if it has ranges and is not disabled. A token that is found always leaves
a range, so among the rows of a result only the flag decides, unless the query has no token. The
flags in turn decide nothing else: they have no part in which rows there are, in their order or in
what is found.

* `Layout.IsFilled.headD_lt_bestColumn`: the way back through a table starts behind the first
  place of the pattern, whatever the storage held before, so it has a hit (`align_ne_nil`);
* `ranges_ne_nil_iff` says when an outcome has ranges;
* `map_plain_rank` and `map_plain_apply`: without their flags, the rows are those of the labels;
* `highlights_apply` is the main result.
-/

namespace EditorKit.Search

/-! ## The way back has a hit -/

namespace Layout

variable {layout : Layout} {limit : Nat → Int} {table cells : Cells} {row column : Nat}

/-- Every storage has a limit on its bonuses that leaves room for those of a search. -/
theorem exists_isLimit (layout : Layout) (cells : Cells) :
    ∃ limit, layout.IsLimit limit ∧ cells.BonusAtMost limit := by
  refine ⟨fun k => max (Score.runEarning 0 (layout.placeBonusAt (k % layout.columns)))
    (cells.get k).bonus, ?_, ?_⟩
  · intro k
    exact Int.le_max_left _ _
  · intro k
    exact Int.le_max_right _ _

/-- A hit scores more than what cannot be. -/
theorem IsFilled.noScore_lt_hit (h : layout.IsFilled limit table) (hsound : layout.IsSound)
    {p : Char} {first : Nat} (hrow : layout.IsRow row p first) (hfirst : first ≤ column)
    (hcolumn : column < layout.text.size) (hhit : layout.isHitAt p column)
    (hdiagonal : noScore ≤ (layout.scoreAt table row column).hit) :
    noScore < (layout.scoreAt table (row + 1) (column + 1)).hit := by
  have hstep := ((h.steps_of_isRow hsound hrow hfirst hcolumn).le_hit hhit).1
  simp only [runBonus, hitScore] at hstep
  omega

/-- No score is below that of what cannot be, by induction on the rows. -/
theorem IsFilled.noScore_le_hit (h : layout.IsFilled limit table) (hsound : layout.IsSound)
    (hreached : layout.IsReached row column) (hcolumn : column < layout.columns) :
    noScore ≤ (layout.scoreAt table row column).hit := by
  induction row generalizing column with
  | zero =>
    rw [h.top column hcolumn]
    exact Int.le_refl _
  | succ row ih =>
    obtain ⟨p, first, hrow, hfirst⟩ := hreached
    by_cases heq : column = first
    · subst heq
      rw [h.first_unreached row column hrow.2]
      exact Int.le_refl _
    · obtain ⟨c, rfl⟩ : ∃ c, column = c + 1 := ⟨column - 1, by omega⟩
      have hfirst' : first ≤ c := by omega
      have hsize : c < layout.text.size := Nat.lt_of_succ_lt_succ hcolumn
      cases hhit : layout.isHitAt p c with
      | false =>
        rw [(h.steps_of_isRow hsound hrow hfirst' hsize).hit_of_miss hhit]
      | true =>
        have hdiagonal := ih (hsound.isReached_pred ⟨p, first, hrow, hfirst'⟩) (by omega)
        exact Int.le_of_lt (h.noScore_lt_hit hsound hrow hfirst' hsize hhit hdiagonal)

/-- The first places ascend. -/
theorem IsSound.headD_le (h : layout.IsSound) {first : Nat}
    (hfirst : layout.firsts[row]? = some first) : layout.firsts.headD 0 ≤ first := by
  cases hfirsts : layout.firsts with
  | nil => simp [hfirsts] at hfirst
  | cons head rest =>
    have hhead : layout.firsts[0]? = some head := by rw [hfirsts, List.getElem?_cons_zero]
    rw [List.headD_cons]
    cases row with
    | zero => exact Nat.le_of_eq (Option.some.inj (hhead.symm.trans hfirst))
    | succ row => exact Nat.le_of_lt (h.placement.lt_of_lt (Nat.succ_pos row) hhead hfirst)

/-- The best column lies behind the first place of the pattern: there is a hit on the first place of
the last character, which is no earlier. -/
theorem IsFilled.headD_lt_bestColumn (h : layout.IsFilled limit table) (hsound : layout.IsSound)
    (hne : layout.pattern ≠ []) : layout.firsts.headD 0 < layout.bestColumn table := by
  obtain ⟨row, hlength⟩ := Nat.exists_eq_succ_of_ne_zero (mt List.length_eq_zero_iff.1 hne)
  obtain ⟨p, hrow⟩ := hsound.isRow_last hlength
  have hlt := hsound.first_lt hrow.2
  have hdiagonal : noScore ≤ (layout.scoreAt table row (layout.firsts.getLastD 0)).hit :=
    h.noScore_le_hit hsound (hsound.isReached_pred ⟨p, _, hrow, Nat.le_refl _⟩)
      (Nat.lt_succ_of_lt hlt)
  have hhit := h.noScore_lt_hit hsound hrow (Nat.le_refl _) hlt (hsound.isHitAt_first hrow)
    hdiagonal
  exact Nat.lt_of_le_of_lt (hsound.headD_le hrow.2)
    (h.getLastD_lt_bestColumn hsound hlength hhit).1

theorem mem_traceBack_of_mem {move : Move} {found : List Nat} {k : Nat} (hk : k ∈ found) :
    k ∈ layout.traceBack table row column move found := by
  induction column generalizing row move found with
  | zero => exact hk
  | succ column ih =>
    rw [traceBack]
    split
    · exact hk
    · cases move with
      | hit => exact ih (List.mem_cons_of_mem _ hk)
      | gap => exact ih hk

/-- The way back takes the column that it starts from. -/
theorem traceBack_ne_nil {found : List Nat} (hrow : row ≠ 0)
    (hcolumn : layout.firsts.headD 0 < column) :
    layout.traceBack table row column .hit found ≠ [] := by
  obtain ⟨c, rfl⟩ : ∃ c, column = c + 1 := ⟨column - 1, by omega⟩
  have hstop : ¬ (row = 0 ∨ c + 1 ≤ layout.firsts.headD 0) := by omega
  rw [traceBack, if_neg hstop]
  exact List.ne_nil_of_mem (mem_traceBack_of_mem (List.mem_cons_self ..))

end Layout

/-- An alignment has a position, whatever the storage held before. -/
theorem align_ne_nil {cells : Cells} {pattern text : Text} {positions : List Nat}
    (hne : pattern ≠ []) (h : (align cells pattern text).1 = some positions) : positions ≠ [] := by
  cases hfirsts : firstPositions pattern text 0 with
  | none => simp [align_of_eq_none hfirsts] at h
  | some firsts =>
    rw [align_of_eq_some hfirsts] at h
    obtain rfl := Option.some.inj h
    have hsound := Layout.isSound_ofFirsts (isPlacement_firstPositions hfirsts)
    obtain ⟨limit, hlimit, hbounded⟩ := Layout.exists_isLimit (.ofFirsts pattern text firsts) cells
    have hfilled := Layout.isFilled_fill hsound hlimit hbounded
    exact Layout.traceBack_ne_nil (mt List.length_eq_zero_iff.1 hne)
      (hfilled.headD_lt_bestColumn hsound hne)

/-! ## Outcomes with ranges -/

section Outcomes

variable {mode : Mode} {cells : Cells} {text token : Text}

theorem Uses.ne_nil {chars : Text} {positions : List Nat} (hne : token ≠ [])
    (h : Uses mode cells chars token positions) : positions ≠ [] := by
  cases mode with
  | substring =>
    obtain ⟨k, -, rfl⟩ := h
    simpa using hne
  | fuzzy => exact align_ne_nil hne h

/-- A search uses some positions exactly where the token occurs. -/
theorem exists_uses_iff (hne : token ≠ []) :
    (∃ positions, Uses mode cells text.lower token positions) ↔ Occurs mode token text.lower := by
  have hfound : (findToken mode cells (.ofText text) token).1.isSome ↔
      Occurs mode token text.lower := by
    rw [findToken_isSome_iff, Folded.chars_ofText]
  rw [← hfound, Option.isSome_iff_exists]
  simp only [findToken_eq_some_iff hne, Folded.chars_ofText]
  constructor
  · rintro ⟨positions, huses⟩
    exact ⟨_, positions, huses, rfl⟩
  · rintro ⟨_, positions, huses, -⟩
    exact ⟨positions, huses⟩

/-- Some position is hit exactly if one of the tokens occurs. -/
theorem exists_isHit_iff {tokens : List Text} (hne : ∀ t ∈ tokens, t ≠ []) :
    (∃ position, IsHit mode cells tokens text position) ↔
      ∃ token ∈ tokens, Occurs mode token text.lower := by
  constructor
  · rintro ⟨_, before, token, after, positions, rfl, huses, -⟩
    have hmem : token ∈ before ++ token :: after := by simp
    exact ⟨token, hmem, (exists_uses_iff (hne token hmem)).1 ⟨positions, huses⟩⟩
  · rintro ⟨token, hmem, hoccurs⟩
    obtain ⟨before, after, rfl⟩ := List.append_of_mem hmem
    obtain ⟨positions, huses⟩ : ∃ positions,
        Uses mode (findTokens mode (.ofText text) cells before).2 text.lower token positions :=
      (exists_uses_iff (hne token hmem)).2 hoccurs
    obtain ⟨k, hk⟩ := List.exists_mem_of_ne_nil _ (huses.ne_nil (hne token hmem))
    have hlt : k < (Folded.ofText text).length := by
      rw [Folded.length_ofText]
      exact huses.lt_length (hne token hmem) k hk
    exact ⟨_, before, token, after, positions, rfl, huses, k, hk, _, List.getElem?_eq_getElem hlt⟩

/-- An outcome has ranges exactly if one of the tokens occurs, whatever the storage held before. -/
theorem ranges_ne_nil_iff {query : Text} :
    (evaluateTokens mode cells (tokens query) text).1.ranges ≠ [] ↔
      ∃ token, IsToken token query ∧ Occurs mode token text.lower := by
  have hne : ∀ t ∈ tokens query, t ≠ [] := fun t ht => ne_nil_of_mem_tokens ht
  have hruns := evaluateTokens_isRuns mode cells text hne
  have hcovered : (∃ position, IsHit mode cells (tokens query) text position) ↔
      (evaluateTokens mode cells (tokens query) text).1.ranges ≠ [] := by
    constructor
    · rintro ⟨position, hhit⟩
      obtain ⟨range, hrange, -⟩ := (hruns.covered position).2 hhit
      exact List.ne_nil_of_mem hrange
    · intro hranges
      obtain ⟨range, hrange⟩ := List.exists_mem_of_ne_nil _ hranges
      exact ⟨_, (hruns.covered _).1 ⟨range, hrange, Span.covers_start (hruns.positive _ hrange)⟩⟩
  rw [← hcovered, exists_isHit_iff hne]
  simp only [mem_tokens_iff]

/-- Where all tokens are found, and there is one, there are ranges. -/
theorem ranges_ne_nil_of_isFull {query : Text} (htoken : ∃ token, IsToken token query)
    (h : (evaluateTokens mode cells (tokens query) text).1.isFull) :
    (evaluateTokens mode cells (tokens query) text).1.ranges ≠ [] := by
  obtain ⟨token, htoken⟩ := htoken
  rw [evaluateTokens_isFull_iff_tokens] at h
  exact ranges_ne_nil_iff.2 ⟨token, htoken, h token (mem_tokens_iff.2 htoken)⟩

end Outcomes

/-! ## Rows and their flags -/

theorem Row.drawsHighlights_iff {α : Type} {row : Row α} :
    row.drawsHighlights ↔ ¬ row.isDisabled ∧ row.outcome.ranges ≠ [] := by
  simp [Row.drawsHighlights]

section Rows

variable {α β : Type} [Listable α] [Listable β]

/-- A row without the flag of its item: the label stands in the place of the item. -/
def Row.plain (row : Row α) : Row Text := ⟨Listable.label row.item, row.index, false, row.outcome⟩

theorem map_plain_rankFrom (mode : Mode) (tokens : List Text) (cells : Cells) (index : Nat)
    (items : List α) : (rankFrom mode tokens cells index items).map Row.plain =
      rankFrom mode tokens cells index (items.map Listable.label) := by
  induction items generalizing cells index with
  | nil => rfl
  | cons item items ih =>
    rw [rankFrom, List.map_cons, ih, List.map_cons, rankFrom]
    rfl

/-- Without their flags, the rows of a ranking are those of the labels. -/
theorem map_plain_rank (mode : Mode) (query : Option Text) (items : List α) :
    (rank mode query items).map Row.plain = rank mode query (items.map Listable.label) :=
  map_plain_rankFrom ..

/-- Without their flags, the rows of a result are those of the labels. -/
theorem map_plain_apply (mode : Mode) (query : Option Text) (items : List α) :
    (apply mode query items).map Row.plain = apply mode query (items.map Listable.label) := by
  have hfull : (fullRows mode query items).map Row.plain =
      fullRows mode query (items.map Listable.label) := by
    rw [fullRows, fullRows, ← map_plain_rank, List.filter_map]
    rfl
  rw [apply_eq, apply_eq, ← hfull]
  exact List.map_mergeSort fun _ _ _ _ => rfl

/-- A full row of a query with a token has ranges, in any storage, and its flag is that of its item.
-/
theorem highlights_rankFrom {mode : Mode} {query : Text} (htoken : ∃ token, IsToken token query)
    {cells : Cells} {index : Nat} {items : List α} {row : Row α}
    (hrow : row ∈ rankFrom mode (tokens query) cells index items) (hfull : row.outcome.isFull) :
    row.outcome.ranges ≠ [] ∧ (row.drawsHighlights ↔ ¬ Listable.isDisabled row.item) := by
  obtain ⟨i, hget⟩ := List.mem_iff_getElem?.1 hrow
  rw [rankFrom_getElem?, Option.map_eq_some_iff] at hget
  obtain ⟨item, -, rfl⟩ := hget
  have hranges := ranges_ne_nil_of_isFull htoken hfull
  refine ⟨hranges, ?_⟩
  rw [Row.drawsHighlights_iff]
  exact and_iff_left hranges

/-- **Every row of a result has ranges**, if the query has a token, and is shown with marks exactly
if it is not disabled; in the search with gaps this holds whatever the storage held before. **The
flags decide nothing else**: items with the same labels have the same rows in the same order, with
the same indices and outcomes, whatever their flags. -/
theorem highlights_apply :
    (∀ mode cells query text, (evaluateTokens mode cells (tokens query) text).1.ranges ≠ [] ↔
      ∃ token, IsToken token query ∧ Occurs mode token text.lower) ∧
    (∀ (mode : Mode) (query : Text) (items : List α), (∃ token, IsToken token query) →
      (∀ (cells : Cells) (index : Nat), ∀ row ∈ rankFrom mode (tokens query) cells index items,
        row.outcome.isFull →
        row.outcome.ranges ≠ [] ∧ (row.drawsHighlights ↔ ¬ Listable.isDisabled row.item)) ∧
      ∀ row ∈ apply mode (some query) items,
        row.outcome.ranges ≠ [] ∧ (row.drawsHighlights ↔ ¬ Listable.isDisabled row.item)) ∧
    ∀ (mode : Mode) (query : Option Text) (items : List α) (items' : List β),
      items.map Listable.label = items'.map Listable.label →
      (rank mode query items).map Row.plain = (rank mode query items').map Row.plain ∧
        (apply mode query items).map Row.plain = (apply mode query items').map Row.plain := by
  refine ⟨?_, ?_, ?_⟩
  · intro mode cells query text
    exact ranges_ne_nil_iff
  · intro mode query items htoken
    refine ⟨?_, ?_⟩
    · intro cells index row hrow hfull
      exact highlights_rankFrom htoken hrow hfull
    · intro row hrow
      obtain ⟨hrank, hfull⟩ := mem_apply_iff.1 hrow
      exact highlights_rankFrom htoken hrank hfull
  · intro mode query items items' hlabels
    rw [map_plain_rank, map_plain_rank, map_plain_apply, map_plain_apply, hlabels]
    exact ⟨rfl, rfl⟩

/-- Two rows as items, the first of which is disabled, and their labels as items. -/
theorem highlights_apply_muted :
    let items : List (Row Text) :=
      [⟨"xaB".toList, 7, true, .everything⟩, ⟨"b".toList, 8, false, .everything⟩]
    let labels : List Text := ["xaB".toList, "b".toList]
    (∃ token, IsToken token "B".toList) ∧
      (∃ row ∈ rankFrom .fuzzy (tokens "B".toList) #[⟨3, .hit, 2, .hit, 9⟩] 0 items,
        row.outcome.isFull ∧ Listable.isDisabled row.item ∧ row.outcome.ranges ≠ [] ∧
          ¬ row.drawsHighlights) ∧
      (∃ row ∈ apply .fuzzy (some "B".toList) items,
        ¬ Listable.isDisabled row.item ∧ row.outcome.ranges ≠ [] ∧ row.drawsHighlights) ∧
      items.map Listable.label = labels.map Listable.label ∧
      (apply .fuzzy (some "B".toList) items).map Row.plain =
        (apply .fuzzy (some "B".toList) labels).map Row.plain := by
  intro items labels
  have htokens : tokens "B".toList = [['b']] := by cbv
  have htoken : ∃ token, IsToken token "B".toList :=
    ⟨['b'], mem_tokens_iff.1 (by rw [htokens]; exact List.mem_singleton_self _)⟩
  have hlabels : items.map Listable.label = labels.map Listable.label := rfl
  obtain ⟨-, hmarks, hflags⟩ := highlights_apply (α := Row Text) (β := Text)
  obtain ⟨hrank, happly⟩ := hmarks .fuzzy "B".toList items htoken
  let muted : Row (Row Text) :=
    ⟨⟨"xaB".toList, 7, true, .everything⟩, 0, true, ⟨[⟨2, 1⟩], true⟩⟩
  have hmuted : muted ∈ rankFrom .fuzzy (tokens "B".toList) #[⟨3, .hit, 2, .hit, 9⟩] 0 items :=
    List.mem_of_getElem? (i := 0) (by cbv)
  let shown : Row (Row Text) := ⟨⟨"b".toList, 8, false, .everything⟩, 1, false, ⟨[⟨0, 1⟩], true⟩⟩
  have hshown : shown ∈ apply .fuzzy (some "B".toList) items :=
    mem_apply_iff.2 ⟨List.mem_of_getElem? (i := 1) (by cbv), rfl⟩
  obtain ⟨hranges, hdraws⟩ := hrank _ 0 muted hmuted rfl
  obtain ⟨hranges', hdraws'⟩ := happly shown hshown
  refine ⟨htoken, ⟨muted, hmuted, rfl, rfl, hranges, ?_⟩, ⟨shown, hshown, ?_, hranges', ?_⟩,
    hlabels, (hflags _ _ items labels hlabels).2⟩
  · rw [hdraws]
    exact not_not_intro rfl
  · exact Bool.false_ne_true
  · rw [hdraws']
    exact Bool.false_ne_true

end Rows
end EditorKit.Search
