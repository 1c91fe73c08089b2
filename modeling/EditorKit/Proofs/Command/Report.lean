import EditorKit.Command.Report
import EditorKit.Proofs.Json.Value
import EditorKit.Proofs.Search.Outcome
import EditorKit.Proofs.Search.RankedList

/-!
# Printed rows

The report on some items has one line for each row of `Search.apply`, in order, and no other line.

* `marked` is a text with its ranges between brackets, position by position, and `bracket_eq_marked`
  says that `bracket` gives it;
* `rowLine` is the line of a row;
* `lines_filterItems` is the main result.
-/

namespace EditorKit.Command

open Search (IsRuns Listable RankedList Row Span)
open Text (IsLine ofLines)

/-! ## Brackets -/

/-- A character, with a bracket in front if a range starts there, and one behind if a range ends
there. -/
def markedChar (ranges : List Span) (c : Char) (position : Nat) : Text :=
  (if ∃ s ∈ ranges, s.start = position then ['['] else []) ++
    c :: (if ∃ s ∈ ranges, s.stop = position + 1 then [']'] else [])

/-- A text with a bracket in front of every range and one behind it. -/
def marked (t : Text) (ranges : List Span) : Text :=
  t.zipIdx.flatMap fun (c, position) => markedChar ranges c position

/-- Without ranges there are no brackets. -/
theorem flatMap_markedChar_nil (t : Text) (position : Nat) :
    (t.zipIdx position).flatMap (fun (c, i) => markedChar [] c i) = t := by
  have hplain : ∀ x : Char × Nat, markedChar [] x.1 x.2 = [x.1] := by
    intro x
    simp [markedChar]
  simp only [hplain]
  rw [← List.map_eq_flatMap, List.zipIdx_map_fst]

/-- A range that ends in front of a position leaves no bracket there. -/
theorem markedChar_cons_of_stop_le {range : Span} {ranges : List Span} {position : Nat}
    (hpos : 0 < range.length) (hstop : range.stop ≤ position) (c : Char) :
    markedChar (range :: ranges) c position = markedChar ranges c position := by
  have hlt := Span.start_lt_stop hpos
  have hstart : range.start ≠ position := by omega
  have hend : range.stop ≠ position + 1 := by omega
  simp [markedChar, hstart, hend]

/-- As long as the first of some separated ranges has not ended, it alone decides about brackets. -/
theorem markedChar_cons_of_lt_stop {range : Span} {ranges : List Span} {position : Nat}
    (hsep : ∀ s ∈ ranges, range.stop < s.start) (hstop : position < range.stop) (c : Char) :
    markedChar (range :: ranges) c position =
      (if range.start = position then ['['] else []) ++
        c :: (if range.stop = position + 1 then [']'] else []) := by
  have hstart : ¬ ∃ s ∈ ranges, s.start = position := by
    rintro ⟨s, hs, heq⟩
    have := hsep s hs
    omega
  have hend : ¬ ∃ s ∈ ranges, s.stop = position + 1 := by
    rintro ⟨s, hs, heq⟩
    have hlt := hsep s hs
    have hle : s.start ≤ s.stop := Nat.le_add_right _ _
    omega
  simp [markedChar, hstart, hend]

/-- The induction is on the text that is left: no range that is left has ended yet. -/
theorem bracketFrom_eq {position : Nat} {t : Text} {ranges : List Span}
    (hsep : ranges.Pairwise fun a b => a.stop < b.start) (hpos : ∀ s ∈ ranges, 0 < s.length)
    (hahead : ∀ s ∈ ranges, position < s.stop) :
    bracketFrom position t ranges =
      (t.zipIdx position).flatMap fun (c, i) => markedChar ranges c i := by
  induction t generalizing position ranges with
  | nil => cases ranges <;> rfl
  | cons c rest ih =>
    cases ranges with
    | nil => rw [flatMap_markedChar_nil, bracketFrom]
    | cons range ranges =>
      obtain ⟨hgap, hrest⟩ := List.pairwise_cons.1 hsep
      have hopen : position < range.stop := hahead range (by simp)
      have hlater : ∀ s ∈ ranges, range.stop < s.stop := fun s hs =>
        Nat.lt_of_lt_of_le (hgap s hs) (Nat.le_add_right _ _)
      rw [List.zipIdx_cons, List.flatMap_cons, bracketFrom]
      dsimp only
      rw [markedChar_cons_of_lt_stop hgap hopen c]
      by_cases hend : position + 1 = range.stop
      · -- from the next position on, the range that ends here is behind
        have hbehind : ∀ x ∈ rest.zipIdx (position + 1),
            markedChar (range :: ranges) x.1 x.2 = markedChar ranges x.1 x.2 := by
          intro x hx
          have hle := List.le_snd_of_mem_zipIdx hx
          exact markedChar_cons_of_stop_le (hpos range (by simp)) (by omega) x.1
        have ih' := ih hrest (fun s hs => hpos s (List.mem_cons_of_mem _ hs))
          (fun s hs => hend ▸ hlater s hs)
        rw [if_pos hend, if_pos hend.symm, ih', List.flatMap_congr hbehind]
        split <;> rfl
      · have hahead' : ∀ s ∈ range :: ranges, position + 1 < s.stop := by
          rw [List.forall_mem_cons]
          refine ⟨by omega, fun s hs => ?_⟩
          have := hlater s hs
          omega
        rw [if_neg hend, if_neg (Ne.symm hend), ih hsep hpos hahead']
        split <;> rfl

/-- **Brackets stand exactly around the ranges**, if these are the runs of some positions. -/
theorem bracket_eq_marked {size : Nat} {IsHit : Nat → Prop} {ranges : List Span}
    (h : IsRuns size IsHit ranges) (t : Text) : bracket t ranges = marked t ranges := by
  refine bracketFrom_eq h.separated h.positive ?_
  intro s hs
  have := Span.start_lt_stop (h.positive s hs)
  omega

theorem mem_marked {c : Char} {t : Text} {ranges : List Span} (h : c ∈ marked t ranges) :
    c ∈ t ∨ c = '[' ∨ c = ']' := by
  simp only [marked, List.mem_flatMap, Prod.exists] at h
  obtain ⟨d, position, hd, hc⟩ := h
  have hmem : d ∈ t := List.fst_mem_of_mem_zipIdx hd
  simp only [markedChar, List.mem_append, List.mem_cons] at hc
  rcases hc with hc | rfl | hc
  · split at hc
    · exact .inr (.inl (List.mem_singleton.1 hc))
    · simp at hc
  · exact .inl hmem
  · split at hc
    · exact .inr (.inr (List.mem_singleton.1 hc))
    · simp at hc

/-! ## Rows as lines -/

section Rows

variable {α : Type} [Listable α] {mode : Search.Mode} {query : Option Text} {items : List α}

/-- The line of a row: a mark if it is the first one, its label with brackets around the ranges
unless the row is disabled, and its dispersion with two places. -/
def rowLine (row : Row α) (isFirst : Bool) : Text :=
  (if isFirst then '>' else ' ') :: ' ' ::
    (if row.isDisabled then Listable.label row
      else marked (Listable.label row) row.outcome.ranges) ++
    '\t' :: Number.fixedText 2 row.outcome.dispersion

/-- The ranges of a row are the runs of some positions of its label. -/
theorem isRuns_of_mem_rank {row : Row α} (h : row ∈ Search.rank mode query items) :
    ∃ IsHit, IsRuns (Listable.label row).length IsHit row.outcome.ranges := by
  obtain ⟨i, item, -, rfl⟩ := Search.mem_rank_iff.1 h
  exact ⟨_, Search.evaluateTokens_isRuns mode _ (Listable.label item)
    fun _ ht => Search.ne_nil_of_mem_tokens ht⟩

theorem textRow_eq {row : Row α} (h : row ∈ Search.rank mode query items) (position : Nat)
    (isFirst : Bool) :
    textRow ⟨row, position, isFirst, row.drawsHighlights⟩ = rowLine row isFirst ++ ['\n'] := by
  obtain ⟨IsHit, hruns⟩ := isRuns_of_mem_rank h
  have hshown : (if row.drawsHighlights then bracket (Listable.label row) row.outcome.ranges
      else Listable.label row) =
      if row.isDisabled then Listable.label row
      else marked (Listable.label row) row.outcome.ranges := by
    rw [bracket_eq_marked hruns, Row.drawsHighlights]
    by_cases hdisabled : row.isDisabled
    · simp [hdisabled]
    · by_cases hnil : row.outcome.ranges = []
      · simp [hnil, marked, flatMap_markedChar_nil]
      · simp [hdisabled, hnil]
  rw [textRow, rowLine]
  dsimp only
  rw [hshown]

theorem hasNoControls_fixedText (places : Nat) (x : Float) :
    Text.HasNoControls (Number.fixedText places x) := by
  simp [Number.fixedText, Text.hasNoControls_decimal, (Text.hasNoControls_decimal _).padZeros]

/-- The line of a row is a line if its label has no line feed in it. -/
theorem isLine_rowLine {row : Row α} (h : '\n' ∉ Listable.label row) (isFirst : Bool) :
    IsLine (rowLine row isFirst) := by
  have hnot : '\n' ∉ (if isFirst then '>' else ' ') :: ' ' ::
      (if row.isDisabled then Listable.label row
        else marked (Listable.label row) row.outcome.ranges) ++ ['\t'] := by
    intro hmem
    simp only [List.cons_append, List.mem_cons, List.mem_append, List.not_mem_nil, or_false] at hmem
    rcases hmem with hmark | hspace | hlabel | htab
    · split at hmark <;> simp at hmark
    · simp at hspace
    · split at hlabel
      · exact h hlabel
      · rcases mem_marked hlabel with hlabel | hopen | hclose
        · exact h hlabel
        · simp at hopen
        · simp at hclose
    · simp at htab
  have hline := (hasNoControls_fixedText 2 row.outcome.dispersion).isLine_append (by
    simp [Number.fixedText]) hnot
  simpa [rowLine] using hline

omit [Listable α] in
theorem isLine_write (itemValue : α → Json.Value) (row : Row α) :
    IsLine (row.toValue itemValue).write :=
  (Json.Value.hasNoControls_write _).isLine (by simp [Row.toValue, Json.Value.write])

/-! ## Reports -/

/-- The lines of a report on the rows for a query. -/
def rowLines (asJson : Bool) (itemValue : α → Json.Value) (rows : List (Row α)) : List Text :=
  if asJson then rows.map fun row => (row.toValue itemValue).write
  else rows.zipIdx.map fun (row, position) => rowLine row (position == 0)

theorem filterItems_eq (asJson : Bool) (itemValue : α → Json.Value) (mode : Search.Mode)
    (query : Text) (items : List α) :
    filterItems asJson itemValue mode query items =
      ofLines (rowLines asJson itemValue (Search.apply mode (some query) items)) := by
  obtain ⟨-, hrender⟩ := RankedList.render_setQuery mode query items
  rw [filterItems, rows, hrender, List.flatMap_map, rowLines, ofLines]
  cases asJson with
  | true =>
    have hrows := List.zipIdx_map_fst 0 (Search.apply mode (some query) items)
    rw [if_pos rfl, if_pos rfl]
    conv_rhs => rw [← hrows]
    rw [List.map_map, List.flatMap_map]
    rfl
  | false =>
    rw [if_neg (by simp), if_neg (by simp), List.flatMap_map]
    refine List.flatMap_congr ?_
    rintro ⟨row, position⟩ hrow
    have hmem := List.fst_mem_of_mem_zipIdx hrow
    exact textRow_eq (Search.mem_apply_iff.1 hmem).1 position _

/-- **The report has one line for each row of `Search.apply`**, in order, and no other line, if no
label has a line feed in it. -/
theorem lines_filterItems (asJson : Bool) (itemValue : α → Json.Value) (mode : Search.Mode)
    (query : Text) {items : List α} (h : ∀ item ∈ items, '\n' ∉ Listable.label item) :
    (filterItems asJson itemValue mode query items).lines =
      rowLines asJson itemValue (Search.apply mode (some query) items) := by
  rw [filterItems_eq]
  refine Text.lines_ofLines ?_
  rw [rowLines]
  split
  · rw [List.forall_mem_map]
    intro row _
    exact isLine_write itemValue row
  · rw [List.forall_mem_map]
    rintro ⟨row, position⟩ hrow
    have hrank := (Search.mem_apply_iff.1 (List.fst_mem_of_mem_zipIdx hrow)).1
    have hitem := List.mem_of_getElem? (Search.item_of_mem_rank hrank).1
    exact isLine_rowLine (h row.item hitem) _

end Rows

end EditorKit.Command
