import EditorKit.Proofs.Search.Score

/-!
# The table of an alignment

The scores in the table of an alignment follow a recursion: every score comes from those of the
cells to the left and on the diagonal, and from the bonus that the cell to the left has when it is
read. That bonus is all that a search can see of what the storage held before.

* `IsRowFilledTo` and `IsFilledTo` say how far a row and a table are filled;
* `isFilled_fill` is the main result: `Layout.fill` fills the table in any storage.
-/

namespace EditorKit.Search

/-- A left fold over consecutive numbers, step by step. -/
theorem foldl_range'_induction {β : Type} {motive : Nat → β → Prop} {f : β → Nat → β}
    {start n : Nat} {init : β} (hinit : motive start init)
    (hstep : ∀ k x, start ≤ k → k < start + n → motive k x → motive (k + 1) (f x k)) :
    motive (start + n) ((List.range' start n).foldl f init) := by
  induction n with
  | zero => exact hinit
  | succ n ih =>
    rw [List.range'_1_concat, List.foldl_append]
    have hbefore := ih fun k x hk hlt => hstep k x hk (by omega)
    exact hstep (start + n) _ (by omega) (by omega) hbefore

namespace Layout

variable {layout : Layout}

/-! ## One row -/

/-- Whether the scores at `row + 1` and `column + 1` come from those on the diagonal and to the left
with a bonus that is within the limit, and is none where the cell to the left is the first of its
row or no hit. -/
def StepsTo (layout : Layout) (limit : Nat → Int) (cells : Cells) (row : Nat) (p : Char)
    (first column : Nat) : Prop :=
  ∃ bonus, bonus ≤ limit (layout.place (row + 1) column) ∧
    (column = first ∨ layout.text[column - 1]? ≠ some p → bonus = 0) ∧
    layout.scoreAt cells (row + 1) (column + 1) =
      .next (layout.isHitAt p column) bonus (layout.placeBonusAt column)
        (layout.scoreAt cells row column) (layout.scoreAt cells (row + 1) column)

/-- Whether the row of a pattern character is filled up to a column, in storage that was `start`
before. -/
structure IsRowFilledTo (layout : Layout) (limit : Nat → Int) (start : Cells) (row : Nat)
    (p : Char) (first : Nat) (column : Nat) (cells : Cells) : Prop where
  fits : layout.Fits cells
  bounded : cells.BonusAtMost limit
  frame : ∀ r c, c < layout.columns → r ≠ row + 1 →
    layout.cellAt cells r c = layout.cellAt start r c
  first_unreached : layout.scoreAt cells (row + 1) first = .unreached
  steps : ∀ c, first ≤ c → c < column → layout.StepsTo limit cells row p first c
  no_bonus : column = first ∨ layout.text[column - 1]? ≠ some p →
    (layout.cellAt cells (row + 1) column).bonus = 0

section Row

variable {limit : Nat → Int} {start cells : Cells} {row : Nat} {p : Char} {first column : Nat}

theorem IsRowFilledTo.fillCell (hlimit : layout.IsLimit limit) (hrow : row + 1 < layout.rows)
    (hfirst : first ≤ column) (hcolumn : column + 1 < layout.columns)
    (h : layout.IsRowFilledTo limit start row p first column cells) :
    layout.IsRowFilledTo limit start row p first (column + 1)
      (layout.fillCell row p cells (column + 1)) := by
  have hscore {r c : Nat} (hc : c < layout.columns) :=
    scoreAt_fillCell (p := p) h.fits hrow hcolumn (r := r) hc
  -- the scores that a step up to here reads are as before
  have hkept {r c : Nat} (hc : c ≤ column) :
      layout.scoreAt (layout.fillCell row p cells (column + 1)) r c = layout.scoreAt cells r c := by
    rw [hscore (by omega), if_neg (by omega)]
  refine ⟨?_, bonusAtMost_fillCell hlimit h.bounded row p hcolumn, ?_, ?_, ?_, ?_⟩
  · rw [fillCell_eq]
    exact (h.fits.put ..).put ..
  · intro r c hc hr
    rw [fillCell_eq, cellAt_put (h.fits.put ..) hrow hcolumn hc, if_neg (fun heq => hr heq.1),
      cellAt_put h.fits hrow (Nat.lt_of_succ_lt hcolumn) hc, if_neg (fun heq => hr heq.1)]
    exact h.frame r c hc hr
  · rw [hkept hfirst]
    exact h.first_unreached
  · intro c hfirstc hc
    by_cases hlast : c = column
    · subst hlast
      refine ⟨(layout.cellAt cells (row + 1) c).bonus, h.bounded _, h.no_bonus, ?_⟩
      rw [hscore hcolumn, if_pos ⟨rfl, rfl⟩, hkept (Nat.le_refl c), hkept (Nat.le_refl c)]
      rfl
    · obtain ⟨bonus, hbonus, hzero, hnext⟩ := h.steps c hfirstc (by omega)
      refine ⟨bonus, hbonus, hzero, ?_⟩
      rw [hkept (by omega), hkept (by omega), hkept (by omega), hnext]
  · rintro (heq | hmiss)
    · omega
    · exact bonus_fillCell h.fits hrow hcolumn hmiss

/-- `fillRow` fills the row of a pattern character whose first cell is cleared. -/
theorem isRowFilledTo_fillRow (hlimit : layout.IsLimit limit) (hrow : row + 1 < layout.rows)
    (hfirst : first < layout.columns) (hfits : layout.Fits cells)
    (hbounded : cells.BonusAtMost limit)
    (hunreached : layout.scoreAt cells (row + 1) first = .unreached)
    (hbonus : (layout.cellAt cells (row + 1) first).bonus = 0) :
    layout.IsRowFilledTo limit cells row p first layout.text.size
      (layout.fillRow row p first cells) := by
  have hinit : layout.IsRowFilledTo limit cells row p first (first + 1 - 1) cells :=
    ⟨hfits, hbounded, fun _ _ _ _ => rfl, hunreached, fun c hc hlt => by omega, fun _ => hbonus⟩
  have hstep : ∀ k x, first + 1 ≤ k → k < first + 1 + (layout.columns - (first + 1)) →
      layout.IsRowFilledTo limit cells row p first (k - 1) x →
      layout.IsRowFilledTo limit cells row p first (k + 1 - 1) (layout.fillCell row p x k) := by
    intro k x hk hlt hx
    obtain ⟨c, rfl⟩ : ∃ c, k = c + 1 := ⟨k - 1, by omega⟩
    exact hx.fillCell hlimit hrow (by omega) (by omega)
  have hfilled := foldl_range'_induction
    (motive := fun k x => layout.IsRowFilledTo limit cells row p first (k - 1) x) hinit hstep
  have hend : first + 1 + (layout.columns - (first + 1)) - 1 = layout.text.size := by
    rw [columns] at hfirst ⊢
    omega
  rwa [hend] at hfilled

end Row

/-! ## All rows -/

/-- What the search for an alignment relies on: the first positions spell the pattern, and the
bonuses are in their range. -/
structure IsSound (layout : Layout) : Prop where
  placement : IsPlacement layout.pattern layout.text.toList layout.firsts
  place_nonneg : ∀ column, 0 ≤ layout.placeBonusAt column
  place_le : ∀ column, layout.placeBonusAt column ≤ 16

/-- Whether a pattern character stands at a row, with its first place. -/
def IsRow (layout : Layout) (row : Nat) (p : Char) (first : Nat) : Prop :=
  layout.pattern[row]? = some p ∧ layout.firsts[row]? = some first

/-- Whether the rows before `row` are filled. -/
structure IsFilledTo (layout : Layout) (limit : Nat → Int) (row : Nat) (cells : Cells) : Prop where
  fits : layout.Fits cells
  bounded : cells.BonusAtMost limit
  top : ∀ c, c < layout.columns → layout.scoreAt cells 0 c = .top
  first_unreached : ∀ r first, layout.firsts[r]? = some first →
    layout.scoreAt cells (r + 1) first = .unreached
  no_bonus : ∀ r first, row ≤ r → layout.firsts[r]? = some first →
    (layout.cellAt cells (r + 1) first).bonus = 0
  steps : ∀ r p first, r < row → layout.IsRow r p first →
    ∀ c, first ≤ c → c < layout.text.size → layout.StepsTo limit cells r p first c

/-- Whether the table is filled. -/
def IsFilled (layout : Layout) (limit : Nat → Int) (cells : Cells) : Prop :=
  layout.IsFilledTo limit layout.pattern.length cells

section Rows

variable {limit : Nat → Int} {cells : Cells} {row : Nat}

theorem IsSound.first_lt (h : layout.IsSound) {r first : Nat}
    (hfirst : layout.firsts[r]? = some first) : first < layout.text.size := by
  simpa using h.placement.lt_length hfirst

theorem IsSound.row_lt (h : layout.IsSound) {r first : Nat}
    (hfirst : layout.firsts[r]? = some first) : r < layout.pattern.length := by
  rw [← h.placement.length_eq]
  exact (List.getElem?_eq_some_iff.1 hfirst).1

theorem StepsTo.congr {start : Cells} {p : Char} {first column : Nat}
    (hcolumn : column < layout.text.size)
    (heq : ∀ r c, r ≤ row + 1 → c < layout.columns →
      layout.cellAt cells r c = layout.cellAt start r c)
    (h : layout.StepsTo limit start row p first column) :
    layout.StepsTo limit cells row p first column := by
  obtain ⟨bonus, hbonus, hzero, hnext⟩ := h
  have hlt : column + 1 < layout.columns := Nat.succ_lt_succ hcolumn
  refine ⟨bonus, hbonus, hzero, ?_⟩
  simp only [scoreAt] at hnext ⊢
  rw [heq _ _ (Nat.le_refl _) hlt, heq _ _ (Nat.le_succ _) (by omega),
    heq _ _ (Nat.le_refl _) (by omega), hnext]

/-- Filling a row takes a table from one row to the next. -/
theorem IsFilledTo.fillRow (hsound : layout.IsSound) (hlimit : layout.IsLimit limit) {p : Char}
    {first : Nat} (hrow : layout.IsRow row p first)
    (h : layout.IsFilledTo limit row cells) :
    layout.IsFilledTo limit (row + 1) (layout.fillRow row p first cells) := by
  have hcolumns : layout.columns = layout.text.size + 1 := rfl
  have hlt := hsound.first_lt hrow.2
  have hrows : row + 1 < layout.rows := Nat.succ_lt_succ (hsound.row_lt hrow.2)
  have hfilled := isRowFilledTo_fillRow (p := p) hlimit hrows (by omega) h.fits h.bounded
    (h.first_unreached row first hrow.2) (h.no_bonus row first (Nat.le_refl row) hrow.2)
  have hscore {r c : Nat} (hc : c < layout.columns) (hr : r ≠ row + 1) :
      layout.scoreAt (layout.fillRow row p first cells) r c = layout.scoreAt cells r c :=
    congrArg Cell.score (hfilled.frame r c hc hr)
  refine ⟨hfilled.fits, hfilled.bounded, ?_, ?_, ?_, ?_⟩
  · intro c hc
    rw [hscore hc (by omega)]
    exact h.top c hc
  · intro r f hf
    by_cases hr : r = row
    · subst hr
      obtain rfl : first = f := by simpa [hrow.2] using hf
      exact hfilled.first_unreached
    · rw [hscore (by have := hsound.first_lt hf; omega) (by omega)]
      exact h.first_unreached r f hf
  · intro r f hr hf
    rw [hfilled.frame _ _ (by have := hsound.first_lt hf; omega) (by omega)]
    exact h.no_bonus r f (by omega) hf
  · intro r q f hr hrow' c hfc hc
    by_cases hlast : r = row
    · subst hlast
      obtain rfl : p = q := by simpa [hrow.1] using hrow'.1
      obtain rfl : first = f := by simpa [hrow.2] using hrow'.2
      exact hfilled.steps c hfc hc
    · refine (h.steps r q f (by omega) hrow' c hfc hc).congr hc fun r' c' hr' hc' => ?_
      exact hfilled.frame r' c' hc' (by omega)

theorem IsFilledTo.fillRows (hsound : layout.IsSound) (hlimit : layout.IsLimit limit)
    {rest : List (Char × Nat)} (hrest : (layout.pattern.zip layout.firsts).drop row = rest)
    (h : layout.IsFilledTo limit row cells) :
    layout.IsFilled limit (layout.fillRows cells row rest) := by
  induction rest generalizing row cells with
  | nil =>
    have hend : layout.pattern.length ≤ row := by
      simpa [hsound.placement.length_eq] using hrest
    refine ⟨h.fits, h.bounded, h.top, h.first_unreached, ?_, ?_⟩
    · intro r first hr hfirst
      exact absurd (hsound.row_lt hfirst) (by omega)
    · exact fun r p first hr => h.steps r p first (by omega)
  | cons head rest ih =>
    obtain ⟨p, first⟩ := head
    have hhead : (layout.pattern.zip layout.firsts)[row]? = some (p, first) := by
      rw [← List.head?_drop, hrest, List.head?_cons]
    rw [List.getElem?_zip_eq_some] at hhead
    have hnext : (layout.pattern.zip layout.firsts).drop (row + 1) = rest := by
      rw [← List.tail_drop, hrest, List.tail_cons]
    exact ih hnext (h.fillRow hsound hlimit hhead)

/-! ## The whole table -/

theorem Fits.clearStarts {firsts : List Nat} (h : layout.Fits cells) :
    layout.Fits (layout.clearStarts cells row firsts) := by
  induction firsts generalizing cells row with
  | nil => exact h
  | cons first firsts ih => exact ih (h.put ..)

theorem bonusAtMost_clearStarts {firsts : List Nat} (hlimit : ∀ k, 0 ≤ limit k)
    (h : cells.BonusAtMost limit) : (layout.clearStarts cells row firsts).BonusAtMost limit := by
  induction firsts generalizing cells row with
  | nil => exact h
  | cons first firsts ih => exact ih (h.put (hlimit _))

/-- Clearing the starts from a row on leaves the rows before it alone. -/
theorem cellAt_clearStarts_of_lt {firsts : List Nat} (h : layout.Fits cells)
    (hrow : row + firsts.length ≤ layout.rows) (hfirsts : ∀ f ∈ firsts, f < layout.columns)
    {r c : Nat} (hr : r < row) (hc : c < layout.columns) :
    layout.cellAt (layout.clearStarts cells row firsts) r c = layout.cellAt cells r c := by
  induction firsts generalizing cells row with
  | nil => rfl
  | cons first firsts ih =>
    rw [List.length_cons] at hrow
    rw [List.forall_mem_cons] at hfirsts
    have hlt : row < layout.rows := by omega
    rw [clearStarts, ih (h.put ..) (by omega) hfirsts.2 (by omega), cellAt_put h hlt hfirsts.1 hc,
      if_neg (by omega)]

/-- Clearing the starts clears them all. -/
theorem cellAt_clearStarts {firsts : List Nat} (h : layout.Fits cells)
    (hrow : row + firsts.length ≤ layout.rows) (hfirsts : ∀ f ∈ firsts, f < layout.columns)
    {i first : Nat} (hi : firsts[i]? = some first) :
    layout.cellAt (layout.clearStarts cells row firsts) (row + i) first = .fresh := by
  induction firsts generalizing cells row i with
  | nil => simp at hi
  | cons head firsts ih =>
    rw [List.length_cons] at hrow
    rw [List.forall_mem_cons] at hfirsts
    have hlt : row < layout.rows := by omega
    cases i with
    | zero =>
      obtain rfl : head = first := by simpa using hi
      rw [Nat.add_zero, clearStarts, cellAt_clearStarts_of_lt (h.put ..) (by omega) hfirsts.2
        (Nat.lt_succ_self row) hfirsts.1, cellAt_put h hlt hfirsts.1 hfirsts.1, if_pos ⟨rfl, rfl⟩]
    | succ i =>
      have hrest : row + 1 + firsts.length ≤ layout.rows := by omega
      have hfresh := ih (h.put (layout.place row head) .fresh) hrest hfirsts.2 hi
      rwa [Nat.add_assoc, Nat.add_comm 1] at hfresh

/-- Clearing the top row up to a column, and all else as it was. -/
structure IsTopClearedTo (layout : Layout) (limit : Nat → Int) (start : Cells) (column : Nat)
    (cells : Cells) : Prop where
  fits : layout.Fits cells
  bounded : cells.BonusAtMost limit
  frame : ∀ r c, c < layout.columns → r ≠ 0 → layout.cellAt cells r c = layout.cellAt start r c
  top : ∀ c, c < column → layout.scoreAt cells 0 c = .top

theorem isTopClearedTo_clearTop (hlimit : ∀ k, 0 ≤ limit k) (hfits : layout.Fits cells)
    (hbounded : cells.BonusAtMost limit) :
    layout.IsTopClearedTo limit cells layout.columns (layout.clearTop cells) := by
  have hinit : layout.IsTopClearedTo limit cells 0 cells :=
    ⟨hfits, hbounded, fun _ _ _ _ => rfl, fun c hc => absurd hc (Nat.not_lt_zero c)⟩
  have hrows : 0 < layout.rows := Nat.succ_pos _
  have hstep : ∀ k x, 0 ≤ k → k < 0 + layout.columns →
      layout.IsTopClearedTo limit cells k x →
      layout.IsTopClearedTo limit cells (k + 1)
        (x.put (layout.place 0 k) { Cell.fresh with gap := -gapMore }) := by
    intro k x _ hk hx
    have hk : k < layout.columns := by omega
    refine ⟨hx.fits.put .., hx.bounded.put (hlimit _), fun r c hc hr => ?_, fun c hc => ?_⟩
    · rw [cellAt_put hx.fits hrows hk hc, if_neg (fun heq => hr heq.1)]
      exact hx.frame r c hc hr
    · rw [scoreAt, cellAt_put hx.fits hrows hk (by omega)]
      split
      · rfl
      · exact hx.top c (by omega)
  have hcleared := foldl_range'_induction hinit hstep
  rwa [Nat.zero_add, ← List.range_eq_range'] at hcleared

end Rows

/-- **`fill` fills the table**, whatever the storage held before but for the limit on bonuses. -/
theorem isFilled_fill (hsound : layout.IsSound) {limit : Nat → Int}
    (hlimit : layout.IsLimit limit) {cells : Cells} (hbounded : cells.BonusAtMost limit) :
    layout.IsFilled limit (layout.fill cells) := by
  let sized := cells.fit (layout.rows * layout.columns)
  let started := layout.clearStarts sized 1 layout.firsts
  have hsized : layout.Fits sized := Cells.size_fit ..
  have hfits : layout.Fits started := hsized.clearStarts
  have hstarted : started.BonusAtMost limit :=
    bonusAtMost_clearStarts hlimit.nonneg (hbounded.fit hlimit.nonneg _)
  have hcleared := isTopClearedTo_clearTop hlimit.nonneg hfits hstarted
  have hlength : 1 + layout.firsts.length ≤ layout.rows := by
    rw [hsound.placement.length_eq, rows, Nat.add_comm]
  have hfirsts : ∀ f ∈ layout.firsts, f < layout.columns := by
    intro f hf
    obtain ⟨i, hi⟩ := List.mem_iff_getElem?.1 hf
    exact Nat.lt_succ_of_lt (hsound.first_lt hi)
  have hfresh : ∀ r first, layout.firsts[r]? = some first →
      layout.cellAt (layout.clearTop started) (r + 1) first = .fresh := by
    intro r first hfirst
    rw [hcleared.frame _ _ (hfirsts _ (List.mem_of_getElem? hfirst)) (by omega), Nat.add_comm]
    exact cellAt_clearStarts hsized hlength hfirsts hfirst
  have hstart : layout.IsFilledTo limit 0 (layout.clearTop started) :=
    ⟨hcleared.fits, hcleared.bounded, hcleared.top,
      fun r first hfirst => congrArg Cell.score (hfresh r first hfirst),
      fun r first _ hfirst => congrArg Cell.bonus (hfresh r first hfirst),
      fun r p first hr => absurd hr (Nat.not_lt_zero r)⟩
  exact hstart.fillRows hsound hlimit List.drop_zero

end Layout
end EditorKit.Search
