import EditorKit.Proofs.Search.Alignment

/-!
# The cells of a table

How the search for an alignment reads and writes its storage, cell by cell.

* `Score` is all of a cell but its bonus, and `Score.next` the step of the recursion that scores
  follow;
* `Cells.BonusAtMost` bounds what a search can find in its storage;
* `Layout.fillCell_eq` says what computing one cell does.
-/

namespace EditorKit.Search

/-! ## Storage -/

namespace Cells

@[simp] theorem size_put (cells : Cells) (k : Nat) (cell : Cell) :
    (cells.put k cell).size = cells.size := by
  simp [put]

theorem put_of_size_le {cells : Cells} {k : Nat} (hk : cells.size ≤ k) (cell : Cell) :
    cells.put k cell = cells :=
  Array.setIfInBounds_eq_of_size_le hk

theorem get_put {cells : Cells} {k : Nat} (hk : k < cells.size) (cell : Cell) (j : Nat) :
    (cells.put k cell).get j = if j = k then cell else cells.get j := by
  simp only [get, put, Array.getD_eq_getD_getElem?, Array.getElem?_setIfInBounds]
  by_cases h : j = k
  · subst h
    simp [hk]
  · simp [h, Ne.symm h]

theorem put_get (cells : Cells) (k : Nat) : cells.put k (cells.get k) = cells := by
  by_cases hk : k < cells.size
  · have hget : cells.get k = cells[k] := by simp [get, hk]
    rw [put, hget, Array.setIfInBounds, dif_pos hk, Array.set_getElem_self]
  · exact put_of_size_le (by omega) _

@[simp] theorem size_fit (cells : Cells) (size : Nat) : (cells.fit size).size = size := by
  simp only [fit, Array.size_append, Array.take_eq_extract, Array.size_extract,
    Array.size_replicate]
  omega

/-- Whether no bonus in the storage is greater than the limit of its place. -/
def BonusAtMost (limit : Nat → Int) (cells : Cells) : Prop := ∀ k, (cells.get k).bonus ≤ limit k

theorem BonusAtMost.put {limit : Nat → Int} {cells : Cells} (h : cells.BonusAtMost limit)
    {k : Nat} {cell : Cell} (hcell : cell.bonus ≤ limit k) :
    (cells.put k cell).BonusAtMost limit := by
  intro j
  by_cases hk : k < cells.size
  · rw [get_put hk]
    split
    · rename_i hj
      rwa [hj]
    · exact h j
  · rw [put_of_size_le (by omega)]
    exact h j

theorem BonusAtMost.fit {limit : Nat → Int} {cells : Cells} (h : cells.BonusAtMost limit)
    (hlimit : ∀ k, 0 ≤ limit k) (size : Nat) : (cells.fit size).BonusAtMost limit := by
  intro j
  -- a cell is one from before or a fresh one
  have hj : (cells.fit size).get j = cells.get j ∨ (cells.fit size).get j = .fresh := by
    simp only [get, Cells.fit, Array.getD_eq_getD_getElem?, Array.getElem?_append,
      Array.take_eq_extract, Array.getElem?_extract, Array.getElem?_replicate, Nat.zero_add]
    split
    · split
      · exact .inl rfl
      · exact .inr rfl
    · split
      · exact .inr rfl
      · exact .inr rfl
  rcases hj with hj | hj
  · rw [hj]
    exact h j
  · rw [hj]
    exact hlimit j

theorem bonusAtMost_empty {limit : Nat → Int} (hlimit : ∀ k, 0 ≤ limit k) :
    BonusAtMost limit #[] :=
  fun k => hlimit k

end Cells

/-! ## Scores -/

/-- The scores of a cell with the moves that lead to them: all of the cell but its bonus. -/
structure Score where
  hit : Int
  hitMove : Move
  gap : Int
  gapMove : Move

namespace Cell

/-- The scores of a cell. -/
def score (cell : Cell) : Score := ⟨cell.hit, cell.hitMove, cell.gap, cell.gapMove⟩

/-- The cell with some scores and a bonus. -/
def ofScore (score : Score) (bonus : Int) : Cell :=
  ⟨score.hit, score.hitMove, score.gap, score.gapMove, bonus⟩

@[simp] theorem score_ofScore (score : Score) (bonus : Int) :
    (ofScore score bonus).score = score := rfl

@[simp] theorem bonus_ofScore (score : Score) (bonus : Int) :
    (ofScore score bonus).bonus = bonus := rfl

@[simp] theorem score_with_bonus (cell : Cell) (bonus : Int) :
    { cell with bonus }.score = cell.score := rfl

end Cell

namespace Score

/-- The scores of a cell that nothing has reached. -/
def unreached : Score := Cell.fresh.score

/-- The scores before the pattern. -/
def top : Score := ⟨noScore, .gap, -gapMore, .gap⟩

/-- What a hit behind another hit earns, from the bonus of the cell to the left and that of the
place. -/
def runEarning (bonus place : Int) : Int := max (max bonus place) runBonus

/-- The better of two ways into a cell, with a preference for the one behind a hit. -/
def best (viaHit viaGap : Int) : Int × Move :=
  if viaGap ≤ viaHit then (viaHit, .hit) else (viaGap, .gap)

theorem best_of_lt {viaHit viaGap : Int} (h : viaHit < viaGap) :
    best viaHit viaGap = (viaGap, .gap) :=
  if_neg (Int.not_le.2 h)

theorem le_best (viaHit viaGap : Int) :
    viaHit ≤ (best viaHit viaGap).1 ∧ viaGap ≤ (best viaHit viaGap).1 := by
  rw [best]
  split
  · exact ⟨Int.le_refl _, ‹_›⟩
  · exact ⟨by omega, Int.le_refl _⟩

/-- The scores that come from those on the diagonal and to the left. -/
def next (isHit : Bool) (bonus place : Int) (diagonal left : Score) : Score :=
  let byHit := best (diagonal.hit + runEarning bonus place) (diagonal.gap + place)
  let byGap := best (left.hit - gapStart) (left.gap - gapMore)
  if isHit then ⟨byHit.1 + hitScore, byHit.2, byGap.1, byGap.2⟩
  else ⟨noScore, .gap, byGap.1, byGap.2⟩

section Next

variable (isHit : Bool) (bonus place : Int) (diagonal left : Score)

theorem hit_next_true : (next true bonus place diagonal left).hit =
    (best (diagonal.hit + runEarning bonus place) (diagonal.gap + place)).1 + hitScore := rfl

theorem hitMove_next_true : (next true bonus place diagonal left).hitMove =
    (best (diagonal.hit + runEarning bonus place) (diagonal.gap + place)).2 := rfl

theorem hit_next_false : (next false bonus place diagonal left).hit = noScore := rfl

theorem gap_next : (next isHit bonus place diagonal left).gap =
    (best (left.hit - gapStart) (left.gap - gapMore)).1 := by
  cases isHit with
  | true => rfl
  | false => rfl

theorem gapMove_next : (next isHit bonus place diagonal left).gapMove =
    (best (left.hit - gapStart) (left.gap - gapMore)).2 := by
  cases isHit with
  | true => rfl
  | false => rfl

/-- A bonus counts for no more than a hit behind another one earns with it. -/
theorem next_congr {bonus' : Int} (h : runEarning bonus place = runEarning bonus' place) :
    next isHit bonus place diagonal left = next isHit bonus' place diagonal left := by
  rw [next, next, h]

/-- Only a hit looks at the bonus. -/
theorem next_false_eq (bonus' : Int) :
    next false bonus place diagonal left = next false bonus' place diagonal left := rfl

end Next

end Score

/-! ## Places -/

namespace Layout

variable {layout : Layout}

/-- The cell at a row and a column. -/
def cellAt (layout : Layout) (cells : Cells) (row column : Nat) : Cell :=
  cells.get (layout.place row column)

/-- Whether the storage has the size of the table. -/
def Fits (layout : Layout) (cells : Cells) : Prop := cells.size = layout.rows * layout.columns

theorem place_lt {row column : Nat} (hrow : row < layout.rows) (hcolumn : column < layout.columns) :
    layout.place row column < layout.rows * layout.columns := by
  have hle : (row + 1) * layout.columns ≤ layout.rows * layout.columns :=
    Nat.mul_le_mul_right _ hrow
  rw [Nat.add_mul, Nat.one_mul] at hle
  show row * layout.columns + column < _
  omega

/-- The column of a place. -/
theorem place_mod_columns {row column : Nat} (hcolumn : column < layout.columns) :
    layout.place row column % layout.columns = column := by
  rw [place, Nat.mul_comm, Nat.mul_add_mod, Nat.mod_eq_of_lt hcolumn]

/-- Different rows or columns have different places. -/
theorem place_inj {row column r c : Nat} (hcolumn : column < layout.columns)
    (hc : c < layout.columns) :
    layout.place r c = layout.place row column ↔ r = row ∧ c = column := by
  constructor
  · intro h
    have hpos : 0 < layout.columns := by omega
    have hdiv := congrArg (· / layout.columns) h
    have hmod := congrArg (· % layout.columns) h
    simp only [place_mod_columns hc, place_mod_columns hcolumn] at hmod
    simp only [place] at hdiv
    rw [Nat.mul_comm r, Nat.mul_comm row, Nat.mul_add_div hpos, Nat.mul_add_div hpos,
      Nat.div_eq_of_lt hc, Nat.div_eq_of_lt hcolumn] at hdiv
    exact ⟨by omega, hmod⟩
  · rintro ⟨rfl, rfl⟩
    rfl

theorem Fits.put {cells : Cells} (h : layout.Fits cells) (k : Nat) (cell : Cell) :
    layout.Fits (cells.put k cell) := by
  rw [Fits, Cells.size_put, h]

/-- Putting a cell at a place changes that place alone. -/
theorem cellAt_put {cells : Cells} (h : layout.Fits cells) {row column r c : Nat}
    (hrow : row < layout.rows) (hcolumn : column < layout.columns) (hc : c < layout.columns)
    (cell : Cell) :
    layout.cellAt (cells.put (layout.place row column) cell) r c =
      if r = row ∧ c = column then cell else layout.cellAt cells r c := by
  rw [cellAt, Cells.get_put (h ▸ place_lt hrow hcolumn)]
  simp only [place_inj hcolumn hc]
  rfl

/-! ## One cell -/

/-- What the search reads when it computes the cell at `row + 1` and `column + 1`: whether the
pattern character stands there, the bonus of the cell to the left, and that of the place. -/
def isHitAt (layout : Layout) (p : Char) (column : Nat) : Bool := layout.text[column]? = some p

/-- The bonus of the place of the text character at `column`. -/
def placeBonusAt (layout : Layout) (column : Nat) : Int := layout.bonuses.getD (column + 1) 0

/-- The cell at `row + 1` and `column + 1` after it is computed. -/
def filledCell (layout : Layout) (row : Nat) (p : Char) (cells : Cells) (column : Nat) : Cell :=
  .ofScore
    (.next (layout.isHitAt p column) (layout.cellAt cells (row + 1) column).bonus
      (layout.placeBonusAt column) (layout.cellAt cells row column).score
      (layout.cellAt cells (row + 1) column).score)
    (if layout.isHitAt p column then (layout.cellAt cells (row + 1) (column + 1)).bonus else 0)

/-- The cell at `row + 1` and `column` after the cell behind it is computed. -/
def passedCell (layout : Layout) (row : Nat) (p : Char) (cells : Cells) (column : Nat) : Cell :=
  let left := layout.cellAt cells (row + 1) column
  if layout.isHitAt p column then
    { left with bonus := Score.runEarning left.bonus (layout.placeBonusAt column) }
  else left

@[simp] theorem score_passedCell (row : Nat) (p : Char) (cells : Cells) (column : Nat) :
    (layout.passedCell row p cells column).score =
      (layout.cellAt cells (row + 1) column).score := by
  rw [passedCell]
  split <;> simp

/-- Computing a cell puts that cell, and the one to its left with a new bonus. -/
theorem fillCell_eq (row : Nat) (p : Char) (cells : Cells) (column : Nat) :
    layout.fillCell row p cells (column + 1) =
      (cells.put (layout.place (row + 1) column) (layout.passedCell row p cells column)).put
        (layout.place (row + 1) (column + 1)) (layout.filledCell row p cells column) := by
  rw [fillCell]
  simp only [Nat.add_sub_cancel, ge_iff_le, passedCell, filledCell, cellAt, placeBonusAt]
  by_cases hhit : layout.text[column]? = some p
  · have hisHit : layout.isHitAt p column = true := by simpa [isHitAt] using hhit
    simp only [if_pos hhit, hisHit, if_true]
    generalize cells.get (layout.place (row + 1) column) = left
    generalize cells.get (layout.place row column) = diagonal
    congr 1
    simp only [Cell.ofScore, Score.next, Score.best, Score.runEarning, Cell.score]
    split <;> split <;> simp only [*, if_true, if_false]
  · have hisHit : layout.isHitAt p column = false := by simpa [isHitAt] using hhit
    simp only [if_neg hhit, hisHit, Bool.false_eq_true, if_false, Cells.put_get]
    generalize cells.get (layout.place (row + 1) column) = left
    congr 1
    simp only [Cell.ofScore, Score.next, Score.best, Cell.score]
    split <;> simp only [*, Bool.false_eq_true, if_true, if_false]

/-- The scores at a row and a column. -/
def scoreAt (layout : Layout) (cells : Cells) (row column : Nat) : Score :=
  (layout.cellAt cells row column).score

/-- Computing a cell changes no score but that of the cell. -/
theorem scoreAt_fillCell {cells : Cells} (h : layout.Fits cells) {row column : Nat} {p : Char}
    (hrow : row + 1 < layout.rows) (hcolumn : column + 1 < layout.columns) {r c : Nat}
    (hc : c < layout.columns) :
    layout.scoreAt (layout.fillCell row p cells (column + 1)) r c =
      if r = row + 1 ∧ c = column + 1 then (layout.filledCell row p cells column).score
      else layout.scoreAt cells r c := by
  rw [scoreAt, fillCell_eq, cellAt_put (h.put ..) hrow hcolumn hc]
  split
  · rfl
  · rw [cellAt_put h hrow (Nat.lt_of_succ_lt hcolumn) hc]
    split
    · rename_i hleft
      rw [score_passedCell, hleft.1, hleft.2, scoreAt]
    · rfl

theorem bonus_fillCell {cells : Cells} (h : layout.Fits cells) {row column : Nat} {p : Char}
    (hrow : row + 1 < layout.rows) (hcolumn : column + 1 < layout.columns)
    (hmiss : layout.text[column]? ≠ some p) :
    (layout.cellAt (layout.fillCell row p cells (column + 1)) (row + 1) (column + 1)).bonus =
      0 := by
  have hisHit : layout.isHitAt p column = false := by simpa [isHitAt] using hmiss
  rw [fillCell_eq, cellAt_put (h.put ..) hrow hcolumn hcolumn, if_pos ⟨rfl, rfl⟩]
  simp [filledCell, hisHit]

/-- Whether a limit on bonuses leaves room for what a hit in any column earns. -/
def IsLimit (layout : Layout) (limit : Nat → Int) : Prop :=
  ∀ k, Score.runEarning 0 (layout.placeBonusAt (k % layout.columns)) ≤ limit k

theorem IsLimit.nonneg {limit : Nat → Int} (h : layout.IsLimit limit) (k : Nat) : 0 ≤ limit k := by
  have hk := h k
  simp only [Score.runEarning, runBonus] at hk
  omega

theorem IsLimit.runEarning_le {limit : Nat → Int} (h : layout.IsLimit limit) {row column : Nat}
    (hcolumn : column < layout.columns) {bonus : Int}
    (hbonus : bonus ≤ limit (layout.place row column)) :
    Score.runEarning bonus (layout.placeBonusAt column) ≤ limit (layout.place row column) := by
  have hk := h (layout.place row column)
  rw [place_mod_columns hcolumn] at hk
  simp only [Score.runEarning] at hk ⊢
  omega

theorem bonusAtMost_fillCell {limit : Nat → Int} (hlimit : layout.IsLimit limit) {cells : Cells}
    (h : cells.BonusAtMost limit) (row : Nat) (p : Char) {column : Nat}
    (hcolumn : column + 1 < layout.columns) :
    (layout.fillCell row p cells (column + 1)).BonusAtMost limit := by
  rw [fillCell_eq]
  refine (h.put ?_).put ?_
  · rw [passedCell]
    split
    · exact hlimit.runEarning_le (Nat.lt_of_succ_lt hcolumn) (h _)
    · exact h _
  · rw [filledCell, Cell.bonus_ofScore]
    split
    · exact h _
    · exact hlimit.nonneg _

end Layout
end EditorKit.Search
