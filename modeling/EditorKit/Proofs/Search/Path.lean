import EditorKit.Proofs.Search.Table

/-!
# The way back through a table

The way back from the best column stays on cells that an alignment can reach. In a filled table a
hit that is none has a score far below that of the gap beside it, and in front of the first place of
a pattern character it is the gap that cannot be, so no move leads to either. This holds as long as
the scores of long gaps stay above `noScore`, which they do in texts of at most 32765 characters.

* `IsFilled.le_hit` and `IsFilled.le_gap` bound the scores that an alignment reaches from below, by
  induction on the rows;
* `IsOnPath` is what the way back keeps: `isOnPath_bestColumn` says that it starts there, and
  `IsOnPath.hit` and `IsOnPath.gap` that no move leaves it.
-/

namespace EditorKit.Search
namespace Layout

variable {layout : Layout}

section Rows

variable {row : Nat} {p : Char} {first : Nat}

theorem IsSound.isHitAt_first (h : layout.IsSound) (hrow : layout.IsRow row p first) :
    layout.isHitAt p first := by
  have hspelled := h.placement.spelled row first hrow.2
  rw [hrow.1, Array.getElem?_toList] at hspelled
  simp [isHitAt, hspelled]

/-- A row after the first one has a row before it, whose first place is before its own. -/
theorem IsSound.isRow_pred (h : layout.IsSound) (hrow : layout.IsRow (row + 1) p first) :
    ∃ q f, layout.IsRow row q f ∧ f < first := by
  have hlt : row < layout.pattern.length := Nat.lt_of_succ_lt (h.row_lt hrow.2)
  have hlt' : row < layout.firsts.length := by rwa [h.placement.length_eq]
  have hf : layout.firsts[row]? = some layout.firsts[row] := List.getElem?_eq_getElem hlt'
  have hless := h.placement.lt_of_lt (Nat.lt_succ_self row) hf hrow.2
  exact ⟨_, _, ⟨List.getElem?_eq_getElem hlt, hf⟩, hless⟩

/-- The last row is that of the last pattern character. -/
theorem IsSound.isRow_last (h : layout.IsSound) (hrow : layout.pattern.length = row + 1) :
    ∃ q, layout.IsRow row q (layout.firsts.getLastD 0) := by
  have hlt : row < layout.pattern.length := by omega
  have hlength := h.placement.length_eq
  have hlast : layout.firsts.getLast? = some layout.firsts[row] := by
    rw [List.getLast?_eq_getElem?, List.getElem?_eq_getElem (by omega)]
    congr 2
    omega
  refine ⟨layout.pattern[row], List.getElem?_eq_getElem hlt, ?_⟩
  rw [List.getLastD_eq_getLast?, hlast]
  exact List.getElem?_eq_getElem (by omega)

end Rows

/-! ## Bounds of the scores -/

section Bounds

variable {limit : Nat → Int} {table : Cells} {row : Nat} {p : Char} {first column : Nat}

theorem IsFilled.steps_of_isRow (h : layout.IsFilled limit table) (hsound : layout.IsSound)
    (hrow : layout.IsRow row p first) (hfirst : first ≤ column)
    (hcolumn : column < layout.text.size) : layout.StepsTo limit table row p first column :=
  h.steps row p first (hsound.row_lt hrow.2) hrow column hfirst hcolumn

theorem runBonus_le_runEarning (bonus place : Int) : runBonus ≤ Score.runEarning bonus place := by
  simp only [Score.runEarning]
  omega

/-- A hit costs nothing beside the way into it, and earns `hitScore`. -/
theorem StepsTo.le_hit (h : layout.StepsTo limit table row p first column)
    (hhit : layout.isHitAt p column) :
    (layout.scoreAt table row column).hit + runBonus + hitScore ≤
        (layout.scoreAt table (row + 1) (column + 1)).hit ∧
      (layout.scoreAt table row column).gap + layout.placeBonusAt column + hitScore ≤
        (layout.scoreAt table (row + 1) (column + 1)).hit := by
  obtain ⟨bonus, -, -, hnext⟩ := h
  have hrun := runBonus_le_runEarning bonus (layout.placeBonusAt column)
  have hbest := Score.le_best
    ((layout.scoreAt table row column).hit + Score.runEarning bonus (layout.placeBonusAt column))
    ((layout.scoreAt table row column).gap + layout.placeBonusAt column)
  rw [hnext, hhit, Score.hit_next_true]
  omega

/-- A gap costs no more than one behind the hit or the gap to the left. -/
theorem StepsTo.le_gap (h : layout.StepsTo limit table row p first column) :
    (layout.scoreAt table (row + 1) column).hit - gapStart ≤
        (layout.scoreAt table (row + 1) (column + 1)).gap ∧
      (layout.scoreAt table (row + 1) column).gap - gapMore ≤
        (layout.scoreAt table (row + 1) (column + 1)).gap := by
  obtain ⟨bonus, -, -, hnext⟩ := h
  rw [hnext, Score.gap_next]
  exact Score.le_best _ _

/-- What is no hit has no score. -/
theorem StepsTo.hit_of_miss (h : layout.StepsTo limit table row p first column)
    (hmiss : layout.isHitAt p column = false) :
    (layout.scoreAt table (row + 1) (column + 1)).hit = noScore := by
  obtain ⟨bonus, -, -, hnext⟩ := h
  rw [hnext, hmiss, Score.hit_next_false]

/-- Behind the first place there are gaps as good as the hits before them. -/
theorem IsFilled.le_gap_of_le_hit (h : layout.IsFilled limit table) (hsound : layout.IsSound)
    (hrow : layout.IsRow row p first)
    (hhit : 15 - (first : Int) ≤ (layout.scoreAt table (row + 1) (first + 1)).hit)
    (hfirst : first < column) (hcolumn : column < layout.text.size) :
    12 - (column : Int) ≤ (layout.scoreAt table (row + 1) (column + 1)).gap := by
  induction column with
  | zero => omega
  | succ column ih =>
    have hstep := (h.steps_of_isRow hsound hrow (by omega) hcolumn).le_gap
    simp only [gapStart, gapMore] at hstep
    by_cases heq : first = column
    · subst heq
      have hgap := hstep.1
      push_cast at *
      omega
    · have hbefore := ih (by omega) (by omega)
      have hgap := hstep.2
      push_cast at *
      omega

/-- Every hit from the first place on is reached. -/
theorem IsFilled.le_hit (h : layout.IsFilled limit table) (hsound : layout.IsSound)
    (hrow : layout.IsRow row p first) (hfirst : first ≤ column)
    (hcolumn : column < layout.text.size) (hhit : layout.isHitAt p column) :
    15 - (column : Int) ≤ (layout.scoreAt table (row + 1) (column + 1)).hit := by
  induction row generalizing p first column with
  | zero =>
    have hstep := ((h.steps_of_isRow hsound hrow hfirst hcolumn).le_hit hhit).2
    have hplace := hsound.place_nonneg column
    rw [h.top column (Nat.lt_succ_of_lt hcolumn)] at hstep
    simp only [Score.top, gapMore, hitScore] at hstep
    omega
  | succ row ih =>
    have hstep := (h.steps_of_isRow hsound hrow hfirst hcolumn).le_hit hhit
    have hplace := hsound.place_nonneg column
    simp only [runBonus, hitScore] at hstep
    obtain ⟨q, f, hrow', hless⟩ := hsound.isRow_pred hrow
    obtain ⟨c, rfl⟩ : ∃ c, column = c + 1 := ⟨column - 1, by omega⟩
    have hbefore := ih hrow' (Nat.le_refl f) (by omega) (hsound.isHitAt_first hrow')
    by_cases heq : f = c
    · -- a hit behind the first place of the character before
      subst heq
      have hhit := hstep.1
      push_cast at *
      omega
    · -- a hit behind a gap
      have hgap := h.le_gap_of_le_hit hsound hrow' hbefore (by omega : f < c) (by omega)
      have hhit := hstep.2
      push_cast at *
      omega

/-- Every gap behind the first place is reached. -/
theorem IsFilled.le_gap (h : layout.IsFilled limit table) (hsound : layout.IsSound)
    (hrow : layout.IsRow row p first) (hfirst : first < column)
    (hcolumn : column < layout.text.size) :
    12 - (column : Int) ≤ (layout.scoreAt table (row + 1) (column + 1)).gap :=
  h.le_gap_of_le_hit hsound hrow
    (h.le_hit hsound hrow (Nat.le_refl first) (by omega) (hsound.isHitAt_first hrow)) hfirst hcolumn

end Bounds

/-! ## The path -/

/-- The length of a text up to which every gap scores more than what cannot be. -/
def maxLength : Nat := 32765

section Path

variable {limit : Nat → Int} {table : Cells} {row : Nat} {p : Char} {first column : Nat}

/-- Beside what is no hit there is a gap that scores more, whatever a hit there would earn. -/
theorem IsFilled.hit_lt_gap (h : layout.IsFilled limit table) (hsound : layout.IsSound)
    (hsize : layout.text.size ≤ maxLength) (hrow : layout.IsRow row p first)
    (hfirst : first ≤ column) (hcolumn : column + 1 < layout.text.size)
    (hmiss : layout.isHitAt p column = false) :
    (layout.scoreAt table (row + 1) (column + 1)).hit + 16 <
      (layout.scoreAt table (row + 1) (column + 1)).gap := by
  have hne : first ≠ column := by
    intro heq
    have hhit := hsound.isHitAt_first hrow
    rw [heq, hmiss] at hhit
    contradiction
  have hlt : column < layout.text.size := by omega
  have hnone := (h.steps_of_isRow hsound hrow hfirst hlt).hit_of_miss hmiss
  have hgap := h.le_gap hsound hrow (by omega) hlt
  rw [maxLength] at hsize
  rw [hnone, noScore]
  omega

/-- In front of the hit on the first place there is no gap. -/
theorem IsFilled.gap_lt_hit (h : layout.IsFilled limit table) (hsound : layout.IsSound)
    (hsize : layout.text.size ≤ maxLength) (hrow : layout.IsRow row p first) :
    (layout.scoreAt table (row + 1) (first + 1)).gap + 16 <
      (layout.scoreAt table (row + 1) (first + 1)).hit := by
  have hfirst := hsound.first_lt hrow.2
  have hhit := h.le_hit hsound hrow (Nat.le_refl first) hfirst (hsound.isHitAt_first hrow)
  have hgap : (layout.scoreAt table (row + 1) (first + 1)).gap = noScore - gapMore := by
    obtain ⟨bonus, -, -, hnext⟩ := h.steps_of_isRow hsound hrow (Nat.le_refl first) hfirst
    rw [h.first_unreached row first hrow.2] at hnext
    rw [hnext, Score.gap_next]
    rfl
  rw [maxLength] at hsize
  rw [hgap, noScore, gapMore]
  omega

/-- Whether the way back may come to a cell with a move: with a hit on a hit from the first place of
the row on, and with a gap behind that first place. The way ends in the row before the pattern. -/
def IsOnPath (layout : Layout) : (row column : Nat) → Move → Prop
  | 0, _, _ => True
  | row + 1, column, .hit =>
    ∃ p first, layout.IsRow row p first ∧ first < column ∧ column ≤ layout.text.size ∧
      layout.isHitAt p (column - 1)
  | row + 1, column, .gap =>
    ∃ p first, layout.IsRow row p first ∧ first + 1 < column ∧ column ≤ layout.text.size

/-- The better of the two ways through a cell stays on the path, if what they earn from there on
differs by no more than 16. -/
theorem IsFilled.isOnPath_best (h : layout.IsFilled limit table) (hsound : layout.IsSound)
    (hsize : layout.text.size ≤ maxLength) (hrow : layout.IsRow row p first)
    (hfirst : first ≤ column) (hcolumn : column + 1 < layout.text.size) {byHit byGap : Int}
    (hle : byHit ≤ byGap + 16) (hge : byGap ≤ byHit + 16) :
    layout.IsOnPath (row + 1) (column + 1)
      (Score.best ((layout.scoreAt table (row + 1) (column + 1)).hit + byHit)
        ((layout.scoreAt table (row + 1) (column + 1)).gap + byGap)).2 := by
  rw [Score.best]
  split
  · rename_i hbetter
    have hhit : layout.isHitAt p column := by
      by_contra hmiss
      have hlt := h.hit_lt_gap hsound hsize hrow hfirst hcolumn (by simpa using hmiss)
      omega
    exact ⟨p, first, hrow, by omega, by omega, hhit⟩
  · rename_i hworse
    have hbehind : first < column := by
      by_contra hfirst'
      obtain rfl : first = column := by omega
      have hlt := h.gap_lt_hit hsound hsize hrow
      omega
    exact ⟨p, first, hrow, by omega, by omega⟩

/-- A hit leads to the row before and stays on the path. -/
theorem IsOnPath.hit (h : layout.IsFilled limit table) (hsound : layout.IsSound)
    (hlimit : ∀ k, limit k ≤ 16) (hsize : layout.text.size ≤ maxLength)
    (hpath : layout.IsOnPath (row + 1) (column + 1) .hit) :
    layout.IsOnPath row column (layout.scoreAt table (row + 1) (column + 1)).hitMove := by
  obtain ⟨p, first, hrow, hfirst, hcolumn, hhit⟩ := hpath
  rw [Nat.add_sub_cancel] at hhit
  cases row with
  | zero => trivial
  | succ row =>
    obtain ⟨q, f, hrow', hless⟩ := hsound.isRow_pred hrow
    obtain ⟨c, rfl⟩ : ∃ c, column = c + 1 := ⟨column - 1, by omega⟩
    have hlt : c + 1 < layout.text.size := hcolumn
    have hle : first ≤ c + 1 := by omega
    obtain ⟨bonus, hbonus, -, hnext⟩ := h.steps_of_isRow hsound hrow hle hlt
    have hplace := hsound.place_nonneg (c + 1)
    have hplace' := hsound.place_le (c + 1)
    have hbonus' := hlimit (layout.place (row + 1 + 1) (c + 1))
    have hrun : Score.runEarning bonus (layout.placeBonusAt (c + 1)) ≤ 16 := by
      simp only [Score.runEarning, runBonus]
      omega
    have hrun' := runBonus_le_runEarning bonus (layout.placeBonusAt (c + 1))
    rw [runBonus] at hrun'
    rw [hnext, hhit, Score.hitMove_next_true]
    exact h.isOnPath_best hsound hsize hrow' (by omega) hlt (by omega) (by omega)

/-- A gap stays in its row and on the path. -/
theorem IsOnPath.gap (h : layout.IsFilled limit table) (hsound : layout.IsSound)
    (hsize : layout.text.size ≤ maxLength)
    (hpath : layout.IsOnPath (row + 1) (column + 1) .gap) :
    layout.IsOnPath (row + 1) column (layout.scoreAt table (row + 1) (column + 1)).gapMove := by
  obtain ⟨p, first, hrow, hfirst, hcolumn⟩ := hpath
  obtain ⟨c, rfl⟩ : ∃ c, column = c + 1 := ⟨column - 1, by omega⟩
  have hlt : c + 1 < layout.text.size := hcolumn
  have hle : first ≤ c + 1 := by omega
  obtain ⟨bonus, -, -, hnext⟩ := h.steps_of_isRow hsound hrow hle hlt
  have hmove : (layout.scoreAt table (row + 1) (c + 1 + 1)).gapMove =
      (Score.best ((layout.scoreAt table (row + 1) (c + 1)).hit + -gapStart)
        ((layout.scoreAt table (row + 1) (c + 1)).gap + -gapMore)).2 := by
    rw [hnext, Score.gapMove_next]
    rfl
  rw [hmove]
  exact h.isOnPath_best hsound hsize hrow (by omega) hlt (by decide) (by decide)

/-! ## The best column -/

/-- What the search for the best column picks scores no less than any other. -/
theorem le_foldl_best (score : Nat → Int) (start : Nat) (columns : List Nat) :
    ∀ c ∈ start :: columns, score c ≤
      score (columns.foldl (fun best column => if score best ≤ score column then column else best)
        start) := by
  induction columns generalizing start with
  | nil => simp
  | cons column columns ih =>
    intro c hc
    rw [List.foldl_cons]
    have hnext := ih (if score start ≤ score column then column else start)
    have hpicked : score start ≤ score (if score start ≤ score column then column else start) ∧
        score column ≤ score (if score start ≤ score column then column else start) := by
      split
      · exact ⟨‹_›, Int.le_refl _⟩
      · exact ⟨Int.le_refl _, by omega⟩
    have hkept := hnext _ (List.mem_cons_self ..)
    rw [List.mem_cons, List.mem_cons] at hc
    rcases hc with rfl | rfl | hc
    · exact Int.le_trans hpicked.1 hkept
    · exact Int.le_trans hpicked.2 hkept
    · exact hnext c (List.mem_cons_of_mem _ hc)

theorem le_hit_bestColumn {column : Nat} (h : column ∈ layout.lastColumns) :
    (layout.scoreAt table layout.pattern.length column).hit ≤
      (layout.scoreAt table layout.pattern.length (layout.bestColumn table)).hit :=
  le_foldl_best (fun column => (layout.scoreAt table layout.pattern.length column).hit) _ _ column h

/-- If the last row has a hit on its first place, the best column lies behind that place and is
reached. -/
theorem IsFilled.getLastD_lt_bestColumn (h : layout.IsFilled limit table) (hsound : layout.IsSound)
    (hlength : layout.pattern.length = row + 1)
    (hhit : noScore < (layout.scoreAt table (row + 1) (layout.firsts.getLastD 0 + 1)).hit) :
    layout.firsts.getLastD 0 < layout.bestColumn table ∧
      layout.bestColumn table ≤ layout.text.size ∧
      noScore < (layout.scoreAt table (row + 1) (layout.bestColumn table)).hit := by
  obtain ⟨p, hrow⟩ := hsound.isRow_last hlength
  have hlt := hsound.first_lt hrow.2
  have hcolumns : layout.columns = layout.text.size + 1 := rfl
  have hmem {column : Nat} : column ∈ layout.lastColumns ↔
      layout.firsts.getLastD 0 ≤ column ∧ column < layout.columns := mem_lastColumns (by omega)
  have hbest := hmem.1 (layout.bestColumn_mem table)
  generalize layout.firsts.getLastD 0 = first at hrow hlt hmem hbest hhit
  -- the best column scores no less than the one behind the first place
  have hle : (layout.scoreAt table layout.pattern.length (first + 1)).hit ≤
      (layout.scoreAt table layout.pattern.length (layout.bestColumn table)).hit :=
    le_hit_bestColumn (hmem.2 ⟨Nat.le_succ first, by omega⟩)
  rw [hlength] at hle
  have hreached := Int.lt_of_lt_of_le hhit hle
  have hbehind : layout.bestColumn table ≠ first := by
    intro heq
    rw [heq, h.first_unreached row first hrow.2] at hreached
    exact absurd hreached (Int.lt_irrefl noScore)
  exact ⟨by omega, by omega, hreached⟩

/-- The way back starts on the path. -/
theorem isOnPath_bestColumn (h : layout.IsFilled limit table) (hsound : layout.IsSound)
    (hsize : layout.text.size ≤ maxLength) :
    layout.IsOnPath layout.pattern.length (layout.bestColumn table) .hit := by
  cases hlength : layout.pattern.length with
  | zero => trivial
  | succ row =>
    obtain ⟨p, hrow⟩ := hsound.isRow_last hlength
    have hlt := hsound.first_lt hrow.2
    have hhit := h.le_hit hsound hrow (Nat.le_refl _) hlt (hsound.isHitAt_first hrow)
    have hscore : noScore <
        (layout.scoreAt table (row + 1) (layout.firsts.getLastD 0 + 1)).hit := by
      rw [maxLength] at hsize
      rw [noScore]
      omega
    obtain ⟨hbehind, hcolumn, hreached⟩ := h.getLastD_lt_bestColumn hsound hlength hscore
    obtain ⟨c, hc⟩ : ∃ c, layout.bestColumn table = c + 1 := ⟨layout.bestColumn table - 1, by omega⟩
    rw [hc] at hbehind hcolumn hreached ⊢
    refine ⟨p, layout.firsts.getLastD 0, hrow, hbehind, hcolumn, ?_⟩
    by_contra hmiss
    have hsteps := h.steps_of_isRow hsound hrow (Nat.le_of_lt_succ hbehind) hcolumn
    rw [hsteps.hit_of_miss (by simpa using hmiss)] at hreached
    exact absurd hreached (Int.lt_irrefl noScore)

end Path
end Layout
end EditorKit.Search
