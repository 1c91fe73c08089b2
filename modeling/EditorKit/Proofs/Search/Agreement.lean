import EditorKit.Proofs.Search.Path
import Mathlib.Data.List.Chain

/-!
# Tables that agree

Two tables for the same alignment can only differ by the bonuses that their storage held before.
Where these make no difference (`Layout.IsSettled`), the scores agree on all cells that count, by
induction on the rows and in each on the columns, so the best column and the way back from it are
the same.

A bonus from before is read only for a hit behind a hit on the same character, and it makes a
difference only where the pattern, too, has this character twice in a row: without such a double in
common (`NoCommonDouble`) every table is settled.
-/

namespace EditorKit.Search
namespace Layout

variable {layout : Layout}

/-! ## Two tables -/

/-- Whether in each step all bonuses that the storage may hold give the same scores. -/
def IsSettled (layout : Layout) (limit : Nat → Int) (table : Cells) : Prop :=
  ∀ row p first column, layout.IsRow row p first → first ≤ column → column < layout.text.size →
    ∀ bonus bonus', bonus ≤ limit (layout.place (row + 1) column) →
      bonus' ≤ limit (layout.place (row + 1) column) →
      (column = first ∨ layout.text[column - 1]? ≠ some p → bonus = bonus') →
      Score.next (layout.isHitAt p column) bonus (layout.placeBonusAt column)
          (layout.scoreAt table row column) (layout.scoreAt table (row + 1) column) =
        Score.next (layout.isHitAt p column) bonus' (layout.placeBonusAt column)
          (layout.scoreAt table row column) (layout.scoreAt table (row + 1) column)

/-- Whether a cell counts: it is not in front of the first place of its row. -/
def IsReached (layout : Layout) : (row column : Nat) → Prop
  | 0, _ => True
  | row + 1, column => ∃ p first, layout.IsRow row p first ∧ first ≤ column

section Agreement

variable {limit : Nat → Int} {table table' : Cells} {row column : Nat}

theorem IsSound.isReached_pred (h : layout.IsSound) (hreached : layout.IsReached (row + 1) column) :
    layout.IsReached row column := by
  obtain ⟨p, first, hrow, hfirst⟩ := hreached
  cases row with
  | zero => trivial
  | succ row =>
    obtain ⟨q, f, hrow', hless⟩ := h.isRow_pred hrow
    exact ⟨q, f, hrow', by omega⟩

/-- Two tables have the same scores, by induction on the rows and in each on the columns. -/
theorem scoreAt_eq_of_isSettled (hsound : layout.IsSound) (h : layout.IsFilled limit table)
    (h' : layout.IsFilled limit table') (hsettled : layout.IsSettled limit table)
    (hreached : layout.IsReached row column) (hcolumn : column < layout.columns) :
    layout.scoreAt table row column = layout.scoreAt table' row column := by
  induction row generalizing column with
  | zero => rw [h.top column hcolumn, h'.top column hcolumn]
  | succ row ih =>
    obtain ⟨p, first, hrow, hfirst⟩ := hreached
    induction column, hfirst using Nat.le_induction with
    | base => rw [h.first_unreached row first hrow.2, h'.first_unreached row first hrow.2]
    | succ column hfirst ihcolumn =>
      have hlt : column < layout.text.size := Nat.lt_of_succ_lt_succ hcolumn
      obtain ⟨bonus, hbonus, hzero, hnext⟩ := h.steps_of_isRow hsound hrow hfirst hlt
      obtain ⟨bonus', hbonus', hzero', hnext'⟩ := h'.steps_of_isRow hsound hrow hfirst hlt
      have hdiagonal := ih (hsound.isReached_pred ⟨p, first, hrow, hfirst⟩)
        (Nat.lt_of_succ_lt hcolumn)
      have hleft := ihcolumn (Nat.lt_of_succ_lt hcolumn)
      rw [hnext, hnext', ← hdiagonal, ← hleft]
      apply hsettled row p first column hrow hfirst hlt bonus bonus' hbonus hbonus'
      intro hno
      rw [hzero hno, hzero' hno]

theorem IsOnPath.isReached {move : Move} (h : layout.IsOnPath row column move) :
    layout.IsReached row column := by
  cases row with
  | zero => trivial
  | succ row =>
    cases move with
    | hit =>
      obtain ⟨p, first, hrow, hfirst, -⟩ := h
      exact ⟨p, first, hrow, by omega⟩
    | gap =>
      obtain ⟨p, first, hrow, hfirst, -⟩ := h
      exact ⟨p, first, hrow, by omega⟩

theorem IsOnPath.lt_columns {move : Move} (h : layout.IsOnPath (row + 1) column move) :
    column < layout.columns := by
  cases move with
  | hit =>
    obtain ⟨p, first, -, -, hcolumn, -⟩ := h
    exact Nat.lt_succ_of_le hcolumn
  | gap =>
    obtain ⟨p, first, -, -, hcolumn⟩ := h
    exact Nat.lt_succ_of_le hcolumn

/-- The way back is the same in tables with the same scores. -/
theorem traceBack_eq (hsound : layout.IsSound) (hlimit : ∀ k, limit k ≤ 16)
    (hsize : layout.text.size ≤ maxLength) (h : layout.IsFilled limit table)
    (hscores : ∀ r c, layout.IsReached r c → c < layout.columns →
      layout.scoreAt table r c = layout.scoreAt table' r c)
    {move : Move} {found : List Nat} (hpath : layout.IsOnPath row column move) :
    layout.traceBack table row column move found =
      layout.traceBack table' row column move found := by
  induction column generalizing row move found with
  | zero => rfl
  | succ column ih =>
    rw [traceBack, traceBack]
    split
    · rfl
    · rename_i hstop
      obtain ⟨r, rfl⟩ : ∃ r, row = r + 1 := ⟨row - 1, by omega⟩
      have hscore := hscores _ _ hpath.isReached hpath.lt_columns
      cases move with
      | hit =>
        have hnext := hpath.hit h hsound hlimit hsize
        have hmove := congrArg Score.hitMove hscore
        show traceBack _ _ r column (layout.scoreAt table (r + 1) (column + 1)).hitMove _ =
          traceBack _ _ r column (layout.scoreAt table' (r + 1) (column + 1)).hitMove _
        rw [← hmove]
        exact ih hnext
      | gap =>
        have hnext := hpath.gap h hsound hsize
        have hmove := congrArg Score.gapMove hscore
        show traceBack _ _ (r + 1) column (layout.scoreAt table (r + 1) (column + 1)).gapMove _ =
          traceBack _ _ (r + 1) column (layout.scoreAt table' (r + 1) (column + 1)).gapMove _
        rw [← hmove]
        exact ih hnext

/-- What the search for the best column picks depends on the scores alone. -/
theorem foldl_best_congr {score score' : Nat → Int} {start : Nat} {columns : List Nat}
    (h : ∀ c ∈ start :: columns, score c = score' c) :
    columns.foldl (fun best column => if score best ≤ score column then column else best) start =
      columns.foldl (fun best column => if score' best ≤ score' column then column else best)
        start := by
  induction columns generalizing start with
  | nil => rfl
  | cons column columns ih =>
    rw [List.forall_mem_cons, List.forall_mem_cons] at h
    obtain ⟨hstart, hcolumn, hrest⟩ := h
    rw [List.foldl_cons, List.foldl_cons, hstart, hcolumn]
    apply ih
    split
    · exact List.forall_mem_cons.2 ⟨hcolumn, hrest⟩
    · exact List.forall_mem_cons.2 ⟨hstart, hrest⟩

theorem isReached_last (hsound : layout.IsSound) (hfirst : layout.firsts.getLastD 0 ≤ column) :
    layout.IsReached layout.pattern.length column := by
  cases hlength : layout.pattern.length with
  | zero => trivial
  | succ row =>
    obtain ⟨p, hrow⟩ := hsound.isRow_last hlength
    exact ⟨p, _, hrow, hfirst⟩

theorem bestColumn_eq (hsound : layout.IsSound)
    (hscores : ∀ r c, layout.IsReached r c → c < layout.columns →
      layout.scoreAt table r c = layout.scoreAt table' r c) :
    layout.bestColumn table = layout.bestColumn table' := by
  have hfirst : layout.firsts.getLastD 0 < layout.columns := by
    have hlt := getLastD_lt_length hsound.placement
    rwa [Array.length_toList] at hlt
  apply foldl_best_congr
  intro c hc
  have hmem := (mem_lastColumns hfirst).1 hc
  exact congrArg Score.hit (hscores _ c (isReached_last hsound hmem.1) hmem.2)

end Agreement
end Layout

/-! ## No double in common -/

/-- Whether no character stands twice in a row in both of two texts. -/
def NoCommonDouble (a b : Text) : Prop := ∀ c, [c, c] <:+: a → ¬ [c, c] <:+: b

/-- A text in which no character follows itself has no double in common with any other. -/
theorem noCommonDouble_of_isChain {a : Text} (h : a.IsChain (· ≠ ·)) (b : Text) :
    NoCommonDouble a b := by
  intro c hdouble _
  have hpair : [c, c].IsChain (· ≠ ·) := List.IsChain.infix h hdouble
  exact List.isChain_pair.1 hpair rfl

theorem double_isInfix {t : Text} {k : Nat} {c : Char} (h : t[k]? = some c)
    (h' : t[k + 1]? = some c) : [c, c] <:+: t := by
  have hlt := (List.getElem?_eq_some_iff.1 h').1
  have hle : [c, c].length + k ≤ t.length := by
    show 2 + k ≤ t.length
    omega
  refine List.infix_iff_getElem?.2 ⟨k, hle, ?_⟩
  intro i hi
  rw [Nat.add_comm]
  match i, hi with
  | 0, _ => exact h
  | 1, _ => exact h'

namespace Layout

variable {layout : Layout} {limit : Nat → Int} {table : Cells} {row : Nat} {p : Char}
  {first column : Nat}

/-- Where the character before is the same but the pattern has no double of it, the way into a hit
leads through a gap. -/
theorem hit_lt_gap_of_noCommonDouble (hsound : layout.IsSound)
    (hsize : layout.text.size ≤ maxLength) (h : layout.IsFilled limit table)
    (hdouble : NoCommonDouble layout.pattern layout.text.toList)
    (hrow : layout.IsRow row p first) (hfirst : first < column)
    (hcolumn : column < layout.text.size) (hbefore : layout.text[column - 1]? = some p)
    (hhit : layout.text[column]? = some p) :
    (layout.scoreAt table row column).hit + 16 < (layout.scoreAt table row column).gap := by
  obtain ⟨c, rfl⟩ : ∃ c, column = c + 1 := ⟨column - 1, by omega⟩
  rw [Nat.add_sub_cancel] at hbefore
  cases row with
  | zero =>
    rw [h.top (c + 1) (Nat.lt_succ_of_lt hcolumn)]
    decide
  | succ row =>
    obtain ⟨q, f, hrow', hless⟩ := hsound.isRow_pred hrow
    have hne : q ≠ p := by
      rintro rfl
      rw [← Array.getElem?_toList] at hbefore hhit
      exact hdouble q (double_isInfix hrow'.1 hrow.1) (double_isInfix hbefore hhit)
    have hmiss : layout.isHitAt q c = false := by
      simp [isHitAt, hbefore, Ne.symm hne]
    exact h.hit_lt_gap hsound hsize hrow' (by omega) hcolumn hmiss

/-- Without a double in common no bonus from before makes a difference. -/
theorem isSettled_of_noCommonDouble (hsound : layout.IsSound) (hlimit : ∀ k, limit k ≤ 16)
    (hsize : layout.text.size ≤ maxLength) (h : layout.IsFilled limit table)
    (hdouble : NoCommonDouble layout.pattern layout.text.toList) :
    layout.IsSettled limit table := by
  intro row p first column hrow hfirst hcolumn bonus bonus' hbonus hbonus' heq
  by_cases hhit : layout.text[column]? = some p
  · by_cases hbefore : column = first ∨ layout.text[column - 1]? ≠ some p
    · rw [heq hbefore]
    · push Not at hbefore
      have hlt := hit_lt_gap_of_noCommonDouble hsound hsize h hdouble hrow (by omega) hcolumn
        hbefore.2 hhit
      have hplace := hsound.place_nonneg column
      have hplace' := hsound.place_le column
      -- the way through the gap is better, whatever the bonus
      have hgap : ∀ b, b ≤ limit (layout.place (row + 1) column) →
          (layout.scoreAt table row column).hit + Score.runEarning b (layout.placeBonusAt column) <
            (layout.scoreAt table row column).gap + layout.placeBonusAt column := by
        intro b hb
        have hb' := hlimit (layout.place (row + 1) column)
        simp only [Score.runEarning, runBonus]
        omega
      rw [Score.next, Score.next, Score.best_of_lt (hgap bonus hbonus),
        Score.best_of_lt (hgap bonus' hbonus')]
  · have hmiss : layout.isHitAt p column = false := by simpa [isHitAt] using hhit
    rw [hmiss]
    exact Score.next_false_eq ..

end Layout

end EditorKit.Search
