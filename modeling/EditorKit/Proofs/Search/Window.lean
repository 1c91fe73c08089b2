import EditorKit.Proofs.Search.RankedList

/-!
# The window of a ranked list

Which results are shown on a number of lines.

* With no more lines than results the window is full: it starts half its lines before the selection,
  or sooner where it would reach behind the last result (`IsCoherent.window_of_le`).
* With more lines than results it always ends with the last result, but it starts no sooner than
  half its lines before the selection (`IsCoherent.window_of_lt`), so the first results stay hidden
  if the selection is further down, although there would be room for them.

`window_changes` is the main result.
-/

namespace EditorKit.Search.RankedList

variable {α : Type}

/-- The number of results that a list shows on `lines` lines. -/
def shownCount (list : RankedList α) (lines : Nat) : Nat :=
  (list.window lines).2 - (list.window lines).1

variable [Listable α] {list : RankedList α} {lines : Nat}

theorem IsCoherent.selectedIndex_le (h : list.IsCoherent) :
    list.selectedIndex ≤ list.results.length := by
  rcases h.selected with hlt | ⟨-, hzero⟩
  · exact Nat.le_of_lt hlt
  · omega

/-- A window of no more lines than there are results is full. -/
theorem IsCoherent.window_of_le (h : list.IsCoherent) (hle : lines ≤ list.results.length) :
    let start := min (list.selectedIndex - lines / 2) (list.results.length - lines)
    list.window lines = (start, start + lines) := by
  have hselected := h.selectedIndex_le
  simp only [window]
  split <;> ext <;> dsimp only <;> omega

/-- A window of more lines than there are results ends with the last one. -/
theorem IsCoherent.window_of_lt (h : list.IsCoherent) (hlt : list.results.length < lines) :
    list.window lines = (list.selectedIndex - lines / 2, list.results.length) := by
  have hselected := h.selectedIndex_le
  simp only [window]
  rw [if_neg (by omega)]
  ext <;> dsimp only
  omega

/-- The number of results that are shown. -/
theorem IsCoherent.shownCount_eq (h : list.IsCoherent) (lines : Nat) : list.shownCount lines =
    if lines ≤ list.results.length then lines
    else list.results.length - (list.selectedIndex - lines / 2) := by
  split
  · rename_i hle
    rw [shownCount, h.window_of_le hle]
    omega
  · rename_i hlt
    rw [shownCount, h.window_of_lt (by omega)]

/-- **Where the window of a list stands** after any changes. It is as full as it can be exactly if
there are no more lines than results or the selection is no further down than half the lines: else
the first results are hidden, and as many lines stay empty. -/
theorem window_changes (mode : Mode) (items : List α) (changes : List (Change α)) (lines : Nat) :
    let list := (ofItems mode items).changes changes
    let start := min (list.selectedIndex - lines / 2) (list.results.length - lines)
    list.window lines = (if lines ≤ list.results.length then (start, start + lines)
        else (list.selectedIndex - lines / 2, list.results.length)) ∧
      list.shownCount lines = (if lines ≤ list.results.length then lines
        else list.results.length - (list.selectedIndex - lines / 2)) ∧
      (list.shownCount lines = min lines list.results.length ↔
        lines ≤ list.results.length ∨ list.selectedIndex ≤ lines / 2) := by
  intro list start
  have hcoherent : list.IsCoherent := (isCoherent_refresh _).changes changes
  refine ⟨?_, hcoherent.shownCount_eq lines, ?_⟩
  · split
    · exact hcoherent.window_of_le ‹_›
    · exact hcoherent.window_of_lt (by omega)
  · rw [hcoherent.shownCount_eq]
    rcases hcoherent.selected with hlt | ⟨hnil, hzero⟩
    · split <;> omega
    · simp [hnil, hzero]

/-- Four items, the last of which is selected, on five lines: the first one is hidden. -/
theorem window_hides_first :
    let list := (ofItems .substring ["a".toList, "b".toList, "c".toList, "d".toList]).changes
      [.moveUp]
    list.results.length = 4 ∧ list.selectedIndex = 3 ∧ list.window 5 = (1, 4) ∧
      list.shownCount 5 ≠ min 5 list.results.length := by
  intro list
  let whole := ofItems .substring ["a".toList, "b".toList, "c".toList, "d".toList]
  have hlength : whole.results.length = 4 := by
    have hblank : Text.isBlankText ((some []).getD []) := rfl
    exact congrArg List.length (apply_of_isBlankText hblank)
  have hne : whole.results ≠ [] := List.length_pos_iff.1 (by omega)
  have hzero : whole.selectedIndex = 0 := Nat.zero_min _
  have hlist : list = whole.selecting 3 := by
    show whole.moveUp = _
    rw [moveUp_of_ne_nil hne, if_pos hzero, hlength]
  have hwindow : list.window 5 = (1, 4) := by
    rw [hlist, window, results_selecting, hlength, selectedIndex_selecting]
    rfl
  rw [shownCount, hwindow, hlist, results_selecting, hlength]
  decide

end EditorKit.Search.RankedList
