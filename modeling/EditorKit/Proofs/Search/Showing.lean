import EditorKit.Proofs.Search.Window
import EditorKit.Proofs.Search.Span

/-!
# Showing a ranked list

What is shown of a list on a screen whose number of lines is a machine word, however large.

* `wordWindow?` computes the window in words of 64 bits, and fails where a sum is too large for a
  word or a difference is below zero. With fewer than 2 ^ 63 results it never fails and agrees with
  `window` (`IsCoherent.wordWindow?_eq`).
* `view?` looks up what to show at one position. Inside the window no look-up fails, and together
  the views are what `render` gives (`IsCoherent.mapM_view?`).

`render_changes` is the main result.
-/

namespace EditorKit.Search

namespace RankedList

variable {α : Type}

/-! ## The window in words -/

/-- `window` computed in words: the words for the first position and the first one behind the
window, unless the sum or the difference on the way is no word. -/
def wordWindow? (list : RankedList α) (lines : UInt64) : Option (UInt64 × UInt64) := do
  let total := UInt64.ofNat list.results.length
  let start := wordMonus (.ofNat list.selectedIndex) (lines / 2)
  let stop := min (← wordSum? start lines) total
  let shown ← wordDifference? stop start
  return if shown < lines ∧ lines ≤ total then (wordMonus stop lines, stop) else (start, stop)

variable [Listable α] {list : RankedList α}

/-- **The window can be computed in words.** The first sum stays below 2 ^ 64, because it is either
the number of lines itself or at most twice the selected index. -/
theorem IsCoherent.wordWindow?_eq (h : list.IsCoherent) (hmax : list.results.length < 2 ^ 63)
    (lines : UInt64) : ∃ start stop, list.wordWindow? lines = some (start, stop) ∧
      list.window lines.toNat = (start.toNat, stop.toNat) := by
  have hselected := h.selectedIndex_le
  have hlines : lines.toNat < 2 ^ 64 := lines.toNat_lt
  have htotal := toNat_ofNatWord hmax
  have hindex := toNat_ofNatWord (Nat.lt_of_le_of_lt hselected hmax)
  let first := wordMonus (.ofNat list.selectedIndex) (lines / 2)
  have hfirst : first.toNat = list.selectedIndex - lines.toNat / 2 := by
    rw [toNat_wordMonus, hindex, UInt64.toNat_div]
    rfl
  obtain ⟨sum, hsum, htoSum⟩ := exists_wordSum?_eq (a := first) (b := lines) (by omega)
  let stop := min sum (.ofNat list.results.length)
  have hstop : stop.toNat =
      min (list.selectedIndex - lines.toNat / 2 + lines.toNat) list.results.length := by
    rw [toNat_minWord, htoSum, hfirst, htotal]
  obtain ⟨shown, hshown, htoShown⟩ := exists_wordDifference?_eq (a := stop) (b := first) (by omega)
  have hwords : list.wordWindow? lines =
      some (if shown < lines ∧ lines ≤ .ofNat list.results.length then (wordMonus stop lines, stop)
        else (first, stop)) := by
    rw [wordWindow?, hsum]
    simp only [Option.bind_eq_bind, Option.bind_some]
    rw [hshown]
    rfl
  have hwindow : list.window lines.toNat =
      if stop.toNat - first.toNat < lines.toNat ∧ lines.toNat ≤ list.results.length
        then (stop.toNat - lines.toNat, stop.toNat) else (first.toNat, stop.toNat) := by
    rw [hstop, hfirst]
    rfl
  have hcond : (shown < lines ∧ lines ≤ .ofNat list.results.length) ↔
      stop.toNat - first.toNat < lines.toNat ∧ lines.toNat ≤ list.results.length := by
    rw [UInt64.lt_iff_toNat_lt, UInt64.le_iff_toNat_le, htoShown, htotal]
  rw [hwords, hwindow]
  simp only [hcond]
  split
  · exact ⟨_, _, rfl, by rw [toNat_wordMonus]⟩
  · exact ⟨_, _, rfl, rfl⟩

/-! ## Bounds -/

/-- The window lies in the results, has no more positions than there are lines, and the selected
result is in it unless there is no result or no line. -/
theorem IsCoherent.window_bounds (h : list.IsCoherent) {lines start stop : Nat}
    (hwindow : list.window lines = (start, stop)) :
    start ≤ stop ∧ stop ≤ list.results.length ∧ stop - start ≤ lines ∧
      (0 < lines → list.results ≠ [] → start ≤ list.selectedIndex ∧ list.selectedIndex < stop) := by
  have hselected := h.selectedIndex_le
  have hlt : list.results ≠ [] → list.selectedIndex < list.results.length := by
    intro hne
    exact h.selected.resolve_right fun hnil => hne hnil.1
  by_cases hle : lines ≤ list.results.length
  · rw [h.window_of_le hle, Prod.mk.injEq] at hwindow
    obtain ⟨rfl, rfl⟩ := hwindow
    refine ⟨by omega, by omega, by omega, fun hpos hne => ?_⟩
    have := hlt hne
    omega
  · rw [h.window_of_lt (by omega), Prod.mk.injEq] at hwindow
    obtain ⟨rfl, rfl⟩ := hwindow
    exact ⟨by omega, Nat.le_refl _, by omega, fun _ hne => ⟨by omega, hlt hne⟩⟩

/-! ## Views -/

section Views

omit [Listable α]

/-- What to show of a row at a position. -/
def viewOf (list : RankedList α) : Row α × Nat → RowView α
  | (row, position) => ⟨row, position, position == list.selectedIndex, row.drawsHighlights⟩

/-- What to show of the result at a position, if there is a result at this position. -/
def view? (list : RankedList α) (position : Nat) : Option (RowView α) :=
  list.results[position]?.map fun row => list.viewOf (row, position)

theorem render_eq {list : RankedList α} {lines start stop : Nat}
    (hwindow : list.window lines = (start, stop)) : list.render lines =
      ((list.results.zipIdx.drop start).take (stop - start)).map list.viewOf := by
  rw [render, hwindow]
  rfl

/-- Looking up a run of positions one by one gives the run, if it ends inside the list. -/
theorem mapM_getElem?_range' {β γ : Type} (f : β × Nat → γ) (xs : List β) {start n : Nat}
    (h : start + n ≤ xs.length) :
    (List.range' start n).mapM (fun i => xs[i]?.map fun x => f (x, i)) =
      some (((xs.zipIdx.drop start).take n).map f) := by
  induction n generalizing start with
  | zero => simp
  | succ n ih =>
    have hfirst : xs.zipIdx.drop start = (xs[start], start) :: xs.zipIdx.drop (start + 1) := by
      rw [List.drop_eq_getElem_cons (by simp; omega), List.getElem_zipIdx, Nat.zero_add]
    rw [List.range'_succ, List.mapM_cons, ih (by omega), List.getElem?_eq_getElem (by omega),
      hfirst, List.take_succ_cons, List.map_cons]
    rfl

end Views

/-- No look-up inside the window fails, and `render` gives what is found. -/
theorem IsCoherent.mapM_view? (h : list.IsCoherent) {lines start stop : Nat}
    (hwindow : list.window lines = (start, stop)) :
    (List.range' start (stop - start)).mapM list.view? = some (list.render lines) := by
  obtain ⟨hle, hstop, -⟩ := h.window_bounds hwindow
  rw [render_eq hwindow]
  exact mapM_getElem?_range' list.viewOf list.results (by omega)

/-- The positions that are shown are those of the window, from top to bottom. -/
theorem IsCoherent.map_position_render (h : list.IsCoherent) {lines start stop : Nat}
    (hwindow : list.window lines = (start, stop)) :
    (list.render lines).map RowView.position = List.range' start (stop - start) := by
  obtain ⟨hle, hstop, -⟩ := h.window_bounds hwindow
  have hposition : RowView.position ∘ list.viewOf = Prod.snd := rfl
  rw [render_eq hwindow, List.map_map, hposition, List.map_take, List.map_drop,
    List.zipIdx_map_snd, List.drop_range', List.take_range'_of_length_ge (by omega), Nat.mul_one,
    Nat.zero_add]

/-- The selected row is shown once as such, unless there is no row or no line. -/
theorem IsCoherent.countP_isSelected (h : list.IsCoherent) {lines : Nat} (hlines : 0 < lines)
    (hne : list.results ≠ []) : (list.render lines).countP (·.isSelected) = 1 := by
  rcases hwindow : list.window lines with ⟨start, stop⟩
  obtain ⟨hle, hstop, -, hselected⟩ := h.window_bounds hwindow
  have hcount : (list.render lines).countP (·.isSelected) =
      ((list.render lines).map RowView.position).count list.selectedIndex := by
    rw [render_eq hwindow, List.count_eq_countP, List.countP_map, List.countP_map, List.countP_map]
    rfl
  rw [hcount, h.map_position_render hwindow]
  refine List.count_eq_one_of_mem List.nodup_range' ?_
  have := hselected hlines hne
  rw [List.mem_range'_1]
  omega

/-- **What a list shows** after any changes, with fewer than 2 ^ 63 results and any word as the
number of lines. The window is computed in words without a sum that is too large and without a
difference below zero. It lies in the results, has no more positions than there are lines, and the
selected result is in it. Every position of it is looked up with success and shown once, from top to
bottom, and exactly one of these rows is shown as selected. -/
theorem render_changes (mode : Mode) (items : List α) (changes : List (Change α)) (lines : UInt64)
    (hmax : ((ofItems mode items).changes changes).results.length < 2 ^ 63) :
    let list := (ofItems mode items).changes changes
    ∃ start stop, list.wordWindow? lines = some (start, stop) ∧
      list.window lines.toNat = (start.toNat, stop.toNat) ∧
      start ≤ stop ∧ stop.toNat ≤ list.results.length ∧
      stop.toNat - start.toNat ≤ lines.toNat ∧
      (0 < lines → list.results ≠ [] →
        start.toNat ≤ list.selectedIndex ∧ list.selectedIndex < stop.toNat) ∧
      (List.range' start.toNat (stop.toNat - start.toNat)).mapM list.view? =
        some (list.render lines.toNat) ∧
      (list.render lines.toNat).map RowView.position =
        List.range' start.toNat (stop.toNat - start.toNat) ∧
      (0 < lines → list.results ≠ [] →
        (list.render lines.toNat).countP (·.isSelected) = 1) := by
  intro list
  have hcoherent : list.IsCoherent := (isCoherent_refresh _).changes changes
  obtain ⟨start, stop, hwords, hwindow⟩ := hcoherent.wordWindow?_eq hmax lines
  obtain ⟨hle, hstop, hshown, hselected⟩ := hcoherent.window_bounds hwindow
  have hpos : 0 < lines → 0 < lines.toNat := UInt64.lt_iff_toNat_lt.1
  exact ⟨start, stop, hwords, hwindow, UInt64.le_iff_toNat_le.2 hle, hstop, hshown,
    fun h => hselected (hpos h), hcoherent.mapM_view? hwindow,
    hcoherent.map_position_render hwindow, fun h => hcoherent.countP_isSelected (hpos h)⟩

/-- A step up in a new list selects its last item. -/
theorem moveUp_ofItems (mode : Mode) (items : List α) (hne : items ≠ []) :
    (ofItems mode items).results.length = items.length ∧
      (ofItems mode items).moveUp = (ofItems mode items).selecting (items.length - 1) := by
  have hlength : (ofItems mode items).results.length = items.length := by
    have hresults : (ofItems mode items).results = items.zipIdx.map fun entry =>
        ⟨entry.1, entry.2, Listable.isDisabled entry.1, .everything⟩ :=
      apply_of_isBlankText rfl
    rw [hresults, List.length_map, List.length_zipIdx]
  have hpos := List.length_pos_iff.2 hne
  have hresults : (ofItems mode items).results ≠ [] := List.length_pos_iff.1 (by omega)
  have hzero : (ofItems mode items).selectedIndex = 0 := Nat.zero_min _
  rw [moveUp_of_ne_nil hresults, if_pos hzero, hlength]
  exact ⟨rfl, rfl⟩

/-- Two items, the second of which is selected, on as many lines as a word can say. -/
theorem render_changes_most_lines :
    let list := (ofItems .substring ["a".toList, "b".toList]).changes [.moveUp]
    list.results.length = 2 ∧ list.results.length < 2 ^ 63 ∧
      list.wordWindow? 0xFFFFFFFFFFFFFFFF = some (0, 2) ∧
      (list.render 0xFFFFFFFFFFFFFFFF).map RowView.position = [0, 1] ∧
      (list.render 0xFFFFFFFFFFFFFFFF).countP (·.isSelected) = 1 := by
  intro list
  obtain ⟨hlength, hmove⟩ :=
    moveUp_ofItems .substring ["a".toList, "b".toList] (List.cons_ne_nil _ _)
  have hlist : list = (ofItems .substring ["a".toList, "b".toList]).selecting 1 := hmove
  have htwo : list.results.length = 2 := by rw [hlist]; exact hlength
  have hmax : list.results.length < 2 ^ 63 := by omega
  have hne : list.results ≠ [] := List.length_pos_iff.1 (by omega)
  have hbounds : list.window 0xFFFFFFFFFFFFFFFF = (0, 2) := by
    have hcoherent : list.IsCoherent := (isCoherent_refresh _).changes _
    rw [hcoherent.window_of_lt (by omega), htwo, hlist, selectedIndex_selecting]
  obtain ⟨start, stop, hwords, hwindow, -, -, -, -, -, hpositions, hselected⟩ :=
    render_changes .substring ["a".toList, "b".toList] [.moveUp] 0xFFFFFFFFFFFFFFFF hmax
  obtain ⟨hstart, hstop⟩ := Prod.mk.inj (hbounds.symm.trans hwindow)
  have hstart : start = 0 := UInt64.toNat_inj.1 hstart.symm
  have hstop : stop = 2 := UInt64.toNat_inj.1 hstop.symm
  subst hstart hstop
  exact ⟨htwo, hmax, hwords, hpositions, hselected (by decide) hne⟩

end RankedList
end EditorKit.Search
