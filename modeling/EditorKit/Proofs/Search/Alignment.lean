import EditorKit.Proofs.Search.Occurrence

/-!
# Alignments in any storage

What an alignment says whatever the storage held before.

* `align_isSome_iff`: there is an alignment exactly for a subsequence;
* `lt_length_of_mem_align`: its positions lie in the text.
-/

namespace EditorKit.Search

/-- The layout of the search for a pattern whose first alignment is known. -/
def Layout.ofFirsts (pattern text : Text) (firsts : List Nat) : Layout :=
  ⟨text.toArray, (columnBonuses text).toArray, pattern, firsts⟩

namespace Layout

@[simp] theorem columns_ofFirsts (pattern text : Text) (firsts : List Nat) :
    (ofFirsts pattern text firsts).columns = text.length + 1 := rfl

/-- What a left fold picks is its start or one of the list. -/
theorem mem_cons_of_foldl {α : Type} {pick : α → α → α}
    (hpick : ∀ a b, pick a b = a ∨ pick a b = b) (start : α) (xs : List α) :
    xs.foldl pick start ∈ start :: xs := by
  induction xs generalizing start with
  | nil => simp
  | cons x xs ih =>
    rw [List.foldl_cons]
    rcases hpick start x with h | h
    · rw [h]
      rcases List.mem_cons.1 (ih start) with hstart | hxs
      · exact List.mem_cons.2 (.inl hstart)
      · exact List.mem_cons_of_mem _ (List.mem_cons_of_mem _ hxs)
    · rw [h]
      exact List.mem_cons_of_mem _ (ih x)

/-- The columns that the search for the best one goes through. -/
def lastColumns (layout : Layout) : List Nat :=
  let first := layout.firsts.getLastD 0
  first :: List.range' first (layout.columns - first)

theorem mem_lastColumns {layout : Layout} (hfirst : layout.firsts.getLastD 0 < layout.columns)
    {column : Nat} : column ∈ layout.lastColumns ↔
      layout.firsts.getLastD 0 ≤ column ∧ column < layout.columns := by
  rw [lastColumns, List.mem_cons, List.mem_range'_1]
  omega

theorem bestColumn_mem (layout : Layout) (cells : Cells) :
    layout.bestColumn cells ∈ layout.lastColumns := by
  refine mem_cons_of_foldl (fun a b => ?_) _ _
  split
  · exact .inr rfl
  · exact .inl rfl

/-- The best column is one of the columns. -/
theorem bestColumn_lt (layout : Layout) (h : layout.firsts.getLastD 0 < layout.columns)
    (cells : Cells) : layout.bestColumn cells < layout.columns :=
  ((mem_lastColumns h).1 (layout.bestColumn_mem cells)).2

/-- The way back from a column passes through the columns before it. -/
theorem mem_traceBack (layout : Layout) (cells : Cells) {row column : Nat} {move : Move}
    {found : List Nat} {k : Nat} (h : k ∈ layout.traceBack cells row column move found) :
    k ∈ found ∨ k < column := by
  induction column generalizing row move found with
  | zero => exact .inl h
  | succ column ih =>
    rw [traceBack] at h
    split at h
    · exact .inl h
    · cases move with
      | hit =>
        rcases ih h with hfound | hlt
        · rcases List.mem_cons.1 hfound with rfl | hfound
          · exact .inr (Nat.lt_succ_self k)
          · exact .inl hfound
        · exact .inr (Nat.lt_succ_of_lt hlt)
      | gap => exact (ih h).imp_right Nat.lt_succ_of_lt

end Layout

theorem align_of_eq_none {cells : Cells} {pattern text : Text}
    (h : firstPositions pattern text 0 = none) : align cells pattern text = (none, cells) := by
  simp [align, h]

theorem align_of_eq_some {cells : Cells} {pattern text : Text} {firsts : List Nat}
    (h : firstPositions pattern text 0 = some firsts) :
    align cells pattern text =
      let layout := Layout.ofFirsts pattern text firsts
      let table := layout.fill cells
      (some (layout.traceBack table pattern.length (layout.bestColumn table) .hit []), table) := by
  simp [align, h, Layout.ofFirsts]

/-- There is an alignment exactly for a subsequence, whatever the storage held before. -/
theorem align_isSome_iff {cells : Cells} {pattern text : Text} :
    (align cells pattern text).1.isSome ↔ pattern.Sublist text := by
  rw [← firstPositions_isSome_iff (k := 0)]
  cases h : firstPositions pattern text 0 with
  | none => simp [align_of_eq_none h]
  | some firsts => simp [align_of_eq_some h]

theorem getLastD_lt_length {pattern text : Text} {positions : List Nat}
    (h : IsPlacement pattern text positions) : positions.getLastD 0 < text.length + 1 := by
  rw [List.getLastD_eq_getLast?]
  cases hlast : positions.getLast? with
  | none => simp
  | some k =>
    rw [List.getLast?_eq_getElem?] at hlast
    exact Nat.lt_succ_of_lt (h.lt_length hlast)

/-- The positions of an alignment lie in the text, whatever the storage held before. -/
theorem lt_length_of_mem_align {cells : Cells} {pattern text : Text} {positions : List Nat}
    (h : (align cells pattern text).1 = some positions) : ∀ k ∈ positions, k < text.length := by
  intro k hk
  cases hfirsts : firstPositions pattern text 0 with
  | none => simp [align_of_eq_none hfirsts] at h
  | some firsts =>
    rw [align_of_eq_some hfirsts] at h
    obtain rfl := Option.some.inj h
    have hbest := Layout.bestColumn_lt (Layout.ofFirsts pattern text firsts)
      (getLastD_lt_length (isPlacement_firstPositions hfirsts))
      ((Layout.ofFirsts pattern text firsts).fill cells)
    rw [Layout.columns_ofFirsts] at hbest
    rcases Layout.mem_traceBack _ _ hk with hnil | hlt
    · simp at hnil
    · omega

end EditorKit.Search
