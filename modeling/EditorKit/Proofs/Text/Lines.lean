import EditorKit.Text.Basic
import Mathlib.Data.List.Basic

/-!
# Lines

No line of a text has a line feed in it. The other way round, lines that have no line feed in them
and do not end in a carriage return are read back from the text in which a line feed stands behind
each of them (`Text.lines_ofLines`). A text without control characters is such a line
(`Text.HasNoControls.isLine`).
-/

namespace EditorKit.Text

theorem splitOn_cons (sep c : Char) (t : Text) : (c :: t).splitOn sep =
    if c = sep then [] :: t.splitOn sep else (t.splitOn sep).modifyHead (c :: ·) := by
  rw [List.splitOn, List.splitOnP_cons_eq_if_modifyHead, ← List.splitOn]
  simp only [beq_iff_eq]

/-- No piece of a split has the separator in it. -/
theorem not_mem_of_mem_splitOn {sep : Char} {t piece : Text} (h : piece ∈ t.splitOn sep) :
    sep ∉ piece := by
  induction t generalizing piece with
  | nil =>
    obtain rfl : piece = [] := by simpa using h
    exact List.not_mem_nil
  | cons c t ih =>
    rw [splitOn_cons] at h
    split at h
    · rcases List.mem_cons.1 h with rfl | h
      · exact List.not_mem_nil
      · exact ih h
    · rename_i hc
      obtain ⟨first, rest, hsplit⟩ := List.exists_cons_of_ne_nil (List.splitOn_ne_nil sep t)
      rw [hsplit, List.modifyHead_cons, List.mem_cons] at h
      rcases h with rfl | h
      · have hfirst : sep ∉ first := ih (by simp [hsplit])
        rw [List.mem_cons]
        rintro (rfl | hmem)
        · exact hc rfl
        · exact hfirst hmem
      · exact ih (by simp [hsplit, h])

/-- The pieces of a split have only characters of the text. -/
theorem mem_of_mem_splitOn {sep c : Char} {t piece : Text} (hpiece : piece ∈ t.splitOn sep)
    (h : c ∈ piece) : c ∈ t := by
  induction t generalizing piece with
  | nil =>
    obtain rfl : piece = [] := by simpa using hpiece
    exact h
  | cons d t ih =>
    rw [splitOn_cons] at hpiece
    split at hpiece
    · rcases List.mem_cons.1 hpiece with rfl | hpiece
      · exact absurd h List.not_mem_nil
      · exact List.mem_cons_of_mem d (ih hpiece h)
    · obtain ⟨first, rest, hsplit⟩ := List.exists_cons_of_ne_nil (List.splitOn_ne_nil sep t)
      rw [hsplit, List.modifyHead_cons, List.mem_cons] at hpiece
      rcases hpiece with rfl | hpiece
      · rcases List.mem_cons.1 h with rfl | h
        · exact List.mem_cons_self
        · exact List.mem_cons_of_mem d (ih (by simp [hsplit]) h)
      · exact List.mem_cons_of_mem d (ih (by simp [hsplit, hpiece]) h)

theorem isBlankText_of_mem_splitOn {sep : Char} {t piece : Text} (ht : t.isBlankText)
    (hpiece : piece ∈ t.splitOn sep) : piece.isBlankText :=
  List.all_eq_true.2 fun c hc => List.all_eq_true.1 ht c (mem_of_mem_splitOn hpiece hc)

/-- One more character that is no separator belongs to the last piece of a split. -/
theorem exists_splitOn_concat {sep c : Char} (hc : c ≠ sep) (t : Text) :
    ∃ pieces last, t.splitOn sep = pieces ++ [last] ∧
      (t ++ [c]).splitOn sep = pieces ++ [last ++ [c]] := by
  induction t with
  | nil => exact ⟨[], [], rfl, List.splitOn_eq_singleton (by simpa using hc.symm)⟩
  | cons d t ih =>
    obtain ⟨pieces, last, hsplit, hmore⟩ := ih
    rw [List.cons_append, splitOn_cons, splitOn_cons, hsplit, hmore]
    split
    · exact ⟨[] :: pieces, last, rfl, rfl⟩
    · cases pieces with
      | nil => exact ⟨[], d :: last, rfl, rfl⟩
      | cons first pieces => exact ⟨(d :: first) :: pieces, last, rfl, rfl⟩

/-- Nothing but pieces and separators is in what they are put together to. -/
theorem mem_intercalate {sep c : Char} {pieces : List Text} (h : c ∈ [sep].intercalate pieces) :
    c = sep ∨ ∃ piece ∈ pieces, c ∈ piece := by
  induction pieces with
  | nil => exact absurd h List.not_mem_nil
  | cons piece rest ih =>
    cases rest with
    | nil =>
      rw [List.intercalate_singleton] at h
      exact .inr ⟨piece, List.mem_cons_self, h⟩
    | cons next rest =>
      rw [List.intercalate_cons_cons, List.mem_append, List.mem_append, List.mem_singleton] at h
      rcases h with (h | h) | h
      · exact .inr ⟨piece, List.mem_cons_self, h⟩
      · exact .inl h
      · exact (ih h).imp_right fun ⟨other, hother, hc⟩ => ⟨other, List.mem_cons_of_mem _ hother, hc⟩

theorem dropReturn_sublist (line : Text) : (dropReturn line).Sublist line := by
  unfold dropReturn
  split
  · exact List.dropLast_sublist line
  · exact List.Sublist.refl line

/-- A line comes from a piece between line feeds, of which a carriage return may be dropped. -/
theorem exists_sublist_of_mem_endLines {line : Text} {pieces : List Text}
    (h : line ∈ endLines pieces) : ∃ piece ∈ pieces, line.Sublist piece := by
  fun_induction endLines pieces with
  | case1 => simp at h
  | case2 => simp at h
  | case3 last =>
    obtain rfl := List.mem_singleton.1 h
    exact ⟨line, List.mem_singleton_self line, List.Sublist.refl line⟩
  | case4 piece rest _ ih =>
    rcases List.mem_cons.1 h with rfl | h
    · exact ⟨piece, List.mem_cons_self, dropReturn_sublist piece⟩
    · obtain ⟨other, hother, hsub⟩ := ih h
      exact ⟨other, List.mem_cons_of_mem piece hother, hsub⟩

/-- No line has a line feed in it. -/
theorem newline_not_mem_of_mem_lines {line t : Text} (h : line ∈ t.lines) : '\n' ∉ line := by
  obtain ⟨piece, hpiece, hsub⟩ := exists_sublist_of_mem_endLines h
  exact fun hmem => not_mem_of_mem_splitOn hpiece (hsub.subset hmem)

/-- What is read of each line can be read of the pieces between line feeds, if neither an empty line
nor a carriage return at the end makes a difference. -/
theorem filterMap_lines {β : Type} {read : Text → Option β} (hnil : read [] = none)
    (hreturn : ∀ line, read (dropReturn line) = read line) (t : Text) :
    t.lines.filterMap read = (t.splitOn '\n').filterMap read := by
  rw [lines]
  generalize t.splitOn '\n' = pieces
  fun_induction endLines pieces with
  | case1 => rfl
  | case2 last hempty =>
    rw [List.isEmpty_iff.1 hempty, List.filterMap_cons_none hnil]
  | case3 => rfl
  | case4 line rest hrest ih => rw [List.filterMap_cons, List.filterMap_cons, hreturn, ih]

/-! ## Texts of lines -/

/-- Whether a text can be a line in front of a line feed. -/
def IsLine (line : Text) : Prop := '\n' ∉ line ∧ line.getLast? ≠ some '\r'

/-- The text in which a line feed stands behind each of some lines. -/
def ofLines (lines : List Text) : Text := lines.flatMap (· ++ ['\n'])

theorem IsLine.dropReturn_eq {line : Text} (h : IsLine line) : dropReturn line = line :=
  if_neg h.2

/-- A separator ends the first piece of a split. -/
theorem splitOn_append_cons {sep : Char} {piece : Text} (h : sep ∉ piece) (t : Text) :
    (piece ++ sep :: t).splitOn sep = piece :: t.splitOn sep := by
  have hcut : (piece ++ sep :: t).splitOnP (· == sep) =
      piece.splitOnP (· == sep) ++ t.splitOnP (· == sep) :=
    List.splitOnP_append_cons piece t (beq_self_eq_true sep)
  have hpiece := List.splitOn_eq_singleton h
  rw [List.splitOn] at hpiece ⊢
  rw [hcut, hpiece, List.splitOn]
  rfl

/-- A line feed ends a line. -/
theorem IsLine.lines_append {line : Text} (h : IsLine line) (t : Text) :
    lines (line ++ '\n' :: t) = line :: lines t := by
  have hsplit := splitOn_append_cons h.1 t
  obtain ⟨piece, rest, hrest⟩ := List.exists_cons_of_ne_nil (List.splitOn_ne_nil '\n' t)
  rw [lines, lines, hsplit, hrest, endLines, h.dropReturn_eq]
  exact List.cons_ne_nil piece rest

/-- Lines are read back from their text. -/
theorem lines_ofLines {lines : List Text} (h : ∀ line ∈ lines, IsLine line) :
    Text.lines (ofLines lines) = lines := by
  induction lines with
  | nil => rfl
  | cons line rest ih =>
    rw [List.forall_mem_cons] at h
    have hcons : ofLines (line :: rest) = line ++ '\n' :: ofLines rest := by
      simp [ofLines]
    rw [hcons, h.1.lines_append, ih h.2]

/-- Between the line feeds of such a text are the lines, and nothing behind the last one. -/
theorem splitOn_ofLines {lines : List Text} (h : ∀ line ∈ lines, '\n' ∉ line) :
    (ofLines lines).splitOn '\n' = lines ++ [[]] := by
  induction lines with
  | nil => rfl
  | cons line rest ih =>
    rw [List.forall_mem_cons] at h
    have hcons : ofLines (line :: rest) = line ++ '\n' :: ofLines rest := by
      simp [ofLines]
    rw [hcons, splitOn_append_cons h.1, ih h.2, List.cons_append]

/-! ## Control characters -/

/-- Whether all characters of a text are the space or above it. -/
def HasNoControls (t : Text) : Prop := ∀ c ∈ t, 0x20 ≤ c.toNat

instance (t : Text) : Decidable t.HasNoControls :=
  decidable_of_iff (t.all fun c => 0x20 ≤ c.toNat) (by simp [HasNoControls])

@[simp] theorem hasNoControls_nil : HasNoControls [] := by
  simp [HasNoControls]

@[simp] theorem hasNoControls_cons {c : Char} {t : Text} :
    HasNoControls (c :: t) ↔ 0x20 ≤ c.toNat ∧ t.HasNoControls := by
  simp [HasNoControls]

@[simp] theorem hasNoControls_append {s t : Text} :
    HasNoControls (s ++ t) ↔ s.HasNoControls ∧ t.HasNoControls := by
  simp [HasNoControls, or_imp, forall_and]

theorem HasNoControls.of_subset {s t : Text} (h : t.HasNoControls) (hst : s ⊆ t) :
    s.HasNoControls :=
  fun c hc => h c (hst hc)

/-- A line may end in a text without control characters. -/
theorem HasNoControls.isLine_append {line t : Text} (h : t.HasNoControls) (hne : t ≠ [])
    (hline : '\n' ∉ line) : IsLine (line ++ t) := by
  have hnot : ∀ {c : Char}, c.toNat < 0x20 → c ∉ t := by
    intro c hc hmem
    have hle := h c hmem
    omega
  constructor
  · simp [hline, hnot (show '\n'.toNat < 0x20 by decide)]
  · rw [List.getLast?_append_of_ne_nil _ hne]
    intro hlast
    exact hnot (show '\r'.toNat < 0x20 by decide) (List.mem_of_getLast? hlast)

theorem HasNoControls.isLine {t : Text} (h : t.HasNoControls) (hne : t ≠ []) : IsLine t :=
  h.isLine_append hne List.not_mem_nil

end EditorKit.Text
