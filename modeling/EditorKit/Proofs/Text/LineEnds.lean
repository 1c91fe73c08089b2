import EditorKit.Proofs.Text.Lines

/-!
# Lines with their line ends

A text is the row of its lines, each with its line end; the last one may have none. Any of these
lines can be taken out, line end and all, and the other ones stay the lines that they are.

* `Text.endedLines` cuts a text behind every line feed, and `Text.dropEnd` drops a line end;
* `Text.IsCut` says which rows of texts come from such a cut. Every part of such a row is one again
  (`IsCut.sublist`);
* `Text.lines_flatten` gives the lines of the text that such a row makes up.
-/

namespace EditorKit.Text

/-- Gives pieces between line feeds their line feeds back. The last piece has none behind it, and is
no line when it is empty. -/
def endPieces : List Text → List Text
  | [] => []
  | [last] => if last.isEmpty then [] else [last]
  | line :: rest => (line ++ ['\n']) :: endPieces rest

/-- The lines of a text with their line ends. -/
def endedLines (t : Text) : List Text := endPieces (t.splitOn '\n')

/-- A line without its line end, which is a line feed or a carriage return and a line feed. -/
def dropEnd (line : Text) : Text :=
  if line.getLast? = some '\n' then dropReturn line.dropLast else line

/-- Whether a text is a line in front of a line feed, together with this line feed. -/
def IsEnded (piece : Text) : Prop := ∃ line, '\n' ∉ line ∧ piece = line ++ ['\n']

/-- Whether texts are lines with their line ends, where only the last one may have none. -/
structure IsCut (pieces : List Text) : Prop where
  ended : pieces.Pairwise fun piece _ => IsEnded piece
  isLine : ∀ piece ∈ pieces, IsEnded piece ∨ piece ≠ [] ∧ '\n' ∉ piece

/-! ## Cutting a text -/

theorem dropEnd_append_newline (line : Text) : dropEnd (line ++ ['\n']) = dropReturn line := by
  rw [dropEnd, List.getLast?_concat, if_pos rfl, List.dropLast_concat]

theorem dropEnd_of_not_mem {line : Text} (h : '\n' ∉ line) : dropEnd line = line :=
  if_neg fun hlast => h (List.mem_of_getLast? hlast)

theorem map_dropEnd_endPieces {pieces : List Text} (h : ∀ piece ∈ pieces, '\n' ∉ piece) :
    (endPieces pieces).map dropEnd = endLines pieces := by
  fun_induction endPieces pieces with
  | case1 => rfl
  | case2 last hempty => simp [endLines, hempty]
  | case3 last hempty =>
    rw [endLines, if_neg hempty, List.map_singleton,
      dropEnd_of_not_mem (h last List.mem_cons_self)]
  | case4 line rest hrest ih =>
    rw [List.forall_mem_cons] at h
    rw [List.map_cons, dropEnd_append_newline, ih h.2, endLines]
    exact hrest

/-- Without their line ends they are the lines. -/
theorem map_dropEnd_endedLines (t : Text) : (endedLines t).map dropEnd = t.lines :=
  map_dropEnd_endPieces fun _ => not_mem_of_mem_splitOn

theorem flatten_endPieces (pieces : List Text) :
    (endPieces pieces).flatten = ['\n'].intercalate pieces := by
  fun_induction endPieces pieces with
  | case1 => rfl
  | case2 last hempty => simp_all [List.intercalate]
  | case3 last hempty => simp [List.intercalate]
  | case4 line rest hrest ih =>
    obtain ⟨next, later, rfl⟩ := List.exists_cons_of_ne_nil hrest
    rw [List.flatten_cons, ih, List.append_assoc]
    simp [List.intercalate, List.intersperse]

/-- Together they are the text. -/
theorem flatten_endedLines (t : Text) : (endedLines t).flatten = t := by
  rw [endedLines, flatten_endPieces, List.intercalate_splitOn]

theorem isCut_endPieces {pieces : List Text} (h : ∀ piece ∈ pieces, '\n' ∉ piece) :
    IsCut (endPieces pieces) := by
  fun_induction endPieces pieces with
  | case1 => exact ⟨List.Pairwise.nil, by simp⟩
  | case2 last hempty => exact ⟨List.Pairwise.nil, by simp⟩
  | case3 last hempty =>
    refine ⟨List.pairwise_singleton _ _, ?_⟩
    rw [List.forall_mem_singleton]
    exact .inr ⟨by simpa using hempty, h last List.mem_cons_self⟩
  | case4 line rest hrest ih =>
    rw [List.forall_mem_cons] at h
    have hended : IsEnded (line ++ ['\n']) := ⟨line, h.1, rfl⟩
    obtain ⟨hpairwise, hlines⟩ := ih h.2
    exact ⟨List.pairwise_cons.2 ⟨fun _ _ => hended, hpairwise⟩,
      List.forall_mem_cons.2 ⟨.inl hended, hlines⟩⟩

theorem isCut_endedLines (t : Text) : IsCut (endedLines t) :=
  isCut_endPieces fun _ => not_mem_of_mem_splitOn

/-! ## Taking lines out -/

theorem IsCut.sublist {pieces kept : List Text} (h : IsCut pieces) (hsub : kept.Sublist pieces) :
    IsCut kept :=
  ⟨h.ended.sublist hsub, fun piece hpiece => h.isLine piece (hsub.subset hpiece)⟩

/-- A cut text is cut at the same places again. -/
theorem IsCut.endedLines_flatten {pieces : List Text} (h : IsCut pieces) :
    endedLines pieces.flatten = pieces := by
  induction pieces with
  | nil => rfl
  | cons piece rest ih =>
    obtain ⟨hended, hlines⟩ := h
    rw [List.pairwise_cons] at hended
    rw [List.forall_mem_cons] at hlines
    rcases hlines.1 with ⟨line, hline, rfl⟩ | ⟨hne, hnewline⟩
    · have hsplit : (line ++ ['\n'] ++ rest.flatten).splitOn '\n' =
          line :: rest.flatten.splitOn '\n' := by
        rw [List.append_assoc, List.singleton_append, splitOn_append_cons hline]
      obtain ⟨next, later, hnext⟩ :=
        List.exists_cons_of_ne_nil (List.splitOn_ne_nil '\n' rest.flatten)
      rw [List.flatten_cons, endedLines, hsplit, hnext, endPieces, ← hnext]
      · exact congrArg _ (ih ⟨hended.2, hlines.2⟩)
      · exact List.cons_ne_nil _ _
    · -- a line without a line end is the last one
      have hlast : rest = [] := by
        rw [List.eq_nil_iff_forall_not_mem]
        intro other hother
        obtain ⟨line, -, rfl⟩ := hended.1 other hother
        exact hnewline (by simp)
      rw [hlast, List.flatten_cons, List.flatten_nil, List.append_nil, endedLines,
        List.splitOn_eq_singleton hnewline, endPieces, if_neg (by simpa using hne)]

/-- The lines of a cut text are its pieces without their line ends. -/
theorem lines_flatten {pieces : List Text} (h : IsCut pieces) :
    lines pieces.flatten = pieces.map dropEnd := by
  rw [← map_dropEnd_endedLines, h.endedLines_flatten]

end EditorKit.Text
