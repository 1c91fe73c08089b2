import EditorKit.Proofs.Command.Run

/-!
# Brackets around ranges

Brackets are put around the ranges of a text and nothing else is done to it, if the ranges are in
order and inside the text. They may touch.

* `Bracketable` says what has to hold of the ranges; the ranges of every outcome satisfy it
  (`Bracketable.of_isRuns`);
* `signs` are the characters of a text and the brackets around its ranges, told apart, so that
  brackets that were put in differ from those that the text has of its own;
* `bracket_inserts` is the main result.
-/

namespace EditorKit.Command

open Search (IsRuns Listable Row Span)

/-! ## Ranges and signs -/

/-- Ranges that can stand between brackets in a text of a given size: they are in the order of their
starts, none is empty, no position is in two of them, and none reaches beyond the text. -/
structure Bracketable (size : Nat) (ranges : List Span) : Prop where
  ascending : ranges.Pairwise fun a b => a.start ≤ b.start
  apart : ranges.Pairwise fun a b => ∀ position, ¬ (a.covers position ∧ b.covers position)
  positive : ∀ s ∈ ranges, 0 < s.length
  within : ∀ s ∈ ranges, s.stop ≤ size

/-- A sign of a bracketed text: a character of the text, or a bracket that was put in. -/
inductive Sign where
  | own (c : Char)
  | opening
  | closing
deriving DecidableEq, Repr

namespace Sign

/-- The character that a sign is written as. -/
def char : Sign → Char
  | own c => c
  | opening => '['
  | closing => ']'

/-- The character of the text that a sign is, if it is none of the brackets that were put in. -/
def own? : Sign → Option Char
  | own c => some c
  | opening | closing => none

@[simp] theorem map_char_map_own (piece : Text) : (piece.map own).map char = piece := by
  rw [List.map_map]
  exact List.map_id piece

@[simp] theorem filterMap_map_own (piece : Text) : (piece.map own).filterMap own? = piece := by
  rw [List.filterMap_map]
  exact List.filterMap_some

@[simp] theorem filter_isNone_map_own (piece : Text) :
    (piece.map own).filter (·.own?.isNone) = [] := by
  simp [own?]

end Sign

/-- The signs of a text from a position on: the piece in front of each range as it is, the piece in
the range between brackets, and what is left behind the last range. -/
def signs (t : Text) (position : Nat) : List Span → List Sign
  | [] => (t.drop position).map .own
  | range :: ranges =>
    (t.extract position range.start).map .own ++
      .opening :: (t.extract range.start range.stop).map .own ++
      .closing :: signs t range.stop ranges

namespace Bracketable

variable {size : Nat} {range : Span} {ranges : List Span}

theorem of_cons (h : Bracketable size (range :: ranges)) : Bracketable size ranges where
  ascending := h.ascending.of_cons
  apart := h.apart.of_cons
  positive := fun s hs => h.positive s (List.mem_cons_of_mem _ hs)
  within := fun s hs => h.within s (List.mem_cons_of_mem _ hs)

theorem start_lt_stop (h : Bracketable size (range :: ranges)) : range.start < range.stop :=
  Span.start_lt_stop (h.positive range List.mem_cons_self)

/-- The first range ends before the others start, for a later start would be in both ranges. -/
theorem stop_le_start (h : Bracketable size (range :: ranges)) {s : Span} (hs : s ∈ ranges) :
    range.stop ≤ s.start := by
  have hstart : range.start ≤ s.start := (List.pairwise_cons.1 h.ascending).1 s hs
  have hapart := (List.pairwise_cons.1 h.apart).1 s hs s.start
  have hself : s.covers s.start := Span.covers_start (h.positive s (List.mem_cons_of_mem _ hs))
  refine Nat.le_of_not_lt fun hlt => hapart ⟨⟨hstart, hlt⟩, hself⟩

/-- The maximal runs of some positions can stand between brackets. -/
theorem of_isRuns {IsHit : Nat → Prop} (h : IsRuns size IsHit ranges) :
    Bracketable size ranges where
  ascending := h.ascending.imp Nat.le_of_lt
  apart := h.separated.imp fun hgap _ hboth =>
    Nat.lt_asymm hgap (Nat.lt_of_le_of_lt hboth.2.1 hboth.1.2)
  positive := h.positive
  within := h.within

end Bracketable

/-! ## One range after the other -/

variable {t : Text} {range : Span} {ranges : List Span} {position : Nat}

theorem bracketFrom_nil (position : Nat) (t : Text) : bracketFrom position t [] = t := by
  cases t <;> rfl

/-- A piece in front of the first range stays as it is. -/
theorem bracketFrom_before (hrange : range.start < range.stop) {before : Text}
    (h : position + before.length ≤ range.start) :
    bracketFrom position (before ++ t) (range :: ranges) =
      before ++ bracketFrom (position + before.length) t (range :: ranges) := by
  induction before generalizing position with
  | nil => rfl
  | cons c before ih =>
    rw [List.length_cons] at h
    have hstart : range.start ≠ position := by omega
    have hstop : position + 1 ≠ range.stop := by omega
    have hlater := @ih (position + 1) (by omega)
    rw [List.cons_append, bracketFrom, if_neg hstart, if_neg hstop, hlater, List.length_cons,
      Nat.add_right_comm, Nat.add_assoc]
    rfl

/-- The rest of a range is closed by a bracket, and has one in front if all of the range is left. -/
theorem bracketFrom_inside {inside : Text} (hne : inside ≠ []) (hstart : range.start ≤ position)
    (h : position + inside.length = range.stop) :
    bracketFrom position (inside ++ t) (range :: ranges) =
      (if range.start = position then ['['] else []) ++
        inside ++ ']' :: bracketFrom range.stop t ranges := by
  induction inside generalizing position with
  | nil => exact absurd rfl hne
  | cons c inside ih =>
    rw [List.length_cons] at h
    rw [List.cons_append, bracketFrom]
    by_cases hlast : inside = []
    · subst hlast
      have hstop : position + 1 = range.stop := by simpa using h
      rw [if_pos hstop, hstop]
      split <;> rfl
    · have hlength := List.length_pos_iff.2 hlast
      have hstop : position + 1 ≠ range.stop := by omega
      have hopened : range.start ≠ position + 1 := by omega
      rw [if_neg hstop, ih hlast (by omega) (by omega), if_neg hopened]
      split <;> rfl

theorem extract_append_drop {first last : Nat} (h : first ≤ last) (t : Text) :
    t.extract first last ++ t.drop last = t.drop first := by
  have hdrop : (t.drop first).drop (last - first) = t.drop last := by
    rw [List.drop_drop, Nat.add_sub_cancel' h]
  rw [List.extract_eq_take_drop, ← hdrop, List.take_append_drop]

theorem length_extract {first last : Nat} (h : last ≤ t.length) :
    (t.extract first last).length = last - first := by
  rw [List.extract_eq_take_drop, List.length_take, List.length_drop]
  omega

/-- The induction is on the ranges: no one starts before the position that has been reached. -/
theorem bracketFrom_drop (h : Bracketable t.length ranges)
    (hahead : ∀ s ∈ ranges, position ≤ s.start) :
    bracketFrom position (t.drop position) ranges = (signs t position ranges).map Sign.char := by
  induction ranges generalizing position with
  | nil => rw [bracketFrom_nil, signs, Sign.map_char_map_own]
  | cons range ranges ih =>
    have hfront : position ≤ range.start := hahead range List.mem_cons_self
    have hrange := h.start_lt_stop
    have hsize : range.stop ≤ t.length := h.within range List.mem_cons_self
    have hbefore : position + (t.extract position range.start).length = range.start := by
      rw [length_extract (by omega)]
      omega
    have hinside : range.start + (t.extract range.start range.stop).length = range.stop := by
      rw [length_extract hsize]
      omega
    have hne : t.extract range.start range.stop ≠ [] := by
      intro hnil
      rw [hnil] at hinside
      exact Nat.ne_of_lt hrange hinside
    calc bracketFrom position (t.drop position) (range :: ranges)
      _ = bracketFrom position (t.extract position range.start ++
            (t.extract range.start range.stop ++ t.drop range.stop)) (range :: ranges) := by
          rw [extract_append_drop (Nat.le_of_lt hrange), extract_append_drop hfront]
      _ = t.extract position range.start ++ bracketFrom range.start
            (t.extract range.start range.stop ++ t.drop range.stop) (range :: ranges) := by
          rw [bracketFrom_before hrange (Nat.le_of_eq hbefore), hbefore]
      _ = t.extract position range.start ++ (['['] ++ t.extract range.start range.stop ++
            ']' :: bracketFrom range.stop (t.drop range.stop) ranges) := by
          rw [bracketFrom_inside hne (Nat.le_refl _) hinside, if_pos rfl]
      _ = (signs t position (range :: ranges)).map Sign.char := by
          rw [ih h.of_cons fun _ => h.stop_le_start]
          simp only [signs, List.map_append, List.map_cons, Sign.map_char_map_own, Sign.char,
            List.cons_append, List.append_assoc, List.nil_append]

/-- The signs without the brackets that were put in are the text. -/
theorem filterMap_own_signs (h : Bracketable t.length ranges)
    (hahead : ∀ s ∈ ranges, position ≤ s.start) :
    (signs t position ranges).filterMap Sign.own? = t.drop position := by
  induction ranges generalizing position with
  | nil => rw [signs, Sign.filterMap_map_own]
  | cons range ranges ih =>
    have hrest := ih h.of_cons fun _ => h.stop_le_start
    have hrange := Nat.le_of_lt h.start_lt_stop
    have hfront : position ≤ range.start := hahead range List.mem_cons_self
    simp only [signs, List.filterMap_append, List.filterMap_cons, Sign.filterMap_map_own, hrest,
      Sign.own?]
    rw [List.append_assoc, extract_append_drop hrange, extract_append_drop hfront]

/-- The brackets that were put in come in pairs, one for each range. -/
theorem filter_isNone_signs (t : Text) (position : Nat) (ranges : List Span) :
    (signs t position ranges).filter (·.own?.isNone) =
      ranges.flatMap fun _ => [.opening, .closing] := by
  induction ranges generalizing position with
  | nil => rw [signs, Sign.filter_isNone_map_own, List.flatMap_nil]
  | cons range ranges ih =>
    simp only [signs, List.filter_append, Sign.filter_isNone_map_own, List.filter_cons, ih,
      List.flatMap_cons]
    rfl

/-- The bracketed text is the text with a pair of brackets put in around each range. -/
theorem Bracketable.bracket_eq (h : Bracketable t.length ranges) :
    bracket t ranges = (signs t 0 ranges).map Sign.char :=
  bracketFrom_drop h fun _ _ => Nat.zero_le _

theorem Bracketable.filterMap_own_signs_eq (h : Bracketable t.length ranges) :
    (signs t 0 ranges).filterMap Sign.own? = t :=
  filterMap_own_signs h fun _ _ => Nat.zero_le _

/-! ## Printed rows -/

section Rows

variable {α : Type} [Listable α] {mode : Search.Mode} {query : Text} {items : List α}

/-- The ranges of a row that are marked: all of them, unless the row is disabled. -/
def markedRanges (row : Row α) : List Span := if row.isDisabled then [] else row.outcome.ranges

/-- The signs of the label of a row. -/
def rowSigns (row : Row α) : List Sign := signs (Listable.label row) 0 (markedRanges row)

/-- The output is made of one line for each row of `Search.apply`: a mark, the signs of the label,
and the dispersion. In each of them every bracket that is opened is closed, and without the brackets
that were put in it is the label. -/
structure PrintsRows (mode : Search.Mode) (query : Text) (items : List α) (output : Text) :
    Prop where
  lines : output = Text.ofLines
    ((Search.apply mode (some query) items).zipIdx.map fun (row, position) =>
      (if position = 0 then '>' else ' ') :: ' ' :: (rowSigns row).map Sign.char ++
        '\t' :: Number.fixedText 2 row.outcome.dispersion)
  own : ∀ row ∈ Search.apply mode (some query) items,
    (rowSigns row).filterMap Sign.own? = Listable.label row
  paired : ∀ row ∈ Search.apply mode (some query) items,
    (rowSigns row).filter (·.own?.isNone) =
      (markedRanges row).flatMap fun _ => [.opening, .closing]

theorem bracketable_markedRanges {row : Row α} (h : row ∈ Search.apply mode (some query) items) :
    Bracketable (Listable.label row).length (markedRanges row) := by
  obtain ⟨IsHit, hruns⟩ := isRuns_of_mem_rank (Search.mem_apply_iff.1 h).1
  rw [markedRanges]
  split
  · exact ⟨.nil, .nil, by simp, by simp⟩
  · exact .of_isRuns hruns

theorem map_char_rowSigns {row : Row α} (h : row ∈ Search.apply mode (some query) items) :
    (rowSigns row).map Sign.char =
      if row.isDisabled then Listable.label row
      else marked (Listable.label row) row.outcome.ranges := by
  obtain ⟨IsHit, hruns⟩ := isRuns_of_mem_rank (Search.mem_apply_iff.1 h).1
  rw [rowSigns, ← (bracketable_markedRanges h).bracket_eq, markedRanges]
  split
  · exact bracketFrom_nil 0 _
  · exact bracket_eq_marked hruns _

/-- The report on some items as text. -/
theorem printsRows_filterItems (itemValue : α → Json.Value) (mode : Search.Mode) (query : Text)
    (items : List α) :
    PrintsRows mode query items (filterItems false itemValue mode query items) where
  lines := by
    rw [filterItems_eq, rowLines, if_neg (by simp)]
    congr 1
    refine List.map_congr_left ?_
    rintro ⟨row, position⟩ hrow
    have hmem := List.fst_mem_of_mem_zipIdx hrow
    dsimp only
    rw [rowLine, map_char_rowSigns hmem]
    simp
  own := fun _ h => (bracketable_markedRanges h).filterMap_own_signs_eq
  paired := fun row _ => filter_isNone_signs _ 0 (markedRanges row)

end Rows

/-! ## Runs -/

variable {world : World} {arguments : List Text} {options : Options} {output : Text}

theorem ofArguments_of_readSettings {read : FileReader} {settings : Settings}
    (h : readSettings read arguments = .ok (options, settings)) :
    Options.ofArguments arguments = .ok options := by
  rw [readSettings] at h
  cases hoptions : Options.ofArguments arguments with
  | error e => simp [hoptions, bind, Except.bind] at h
  | ok given =>
    cases hsettings : given.settings read with
    | error e => simp [hoptions, hsettings, bind, Except.bind] at h
    | ok found =>
      simp only [hoptions, hsettings, bind, Except.bind, pure, Except.pure, Except.ok.injEq,
        Prod.mk.injEq] at h
      rw [h.1]

/-- What a run prints is what it has to do. -/
theorem exists_work_of_printed (h : (run world arguments).ending = .printed output) :
    ∃ options settings store, Options.ofArguments arguments = .ok options ∧
      (work world options settings store).1 = .ok output := by
  unfold run at h
  cases hread : readSettings world.read arguments with
  | error e => simp [hread] at h
  | ok given =>
    obtain ⟨options, settings⟩ := given
    simp only [hread] at h
    split at h
    · simp at h
    · split at h
      · simp at h
      · rename_i read _
        simp only [openAndWork] at h
        cases hstore : settings.openStore read with
        | error e => simp [hstore] at h
        | ok store =>
          refine ⟨options, settings, store, ofArguments_of_readSettings hread, ?_⟩
          simp only [hstore] at h
          cases hwork : (work world options settings store).1 with
          | error e => simp [hwork] at h
          | ok t =>
            simp only [hwork, Ending.printed.injEq] at h
            rw [h]

/-- The rows that are asked for as text. -/
theorem printsRows_of_work {settings : Settings} {store : Theme.Store}
    (hreads : readsInput options) (htext : options.flag "json" = false)
    (h : (work world options settings store).1 = .ok output) :
    ∃ input, world.input.decode = some input ∧
      let query := (options.value? "query").getD []
      if options.flag "outline" then
        PrintsRows settings.modeInForce query (Outline.readDump input) output
      else PrintsRows settings.modeInForce query input.lines output := by
  simp only [readsInput, Bool.and_eq_true, Bool.not_eq_true', Option.isNone_iff_eq_none] at hreads
  obtain ⟨hthemes, hkey⟩ := hreads
  cases hinput : world.input.decode with
  | none => simp [work, hthemes, hkey, inputText, hinput] at h
  | some input =>
    refine ⟨input, rfl, ?_⟩
    simp only [work, hthemes, hkey, inputText, hinput, htext] at h
    dsimp only
    split
    · rename_i houtline
      simp only [houtline, if_true, Bool.false_eq_true, if_false, Except.ok.injEq] at h
      rw [← h]
      exact printsRows_filterItems ..
    · rename_i houtline
      simp only [houtline, Bool.false_eq_true, if_false, Except.ok.injEq] at h
      rw [← h]
      exact printsRows_filterItems ..

/-- **Brackets are put around the ranges and nothing else is changed**, if the ranges are in order
and inside the text, and the ranges of every outcome are. So in every row that a run prints as text,
each bracket that is opened is closed, and without the brackets that were put in the row shows its
label. -/
theorem bracket_inserts :
    (∀ (t : Text) (ranges : List Span), Bracketable t.length ranges →
      bracket t ranges = (signs t 0 ranges).map Sign.char ∧
      (signs t 0 ranges).filterMap Sign.own? = t ∧
      (signs t 0 ranges).filter (·.own?.isNone) = ranges.flatMap fun _ => [.opening, .closing]) ∧
    (∀ (mode : Search.Mode) (query t : Text),
      Bracketable t.length (Search.evaluate mode query t).ranges) ∧
    ∀ (world : World) (arguments : List Text) (output : Text) (options : Options),
      (run world arguments).ending = .printed output →
      Options.ofArguments arguments = .ok options → readsInput options →
      options.flag "json" = false →
      ∃ mode input, world.input.decode = some input ∧
        let query := (options.value? "query").getD []
        if options.flag "outline" then PrintsRows mode query (Outline.readDump input) output
        else PrintsRows mode query input.lines output := by
  refine ⟨?_, ?_, ?_⟩
  · intro t ranges h
    exact ⟨h.bracket_eq, h.filterMap_own_signs_eq, filter_isNone_signs t 0 ranges⟩
  · intro mode query t
    exact .of_isRuns (Search.isRuns_evaluate mode query t)
  · intro world arguments output options hprinted hoptions hreads htext
    obtain ⟨given, settings, store, hgiven, hwork⟩ := exists_work_of_printed hprinted
    obtain rfl : options = given := Except.ok.inj (hoptions.symm.trans hgiven)
    obtain ⟨input, hinput, hrows⟩ := printsRows_of_work hreads htext hwork
    exact ⟨settings.modeInForce, input, hinput, hrows⟩

/-- Ranges that touch, one of a single character, and one at the end; and a run on one line. -/
theorem bracket_inserts_touching :
    Bracketable 5 [⟨0, 2⟩, ⟨2, 1⟩, ⟨4, 1⟩] ∧
      bracket "abcde".toList [⟨0, 2⟩, ⟨2, 1⟩, ⟨4, 1⟩] = "[ab][c]d[e]".toList ∧
      ∃ output, (run (.ofFolder [] [97, 10]) ["query=A".toList]).ending = .printed output ∧
        Options.ofArguments ["query=A".toList] = .ok (.given ["query=A".toList]) ∧
        ∃ mode, PrintsRows mode "A".toList ["a".toList] output := by
  have hranges : Bracketable 5 [⟨0, 2⟩, ⟨2, 1⟩, ⟨4, 1⟩] :=
    { ascending := by decide
      apart := by
        simp only [List.pairwise_cons, List.mem_cons, forall_eq_or_imp, Span.covers, Span.stop]
        refine ⟨⟨?_, ?_, by simp⟩, ⟨?_, by simp⟩, by simp, .nil⟩ <;> intro position <;> omega
      positive := by decide
      within := by decide }
  have hfilters := FiltersLines.ofFolder_one_line
  have hoptions := Options.ofArguments_of_forall hfilters.assignments
  obtain ⟨hbrackets, -, hruns⟩ := bracket_inserts
  refine ⟨hranges, (hbrackets "abcde".toList _ hranges).1, _, hfilters.ending_run, hoptions, ?_⟩
  obtain ⟨mode, input, hinput, hrows⟩ := hruns _ _ _ _ hfilters.ending_run hoptions
    (by decide +kernel) (by decide +kernel)
  obtain rfl : "a\n".toList = input := Option.some.inj (hfilters.input_eq.symm.trans hinput)
  exact ⟨mode, hrows⟩

end EditorKit.Command
