import EditorKit.Proofs.Text.Lines
import EditorKit.Proofs.Theme.Field
import EditorKit.Theme.Resource

/-!
# Written resources

Writing and reading are inverse to each other on the themes whose names can stand behind a marker.

* `linesOf` are the lines that are written for a theme, and `run_linesOf` is what reading them adds;
* `hasLineName_of_mem_read` says that reading gives no other names than those that can be written;
* `read_write_eq_iff` is the main result.
-/

namespace EditorKit.Theme

/-- Whether the name of a theme can stand on one line behind a marker. -/
def HasLineName (theme : Theme) : Prop := '\n' ∉ theme.name ∧ theme.name.trim = theme.name

/-! ## The line of an entry -/

/-- The line that is written for an entry. -/
def entryLine (key : StyleKey) (entry : Entry) : Text :=
  ['\t'].intercalate [key.name, entry.fore.toText, entry.back.toText,
    Text.decimal entry.font.bits.toNat]

theorem writeEntry_eq (key : StyleKey) (entry : Entry) :
    writeEntry key entry = entryLine key entry ++ ['\n'] := by
  simp [writeEntry, entryLine, List.intercalate, List.intersperse]

/-- The fields of an entry have no white space in them. -/
theorem not_isBlank_of_mem_field {key : StyleKey} {entry : Entry} {field : Text} {c : Char}
    (hfield : field ∈ [key.name, entry.fore.toText, entry.back.toText,
      Text.decimal entry.font.bits.toNat]) (h : c ∈ field) : ¬ Text.isBlank c := by
  simp only [List.mem_cons, List.not_mem_nil, or_false] at hfield
  rcases hfield with rfl | rfl | rfl | rfl
  · exact StyleKey.not_isBlank_of_mem_name h
  · exact Color.not_isBlank_of_mem_toText h
  · exact Color.not_isBlank_of_mem_toText h
  · exact Text.not_isBlank_of_mem_decimal h

/-- The fields of an entry are cut out of its line again. -/
theorem splitOn_entryLine (key : StyleKey) (entry : Entry) :
    (entryLine key entry).splitOn '\t' = [key.name, entry.fore.toText, entry.back.toText,
      Text.decimal entry.font.bits.toNat] := by
  refine List.splitOn_intercalate '\t' ?_ (List.cons_ne_nil _ _)
  intro field hfield hmem
  exact not_isBlank_of_mem_field hfield hmem (by decide)

/-- An entry reads back from its line. -/
theorem readEntry_entryLine (key : StyleKey) (entry : Entry) :
    readEntry (entryLine key entry) = .ok (key.name, entry) := by
  have hname : Text.trim key.name = key.name :=
    Text.trim_of_forall_not_isBlank fun _ => StyleKey.not_isBlank_of_mem_name
  have hbits : Text.trim (Text.decimal entry.font.bits.toNat) =
      Text.decimal entry.font.bits.toNat :=
    Text.trim_of_forall_not_isBlank fun _ => Text.not_isBlank_of_mem_decimal
  rw [readEntry, splitOn_entryLine]
  simp only [Color.ofText_toText, hname, hbits, Text.readByte_decimal]
  rfl

theorem entryLine_eq (key : StyleKey) (entry : Entry) :
    entryLine key entry = key.name ++ '\t' :: ['\t'].intercalate [entry.fore.toText,
      entry.back.toText, Text.decimal entry.font.bits.toNat] := by
  simp [entryLine, List.intercalate, List.intersperse]

/-- The line of an entry is read as this entry. -/
theorem lineOfText_entryLine (key : StyleKey) (entry : Entry) :
    Line.ofText (entryLine key entry) = .style key.name entry := by
  have hline := entryLine_eq key entry
  obtain ⟨c, rest, hname⟩ := List.exists_cons_of_ne_nil key.name_ne_nil
  have hmarker : c ≠ '>' := by
    intro hc
    exact key.head?_name_ne (by rw [hname, hc]; rfl)
  have hfirst : c ∈ key.name := by
    rw [hname]
    exact List.mem_cons_self
  have hblank : ¬ Text.isBlankText (entryLine key entry) := by
    rw [hline, hname, Text.isBlankText, List.cons_append, List.all_cons, Bool.and_eq_true]
    exact fun h => StyleKey.not_isBlank_of_mem_name hfirst h.1
  have hread := readEntry_entryLine key entry
  rw [hline, hname, List.cons_append] at hblank hread ⊢
  rw [Line.ofText, if_neg hblank, hread]
  intro name heq
  exact hmarker (List.cons.inj heq).1

/-- There is no white space but tabs in the line of an entry. -/
theorem eq_tab_of_mem_entryLine {key : StyleKey} {entry : Entry} {c : Char}
    (h : c ∈ entryLine key entry) (hblank : Text.isBlank c) : c = '\t' := by
  rw [entryLine] at h
  rcases Text.mem_intercalate h with htab | ⟨field, hfield, hmem⟩
  · exact htab
  · exact absurd hblank (not_isBlank_of_mem_field hfield hmem)

theorem isLine_entryLine (key : StyleKey) (entry : Entry) :
    Text.IsLine (entryLine key entry) := by
  constructor
  · intro hmem
    exact absurd (eq_tab_of_mem_entryLine hmem (by decide)) (by decide)
  · intro hlast
    have hmem := List.mem_of_getLast? hlast
    exact absurd (eq_tab_of_mem_entryLine hmem (by decide)) (by decide)

/-! ## The lines of a theme -/

/-- The lines that are written for a theme. -/
def linesOf (theme : Theme) : List Text :=
  ('>' :: theme.name) :: theme.entries.map fun (key, entry) => entryLine key entry

theorem writeTheme_eq (theme : Theme) : writeTheme theme = Text.ofLines (linesOf theme) := by
  simp [writeTheme, linesOf, Text.ofLines, writeEntry_eq, List.flatMap_map]

theorem write_eq (themes : List Theme) :
    write themes = Text.ofLines (themes.flatMap linesOf) := by
  simp only [write, funext writeTheme_eq, Text.ofLines, List.flatMap_assoc]

theorem HasLineName.isLine {theme : Theme} (h : theme.HasLineName) :
    Text.IsLine ('>' :: theme.name) := by
  obtain ⟨hnewline, htrim⟩ := h
  refine ⟨by simpa using hnewline, ?_⟩
  rw [List.getLast?_cons]
  intro hlast
  cases hname : theme.name.getLast? with
  | none => simp [hname] at hlast
  | some c =>
    obtain rfl : c = '\r' := by simpa [hname] using hlast
    exact (Text.trim_eq_self_iff.1 htrim).2 _ hname (by decide)

theorem HasLineName.isLine_of_mem {theme : Theme} (h : theme.HasLineName) :
    ∀ line ∈ linesOf theme, Text.IsLine line := by
  rw [linesOf, List.forall_mem_cons, List.forall_mem_map]
  exact ⟨h.isLine, fun (key, entry) _ => isLine_entryLine key entry⟩

theorem eq_of_entry?_eq {s t : Theme} (hname : s.name = t.name)
    (hentry : ∀ key, s.entry? key = t.entry? key) : s = t := by
  obtain ⟨name, entry?⟩ := s
  obtain rfl : name = t.name := hname
  obtain rfl : entry? = t.entry? := funext hentry
  rfl

/-- Setting the entries of a theme for some keys makes this theme of one that has its name, has its
entries for all other keys, and none that it has not. -/
theorem foldl_set_filterMap {theme built : Theme} {keys : List StyleKey}
    (hname : built.name = theme.name)
    (hother : ∀ key ∉ keys, built.entry? key = theme.entry? key)
    (hnone : ∀ key, theme.entry? key = none → built.entry? key = none) :
    (keys.filterMap fun key => (theme.entry? key).map (key, ·)).foldl
      (fun built (key, entry) => built.set key entry) built = theme := by
  induction keys generalizing built with
  | nil => exact eq_of_entry?_eq hname fun key => hother key List.not_mem_nil
  | cons first rest ih =>
    cases hfirst : theme.entry? first with
    | none =>
      rw [List.filterMap_cons_none (by simp [hfirst])]
      refine ih hname (fun key hkey => ?_) hnone
      by_cases heq : key = first
      · rw [heq, hfirst, hnone first hfirst]
      · exact hother key (by simp [heq, hkey])
    | some entry =>
      rw [List.filterMap_cons_some (by simp [hfirst]; rfl), List.foldl_cons]
      refine ih hname (fun key hkey => ?_) fun key hkey => ?_
      · by_cases heq : key = first
        · simp [set, heq, hfirst]
        · simpa [set, heq] using hother key (by simp [heq, hkey])
      · have heq : key ≠ first := by
          rintro rfl
          simp [hfirst] at hkey
        simpa [set, heq] using hnone key hkey

/-- A theme is what its entries make of a bare theme with its name. -/
theorem foldl_set_entries (theme : Theme) :
    theme.entries.foldl (fun built (key, entry) => built.set key entry) (bare theme.name) =
      theme :=
  foldl_set_filterMap rfl (fun key hkey => absurd key.mem_all hkey) fun _ _ => rfl

/-! ## Reading lines -/

namespace Reader

theorem run_append (reader : Reader) (number : Nat) (first second : List Text) :
    reader.run number (first ++ second) =
      (reader.run number first).run (number + first.length) second := by
  induction first generalizing reader number with
  | nil => rfl
  | cons line rest ih =>
    rw [List.cons_append, run, ih, List.length_cons, run]
    congr 1
    omega

/-- Reading the lines of entries sets them in the open theme. -/
theorem run_entryLines {reader : Reader} {theme : Theme} (hopen : reader.opened = some theme)
    (number : Nat) (entries : List (StyleKey × Entry)) :
    reader.run number (entries.map fun (key, entry) => entryLine key entry) =
      { reader with opened := some (entries.foldl
          (fun built (key, entry) => built.set key entry) theme) } := by
  induction entries generalizing reader theme number with
  | nil => rw [List.map_nil, List.foldl_nil, run, ← hopen]
  | cons first rest ih =>
    obtain ⟨key, entry⟩ := first
    have hstep : reader.step number (.style key.name entry) =
        { reader with opened := some (theme.set key entry) } := by
      simp [step, hopen, setByName, StyleKey.ofName_name]
    rw [List.map_cons, run, lineOfText_entryLine, hstep, ih rfl, List.foldl_cons]

/-- Reading the lines of a theme adds this theme. -/
theorem run_linesOf (reader : Reader) (number : Nat) {theme : Theme} (h : theme.HasLineName) :
    reader.run number (linesOf theme) =
      { reader with finished := reader.themes, opened := some theme } := by
  have hmarker : Line.ofText ('>' :: theme.name) = .marker theme.name := by
    rw [Line.ofText, h.2]
  rw [linesOf, run, hmarker, step, run_entryLines rfl, foldl_set_entries]

/-- Reading the lines of several themes adds these themes, and leaves no line out. -/
theorem run_flatMap_linesOf (reader : Reader) (number : Nat) {themes : List Theme}
    (h : ∀ theme ∈ themes, theme.HasLineName) :
    let after := reader.run number (themes.flatMap linesOf)
    after.themes = themes.reverse ++ reader.themes ∧ after.skipped = reader.skipped ∧
      after.unknownKeys = reader.unknownKeys := by
  induction themes generalizing reader number with
  | nil => exact ⟨rfl, rfl, rfl⟩
  | cons theme rest ih =>
    rw [List.forall_mem_cons] at h
    rw [List.flatMap_cons, run_append, run_linesOf reader number h.1]
    obtain ⟨hthemes, hskipped, hunknown⟩ := ih
      { reader with finished := reader.themes, opened := some theme }
      (number + (linesOf theme).length) h.2
    refine ⟨?_, hskipped, hunknown⟩
    rw [hthemes, List.reverse_cons, List.append_assoc]
    rfl

end Reader

/-- Themes that can be written are read back, and no line of them is left out. -/
theorem readReport_write {themes : List Theme} (h : ∀ theme ∈ themes, theme.HasLineName) :
    readReport (write themes) = ⟨themes, [], []⟩ := by
  have hlines : ∀ line ∈ themes.flatMap linesOf, Text.IsLine line := by
    intro line hline
    obtain ⟨theme, htheme, hmem⟩ := List.mem_flatMap.1 hline
    exact (h theme htheme).isLine_of_mem line hmem
  obtain ⟨hthemes, hskipped, hunknown⟩ := Reader.run_flatMap_linesOf .start 1 h
  rw [readReport, write_eq, Text.lines_ofLines hlines]
  simp only [hthemes, hskipped, hunknown]
  simp [Reader.start, Reader.themes]

/-! ## The names that are read -/

/-- The name that a line gives to a theme. -/
def markedName? : Text → Option Text
  | '>' :: name => some (Text.trim name)
  | _ => none

theorem lineOfText_of_markedName?_eq_some {line name : Text}
    (h : markedName? line = some name) : Line.ofText line = .marker name := by
  unfold markedName? at h
  split at h
  · rw [Option.some.injEq] at h
    rw [Line.ofText, h]
  · simp at h

theorem lineOfText_ne_marker_of_markedName?_eq_none {line : Text} (h : markedName? line = none)
    (name : Text) : Line.ofText line ≠ .marker name := by
  unfold Line.ofText
  split
  · simp [markedName?] at h
  · split
    · simp
    · split <;> simp

theorem setByName_name {theme changed : Theme} {name : Text} {entry : Entry}
    (h : theme.setByName name entry = some changed) : changed.name = theme.name := by
  obtain ⟨key, -, rfl⟩ := Option.map_eq_some_iff.1 h
  rfl

/-- A line adds a theme with the name behind a marker, and no other line changes any name. -/
theorem map_name_themes_step (reader : Reader) (number : Nat) (line : Text) :
    (reader.step number (Line.ofText line)).themes.map Theme.name =
      (markedName? line).toList ++ reader.themes.map Theme.name := by
  cases hmarked : markedName? line with
  | some name =>
    rw [lineOfText_of_markedName?_eq_some hmarked]
    rfl
  | none =>
    have hline := lineOfText_ne_marker_of_markedName?_eq_none hmarked
    unfold Reader.step
    split
    · rename_i name heq
      exact absurd heq (hline name)
    · rfl
    · rfl
    · rfl
    · rename_i theme hopen
      split
      · rename_i changed hset
        simp [Reader.themes, hopen, setByName_name hset]
      · rfl

theorem map_name_themes_run (reader : Reader) (number : Nat) (lines : List Text) :
    (reader.run number lines).themes.map Theme.name =
      (lines.filterMap markedName?).reverse ++ reader.themes.map Theme.name := by
  induction lines generalizing reader number with
  | nil => rfl
  | cons line rest ih =>
    rw [Reader.run, ih, map_name_themes_step]
    cases hname : markedName? line with
    | none => rw [List.filterMap_cons_none hname]; rfl
    | some name => rw [List.filterMap_cons_some hname]; simp

/-- The names of the themes of a resource are those behind its markers, in order. -/
theorem map_name_read (resource : Text) :
    (read resource).map Theme.name = resource.lines.filterMap markedName? := by
  rw [read, readReport, List.map_reverse, map_name_themes_run]
  simp [Reader.start, Reader.themes]

/-- Every theme that is read can be written. -/
theorem hasLineName_of_mem_read {resource : Text} :
    ∀ theme ∈ read resource, theme.HasLineName := by
  intro theme htheme
  have hname : theme.name ∈ resource.lines.filterMap markedName? := by
    rw [← map_name_read]
    exact List.mem_map_of_mem htheme
  obtain ⟨line, hline, hmarked⟩ := List.mem_filterMap.1 hname
  have hnewline := Text.newline_not_mem_of_mem_lines hline
  unfold markedName? at hmarked
  split at hmarked
  · rename_i name
    rw [Option.some.injEq] at hmarked
    constructor
    · rw [← hmarked]
      exact fun hmem => hnewline (List.mem_cons_of_mem _ (Text.mem_of_mem_trim hmem))
    · rw [← hmarked, Text.trim_trim]
  · simp at hmarked

/-! ## Writing and reading -/

theorem read_write {themes : List Theme} (h : ∀ theme ∈ themes, theme.HasLineName) :
    read (write themes) = themes := by
  rw [read, readReport_write h]

/-- **Themes are read back from what is written for them exactly if all their names can stand on one
line behind a marker**, and then no line is skipped and no key is unknown. In particular the themes
of any resource are read back, and writing them again changes nothing. -/
theorem read_write_eq_iff (themes : List Theme) (resource : Text) :
    (read (write themes) = themes ↔ ∀ theme ∈ themes, theme.HasLineName) ∧
      (readReport (write themes) = ⟨themes, [], []⟩ ↔ ∀ theme ∈ themes, theme.HasLineName) ∧
      read (write (read resource)) = read resource ∧
      write (read (write (read resource))) = write (read resource) := by
  have hback : read (write (read resource)) = read resource :=
    read_write fun theme => hasLineName_of_mem_read theme
  refine ⟨⟨?_, read_write⟩, ⟨?_, readReport_write⟩, hback, by rw [hback]⟩
  · intro h
    rw [← h]
    exact hasLineName_of_mem_read
  · intro h
    have hread : read (write themes) = themes := by rw [read, h]
    rw [← hread]
    exact hasLineName_of_mem_read

end EditorKit.Theme
