import EditorKit.Proofs.Theme.Fate
import Mathlib.Data.List.Forall2

/-!
# The sections of a resource

A theme of a resource is what the lines between its marker and the next one say, line by line, and
the last line about a key decides.

* `IsSectioned` says how lines are cut at their markers, and `isSectioned_iff` that there is one way
  to do so;
* `IsThemeOf` says which theme a section stands for, without a word about reading;
* `read_isThemeOf` is the main result.
-/

namespace EditorKit.Theme

/-! ## Sections -/

/-- A marker line without its marker, and the lines up to the next marker. -/
structure Section where
  heading : Text
  body : List Text

/-- The lines of a section. -/
def Section.lines (part : Section) : List Text := ('>' :: part.heading) :: part.body

/-- Whether lines are cut at their markers: first come those before any marker, then sections. -/
structure IsSectioned (lines front : List Text) (parts : List Section) : Prop where
  lines_eq : lines = front ++ parts.flatMap Section.lines
  front_plain : ∀ line ∈ front, ¬ IsMarker line
  body_plain : ∀ part ∈ parts, ∀ line ∈ part.body, ¬ IsMarker line

/-- Cuts lines at their markers. -/
def sectioned : List Text → List Text × List Section
  | [] => ([], [])
  | ('>' :: heading) :: rest => ([], ⟨heading, (sectioned rest).1⟩ :: (sectioned rest).2)
  | line :: rest => (line :: (sectioned rest).1, (sectioned rest).2)

theorem sectioned_cons_of_not_isMarker {line : Text} (h : ¬ IsMarker line) (rest : List Text) :
    sectioned (line :: rest) = (line :: (sectioned rest).1, (sectioned rest).2) := by
  rw [sectioned]
  exact not_isMarker_iff.1 h

theorem sectioned_append {front : List Text} (h : ∀ line ∈ front, ¬ IsMarker line)
    (rest : List Text) :
    sectioned (front ++ rest) = (front ++ (sectioned rest).1, (sectioned rest).2) := by
  induction front with
  | nil => rfl
  | cons line front ih =>
    rw [List.forall_mem_cons] at h
    rw [List.cons_append, sectioned_cons_of_not_isMarker h.1, ih h.2]
    rfl

theorem sectioned_flatMap_lines {parts : List Section}
    (h : ∀ part ∈ parts, ∀ line ∈ part.body, ¬ IsMarker line) :
    sectioned (parts.flatMap Section.lines) = ([], parts) := by
  induction parts with
  | nil => rfl
  | cons part rest ih =>
    rw [List.forall_mem_cons] at h
    rw [List.flatMap_cons, Section.lines, List.cons_append, sectioned, sectioned_append h.1,
      ih h.2, List.append_nil]

theorem isSectioned_sectioned (lines : List Text) :
    IsSectioned lines (sectioned lines).1 (sectioned lines).2 := by
  fun_induction sectioned lines with
  | case1 => exact ⟨rfl, by simp, by simp⟩
  | case2 heading rest ih =>
    obtain ⟨hlines, hfront, hbody⟩ := ih
    refine ⟨?_, by simp, List.forall_mem_cons.2 ⟨hfront, hbody⟩⟩
    rw [List.nil_append, List.flatMap_cons, Section.lines, List.cons_append, ← hlines]
  | case3 line rest hline ih =>
    obtain ⟨hlines, hfront, hbody⟩ := ih
    refine ⟨?_, List.forall_mem_cons.2 ⟨not_isMarker_iff.2 hline, hfront⟩, hbody⟩
    rw [List.cons_append, ← hlines]

/-- There is one way to cut lines at their markers. -/
theorem isSectioned_iff {lines front : List Text} {parts : List Section} :
    IsSectioned lines front parts ↔ sectioned lines = (front, parts) := by
  constructor
  · rintro ⟨rfl, hfront, hbody⟩
    rw [sectioned_append hfront, sectioned_flatMap_lines hbody, List.append_nil]
  · intro h
    have := isSectioned_sectioned lines
    rwa [h] at this

/-! ## What a section says -/

/-- Whether a line is an entry for a key. -/
def Styles (line : Text) (key : StyleKey) (entry : Entry) : Prop :=
  ∃ name, HasFields line name entry ∧ StyleKey.ofName name = some key

/-- Whether the last line for a key is an entry, among some lines. -/
def StylesLast (lines : List Text) (key : StyleKey) (entry : Entry) : Prop :=
  ∃ before line after, lines = before ++ line :: after ∧ Styles line key entry ∧
    ∀ later ∈ after, ∀ other, ¬ Styles later key other

/-- The key that a line is an entry for, and the entry. -/
def style? (line : Text) : Option (StyleKey × Entry) :=
  match readEntry line with
  | .ok (name, entry) => (StyleKey.ofName name).map (·, entry)
  | .error _ => none

theorem style?_eq_some_iff {line : Text} {key : StyleKey} {entry : Entry} :
    style? line = some (key, entry) ↔ Styles line key entry := by
  rcases hasFields_or_firstFault line with ⟨name, fields, hfields⟩ | ⟨fault, hfault⟩
  · have hunique : ∀ {name' entry'}, HasFields line name' entry' →
        name = name' ∧ fields = entry' := by
      intro name' entry' hfields'
      have heq := hfields.readEntry_eq.symm.trans hfields'.readEntry_eq
      simpa using heq
    rw [style?, hfields.readEntry_eq]
    simp only [Option.map_eq_some_iff, Prod.mk.injEq]
    constructor
    · rintro ⟨_, hname, rfl, rfl⟩
      exact ⟨name, hfields, hname⟩
    · rintro ⟨name', hfields', hname⟩
      obtain ⟨rfl, rfl⟩ := hunique hfields'
      exact ⟨key, hname, rfl, rfl⟩
  · rw [style?, hfault.readEntry_eq]
    constructor
    · intro h
      simp at h
    · rintro ⟨name, hfields, -⟩
      have heq := hfault.readEntry_eq.symm.trans hfields.readEntry_eq
      simp at heq

instance (line : Text) : Decidable (∃ key entry, Styles line key entry) :=
  decidable_of_iff (style? line).isSome (by
    simp only [Option.isSome_iff_exists, Prod.exists, style?_eq_some_iff])

/-- A section without the lines that style nothing. -/
def Section.styling (part : Section) : Section :=
  { part with body := part.body.filter fun line => ∃ key entry, Styles line key entry }

/-- Whether a theme is the one that a section stands for: it has the trimmed heading as its name,
and for each key the entry of the last line for this key. -/
structure IsThemeOf (theme : Theme) (part : Section) : Prop where
  name_eq : theme.name = part.heading.trim
  entry?_eq_some_iff : ∀ key entry, theme.entry? key = some entry ↔ StylesLast part.body key entry
  entry?_eq_none_iff : ∀ key, theme.entry? key = none ↔
    ∀ line ∈ part.body, ∀ entry, ¬ Styles line key entry

/-- A line more for a key takes the place of the ones before it. -/
theorem stylesLast_concat {lines : List Text} {line : Text} {key : StyleKey} {entry : Entry} :
    StylesLast (lines ++ [line]) key entry ↔
      Styles line key entry ∨ (∀ other, ¬ Styles line key other) ∧ StylesLast lines key entry := by
  constructor
  · rintro ⟨before, last, after, heq, hstyles, hafter⟩
    rcases List.eq_nil_or_concat' after with rfl | ⟨after, final, rfl⟩
    · obtain ⟨-, hlast⟩ := List.append_inj' heq rfl
      rw [(List.cons.inj hlast).1]
      exact .inl hstyles
    · rw [← List.cons_append, ← List.append_assoc] at heq
      obtain ⟨rfl, hlast⟩ := List.append_inj' heq rfl
      rw [(List.cons.inj hlast).1]
      simp only [List.forall_mem_append, List.forall_mem_singleton] at hafter
      exact .inr ⟨hafter.2, before, last, after, rfl, hstyles, hafter.1⟩
  · rintro (hstyles | ⟨hnone, before, last, after, rfl, hstyles, hafter⟩)
    · exact ⟨lines, line, [], rfl, hstyles, by simp⟩
    · refine ⟨before, last, after ++ [line], by simp, hstyles, ?_⟩
      simp only [List.forall_mem_append, List.forall_mem_singleton]
      exact ⟨hafter, hnone⟩

theorem not_stylesLast_nil (key : StyleKey) (entry : Entry) : ¬ StylesLast [] key entry := by
  rintro ⟨before, line, after, heq, -⟩
  simp at heq

/-- Some line for a key is the last one. -/
theorem forall_not_stylesLast_iff {lines : List Text} {key : StyleKey} :
    (∀ entry, ¬ StylesLast lines key entry) ↔
      ∀ line ∈ lines, ∀ entry, ¬ Styles line key entry := by
  induction lines using List.reverseRecOn with
  | nil => simp [not_stylesLast_nil]
  | append_singleton lines line ih =>
    simp only [stylesLast_concat, List.forall_mem_append, List.forall_mem_singleton, ← ih]
    by_cases hnone : ∀ other, ¬ Styles line key other
    · simp [hnone]
    · simp only [hnone, false_and, or_false, and_false]

/-- Lines that style nothing can be left out. -/
theorem stylesLast_filter {lines : List Text} {key : StyleKey} {entry : Entry} :
    StylesLast (lines.filter fun line => ∃ key entry, Styles line key entry) key entry ↔
      StylesLast lines key entry := by
  induction lines using List.reverseRecOn with
  | nil => rfl
  | append_singleton lines line ih =>
    rw [List.filter_append, stylesLast_concat]
    by_cases hstyles : ∃ key entry, Styles line key entry
    · rw [List.filter_singleton, decide_eq_true hstyles, cond_true, stylesLast_concat, ih]
    · have hnone : ∀ other, ¬ Styles line key other := fun other h => hstyles ⟨key, other, h⟩
      simp [hstyles, hnone, ih]

theorem isThemeOf_iff {theme : Theme} {part : Section} : IsThemeOf theme part ↔
    theme.name = part.heading.trim ∧
      ∀ key entry, theme.entry? key = some entry ↔ StylesLast part.body key entry := by
  constructor
  · exact fun h => ⟨h.name_eq, h.entry?_eq_some_iff⟩
  · rintro ⟨hname, hentry⟩
    refine ⟨hname, hentry, fun key => ?_⟩
    simp only [Option.eq_none_iff_forall_ne_some, ne_eq, hentry, forall_not_stylesLast_iff]

/-- Lines of a section that style nothing make no difference to its theme. -/
theorem isThemeOf_styling {theme : Theme} {part : Section} :
    IsThemeOf theme part.styling ↔ IsThemeOf theme part := by
  simp only [isThemeOf_iff, Section.styling, stylesLast_filter]

/-- A section stands for one theme. -/
theorem IsThemeOf.eq {s t : Theme} {part : Section} (hs : IsThemeOf s part)
    (ht : IsThemeOf t part) : s = t := by
  refine eq_of_entry?_eq (hs.name_eq.trans ht.name_eq.symm) fun key => Option.ext fun entry => ?_
  exact (hs.entry?_eq_some_iff key entry).trans (ht.entry?_eq_some_iff key entry).symm

/-! ## Reading sections -/

/-- The theme that reading makes of a section. -/
def Section.theme (part : Section) : Theme :=
  (part.body.map (fateOf true)).foldl Fate.applyTo (bare part.heading.trim)

theorem fateOf_eq_applied_iff {line : Text} (hmarker : ¬ IsMarker line) {key : StyleKey}
    {entry : Entry} : fateOf true line = .applied key entry ↔ Styles line key entry := by
  rw [← isFate_iff]
  constructor
  · rintro (_ | _ | _ | _ | _ | ⟨-, -, -, hfields, hname⟩)
    exact ⟨_, hfields, hname⟩
  · rintro ⟨name, hfields, hname⟩
    exact .applied hmarker hfields.not_isBlankText rfl hfields hname

/-- What a line adds to a theme. -/
theorem entry?_applyTo_eq_some_iff {theme : Theme} {line : Text} (hmarker : ¬ IsMarker line)
    {key : StyleKey} {entry : Entry} :
    Theme.entry? (Fate.applyTo theme (fateOf true line)) key = some entry ↔
      Styles line key entry ∨
        (∀ other, ¬ Styles line key other) ∧ theme.entry? key = some entry := by
  simp only [← fateOf_eq_applied_iff hmarker]
  cases fateOf true line with
  | applied key' entry' =>
    by_cases hkey : key = key'
    · simp [Fate.applyTo, set, hkey]
    · simp [Fate.applyTo, set, hkey, Ne.symm hkey]
  | marker | blank | skipped | unknown => simp [Fate.applyTo]

theorem name_applyTo (theme : Theme) (fate : Fate) : (fate.applyTo theme).name = theme.name := by
  cases fate <;> rfl

/-- Reading makes of a section the theme that it stands for. -/
theorem isThemeOf_theme {part : Section} (h : ∀ line ∈ part.body, ¬ IsMarker line) :
    IsThemeOf part.theme part := by
  obtain ⟨heading, body⟩ := part
  rw [isThemeOf_iff]
  -- from the last line back, since a line outdoes the ones before it
  induction body using List.reverseRecOn with
  | nil => exact ⟨rfl, by simp [Section.theme, bare, not_stylesLast_nil]⟩
  | append_singleton body line ih =>
    simp only [List.forall_mem_append, List.forall_mem_singleton] at h
    obtain ⟨hname, hentry⟩ := ih h.1
    have htheme : Section.theme ⟨heading, body ++ [line]⟩ =
        (fateOf true line).applyTo (Section.theme ⟨heading, body⟩) := by
      simp [Section.theme]
    rw [htheme, name_applyTo]
    refine ⟨hname, fun key entry => ?_⟩
    rw [entry?_applyTo_eq_some_iff h.2, hentry, stylesLast_concat]

theorem fatesFrom_append {body : List Text} (h : ∀ line ∈ body, ¬ IsMarker line) (opened : Bool)
    (rest : List Text) :
    fatesFrom opened (body ++ rest) = body.map (fateOf opened) ++ fatesFrom opened rest := by
  induction body with
  | nil => rfl
  | cons line body ih =>
    rw [List.forall_mem_cons] at h
    rw [List.cons_append, fatesFrom, decide_eq_false h.1, Bool.or_false, ih h.2]
    rfl

theorem assemble_append {fates : List Fate} (h : ∀ fate ∈ fates, ¬ fate.isMarker)
    (opened : Option Theme) (rest : List Fate) :
    assemble opened (fates ++ rest) = assemble (opened.map (fates.foldl Fate.applyTo)) rest := by
  induction fates generalizing opened with
  | nil => simp
  | cons fate fates ih =>
    rw [List.forall_mem_cons] at h
    rw [List.cons_append, assemble_cons_of_not_isMarker h.1, ih h.2, Option.map_map]
    rfl

/-- Lines between markers make of the open theme what they set in it. -/
theorem assemble_fatesFrom_append {body : List Text} (h : ∀ line ∈ body, ¬ IsMarker line)
    (isOpen : Bool) (opened : Option Theme) (rest : List Text) :
    assemble opened (fatesFrom isOpen (body ++ rest)) =
      assemble (opened.map ((body.map (fateOf isOpen)).foldl Fate.applyTo))
        (fatesFrom isOpen rest) := by
  rw [fatesFrom_append h, assemble_append]
  rw [List.forall_mem_map]
  intro line hline
  rw [isMarker_fateOf, decide_eq_true_iff]
  exact h line hline

theorem assemble_sections {parts : List Section}
    (h : ∀ part ∈ parts, ∀ line ∈ part.body, ¬ IsMarker line) (isOpen : Bool)
    (opened : Option Theme) :
    assemble opened (fatesFrom isOpen (parts.flatMap Section.lines)) =
      opened.toList ++ parts.map Section.theme := by
  induction parts generalizing isOpen opened with
  | nil => simp [fatesFrom, assemble]
  | cons part rest ih =>
    rw [List.forall_mem_cons] at h
    have hfate : fateOf isOpen ('>' :: part.heading) = .marker part.heading.trim :=
      IsFate.fateOf_eq (.marker rfl)
    have hmarker : IsMarker ('>' :: part.heading) := rfl
    rw [List.flatMap_cons, Section.lines, List.cons_append, fatesFrom, hfate,
      decide_eq_true hmarker, Bool.or_true, assemble, assemble_fatesFrom_append h.1, ih h.2]
    rfl

/-- The themes of a resource are those of its sections. -/
theorem read_eq (resource : Text) :
    read resource = (sectioned resource.lines).2.map Section.theme := by
  obtain ⟨hlines, hfront, hbody⟩ := isSectioned_sectioned resource.lines
  have hthemes : read resource = assemble none (fates resource) := by rw [read, readReport_eq]
  rw [hthemes, fates]
  conv_lhs => rw [hlines]
  rw [assemble_fatesFrom_append hfront, assemble_sections hbody]
  rfl

/-- **The themes of a resource are those that its sections stand for**, in order: each has the
trimmed heading as its name, and for each key the entry of the last line of its section that is an
entry for this key, if there is one. No line outside a section and no line in it that is no entry
for a key makes a difference. -/
theorem read_isThemeOf (resource : Text) :
    (∀ front parts, IsSectioned resource.lines front parts ↔
        sectioned resource.lines = (front, parts)) ∧
      (∀ themes, List.Forall₂ IsThemeOf themes (sectioned resource.lines).2 ↔
        themes = read resource) ∧
      ∀ theme part, IsThemeOf theme part.styling ↔ IsThemeOf theme part := by
  have hread : List.Forall₂ IsThemeOf (read resource) (sectioned resource.lines).2 := by
    rw [read_eq, List.forall₂_map_left_iff, List.forall₂_same]
    exact fun part hpart => isThemeOf_theme ((isSectioned_sectioned _).body_plain part hpart)
  refine ⟨fun _ _ => isSectioned_iff, fun themes => ⟨fun h => ?_, ?_⟩, fun _ _ =>
    isThemeOf_styling⟩
  · exact List.left_unique_forall₂' (fun _ _ _ hs ht => hs.eq ht) h hread
  · rintro rfl
    exact hread

end EditorKit.Theme
