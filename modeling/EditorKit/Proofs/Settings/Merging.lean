import EditorKit.Proofs.Text.Bytes
import EditorKit.Proofs.Text.Trim
import EditorKit.Settings.Sources
import Mathlib.Data.List.Basic

/-!
# Merged settings

Settings are merged one by one: each has its value from the last source that sets it. A source that
does not set it, such as a map with a blank text, leaves it to the ones before.

* `Field` is a setting by itself, and `Sets` says to what a source sets it;
* `Grouping` is a way to put sources in pairs, which makes no difference (`Grouping.settings_eq`);
* `exists_ofSources_eq` says that sources that can be read can be merged, and what comes of it
  (`SetsLast`).
-/

namespace EditorKit

/-! ## Modes by name -/

namespace Search.Mode

theorem asciiLower_name (mode : Mode) : Text.asciiLower mode.name = mode.name := by
  cases mode <;> decide

theorem asciiLower_otherName (mode : Mode) : Text.asciiLower mode.otherName = mode.otherName := by
  cases mode <;> decide

/-- A text names a mode by either of its names, in any letter case. -/
theorem toOption_ofText_eq_some_iff {t : Text} {mode : Mode} :
    (ofText t).toOption = some mode ↔
      Text.sameIgnoringCase t.trim mode.name ∨ Text.sameIgnoringCase t.trim mode.otherName := by
  have hfind : (ofText t).toOption = all.find? fun mode =>
      mode.name == t.trim.asciiLower || mode.otherName == t.trim.asciiLower := by
    rw [ofText]
    split
    · rename_i heq
      rw [heq]
      rfl
    · rename_i heq
      rw [heq]
      rfl
  rw [hfind, Text.sameIgnoringCase, Text.sameIgnoringCase, beq_iff_eq, beq_iff_eq,
    asciiLower_name, asciiLower_otherName]
  constructor
  · intro h
    have hnamed := List.find?_some h
    rw [Bool.or_eq_true, beq_iff_eq, beq_iff_eq] at hnamed
    exact hnamed.imp Eq.symm Eq.symm
  · rintro (h | h)
    · rw [h]
      cases mode <;> decide
    · rw [h]
      cases mode <;> decide

end Search.Mode

/-! ## Reading files -/

/-- The text of a file is the one whose bytes in UTF-8 the file holds. -/
theorem FileReader.text_eq_ok_iff {read : FileReader} {path t : Text} :
    read.text path = .ok t ↔ read path = .ok t.encode := by
  rw [FileReader.text]
  cases read path with
  | error fault => simp
  | ok bytes =>
    rw [Except.ok.injEq, ← Bytes.decode_eq_some_iff]
    cases hdecode : bytes.decode <;> simp [hdecode]

namespace Settings

/-! ## Single settings -/

/-- The settings that there are. -/
inductive Field where
  | themeFile
  | activeTheme
  | mode
  | traceLevel
  | logFile
deriving DecidableEq, Repr

namespace Field

/-- What a setting can be set to. -/
abbrev Value : Field → Type
  | mode => Search.Mode
  | themeFile | activeTheme | traceLevel | logFile => Text

/-- What a setting is set to, if it is. -/
def get : (field : Field) → Settings → Option field.Value
  | themeFile => Settings.themeFile
  | activeTheme => Settings.activeTheme
  | mode => Settings.mode
  | traceLevel => Settings.traceLevel
  | logFile => Settings.logFile

/-- The name of a setting in a map. -/
def key : Field → String
  | themeFile => "theme_file"
  | activeTheme => "theme"
  | mode => "mode"
  | traceLevel => "trace_level"
  | logFile => "log_file"

/-- Whether a text stands for a value: a mode is given by one of its names, in any letter case, and
anything else as it is. -/
def StandsFor : (field : Field) → Text → field.Value → Prop
  | mode => fun t mode =>
    Text.sameIgnoringCase t mode.name ∨ Text.sameIgnoringCase t mode.otherName
  | themeFile | activeTheme | traceLevel | logFile => fun t value => t = value

/-- Settings are determined by their fields. -/
theorem eq_of_get_eq {settings others : Settings}
    (h : ∀ field : Field, field.get settings = field.get others) : settings = others := by
  obtain ⟨themeFile, activeTheme, mode, traceLevel, logFile⟩ := settings
  obtain rfl : themeFile = _ := h .themeFile
  obtain rfl : activeTheme = _ := h .activeTheme
  obtain rfl : mode = _ := h .mode
  obtain rfl : traceLevel = _ := h .traceLevel
  obtain rfl : logFile = _ := h .logFile
  rfl

@[simp] theorem get_bare (field : Field) : field.get bare = none := by
  cases field <;> rfl

theorem get_merge (field : Field) (settings others : Settings) :
    field.get (settings.merge others) = (field.get others).or (field.get settings) := by
  cases field <;> exact Option.orElse_eq_or ..

end Field

theorem valueOf_eq_some_iff {values : List (Text × Text)} {name : String} {value : Text} :
    valueOf values name = some value ↔
      ∃ t, values.lookup name.toList = some t ∧ t.trim ≠ [] ∧ t.trim = value := by
  rw [valueOf, Option.bind_eq_some_iff]
  refine exists_congr fun t => and_congr_right fun _ => ?_
  cases ht : t.trim <;> simp

/-- A map sets what it has a text for, unless the text is blank or names no mode. -/
theorem get_ofMap_eq_some_iff {values : List (Text × Text)} {field : Field}
    {value : field.Value} :
    field.get (ofMap values) = some value ↔ ∃ t,
      values.lookup field.key.toList = some t ∧ t.trim ≠ [] ∧ field.StandsFor t.trim value := by
  cases field with
  | themeFile | activeTheme | traceLevel | logFile => exact valueOf_eq_some_iff
  | mode =>
    show (valueOf values "mode").bind _ = some value ↔ _
    rw [Option.bind_eq_some_iff]
    simp only [valueOf_eq_some_iff, Search.Mode.toOption_ofText_eq_some_iff]
    constructor
    · rintro ⟨name, ⟨t, hlookup, hne, rfl⟩, hnames⟩
      rw [Text.trim_trim] at hnames
      exact ⟨t, hlookup, hne, hnames⟩
    · rintro ⟨t, hlookup, hne, hnames⟩
      exact ⟨t.trim, ⟨t, hlookup, hne, rfl⟩, by rwa [Text.trim_trim]⟩

theorem get_ofMap_eq_none_iff {values : List (Text × Text)} {field : Field} :
    field.get (ofMap values) = none ↔ ∀ t, values.lookup field.key.toList = some t →
      t.trim = [] ∨ ∀ value, ¬ field.StandsFor t.trim value := by
  rw [Option.eq_none_iff_forall_ne_some]
  simp only [ne_eq, get_ofMap_eq_some_iff, not_exists, not_and]
  constructor
  · intro h t hlookup
    exact or_iff_not_imp_left.2 fun hne value => h value t hlookup hne
  · intro h value t hlookup hne
    exact (h t hlookup).resolve_left hne value

/-! ## What sources set -/

section Sources

variable (read : FileReader)

/-- A source sets a field to a value: a map by a text that is not blank and stands for the value, a
document if it is in order and has the value, given as a text or in a file. -/
inductive Sets (field : Field) (value : field.Value) : Source → Prop where
  | map {values : List (Text × Text)} {t : Text} (hlookup : values.lookup field.key.toList = some t)
    (hne : t.trim ≠ []) (hvalue : field.StandsFor t.trim value) : Sets field value (.map values)
  | document {document : Text} {settings : Settings} (hdocument : ofToml document = .ok settings)
    (hget : field.get settings = some value) : Sets field value (.document document)
  | file {path document : Text} {settings : Settings} (hfile : read path = .ok document.encode)
    (hdocument : ofToml document = .ok settings) (hget : field.get settings = some value) :
    Sets field value (.file path)

/-- The last of some sources that set a field sets it to a value. -/
def SetsLast (field : Field) (value : field.Value) (sources : List Source) : Prop :=
  ∃ before source after, sources = before ++ source :: after ∧ Sets read field value source ∧
    ∀ later ∈ after, ∀ other, ¬ Sets read field other later

/-- Whether the settings of a source can be read. -/
def IsReadable (source : Source) : Prop := ∃ settings, ofSource read source = .ok settings

/-- The settings of a source that can be read. -/
def given (source : Source) : Settings := (ofSource read source).toOption.getD bare

variable {read} {field : Field} {source : Source} {sources : List Source}

theorem ofSource_eq_given (h : IsReadable read source) :
    ofSource read source = .ok (given read source) := by
  obtain ⟨settings, hsettings⟩ := h
  rw [given, hsettings]
  rfl

theorem get_given_eq_some_iff (h : IsReadable read source) {value : field.Value} :
    field.get (given read source) = some value ↔ Sets read field value source := by
  have hgiven := ofSource_eq_given h
  generalize given read source = settings at hgiven
  cases source with
  | map values =>
    obtain rfl := Except.ok.inj hgiven
    rw [get_ofMap_eq_some_iff]
    constructor
    · rintro ⟨t, hlookup, hne, hvalue⟩
      exact .map hlookup hne hvalue
    · rintro ⟨hlookup, hne, hvalue⟩
      exact ⟨_, hlookup, hne, hvalue⟩
  | document document =>
    constructor
    · exact .document hgiven
    · rintro (_ | ⟨hdocument, hget⟩)
      rwa [Except.ok.inj (hgiven.symm.trans hdocument)]
  | file path =>
    constructor
    · intro hget
      rw [ofSource] at hgiven
      cases hfile : read.text path with
      | error fault => simp [hfile, Bind.bind, Except.bind] at hgiven
      | ok document =>
        rw [hfile] at hgiven
        exact .file (FileReader.text_eq_ok_iff.1 hfile) hgiven hget
    · rintro (_ | _ | ⟨hfile, hdocument, hget⟩)
      rw [ofSource, FileReader.text_eq_ok_iff.2 hfile] at hgiven
      rwa [Except.ok.inj (hgiven.symm.trans hdocument)]

theorem get_given_eq_none_iff (h : IsReadable read source) :
    field.get (given read source) = none ↔ ∀ value, ¬ Sets read field value source := by
  rw [Option.eq_none_iff_forall_ne_some]
  exact forall_congr' fun _ => not_congr (get_given_eq_some_iff h)

/-! ## Merging from left to right -/

/-- Sources that can be read are merged from left to right. -/
theorem foldlM_merge (h : ∀ source ∈ sources, IsReadable read source) (start : Settings) :
    sources.foldlM (fun settings source => return settings.merge (← ofSource read source)) start =
      .ok (sources.foldl (fun settings source => settings.merge (given read source)) start) := by
  induction sources generalizing start with
  | nil => rfl
  | cons source rest ih =>
    obtain ⟨hsource, hrest⟩ := List.forall_mem_cons.1 h
    rw [List.foldlM_cons, List.foldl_cons, ofSource_eq_given hsource]
    exact ih hrest (start.merge (given read source))

theorem ofSources_concat {settings others : Settings} (h : ofSources read sources = .ok settings)
    (hsource : ofSource read source = .ok others) :
    ofSources read (sources ++ [source]) = .ok (settings.merge others) := by
  rw [ofSources] at h ⊢
  rw [List.foldlM_append, h]
  show (ofSource read source >>= fun others => .ok (settings.merge others)) >>= _ = _
  rw [hsource]
  rfl

/-- A setting that settings have been merged into is looked for from the last source back. -/
theorem get_foldl_merge (start : Settings) :
    field.get (sources.foldl (fun settings source => settings.merge (given read source)) start) =
      (sources.reverse.findSome? fun source => field.get (given read source)).or
        (field.get start) := by
  induction sources generalizing start with
  | nil => rfl
  | cons source rest ih =>
    rw [List.foldl_cons, ih, Field.get_merge, List.reverse_cons, List.findSome?_append,
      List.findSome?_singleton, Option.or_assoc]

theorem findSome?_reverse_eq_some_iff {α β : Type} {f : α → Option β} {xs : List α} {b : β} :
    xs.reverse.findSome? f = some b ↔
      ∃ before x after, xs = before ++ x :: after ∧ f x = some b ∧ ∀ y ∈ after, f y = none := by
  rw [List.findSome?_eq_some_iff]
  constructor
  · rintro ⟨after, x, before, hxs, hx, hafter⟩
    refine ⟨before.reverse, x, after.reverse, ?_, hx, by simpa using hafter⟩
    simpa using congrArg List.reverse hxs
  · rintro ⟨before, x, after, rfl, hx, hafter⟩
    exact ⟨after.reverse, x, before.reverse, by simp, hx, by simpa using hafter⟩

/-- **The last source that sets a field decides it.** Sources that can be read can be merged. -/
theorem exists_ofSources_eq (h : ∀ source ∈ sources, IsReadable read source) :
    ∃ settings, ofSources read sources = .ok settings ∧
      ∀ (field : Field) (value : field.Value),
        field.get settings = some value ↔ SetsLast read field value sources := by
  refine ⟨_, foldlM_merge h bare, fun field value => ?_⟩
  rw [get_foldl_merge, Field.get_bare, Option.or_none, findSome?_reverse_eq_some_iff]
  refine exists₃_congr fun before source after => and_congr_right ?_
  rintro rfl
  rw [List.forall_mem_append, List.forall_mem_cons] at h
  rw [get_given_eq_some_iff h.2.1]
  exact and_congr_right fun _ => forall₂_congr fun later hlater =>
    get_given_eq_none_iff (h.2.2 later hlater)

end Sources

/-! ## Merging in any grouping -/

theorem bare_merge (settings : Settings) : bare.merge settings = settings :=
  Field.eq_of_get_eq fun field => by rw [Field.get_merge, Field.get_bare, Option.or_none]

theorem merge_assoc (first second third : Settings) :
    (first.merge second).merge third = first.merge (second.merge third) :=
  Field.eq_of_get_eq fun field => by simp only [Field.get_merge, Option.or_assoc]

/-- A way to merge sources: neighbours are put in pairs until one is left. -/
inductive Grouping where
  | one (source : Source)
  | pair (first second : Grouping)

namespace Grouping

/-- The sources, in order. -/
def sources : Grouping → List Source
  | one source => [source]
  | pair first second => first.sources ++ second.sources

/-- The settings of grouped sources. The sources are read in order, and the settings of each pair
are merged by themselves. -/
def settings (read : FileReader) : Grouping → Except Error Settings
  | one source => ofSource read source
  | pair first second => do
    let former ← first.settings read
    let latter ← second.settings read
    return former.merge latter

/-- Merging grouped sources into settings is the same as merging one source after the other. -/
theorem foldlM_sources (read : FileReader) (grouping : Grouping) (start : Settings) :
    grouping.sources.foldlM
        (fun settings source => return settings.merge (← ofSource read source)) start =
      (grouping.settings read).map start.merge := by
  induction grouping generalizing start with
  | one source =>
    rw [sources, List.foldlM_cons, settings]
    cases ofSource read source <;> rfl
  | pair first second ihFirst ihSecond =>
    rw [sources, List.foldlM_append, ihFirst, settings]
    cases first.settings read with
    | error e => rfl
    | ok former =>
      show List.foldlM _ (start.merge former) second.sources = _
      rw [ihSecond]
      cases second.settings read with
      | error e => rfl
      | ok latter => exact congrArg Except.ok (merge_assoc start former latter)

/-- **The grouping makes no difference**, neither to the settings nor to the error if a source
cannot be read. -/
theorem settings_eq_ofSources (read : FileReader) (grouping : Grouping) :
    grouping.settings read = ofSources read grouping.sources := by
  rw [ofSources, foldlM_sources]
  cases grouping.settings read with
  | error e => rfl
  | ok settings => exact congrArg Except.ok (bare_merge settings).symm

end Grouping
end Settings
end EditorKit
