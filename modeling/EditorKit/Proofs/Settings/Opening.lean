import EditorKit.Proofs.Settings.Merging
import EditorKit.Proofs.Theme.Inheritance
import EditorKit.Proofs.Theme.Selection

/-!
# Opening a theme store

The store that settings ask for has the theme resource that they name, and the active theme that
they select. A selector cannot fail: one that selects nothing leaves the first theme active.

* `Theme.IsChosen` says which theme a selector makes active, and `Theme.Store.isChosen_active`
  that a fresh store makes this theme active;
* `Settings.IsResource` says what the theme resource is, and `Settings.resource_eq_ok_iff` that
  nothing else is read;
* `Settings.openStore_of_sources` is the main result, from the sources of settings to the store.
-/

namespace EditorKit

namespace Theme

/-- The theme that a selector makes active among some themes. A numeral of 64 bits is the place of a
theme, any other selector is the name of one, and white space around it does not count. The first
theme is active where there is no such theme, or no selector. -/
inductive IsChosen (themes : List Theme) : Option Text → Theme → Prop where
  | number {selector : Text} {index : Int} {theme : Theme}
    (hnumber : Text.IsInt64 selector.trim index) (hlow : 0 ≤ index)
    (hget : themes[index.toNat]? = some theme) : IsChosen themes (some selector) theme
  | outOfRange {selector : Text} {index : Int} {theme : Theme}
    (hnumber : Text.IsInt64 selector.trim index) (hout : index < 0 ∨ themes.length ≤ index)
    (hfirst : themes.head? = some theme) : IsChosen themes (some selector) theme
  | name {selector : Text} {theme : Theme} (hno : ∀ index, ¬ Text.IsInt64 selector.trim index)
    (hfind : themes.find? (isNamed selector.trim) = some theme) :
    IsChosen themes (some selector) theme
  | unknown {selector : Text} {theme : Theme} (hno : ∀ index, ¬ Text.IsInt64 selector.trim index)
    (habsent : ∀ other ∈ themes, ¬ other.isNamed selector.trim)
    (hfirst : themes.head? = some theme) : IsChosen themes (some selector) theme
  | missing {theme : Theme} (hfirst : themes.head? = some theme) : IsChosen themes none theme

namespace Store

/-- A fresh store over a resource, told to select a theme if there is a selector. -/
def selecting (source : Text) (selector : Option Text) : Store :=
  match selector with
  | some selector => ((ofSource source).select selector).2
  | none => ofSource source

variable {store : Store}

/-! ## The active theme -/

/-- Where the index is no place of a theme, the first theme is active. -/
theorem IsCurrent.head?_eq_active (h : store.IsCurrent) (hplace : store.place = 0) :
    store.themes.head? = some store.active := by
  rw [List.head?_eq_getElem?, ← hplace]
  exact h.getElem?_place

theorem place_eq_zero_of_activeIndex (h : store.activeIndex = 0) : store.place = 0 := by
  rw [place, h, Int.toNat_zero, ite_self]

/-- **The theme that a selector makes active** in a fresh store, which keeps its resource. -/
theorem isChosen_active (source : Text) (selector : Option Text) :
    (selecting source selector).source = source ∧
      (selecting source selector).themes = themesOf source ∧
      IsChosen (themesOf source) selector (selecting source selector).active := by
  have hfresh := isCurrent_ofSource source
  cases selector with
  | none =>
    exact ⟨rfl, rfl, .missing (hfresh.head?_eq_active (place_eq_zero_of_activeIndex rfl))⟩
  | some selector =>
    by_cases hnumber : ∃ index, Text.IsInt64 selector.trim index
    · obtain ⟨index, hindex⟩ := hnumber
      rw [selecting, select_of_isInt64 hindex]
      let store : Store := { ofSource source with activeIndex := index }
      have hcurrent : store.IsCurrent := hfresh
      refine ⟨rfl, rfl, ?_⟩
      by_cases hactive : store.hasActive
      · have hplace : store.place = index.toNat := if_pos hactive
        refine .number hindex (hasActive_iff.1 hactive).1 ?_
        rw [← hplace]
        exact hcurrent.getElem?_place
      · have hout : ¬ (0 ≤ index ∧ index < (themesOf source).length) :=
          fun hin => hactive (hasActive_iff.2 hin)
        exact .outOfRange hindex (by omega) (hcurrent.head?_eq_active (if_neg hactive))
    · have hno := not_exists.1 hnumber
      cases hposition : (ofSource source).position selector with
      | some k =>
        obtain ⟨theme, hget, -⟩ := exists_getElem?_of_position hposition
        have hfind := find?_isNamed_eq (ofSource source) selector
        rw [hposition, Option.bind_some, hget] at hfind
        rw [selecting, select_of_position_eq_some hno hposition]
        refine ⟨rfl, rfl, ?_⟩
        rw [active_of_getElem? hget]
        exact .name hno hfind
      | none =>
        rw [selecting, select_of_position_eq_none hno hposition]
        refine ⟨rfl, rfl, .unknown hno (position_eq_none_iff.1 hposition) ?_⟩
        exact hfresh.warm.head?_eq_active (place_eq_zero_of_activeIndex rfl)

end Store
end Theme

namespace Settings

variable {read : FileReader} {settings : Settings} {resource : Text}

/-! ## The theme resource -/

/-- The theme resource for a theme file: the text in the file, or the built-in resource if no file
is named. -/
inductive IsResource (read : FileReader) : Option Text → Text → Prop where
  | file {path resource : Text} (hfile : read path = .ok resource.encode) :
    IsResource read (some path) resource
  | builtin : IsResource read none Theme.builtin

theorem resource_eq_ok_iff :
    settings.resource read = .ok resource ↔ IsResource read settings.themeFile resource := by
  rw [Settings.resource]
  cases settings.themeFile with
  | some path =>
    constructor
    · intro h
      exact .file (FileReader.text_eq_ok_iff.1 h)
    · rintro ⟨hfile⟩
      exact FileReader.text_eq_ok_iff.2 hfile
  | none =>
    constructor
    · intro h
      obtain rfl := Except.ok.inj h
      exact .builtin
    · rintro ⟨⟩
      rfl

/-- There is no resource exactly if a theme file is named and does not hold text. -/
theorem forall_not_isResource_iff {themeFile : Option Text} :
    (∀ resource, ¬ IsResource read themeFile resource) ↔
      ∃ path, themeFile = some path ∧ ∀ resource : Text, read path ≠ .ok resource.encode := by
  constructor
  · intro h
    cases themeFile with
    | none => exact absurd .builtin (h _)
    | some path => exact ⟨path, rfl, fun resource hfile => h resource (.file hfile)⟩
  · rintro ⟨path, rfl, hno⟩ resource ⟨hfile⟩
    exact hno resource hfile

/-! ## Opening -/

/-- Opening a store reads the resource and selects a theme in a fresh store. -/
theorem openStore_eq (read : FileReader) (settings : Settings) :
    settings.openStore read =
      (settings.resource read).map (Theme.Store.selecting · settings.activeTheme) := by
  rw [openStore]
  cases settings.resource read with
  | error e => rfl
  | ok resource => cases settings.activeTheme <;> rfl

/-- Opening fails exactly if there is no resource. -/
theorem exists_openStore_eq_error_iff :
    (∃ e, settings.openStore read = .error e) ↔
      ∀ resource, ¬ IsResource read settings.themeFile resource := by
  simp only [openStore_eq, ← resource_eq_ok_iff]
  cases settings.resource read with
  | error e => simp [Except.map]
  | ok resource => simp [Except.map]

/-- **From sources of settings to a theme store.** Sources that can be read can be merged, with the
same result in any grouping, and the last source that sets a field decides it: a map with a blank
text for a field, or with one that stands for nothing, leaves the field as it was. The theme store
for the settings cannot be opened exactly if they name a theme file that does not hold text,
whatever theme they select. Otherwise it answers from the resource in this file, or from the
built-in one, and its active theme is the one that the selector chooses. -/
theorem openStore_of_sources (read : FileReader) {sources : List Source}
    (h : ∀ source ∈ sources, IsReadable read source) :
    ∃ settings, ofSources read sources = .ok settings ∧
      (∀ grouping : Grouping, grouping.sources = sources →
        grouping.settings read = .ok settings) ∧
      (∀ (field : Field) (value : field.Value),
        field.get settings = some value ↔ SetsLast read field value sources) ∧
      (∀ (field : Field) (values : List (Text × Text)),
        (∀ t, values.lookup field.key.toList = some t →
          t.trim = [] ∨ ∀ value, ¬ field.StandsFor t.trim value) →
        ∃ later, ofSources read (sources ++ [.map values]) = .ok later ∧
          field.get later = field.get settings) ∧
      ((∃ e, settings.openStore read = .error e) ↔
        ∃ path, settings.themeFile = some path ∧
          ∀ resource : Text, read path ≠ .ok resource.encode) ∧
      ∀ resource, IsResource read settings.themeFile resource →
        ∃ store, settings.openStore read = .ok store ∧ store.source = resource ∧ ∃ theme,
          (store.step .active).1 = .theme theme ∧
          (store.run [.themes, .active]).1 =
            [.themes (Theme.themesOf resource), .theme theme] ∧
          Theme.IsChosen (Theme.themesOf resource) settings.activeTheme theme := by
  obtain ⟨settings, hsettings, hget⟩ := exists_ofSources_eq h
  refine ⟨settings, hsettings, ?_, hget, ?_, ?_, ?_⟩
  · rintro grouping rfl
    rw [grouping.settings_eq_ofSources, hsettings]
  · intro field values hblank
    refine ⟨_, ofSources_concat hsettings rfl, ?_⟩
    rw [Field.get_merge, get_ofMap_eq_none_iff.2 hblank, Option.none_or]
  · rw [exists_openStore_eq_error_iff, forall_not_isResource_iff]
  · intro resource hresource
    let store := Theme.Store.selecting resource settings.activeTheme
    obtain ⟨hsource, hthemes, hchosen⟩ :=
      Theme.Store.isChosen_active resource settings.activeTheme
    refine ⟨store, ?_, hsource, store.active, rfl, ?_, hchosen⟩
    · rw [openStore_eq, resource_eq_ok_iff.2 hresource]
      rfl
    · rw [← hthemes]
      rfl

/-- A document and two maps, the second of which sets nothing, and a theme that is selected by its
name. -/
theorem openStore_of_sources_three :
    let read : FileReader := fun path =>
      if path = "t".toList then .ok (Text.encode ">Light\n>Night\n".toList) else .error .notFound
    let document := Source.document "theme_file = 't'\ntheme = 'Light'\nmode = 'fuzzy'".toList
    let first := Source.map [("theme".toList, " night ".toList), ("mode".toList, "Contains".toList)]
    let second := Source.map [("theme".toList, "  ".toList), ("mode".toList, "regex".toList)]
    (∀ source ∈ [document, first, second], IsReadable read source) ∧
      ∃ settings,
        Grouping.settings read (.pair (.one document) (.pair (.one first) (.one second))) =
          .ok settings ∧
        settings.mode = some .substring ∧ settings.activeTheme = some "night".toList ∧
        IsResource read settings.themeFile ">Light\n>Night\n".toList ∧
        ∃ store theme, settings.openStore read = .ok store ∧
          (store.step .active).1 = .theme theme ∧
          (store.run [.themes, .active]).1 =
            [.themes (Theme.themesOf ">Light\n>Night\n".toList), .theme theme] ∧
          theme.name = "Night".toList := by
  intro read document first second
  have hreadable : ∀ source ∈ [document, first, second], IsReadable read source := by
    refine List.forall_mem_cons.2 ⟨?_, List.forall_mem_cons.2 ⟨⟨_, rfl⟩, ?_⟩⟩
    · exact ⟨⟨some "t".toList, some "Light".toList, some .fuzzy, none, none⟩, by decide +kernel⟩
    · exact List.forall_mem_singleton.2 ⟨_, rfl⟩
  obtain ⟨settings, hsettings, hgrouping, -, -, -, hopen⟩ := openStore_of_sources read hreadable
  have hmerged : ofSources read [document, first, second] =
      .ok ⟨some "t".toList, some "night".toList, some .substring, none, none⟩ := by
    decide +kernel
  obtain rfl := Except.ok.inj (hsettings.symm.trans hmerged)
  have hresource : IsResource read (some "t".toList) ">Light\n>Night\n".toList :=
    .file (if_pos rfl)
  obtain ⟨store, hstore, -, theme, hactive, hrun, hchosen⟩ := hopen _ hresource
  refine ⟨hreadable, _, hgrouping _ rfl, rfl, rfl, hresource, store, theme, hstore, hactive, hrun,
    ?_⟩
  have hno : ∀ index, ¬ Text.IsInt64 (Text.trim "night".toList) index :=
    Text.readInt64_eq_none_iff.1 (by decide +kernel)
  have hfound : ((Theme.themesOf ">Light\n>Night\n".toList).find?
      (Theme.isNamed (Text.trim "night".toList))).map Theme.name = some "Night".toList := by
    decide +kernel
  cases hchosen with
  | number hnumber => exact absurd hnumber (hno _)
  | outOfRange hnumber => exact absurd hnumber (hno _)
  | name _ hfind =>
    rw [hfind] at hfound
    exact Option.some.inj hfound
  | unknown _ habsent => exact absurd habsent (by decide +kernel)

end Settings
end EditorKit
