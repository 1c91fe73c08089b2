import EditorKit.Proofs.Text.Numeral
import EditorKit.Proofs.Theme.Resource
import EditorKit.Proofs.Theme.Store

/-!
# Selecting a theme

A selector is a number or a name. A number is stored whatever it is; a name makes the first theme
with that name active, or else nothing that can be noticed happens.

* `Store.ActivatesNamed` says of a command that it selects by a name;
* `Store.IsCurrent.activatesNamed` proves it from what the command does when there is such a theme
  and when there is none;
* `Store.selection_run` is the main result, for a store after any commands.
-/

namespace EditorKit.Theme

/-- Whether a theme has a given name; letter case does not count. -/
def isNamed (name : Text) (theme : Theme) : Bool := Text.sameIgnoringCase theme.name name

theorem isNamed_self (theme : Theme) : theme.isNamed theme.name := by
  simp [isNamed, Text.sameIgnoringCase]

/-- There is no white space around the name of a theme. -/
theorem trim_name_of_mem_themesOf {source : Text} {theme : Theme} (h : theme ∈ themesOf source) :
    theme.name.trim = theme.name := by
  rw [themesOf_eq] at h
  split at h
  · rw [List.mem_singleton.1 h]
    decide
  · exact (hasLineName_of_mem_read theme h).2

namespace Store

variable {store : Store} {name : Text} {success failure : Answer}

/-! ## The first theme with a name -/

theorem find?_isNamed_eq (store : Store) (name : Text) :
    store.themes.find? (isNamed name.trim) =
      (store.position name).bind fun k => store.themes[k]? :=
  List.find?_eq_bind_findIdx?_getElem?

theorem position_eq_none_iff :
    store.position name = none ↔ ∀ theme ∈ store.themes, ¬ theme.isNamed name.trim := by
  rw [position, List.findIdx?_eq_none_iff]
  simp [isNamed]

theorem exists_getElem?_of_position {k : Nat} (h : store.position name = some k) :
    ∃ theme, store.themes[k]? = some theme ∧ theme.isNamed name.trim := by
  obtain ⟨hlt, hnamed, -⟩ := List.findIdx?_eq_some_iff_getElem.1 h
  exact ⟨store.themes[k], List.getElem?_eq_getElem hlt, hnamed⟩

/-- A store whose index is that of a theme has that theme as the active one. -/
theorem active_of_getElem? {k : Nat} {theme : Theme} (h : store.themes[k]? = some theme) :
    Store.active { store.warm with activeIndex := k } = theme := by
  obtain ⟨hlt, hget⟩ := List.getElem?_eq_some_iff.1 h
  have hactive : Store.hasActive { store.warm with activeIndex := k } := by
    rw [hasActive_iff]
    exact ⟨Int.natCast_nonneg k, Int.ofNat_lt.2 hlt⟩
  show store.themes.getD _ _ = theme
  rw [if_pos hactive, Int.toNat_natCast, List.getD_eq_getElem?_getD, h, Option.getD_some]

/-! ## What selecting does -/

theorem selectByName_of_position_eq_some {k : Nat} (h : store.position name = some k) :
    store.selectByName name = (true, { store.warm with activeIndex := k }) := by
  rw [selectByName, h]

theorem selectByName_of_position_eq_none (h : store.position name = none) :
    store.selectByName name = (false, store.warm) := by
  rw [selectByName, h]

/-- A number is stored as the index, whatever it is. -/
theorem select_of_isInt64 {selector : Text} {index : Int} (h : Text.IsInt64 selector.trim index) :
    store.select selector = (.ok (), { store with activeIndex := index }) := by
  rw [select, Text.readInt64_eq_some_iff.2 h]

/-- A name is looked for among the themes, and its place is stored as the index. -/
theorem select_of_position_eq_some {selector : Text}
    (hno : ∀ index, ¬ Text.IsInt64 selector.trim index) {k : Nat}
    (h : store.position selector = some k) :
    store.select selector = (.ok (), { store.warm with activeIndex := k }) := by
  rw [select, Text.readInt64_eq_none_iff.2 hno]
  simp only [selectByName_of_position_eq_some h]

/-- The name of no theme is refused, and changes nothing but what is kept. -/
theorem select_of_position_eq_none {selector : Text}
    (hno : ∀ index, ¬ Text.IsInt64 selector.trim index) (h : store.position selector = none) :
    store.select selector = (.error (.noTheme selector), store.warm) := by
  rw [select, Text.readInt64_eq_none_iff.2 hno]
  simp only [selectByName_of_position_eq_none h]

/-! ## Commands that select by a name -/

/-- A command, given after some others to a store over a resource, that makes the first theme with
a given name active. It succeeds exactly if there is one, which is the active theme from then on. If
there is none, no later answer is different from that of a run without the command. -/
structure ActivatesNamed (source : Text) (commands : List Command) (command : Command)
    (name : Text) (success failure : Answer) : Prop where
  succeeds_iff : ((reached source commands).step command).1 = success ↔
    ∃ theme ∈ (reached source commands).themes, theme.isNamed name
  activates : ∀ theme, (reached source commands).themes.find? (isNamed name) = some theme →
    ((reached source commands).run [command, .active]).1 = [success, .theme theme]
  refuses : (∀ theme ∈ (reached source commands).themes, ¬ theme.isNamed name) →
    ((reached source commands).step command).1 = failure ∧
      ∀ later, ((ofSource source).run (commands ++ command :: later)).1.eraseIdx commands.length =
        ((ofSource source).run (commands ++ later)).1

/-- What has to be known of a command is one step: to the first theme with the name, or else to a
store that keeps its themes. -/
theorem activatesNamed {source : Text} {commands : List Command} {command : Command}
    (hne : failure ≠ success)
    (hfound : ∀ k, (reached source commands).position name = some k →
      (reached source commands).step command =
        (success, { (reached source commands).warm with activeIndex := k }))
    (hmissing : (reached source commands).position name = none →
      (reached source commands).step command = (failure, (reached source commands).warm)) :
    ActivatesNamed source commands command name.trim success failure where
  succeeds_iff := by
    cases hposition : (reached source commands).position name with
    | none =>
      have habsent := position_eq_none_iff.1 hposition
      rw [hmissing hposition]
      constructor
      · intro h
        exact absurd h hne
      · rintro ⟨theme, hmem, hnamed⟩
        exact absurd hnamed (habsent theme hmem)
    | some k =>
      obtain ⟨theme, hget, hnamed⟩ := exists_getElem?_of_position hposition
      rw [hfound k hposition]
      exact ⟨fun _ => ⟨theme, List.mem_of_getElem? hget, hnamed⟩, fun _ => rfl⟩
  activates := by
    intro theme htheme
    rw [find?_isNamed_eq, Option.bind_eq_some_iff] at htheme
    obtain ⟨k, hposition, hget⟩ := htheme
    rw [run_cons, hfound k hposition]
    show [success, .theme (Store.active _)] = _
    rw [active_of_getElem? hget]
  refuses := by
    intro habsent
    have hstep := hmissing (position_eq_none_iff.2 habsent)
    refine ⟨by rw [hstep], fun later => ?_⟩
    exact (isCurrent_ofSource source).eraseIdx_run_of_plain_step (by rw [hstep]; rfl) later

theorem activatesNamed_selectByName (source : Text) (commands : List Command) (name : Text) :
    ActivatesNamed source commands (.selectByName name) name.trim (.found true) (.found false) := by
  refine activatesNamed (by simp) ?_ ?_
  · intro k hposition
    rw [step, selectByName_of_position_eq_some hposition]
  · intro hposition
    rw [step, selectByName_of_position_eq_none hposition]

theorem activatesNamed_select (source : Text) (commands : List Command) {selector : Text}
    (hno : ∀ index, ¬ Text.IsInt64 selector.trim index) :
    ActivatesNamed source commands (.select selector) selector.trim .done
      (.refused (.noTheme selector)) := by
  refine activatesNamed (by simp) ?_ ?_
  · intro k hposition
    rw [step, select_of_position_eq_some hno hposition]
  · intro hposition
    rw [step, select_of_position_eq_none hno hposition]

/-- **Selecting a theme** in a store after any commands. A selector that is a numeral of 64 bits,
but for white space around it, is stored as the index. Any other selector is the name of a theme,
and is refused if there is none with that name. A name that is given as a name never counts as a
number, and all the names that the store lists can be given. -/
theorem selection_run (source : Text) (commands : List Command) :
    (∀ selector index, Text.IsInt64 selector.trim index →
      ((reached source commands).run [.select selector, .activeIndex]).1 =
        [.done, .number index]) ∧
    (∀ selector, (∀ index, ¬ Text.IsInt64 selector.trim index) →
      ActivatesNamed source commands (.select selector) selector.trim .done
        (.refused (.noTheme selector)) ∧ (Error.noTheme selector).kind = .theme) ∧
    (∀ name, ActivatesNamed source commands (.selectByName name) name.trim (.found true)
      (.found false)) ∧
    ∀ name ∈ (reached source commands).themes.map Theme.name, ∃ theme,
      ((reached source commands).run [.selectByName name, .active]).1 =
        [.found true, .theme theme] ∧ theme.isNamed name := by
  refine ⟨?_, ?_, activatesNamed_selectByName source commands, ?_⟩
  · intro selector index hnumeral
    have hread := Text.readInt64_eq_some_iff.2 hnumeral
    rw [run_cons, step, select, hread]
    rfl
  · intro selector hno
    exact ⟨activatesNamed_select source commands hno, rfl⟩
  · intro name hname
    obtain ⟨theme, hmem, rfl⟩ := List.mem_map.1 hname
    have htrim : theme.name.trim = theme.name :=
      trim_name_of_mem_themesOf ((isCurrent_reached source commands).themes_eq ▸ hmem)
    have hsome := List.find?_isSome.2 ⟨theme, hmem, isNamed_self theme⟩
    obtain ⟨first, hfirst⟩ := Option.isSome_iff_exists.1 hsome
    have hanswers := (activatesNamed_selectByName source commands theme.name).activates first
      (by rw [htrim, hfirst])
    exact ⟨first, hanswers, List.find?_some hfirst⟩

/-- A number and a name between white space, and a name that no theme has. -/
theorem selection_run_two_themes :
    Text.IsInt64 (Text.trim " 1 ".toList) 1 ∧
      (∀ index, ¬ Text.IsInt64 (Text.trim " b".toList) index) ∧
      (∀ index, ¬ Text.IsInt64 (Text.trim "c".toList) index) ∧
      ((reached ">A\n>B\n".toList [.count]).run [.select " 1 ".toList, .activeIndex]).1 =
        [.done, .number 1] ∧
      (∃ theme, theme.name = "B".toList ∧
        ((reached ">A\n>B\n".toList [.count]).run [.select " b".toList, .active]).1 =
          [.done, .theme theme]) ∧
      ((reached ">A\n>B\n".toList [.count]).step (.select "c".toList)).1 =
        .refused (.noTheme "c".toList) := by
  obtain ⟨hnumber, hname, -⟩ := selection_run ">A\n>B\n".toList [.count]
  have hone : Text.IsInt64 (Text.trim " 1 ".toList) 1 :=
    Text.readInt64_eq_some_iff.1 (by decide +kernel)
  have hb : ∀ index, ¬ Text.IsInt64 (Text.trim " b".toList) index :=
    Text.readInt64_eq_none_iff.1 (by decide +kernel)
  have hc : ∀ index, ¬ Text.IsInt64 (Text.trim "c".toList) index :=
    Text.readInt64_eq_none_iff.1 (by decide +kernel)
  have hfound : ((reached ">A\n>B\n".toList [.count]).themes.find?
      (isNamed (Text.trim " b".toList))).map Theme.name = some "B".toList := by
    decide +kernel
  obtain ⟨theme, htheme, hB⟩ := Option.map_eq_some_iff.1 hfound
  exact ⟨hone, hb, hc, hnumber _ 1 hone, ⟨theme, hB, (hname _ hb).1.activates theme htheme⟩,
    ((hname _ hc).1.refuses (by decide +kernel)).1⟩

end Store
end EditorKit.Theme
