import EditorKit.Proofs.Theme.Store

/-!
# Inherited entries

The entry that a store resolves for a style key is put together from up to three others: that of the
key, the base entry of the theme, and the host. These are the sources of the entry, in this order.

* `Inherits` says how an entry comes from its sources: each color from the first source that sets
  it, the font from the first source;
* `inherits_inherited` says that inheriting step by step gives that entry;
* `Store.inheritance_run` is the main result, for a store after any commands. It also says that
  hosts can be layered.
-/

namespace EditorKit.Theme

/-! ## Colors that show through -/

namespace Color

/-- The first of some colors that is set, or else no color. -/
def firstSet (colors : List Color) : Color := (colors.find? (! ·.isUnset)).getD .unset

@[simp] theorem firstSet_nil : firstSet [] = .unset := rfl

@[simp] theorem firstSet_cons (color : Color) (colors : List Color) :
    firstSet (color :: colors) = color.orElse (firstSet colors) := by
  cases color <;> rfl

theorem orElse_unset (color : Color) : color.orElse .unset = color := by
  cases color <;> rfl

theorem orElse_assoc (a b c : Color) : (a.orElse b).orElse c = a.orElse (b.orElse c) := by
  cases a <;> rfl

theorem orElse_eq_unset_iff {a b : Color} : a.orElse b = .unset ↔ a = .unset ∧ b = .unset := by
  cases a <;> simp [orElse]

theorem firstSet_eq_unset_iff {colors : List Color} :
    firstSet colors = .unset ↔ ∀ color ∈ colors, color = .unset := by
  induction colors with
  | nil => simp
  | cons color colors ih => rw [firstSet_cons, orElse_eq_unset_iff, ih, List.forall_mem_cons]

end Color

/-! ## Entries and their sources -/

/-- The sources of the entry for a key, the first one first. -/
def sources (theme : Theme) (key : StyleKey) (host : Entry) : List Entry :=
  (theme.entry? key).toList ++ (theme.entry? .base).toList ++ [host]

/-- An entry that comes from some sources: each of its colors is the first one that is set among
theirs, and is unset only if all of theirs are; its font is that of the first source. -/
structure Inherits (sources : List Entry) (entry : Entry) : Prop where
  fore : entry.fore = Color.firstSet (sources.map Entry.fore)
  back : entry.back = Color.firstSet (sources.map Entry.back)
  fore_eq_unset_iff : entry.fore = .unset ↔ ∀ source ∈ sources, source.fore = .unset
  back_eq_unset_iff : entry.back = .unset ↔ ∀ source ∈ sources, source.back = .unset
  font : sources.head?.map Entry.font = some entry.font

theorem inheritFrom_assoc (a b c : Entry) :
    (a.inheritFrom b).inheritFrom c = a.inheritFrom (b.inheritFrom c) := by
  simp only [Entry.inheritFrom, Color.orElse_assoc]

/-- A further host can be inherited from before or after. -/
theorem foldr_inheritFrom (entries : List Entry) (first second : Entry) :
    entries.foldr Entry.inheritFrom (first.inheritFrom second) =
      (entries.foldr Entry.inheritFrom first).inheritFrom second := by
  induction entries with
  | nil => rfl
  | cons entry entries ih => rw [List.foldr_cons, ih, List.foldr_cons, inheritFrom_assoc]

/-- What is said of one of the two colors of an entry holds of the other one for the same reason. -/
theorem color_foldr_inheritFrom {color : Entry → Color}
    (hcolor : ∀ a b : Entry, color (a.inheritFrom b) = (color a).orElse (color b))
    (entries : List Entry) (host : Entry) :
    color (entries.foldr Entry.inheritFrom host) =
      Color.firstSet ((entries ++ [host]).map color) := by
  induction entries with
  | nil => simp [Color.orElse_unset]
  | cons entry entries ih =>
    rw [List.foldr_cons, hcolor, ih, List.cons_append, List.map_cons, Color.firstSet_cons]

theorem color_foldr_inheritFrom_eq_unset_iff {color : Entry → Color}
    (hcolor : ∀ a b : Entry, color (a.inheritFrom b) = (color a).orElse (color b))
    (entries : List Entry) (host : Entry) :
    color (entries.foldr Entry.inheritFrom host) = .unset ↔
      ∀ source ∈ entries ++ [host], color source = .unset := by
  rw [color_foldr_inheritFrom hcolor, Color.firstSet_eq_unset_iff, List.forall_mem_map]

theorem font_foldr_inheritFrom (entries : List Entry) (host : Entry) :
    (entries ++ [host]).head?.map Entry.font =
      some (entries.foldr Entry.inheritFrom host).font := by
  cases entries <;> rfl

/-- Inheriting from the base entry and then from the host gives the entry that comes from the
sources. -/
theorem inherits_inherited (theme : Theme) (key : StyleKey) (host : Entry) :
    Inherits (theme.sources key host) (theme.inherited key host) where
  fore := color_foldr_inheritFrom (fun _ _ => rfl) _ host
  back := color_foldr_inheritFrom (fun _ _ => rfl) _ host
  fore_eq_unset_iff := color_foldr_inheritFrom_eq_unset_iff (fun _ _ => rfl) _ host
  back_eq_unset_iff := color_foldr_inheritFrom_eq_unset_iff (fun _ _ => rfl) _ host
  font := font_foldr_inheritFrom _ host

theorem inherited_inheritFrom (theme : Theme) (key : StyleKey) (first second : Entry) :
    theme.inherited key (first.inheritFrom second) =
      (theme.inherited key first).inheritFrom second :=
  foldr_inheritFrom _ first second

namespace Store

variable {store : Store}

/-! ## What a store answers -/

/-- The place where a store looks for its active theme. -/
def place (store : Store) : Nat := if store.hasActive then store.activeIndex.toNat else 0

theorem place_heal (store : Store) : store.heal.place = store.place := by
  by_cases hactive : store.hasActive
  · have hindex : store.heal.activeIndex = store.activeIndex := if_pos hactive
    have hhealed : store.heal.hasActive := by
      rw [hasActive, hindex]
      exact hactive
    rw [place, if_pos hhealed, hindex, place, if_pos hactive]
  · have hindex : store.heal.activeIndex = 0 := if_neg hactive
    rw [place, hindex, Int.toNat_zero, ite_self, place, if_neg hactive]

/-- Healing leaves the active theme as it is. -/
theorem active_heal_eq (store : Store) : store.heal.active = store.active := by
  show store.themes.getD store.heal.place _ = store.themes.getD store.place _
  rw [place_heal]

theorem IsCurrent.getElem?_place (h : store.IsCurrent) :
    store.themes[store.place]? = some store.active := by
  have hplace : store.heal.activeIndex.toNat = store.place := by
    show Int.toNat (if store.hasActive then store.activeIndex else 0) = store.place
    rw [place]
    split <;> rfl
  rw [← hplace]
  exact h.active_heal.2.2

theorem step_resolveInherited (store : Store) (key : StyleKey) (host : Entry) :
    store.step (.resolveInherited key host) =
      (.entry (store.active.inherited key host), store.heal) := by
  rw [step, resolveInherited_eq]

/-- **Inherited entries** in a store after any commands, whatever its index is and whether or not
anything has been read. The theme with that index, or else the first one, is the active theme. The
store answers with an entry that comes from the entry for the key in this theme, the base entry of
the theme, and the host. It is left as by the question for the active theme, and answers the same
after that question and before it. A host that itself inherits from another one can be resolved
first, and inherit after that. -/
theorem inheritance_run (source : Text) (commands : List Command) (key : StyleKey) :
    let store := reached source commands
    ∃ theme, (themesOf store.source)[store.place]? = some theme ∧
      (store.step .active).1 = .theme theme ∧
      (∀ host, ∃ entry, Inherits (theme.sources key host) entry ∧
        (store.step (.resolveInherited key host)).1 = .entry entry ∧
        (store.step (.resolveInherited key host)).2 = (store.step .active).2 ∧
        (store.run [.active, .resolveInherited key host, .active]).1 =
          [.theme theme, .entry entry, .theme theme]) ∧
      ∀ first second : Entry, ∃ entry,
        (store.step (.resolveInherited key first)).1 = .entry entry ∧
        (store.step (.resolveInherited key (first.inheritFrom second))).1 =
          .entry (entry.inheritFrom second) ∧
        (store.run [.resolveInherited key first,
          .resolveInherited key (first.inheritFrom second)]).1 =
          [.entry entry, .entry (entry.inheritFrom second)] := by
  intro store
  have hcurrent : store.IsCurrent := isCurrent_reached source commands
  refine ⟨store.active, ?_, rfl, ?_, ?_⟩
  · rw [← hcurrent.themes_eq]
    exact hcurrent.getElem?_place
  · intro host
    refine ⟨store.active.inherited key host, inherits_inherited store.active key host, ?_, rfl, ?_⟩
    · rw [step_resolveInherited]
    · show [Answer.theme store.active, (store.heal.step (.resolveInherited key host)).1,
        .theme store.heal.heal.active] = _
      simp only [step_resolveInherited, active_heal_eq]
  · intro first second
    refine ⟨store.active.inherited key first, ?_, ?_, ?_⟩
    · rw [step_resolveInherited]
    · rw [step_resolveInherited, inherited_inheritFrom]
    · rw [run_cons, run_cons, step_resolveInherited, step_resolveInherited, active_heal_eq,
        inherited_inheritFrom]
      rfl

end Store
end EditorKit.Theme
