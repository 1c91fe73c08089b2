import EditorKit.Theme.Store
import Mathlib.Data.List.Basic

/-!
# Stores without memory

What a store keeps cannot be seen: it answers like one that reads its resource anew for every
command.

* `PlainStore` is the store without memory. It looks the active theme up with a check, so a run of
  it fails if any index is out of range;
* `Store.IsCurrent` is the invariant that carries the proof: what is kept comes from the resource;
* `Store.run_eq_plain` is the main result.
-/

namespace EditorKit.Theme

/-! ## The store without memory -/

/-- An entry of a theme with the unset colors taken from its base entry and then from `host`. -/
def inherited (theme : Theme) (key : StyleKey) (host : Entry) : Entry :=
  ((theme.entry? key).toList ++ (theme.entry? .base).toList).foldr Entry.inheritFrom host

/-- A resource and the index of the active theme. -/
structure PlainStore where
  source : Text
  index : Int

namespace PlainStore

/-- The themes of the resource, or one bare theme if it has none. -/
def themes (store : PlainStore) : List Theme :=
  if (read store.source).isEmpty then [bare "Default".toList] else read store.source

/-- The store with index zero, unless there is a theme with its index. -/
def heal (store : PlainStore) : PlainStore :=
  if 0 ≤ store.index ∧ store.index < store.themes.length then store else { store with index := 0 }

/-- The theme with the index of the store. -/
def active? (store : PlainStore) : Option Theme := store.themes[store.index.toNat]?

/-- The place of the first theme with a given name. -/
def place? (store : PlainStore) (name : Text) : Option Nat :=
  store.themes.findIdx? fun theme => Text.sameIgnoringCase theme.name name.trim

/-- Answers a command from the active theme. -/
def answer (store : PlainStore) (f : Theme → Store.Answer) : Option (Store.Answer × PlainStore) :=
  store.heal.active?.map fun theme => (f theme, store.heal)

/-- Answers one command. -/
def step (store : PlainStore) : Store.Command → Option (Store.Answer × PlainStore)
  | .themes => some (.themes store.themes, store)
  | .names => some (.names (store.themes.map Theme.name), store)
  | .count => some (.number store.themes.length, store)
  | .active => store.answer .theme
  | .activeIndex => some (.number store.index, store)
  | .setIndex index => some (.done, { store with index })
  | .selectByName name =>
    match store.place? name with
    | some k => some (.found true, { store with index := k })
    | none => some (.found false, store)
  | .select selector =>
    match Text.readInt64 selector.trim, store.place? selector with
    | some index, _ => some (.done, { store with index })
    | none, some k => some (.done, { store with index := k })
    | none, none => some (.refused (.noTheme selector), store)
  | .resolve key fallback => store.answer fun theme => .entry ((theme.entry? key).getD fallback)
  | .resolveInherited key host => store.answer fun theme => .entry (theme.inherited key host)
  | .reset => some (.done, store)
  | .replaceSource source => some (.done, { store with source })

/-- Answers commands one after the other. -/
def run (store : PlainStore) : List Store.Command → Option (List Store.Answer × PlainStore)
  | [] => some ([], store)
  | command :: rest => do
    let (answer, store) ← store.step command
    let (answers, store) ← store.run rest
    return (answer :: answers, store)

end PlainStore

/-! ## What a store keeps -/

theorem themesOf_eq (source : Text) :
    themesOf source = if (read source).isEmpty then [bare "Default".toList] else read source := by
  unfold themesOf
  cases read source <;> rfl

theorem length_themesOf_pos (source : Text) : 0 < (themesOf source).length := by
  rw [themesOf_eq]
  split
  · exact Nat.one_pos
  · rename_i hne
    exact List.length_pos_iff.2 (by simpa using hne)

namespace Store

/-- Whether the themes that a store keeps are those of its resource. -/
def IsCurrent (store : Store) : Prop := ∀ themes ∈ store.kept, themes = themesOf store.source

/-- A store without its memory. -/
def plain (store : Store) : PlainStore := ⟨store.source, store.activeIndex⟩

variable {store : Store}

theorem isCurrent_ofSource (source : Text) : (ofSource source).IsCurrent := by
  intro themes h
  simp [ofSource] at h

theorem IsCurrent.themes_eq (h : store.IsCurrent) : store.themes = themesOf store.source := by
  unfold themes
  cases hkept : store.kept with
  | none => rfl
  | some themes => exact h themes hkept

theorem IsCurrent.themes_plain (h : store.IsCurrent) : store.plain.themes = store.themes := by
  rw [h.themes_eq, themesOf_eq]
  rfl

theorem IsCurrent.length_themes_pos (h : store.IsCurrent) : 0 < store.themes.length := by
  rw [h.themes_eq]
  exact length_themesOf_pos store.source

/-- A store is current if it keeps nothing or its own themes. -/
theorem IsCurrent.warm (h : store.IsCurrent) : store.warm.IsCurrent := by
  intro themes hkept
  rw [← Option.some.inj hkept]
  exact h.themes_eq

@[simp] theorem source_warm (store : Store) : store.warm.source = store.source := rfl

@[simp] theorem themes_heal (store : Store) : store.heal.themes = store.themes := rfl

/-! ## The active theme -/

theorem hasActive_iff : store.hasActive ↔
    0 ≤ store.activeIndex ∧ store.activeIndex < store.themes.length := by
  simp [hasActive]

/-- Healing does to a store what it does to the store without memory. -/
theorem IsCurrent.plain_heal (h : store.IsCurrent) : store.heal.plain = store.plain.heal := by
  have hiff : 0 ≤ store.plain.index ∧ store.plain.index < store.themes.length ↔
      store.hasActive := hasActive_iff.symm
  rw [PlainStore.heal, h.themes_plain]
  by_cases hactive : store.hasActive
  · rw [if_pos (hiff.2 hactive)]
    simp [heal, hactive, plain]
  · rw [if_neg (mt hiff.1 hactive)]
    simp [heal, hactive, plain]

/-- Behind a healed index there is a theme, and it is the active one. -/
theorem IsCurrent.active_heal (h : store.IsCurrent) :
    0 ≤ store.heal.activeIndex ∧ store.heal.activeIndex < store.themes.length ∧
      store.themes[store.heal.activeIndex.toNat]? = some store.active := by
  have hpos := h.length_themes_pos
  by_cases hactive : store.hasActive
  · obtain ⟨hlow, hhigh⟩ := hasActive_iff.1 hactive
    have hindex : store.heal.activeIndex = store.activeIndex := by simp [heal, hactive]
    have hlt : store.activeIndex.toNat < store.themes.length := by omega
    rw [hindex]
    refine ⟨hlow, hhigh, ?_⟩
    simp [active, hactive, List.getD_eq_getElem?_getD, List.getElem?_eq_getElem hlt]
  · have hindex : store.heal.activeIndex = 0 := by simp [heal, hactive]
    rw [hindex]
    refine ⟨Int.le_refl 0, by omega, ?_⟩
    simp [active, hactive, List.getD_eq_getElem?_getD, List.getElem?_eq_getElem hpos]

theorem IsCurrent.heal (h : store.IsCurrent) : store.heal.IsCurrent := h.warm

theorem IsCurrent.answer_plain (h : store.IsCurrent) (f : Theme → Answer) :
    store.plain.answer f = some (f store.active, store.heal.plain) := by
  have hactive : store.heal.plain.active? = some store.active := by
    rw [PlainStore.active?, h.heal.themes_plain]
    exact h.active_heal.2.2
  rw [PlainStore.answer, ← h.plain_heal, hactive]
  rfl

theorem inheritFrom_self (entry : Entry) : entry.inheritFrom entry = entry := by
  obtain ⟨fore, back, font⟩ := entry
  cases fore <;> cases back <;> rfl

theorem resolveInherited_eq (store : Store) (key : StyleKey) (host : Entry) :
    store.resolveInherited key host = store.active.inherited key host := by
  unfold resolveInherited inherited
  cases store.active.entry? .base <;> cases store.active.entry? key <;>
    simp [inheritFrom_self]

/-! ## One command -/

theorem IsCurrent.place?_plain (h : store.IsCurrent) (name : Text) :
    store.plain.place? name = store.position name := by
  rw [PlainStore.place?, h.themes_plain]
  rfl

/-- **One command** is answered as by the store without memory, and what is kept stays current. -/
theorem IsCurrent.step_plain (h : store.IsCurrent) (command : Command) :
    store.plain.step command = some ((store.step command).1, (store.step command).2.plain) ∧
      (store.step command).2.IsCurrent := by
  cases command with
  | themes => exact ⟨by rw [PlainStore.step, h.themes_plain]; rfl, h.warm⟩
  | names => exact ⟨by rw [PlainStore.step, h.themes_plain]; rfl, h.warm⟩
  | count => exact ⟨by rw [PlainStore.step, h.themes_plain]; rfl, h.warm⟩
  | active => exact ⟨h.answer_plain .theme, h.heal⟩
  | activeIndex => exact ⟨rfl, h⟩
  | setIndex index => exact ⟨rfl, h⟩
  | selectByName name =>
    rw [PlainStore.step, h.place?_plain, step, selectByName]
    cases store.position name with
    | none => exact ⟨rfl, h.warm⟩
    | some k => exact ⟨rfl, h.warm⟩
  | select selector =>
    rw [PlainStore.step, h.place?_plain, step, select, selectByName]
    cases Text.readInt64 selector.trim with
    | some index => exact ⟨rfl, h⟩
    | none =>
      cases store.position selector with
      | none => exact ⟨rfl, h.warm⟩
      | some k => exact ⟨rfl, h.warm⟩
  | resolve key fallback => exact ⟨h.answer_plain _, h.heal⟩
  | resolveInherited key host =>
    refine ⟨?_, h.heal⟩
    rw [PlainStore.step, h.answer_plain, step, resolveInherited_eq]
  | reset => exact ⟨rfl, by simp [IsCurrent, step, reset]⟩
  | replaceSource source => exact ⟨rfl, by simp [IsCurrent, step, replaceSource]⟩

/-! ## Runs -/

theorem run_cons (store : Store) (command : Command) (rest : List Command) :
    store.run (command :: rest) =
      ((store.step command).1 :: ((store.step command).2.run rest).1,
        ((store.step command).2.run rest).2) := rfl

theorem run_append (store : Store) (first second : List Command) :
    store.run (first ++ second) =
      ((store.run first).1 ++ ((store.run first).2.run second).1,
        ((store.run first).2.run second).2) := by
  induction first generalizing store with
  | nil => rfl
  | cons command rest ih => rw [List.cons_append, run_cons, ih, run_cons]; rfl

theorem length_run (store : Store) (commands : List Command) :
    (store.run commands).1.length = commands.length := by
  induction commands generalizing store with
  | nil => rfl
  | cons command rest ih => rw [run_cons, List.length_cons, List.length_cons, ih]

theorem IsCurrent.run_plain (h : store.IsCurrent) (commands : List Command) :
    store.plain.run commands = some ((store.run commands).1, (store.run commands).2.plain) ∧
      (store.run commands).2.IsCurrent := by
  induction commands generalizing store with
  | nil => exact ⟨rfl, h⟩
  | cons command rest ih =>
    obtain ⟨hstep, hcurrent⟩ := h.step_plain command
    obtain ⟨hrun, hlast⟩ := ih hcurrent
    refine ⟨?_, hlast⟩
    rw [PlainStore.run, hstep, run_cons]
    simp only [Option.bind_eq_bind, Option.bind_some, hrun]
    rfl

/-- The store over a resource that some commands lead to. -/
abbrev reached (source : Text) (commands : List Command) : Store :=
  ((ofSource source).run commands).2

theorem isCurrent_reached (source : Text) (commands : List Command) :
    (reached source commands).IsCurrent :=
  ((isCurrent_ofSource source).run_plain commands).2

/-- Stores with the same resource and index give the same answers, whatever they keep. -/
theorem IsCurrent.answers_eq {other : Store} (h : store.IsCurrent) (h' : other.IsCurrent)
    (hplain : store.plain = other.plain) (commands : List Command) :
    (store.run commands).1 = (other.run commands).1 := by
  have hrun := (h.run_plain commands).1
  rw [hplain, (h'.run_plain commands).1, Option.some.injEq, Prod.mk.injEq] at hrun
  exact hrun.1.symm

/-! ## Commands that only touch what is kept -/

/-- Whether a command asks for the active theme. -/
def Command.asksActive : Command → Bool
  | active | resolve .. | resolveInherited .. => true
  | _ => false

/-- Whether a command forgets what is kept, or reads without asking for the active theme. -/
def Command.isIdle : Command → Bool
  | themes | names | count | activeIndex | reset => true
  | _ => false

theorem step_of_asksActive {command : Command} (h : command.asksActive) :
    (store.step command).2 = store.heal := by
  cases command with
  | active | resolve | resolveInherited => rfl
  | _ => simp [Command.asksActive] at h

theorem plain_step_of_isIdle {command : Command} (h : command.isIdle) :
    (store.step command).2.plain = store.plain := by
  cases command with
  | themes | names | count | activeIndex | reset => rfl
  | _ => simp [Command.isIdle] at h

/-- A command that changes neither the resource nor the index changes no later answer. -/
theorem IsCurrent.eraseIdx_run_of_plain_step (h : store.IsCurrent) {before : List Command}
    {command : Command}
    (hplain : ((store.run before).2.step command).2.plain = (store.run before).2.plain)
    (after : List Command) :
    (store.run (before ++ command :: after)).1.eraseIdx before.length =
      (store.run (before ++ after)).1 := by
  obtain ⟨-, hmiddle⟩ := h.run_plain before
  obtain ⟨-, hnext⟩ := hmiddle.step_plain command
  have hlater := hnext.answers_eq hmiddle hplain after
  rw [run_append, run_append, run_cons, hlater]
  rw [List.eraseIdx_append_of_length_le (Nat.le_of_eq (length_run ..)), length_run,
    Nat.sub_self, List.eraseIdx_cons_zero]

/-- An idle command changes no later answer. -/
theorem IsCurrent.eraseIdx_run (h : store.IsCurrent) (before after : List Command)
    {command : Command} (hidle : command.isIdle) :
    (store.run (before ++ command :: after)).1.eraseIdx before.length =
      (store.run (before ++ after)).1 :=
  h.eraseIdx_run_of_plain_step (plain_step_of_isIdle hidle) after

/-! ## All runs -/

/-- **A store answers every run as the store without memory does**, which looks themes up by checked
indices. There always is a theme, the index is that of a theme whenever the active one has been
asked for, and idle commands anywhere in a run leave all other answers as they are. -/
theorem run_eq_plain (source : Text) (commands : List Command) :
    (PlainStore.mk source 0).run commands =
        some (((ofSource source).run commands).1, ((ofSource source).run commands).2.plain) ∧
      1 ≤ ((ofSource source).run commands).2.themes.length ∧
      (∀ command : Command, command.asksActive →
        let before := ((ofSource source).run commands).2
        let after := (before.step command).2
        0 ≤ after.activeIndex ∧ after.activeIndex < after.themes.length ∧
          after.themes[after.activeIndex.toNat]? = some before.active) ∧
      ∀ (idle : Command) (later : List Command), idle.isIdle →
        ((ofSource source).run (commands ++ idle :: later)).1.eraseIdx commands.length =
          ((ofSource source).run (commands ++ later)).1 := by
  have hstart := isCurrent_ofSource source
  obtain ⟨hrun, hcurrent⟩ := hstart.run_plain commands
  refine ⟨hrun, hcurrent.length_themes_pos, ?_, ?_⟩
  · intro command hasks
    dsimp only
    rw [step_of_asksActive hasks, themes_heal]
    exact hcurrent.active_heal
  · intro idle later hidle
    exact hstart.eraseIdx_run commands later hidle

/-- An index that is left over from a longer resource. -/
theorem run_eq_plain_shorter :
    Command.active.asksActive ∧ Command.reset.isIdle ∧
      let commands := [.count, .setIndex 1, .replaceSource ">C\n".toList]
      let store := ((ofSource ">A\n>B\n".toList).run commands).2
      store.activeIndex = 1 ∧ store.themes.length = 1 ∧
      (store.step .active).2.activeIndex < (store.step .active).2.themes.length ∧
      ((ofSource ">A\n>B\n".toList).run (commands ++ .reset :: [.active])).1.eraseIdx 3 =
        ((ofSource ">A\n>B\n".toList).run (commands ++ [.active])).1 := by
  obtain ⟨-, -, hactive, hidle⟩ := run_eq_plain ">A\n>B\n".toList
    [.count, .setIndex 1, .replaceSource ">C\n".toList]
  have hthemes : (themesOf ">C\n".toList).length = 1 := by decide +kernel
  exact ⟨rfl, rfl, rfl, hthemes, (hactive .active rfl).2.1, hidle .reset [.active] rfl⟩

end Store
end EditorKit.Theme
