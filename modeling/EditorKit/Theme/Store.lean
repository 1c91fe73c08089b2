import EditorKit.Theme.Resource

/-!
# Theme stores

A store holds a resource and the index of the active theme. The resource is read when its themes are
asked for the first time, and the themes are kept until the store is reset. The index may be any
number; it is set to zero when the active theme is asked for and there is no theme with that index.

* `Store.themes` and `Store.active` are the answers of a store, `Store.warm` and `Store.heal` what
  asking does to it;
* `Store.select` makes a theme active by its number or its name;
* `Store.resolve` and `Store.resolveInherited` look up the entry of a style key;
* `Store.step` answers one command, and `Store.run` a list of them.
-/

namespace EditorKit.Theme

/-- The themes of a resource, or one bare theme if it has none. -/
def themesOf (resource : Text) : List Theme :=
  match read resource with
  | [] => [bare "Default".toList]
  | themes => themes

/-- A resource with the themes that have been read from it, if they have, and the index of the
active theme. -/
structure Store where
  source : Text
  kept : Option (List Theme)
  activeIndex : Int

namespace Store

/-- A store over a resource, from which nothing is read yet. -/
def ofSource (source : Text) : Store := ⟨source, none, 0⟩

/-! ## Asking for themes -/

/-- The themes of a store. -/
def themes (store : Store) : List Theme := store.kept.getD (themesOf store.source)

/-- A store that keeps its themes. -/
def warm (store : Store) : Store := { store with kept := some store.themes }

/-- Whether there is a theme with the active index. -/
def hasActive (store : Store) : Bool :=
  0 ≤ store.activeIndex && store.activeIndex < store.themes.length

/-- A store that keeps its themes, and whose active index is zero if there is no theme with it. -/
def heal (store : Store) : Store :=
  { store.warm with activeIndex := if store.hasActive then store.activeIndex else 0 }

/-- The active theme: the one with the active index, or else the first one. -/
def active (store : Store) : Theme :=
  store.themes.getD (if store.hasActive then store.activeIndex.toNat else 0) (bare [])

/-! ## Selecting -/

/-- The position of the first theme with a given name; letter case and white space around do not
count. -/
def position (store : Store) (name : Text) : Option Nat :=
  store.themes.findIdx? fun theme => Text.sameIgnoringCase theme.name name.trim

/-- Makes the first theme with a given name active, if there is one. -/
def selectByName (store : Store) (name : Text) : Bool × Store :=
  match store.position name with
  | some k => (true, { store.warm with activeIndex := k })
  | none => (false, store.warm)

/-- Makes a theme active by its number, which may be any number of 64 bits, or by its name. -/
def select (store : Store) (selector : Text) : Except Error Unit × Store :=
  match Text.readInt64 selector.trim with
  | some index => (.ok (), { store with activeIndex := index })
  | none =>
    match store.selectByName selector with
    | (true, store) => (.ok (), store)
    | (false, store) => (.error (.noTheme selector), store)

/-! ## Resolving style keys -/

/-- The entry of a key in the active theme, or a given one. -/
def resolve (store : Store) (key : StyleKey) (fallback : Entry) : Entry :=
  (store.active.entry? key).getD fallback

/-- The entry of a key in the active theme, with unset colors taken from the base entry of the theme
and then from `host`. -/
def resolveInherited (store : Store) (key : StyleKey) (host : Entry) : Entry :=
  let base := ((store.active.entry? .base).getD host).inheritFrom host
  match store.active.entry? key with
  | some entry => entry.inheritFrom base
  | none => base

/-! ## Changing the resource -/

/-- A store that has to read its resource again. -/
def reset (store : Store) : Store := { store with kept := none }

/-- A store over another resource, with the same active index. -/
def replaceSource (store : Store) (source : Text) : Store := { store with source, kept := none }

/-! ## Commands -/

/-- What a store can be asked or told. -/
inductive Command where
  | themes
  | names
  | count
  | active
  | activeIndex
  | setIndex (index : Int)
  | selectByName (name : Text)
  | select (selector : Text)
  | resolve (key : StyleKey) (fallback : Entry)
  | resolveInherited (key : StyleKey) (host : Entry)
  | reset
  | replaceSource (source : Text)

/-- What a store answers. -/
inductive Answer where
  | done
  | themes (themes : List Theme)
  | names (names : List Text)
  | number (n : Int)
  | theme (theme : Theme)
  | found (isFound : Bool)
  | entry (entry : Entry)
  | refused (error : Error)

/-- Answers one command. -/
def step (store : Store) : Command → Answer × Store
  | .themes => (.themes store.themes, store.warm)
  | .names => (.names (store.themes.map Theme.name), store.warm)
  | .count => (.number store.themes.length, store.warm)
  | .active => (.theme store.active, store.heal)
  | .activeIndex => (.number store.activeIndex, store)
  | .setIndex index => (.done, { store with activeIndex := index })
  | .selectByName name =>
    let (isFound, store) := store.selectByName name
    (.found isFound, store)
  | .select selector =>
    match store.select selector with
    | (.ok (), store) => (.done, store)
    | (.error e, store) => (.refused e, store)
  | .resolve key fallback => (.entry (store.resolve key fallback), store.heal)
  | .resolveInherited key host => (.entry (store.resolveInherited key host), store.heal)
  | .reset => (.done, store.reset)
  | .replaceSource source => (.done, store.replaceSource source)

/-- Answers commands one after the other. -/
def run (store : Store) : List Command → List Answer × Store
  | [] => ([], store)
  | command :: rest =>
    let (answer, store) := store.step command
    let (answers, store) := store.run rest
    (answer :: answers, store)

/-! ## Notices -/

/-- A notice about a store. -/
def notice (level : Log.Level) (message : String) (details : List String) : Log.Notice :=
  .of level (Log.topic ["theme", "store"]) message details

/-- The notices that asking for the themes leaves in the log. -/
def warmNotices (store : Store) : List Log.Notice :=
  if store.kept.isSome then []
  else
    readNotices store.source
    ++ (if (read store.source).isEmpty then
      [notice .warn "theme resource defines no theme, using an empty default" []] else [])
    ++ [notice .info "theme resource loaded" ["theme_count"]]

/-- The notices that asking for the active theme leaves in the log. -/
def healNotices (store : Store) : List Log.Notice :=
  store.warmNotices ++
    if store.hasActive then []
    else
      [notice .warn "active theme index out of range, resetting to 0"
        ["active_index", "theme_count"]]

/-- A summary of a store for logs: the size of its resource, the number of themes that it keeps, and
its active index. -/
def summary (store : Store) : Text :=
  let kept :=
    match store.kept with
    | none => "None".toList
    | some themes => "Some(".toList ++ Text.decimal themes.length ++ [')']
  "ThemeStore \x7b source_bytes: ".toList ++ Text.decimal store.source.byteSize
    ++ ", parsed: ".toList ++ kept ++ ", active_index: ".toList ++ Text.decimalInt store.activeIndex
    ++ " \x7d".toList

end Store
end EditorKit.Theme
