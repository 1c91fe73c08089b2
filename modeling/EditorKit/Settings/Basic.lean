import EditorKit.Search.Outcome
import EditorKit.Json.Value

/-!
# Settings

What a user can set: the theme resource and the active theme, the match mode, and the log. Every
setting may be missing. Settings come from a map of names to texts, or from a JSON value whose
members are named settings; of several sources the later ones win.
-/

namespace EditorKit

/-- The settings of the program; those that are missing have a default. -/
structure Settings where
  themeFile : Option Text
  activeTheme : Option Text
  mode : Option Search.Mode
  traceLevel : Option Text
  logFile : Option Text
deriving DecidableEq, Repr

namespace Settings

/-- No setting at all. -/
def bare : Settings := ⟨none, none, none, none, none⟩

/-- Settings with every one replaced that is also among `others`. -/
def merge (settings others : Settings) : Settings where
  themeFile := others.themeFile <|> settings.themeFile
  activeTheme := others.activeTheme <|> settings.activeTheme
  mode := others.mode <|> settings.mode
  traceLevel := others.traceLevel <|> settings.traceLevel
  logFile := others.logFile <|> settings.logFile

/-- The match mode in force. -/
def modeInForce (settings : Settings) : Search.Mode := settings.mode.getD .substring

/-! ## From a map -/

/-- The text that a map has for a name, without white space around, unless nothing is left. -/
def valueOf (map : List (Text × Text)) (name : String) : Option Text :=
  (map.lookup name.toList).bind fun value => if value.trim.isEmpty then none else some value.trim

/-- The settings in a map. A blank text sets nothing, nor does the name of no mode. -/
def ofMap (map : List (Text × Text)) : Settings where
  themeFile := valueOf map "theme_file"
  activeTheme := valueOf map "theme"
  mode := (valueOf map "mode").bind fun name => (Search.Mode.ofText name).toOption
  traceLevel := valueOf map "trace_level"
  logFile := valueOf map "log_file"

/-! ## From a value -/

/-- The names of the settings, some with a second one. -/
def fields : List Json.Field :=
  [.optional ["theme_file"], .optional ["active_theme", "theme"], .optional ["match_mode", "mode"],
    .optional ["trace_level"], .optional ["log_file"]]

/-- The settings in a value; a value that is null counts as missing. -/
def ofValue (value : Json.Value) : Option Settings := do
  let optional {α : Type} (read : Json.Value → Option α) (value : Option Json.Value) :
      Option (Option α) := Json.asOptional read (value.getD .null)
  match ← Json.readFields fields true value with
  | [themeFile, activeTheme, mode, traceLevel, logFile] =>
    return {
      themeFile := ← optional Json.asText themeFile
      activeTheme := ← optional Json.asText activeTheme
      mode := ← optional (Json.asChoice Search.Mode.ofExactName) mode
      traceLevel := ← optional Json.asText traceLevel
      logFile := ← optional Json.asText logFile }
  | _ => none

end Settings
end EditorKit
