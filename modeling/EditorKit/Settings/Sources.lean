import EditorKit.Log.Threshold
import EditorKit.Settings.Basic
import EditorKit.Theme.Store
import EditorKit.Toml.Document

/-!
# Sources of settings

Settings can be given as a map, as the text of a TOML document, or as the name of a file with one.
Files are read through a function from paths to contents, so that all of this is a matter of values.

* `Settings.ofSources` merges sources from left to right;
* `Settings.openStore` opens the theme store that settings ask for;
* `Settings.threshold?` is the threshold of the log that they ask for, where the environment asks
  for none.
-/

namespace EditorKit

/-- How files are read: the content of the file at a path, or a fault. -/
abbrev FileReader := Text → Except Fault Bytes

/-- The text of the file at a path. -/
def FileReader.text (read : FileReader) (path : Text) : Except Error Text :=
  match read path with
  | .error fault => .error (.file fault)
  | .ok bytes =>
    match bytes.decode with
    | some t => .ok t
    | none => .error (.file .notText)

namespace Settings

/-- The settings in a TOML document, which gives texts to the names of settings. -/
def ofToml (document : Text) : Except Error Settings :=
  match Toml.readDocument document with
  | none => .error .badToml
  | some members =>
    match ofValue (.record (members.map fun (name, value) => (name, value.toJson))) with
    | some settings => .ok settings
    | none => .error .badToml

/-- Where settings come from. -/
inductive Source where
  | map (values : List (Text × Text))
  | document (text : Text)
  | file (path : Text)

/-- The settings of one source. -/
def ofSource (read : FileReader) : Source → Except Error Settings
  | .map values => .ok (ofMap values)
  | .document text => ofToml text
  | .file path => read.text path >>= ofToml

/-- The settings of several sources, of which the later ones win. The first source that cannot be
read decides the error. -/
def ofSources (read : FileReader) (sources : List Source) : Except Error Settings :=
  sources.foldlM (fun settings source => return settings.merge (← ofSource read source)) bare

/-- The theme resource that settings ask for: a file, or the built-in one. -/
def resource (read : FileReader) (settings : Settings) : Except Error Text :=
  match settings.themeFile with
  | some path => read.text path
  | none => .ok Theme.builtin

/-- Opens a theme store and selects the active theme. A theme that cannot be selected leaves the
first one active. -/
def openStore (read : FileReader) (settings : Settings) : Except Error Theme.Store := do
  let store := Theme.Store.ofSource (← settings.resource read)
  match settings.activeTheme with
  | some selector => return (store.select selector).2
  | none => return store

/-- The notices that selecting the active theme of a fresh store leaves in the log. -/
def selectNotices (store : Theme.Store) (selector : Text) : List Log.Notice :=
  if (Text.readInt64 selector.trim).isSome then []
  else
    match store.select selector with
    | (.ok (), _) => store.warmNotices
    | (.error _, _) => store.warmNotices ++
      [.of .warn Log.programName "failed to select theme, using first" ["theme", "error"]]

/-- The notices that come before a theme resource is read. -/
def startNotices (settings : Settings) : List Log.Notice :=
  let opening := Log.Notice.of .debug Log.programName "opening theme store" []
  if settings.themeFile.isNone then [opening]
  else
    [opening, .of .debug (Log.topic ["theme", "store"]) "reading theme resource" ["path"]]

/-- The notices that opening a theme store leaves in the log once the resource has been read. -/
def openNotices (read : FileReader) (settings : Settings) : List Log.Notice :=
  match settings.resource read, settings.activeTheme with
  | .ok source, some selector => selectNotices (.ofSource source) selector
  | _, _ => []

/-- The threshold of the log that settings ask for, unless it cannot be read. -/
def threshold? (settings : Settings) : Option Log.Threshold :=
  Log.Threshold.ofText? (settings.traceLevel.getD "info".toList)

end Settings
end EditorKit
