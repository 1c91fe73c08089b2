import EditorKit.Command.Report
import EditorKit.Log.Rotating
import EditorKit.Settings.Sources

/-!
# Runs of the command line

A run takes arguments, files and standard input to what is printed and what is logged. It is a
matter of values: the world around it is given as the functions of `World`, and what is to be done
to that world is part of the answer.

The arguments of the command line are assignments `key=value`; of two for the same key the later one
wins. The settings come from the file that the option `config` names and from the options
themselves, which win over it.

* `Options.ofArguments` reads arguments, and `Options.settings` the settings that they ask for;
* `work` does what the options ask for, once the settings are known;
* `run` is a whole run;
* `Outcome.applyTo` is what a run does to a folder.
-/

namespace EditorKit.Command

/-! ## Options -/

/-- The assignments of a command line, the latest first. -/
abbrev Options := List (Text × Text)

namespace Options

/-- Reads arguments. The first one without an equals sign is refused. -/
def ofArguments (arguments : List Text) : Except Error Options :=
  arguments.foldlM
    (fun options argument =>
      match Text.cutAt '=' argument with
      | some (key, value) => .ok ((Text.trim key, value) :: options)
      | none => .error (.notAssignment argument))
    []

/-- The value of an option. -/
def value? (options : Options) (key : String) : Option Text := options.lookup key.toList

/-- The words that switch a flag on, in lower case. -/
def yesWords : List Text := ["1".toList, "true".toList, "yes".toList]

/-- Whether a flag is switched on. -/
def flag (options : Options) (key : String) : Bool :=
  match options.value? key with
  | some value => yesWords.contains (Text.asciiLower value.trim)
  | none => false

/-- The settings of a command line. -/
def settings (read : FileReader) (options : Options) : Except Error Settings :=
  match options.value? "config" with
  | some path => Settings.ofSources read [.file path, .map options]
  | none => .ok (Settings.ofMap options)

end Options

/-! ## Runs -/

open Log (Notice)

/-- What a run sees: files, the files as they are once the log at some path has been started with
some notices, or why it cannot be started, standard input, and the filter for the log that the
environment sets, if it does. -/
structure World where
  read : FileReader
  startLog : Text → List Notice → Except Fault FileReader
  input : Bytes
  logFilter : Option Text

/-- How a run ends: with what is printed, with an error, or at once. -/
inductive Ending where
  | printed (output : Text)
  | failed (e : Error)
  | aborted

/-- The code that tells how a run ended. -/
def Ending.exitCode : Ending → UInt32
  | printed _ => 0
  | failed _ => 1
  | aborted => 101

/-- What a run comes to: how it ends, the log file, and the notices that are logged before any theme
resource is read and after that. -/
structure Outcome where
  ending : Ending
  logFile : Option Text
  firstNotices : List Notice
  notices : List Notice

/-- The threshold of the log, unless it cannot be read. A filter in the environment goes before the
settings, if all of it consists of directives. -/
def World.threshold? (world : World) (settings : Settings) : Option Log.Threshold :=
  match world.logFilter.map Log.Threshold.ofWhole with
  | some (.ok threshold) => some threshold
  | some (.error .insideCharacter) => none
  | some (.error .notDirective) | none => settings.threshold?

/-- Starts the log that settings ask for. The answer is how files are read from then on. -/
def startLog (world : World) (settings : Settings) (notices : List Notice) :
    Except Error FileReader :=
  match settings.logFile with
  | some path => (world.startLog path notices).mapError .file
  | none => .ok world.read

/-- The text of standard input. -/
def inputText (world : World) : Except Error Text :=
  match world.input.decode with
  | some t => .ok t
  | none => .error (.file .notText)

/-- Whether the options ask for the rows of standard input, and not for themes or a style key. -/
def readsInput (options : Options) : Bool :=
  !options.flag "themes" && (options.value? "resolve").isNone

/-- Does what the options ask for: prints the themes, or the entry of a style key, or the rows of
standard input that match a query. -/
def work (world : World) (options : Options) (settings : Settings) (store : Theme.Store) :
    Except Error Text × List Notice :=
  let asJson := options.flag "json"
  if options.flag "themes" then (.ok (Theme.write store.themes), store.warmNotices)
  else
    match options.value? "resolve" with
    | some name =>
      match Theme.StyleKey.ofText name with
      | .ok key => (.ok (resolved asJson store key), store.healNotices)
      | .error e => (.error e, [])
    | none =>
      match inputText world with
      | .error e => (.error e, [])
      | .ok input =>
        let query := (options.value? "query").getD []
        let mode := settings.modeInForce
        let filtering (total : Nat) : List Notice :=
          [Search.applyNotice mode [] total, Search.applyNotice mode query total]
        if options.flag "outline" then
          let items := Outline.readDump input
          (.ok (filterItems asJson Outline.Item.toValue mode query items),
            Outline.readNotices input ++ filtering items.length)
        else
          (.ok (filterItems asJson Json.Value.text mode query input.lines),
            filtering input.lines.length)

/-- The task of a whole run; repeated options count once. -/
def runTask (options : Options) : Log.Task :=
  let keys := (options.map Prod.fst).eraseDups
  ⟨Log.programName, "run".toList, [("args".toList, .number keys.length)]⟩

/-- The options and the settings of a run. -/
def readSettings (read : FileReader) (arguments : List Text) :
    Except Error (Options × Settings) := do
  let options ← Options.ofArguments arguments
  return (options, ← options.settings read)

/-- The notices of a run that pass a threshold. -/
def logged (threshold : Log.Threshold) (options : Options) (notices : List Notice) :
    List Notice :=
  (notices.map (.during (runTask options))).filter threshold.passes

/-- Opens the theme store and does what the options ask for. -/
def openAndWork (world : World) (read : FileReader) (options : Options) (settings : Settings) :
    Except Error Text × List Notice :=
  let opening := settings.openNotices read
  match settings.openStore read with
  | .error e => (.error e, opening)
  | .ok store =>
    let (output, notices) := work world options settings store
    (output, opening ++ notices)

/-- Runs the command line. A threshold that cannot be read ends the run at once. -/
def run (world : World) (arguments : List Text) : Outcome :=
  match readSettings world.read arguments with
  | .error e => ⟨.failed e, none, [], []⟩
  | .ok (options, settings) =>
    match world.threshold? settings with
    | none => ⟨.aborted, none, [], []⟩
    | some threshold =>
      let first := logged threshold options settings.startNotices
      match startLog world settings first with
      | .error e => ⟨.failed e, settings.logFile, [], []⟩
      | .ok read =>
        let (output, notices) := openAndWork world read options settings
        let ending :=
          match output with
          | .ok t => .printed t
          | .error e => .failed e
        ⟨ending, settings.logFile, first, logged threshold options notices⟩

/-! ## Folders -/

/-- A folder with the notices written to the log at a path, one after the other. A log that cannot
be written is passed over. -/
def writeLog (top : Folder) (path : Text) (notices : List Notice) : Folder :=
  let log := Log.RotatingLog.ofPath path Log.RotatingLog.defaultBytes
    Log.RotatingLog.defaultBackups
  let write (state : Log.RotatingLog × Folder) (notice : Notice) : Log.RotatingLog × Folder :=
    (state.1.write state.2 [] notice.line.encode).2
  (notices.foldl write (log, top)).2

/-- What a run does to a folder: it makes the folders for the log file, as far as they can be made,
and writes the log. -/
def Outcome.applyTo (outcome : Outcome) (top : Folder) : Folder :=
  match outcome.logFile with
  | none => top
  | some path =>
    writeLog (top.makeParents path).2 path (outcome.firstNotices ++ outcome.notices)

/-- The world of a folder and a standard input, with an environment that sets nothing. -/
def World.ofFolder (top : Folder) (input : Bytes) : World where
  read := top.contentOf
  startLog path notices :=
    match top.makeParents path with
    | (.ok (), top) => .ok (writeLog top path notices).contentOf
    | (.error fault, _) => .error fault
  input := input
  logFilter := none

end EditorKit.Command
