import EditorKit.Command.Run
import Std.Time

/-!
# The program

The command line as a program: it reads the files that a run needs, lets `Command.run` decide, and
prints and logs what comes of it.
-/

namespace EditorKit.Program

open Command (Options World Outcome)
open Log (RotatingLog)

/-- The fault that an error of the system stands for. -/
def faultOf (e : IO.Error) : Fault :=
  match e with
  | .noFileOrDirectory .. => .notFound
  | .alreadyExists .. => .alreadyExists
  | .inappropriateType _ code _ =>
    -- The code may come with either sign.
    if code ∈ [21, -21] then .isDirectory
    else if code ∈ [20, -20] then .notDirectory
    else .other (toString e).toList
  | .invalidArgument _ code _ =>
    if code ∈ [36, -36] then .nameTooLong else .other (toString e).toList
  | .unsatisfiedConstraints .. => .notEmpty
  | _ => .other (toString e).toList

/-- Does something with the system and keeps its error as a value. -/
def attempt {α : Type} (action : IO α) : IO (Except Fault α) := do
  try return .ok (← action)
  catch e => return .error (faultOf e)

/-- What is known of some files. -/
abbrev Known := List (Text × Except Fault Bytes)

/-- Reads files through what is known of them. -/
def Known.read (known : Known) : FileReader := fun path =>
  (known.lookup path).getD (.error .notFound)

/-- Adds the content of the file at a path to what is known. -/
def Known.add (known : Known) : Option Text → IO Known
  | none => return known
  | some path => do
    match Path.read path with
    | .error fault => return (path, .error fault) :: known
    | .ok _ =>
      let content ← attempt (IO.FS.readBinFile (String.ofList path))
      return (path, content.map fun bytes => bytes.data.toList) :: known

/-- Reads a stream to its end. -/
def readAll (stream : IO.FS.Stream) : IO Bytes := do
  let mut bytes := ByteArray.empty
  repeat
    let chunk ← stream.read 65536
    if chunk.isEmpty then break
    bytes := bytes ++ chunk
  return bytes.data.toList

/-- Makes the folders that the log file of some settings stands in. -/
def makeParents (settings : Settings) : IO (Except Fault Unit) := do
  match settings.logFile with
  | none => return .ok ()
  | some path =>
    let parent := Path.parentOf path
    match Path.read parent with
    | .error .notFound => return .ok ()
    | .error fault => return .error fault
    | .ok _ => attempt (IO.FS.createDirAll (String.ofList parent))

/-- The present time in seventeen digits. -/
def timeStamp : IO Text := do
  let now := (Std.Time.DateTime.ofTimestampWithZone (← Std.Time.Timestamp.now) .UTC).toPlainDateTime
  let digits (width : Nat) (n : Int) : Text := Text.padZeros width (Text.decimal n.toNat)
  return digits 4 now.year ++ digits 2 now.month.val ++ digits 2 now.day.val
    ++ digits 2 now.hour.val ++ digits 2 now.minute.val ++ digits 2 now.second.val
    ++ digits 3 now.millisecond.val

/-- Renames a log file that has grown past the limit, and removes the oldest backups. -/
def rotateFile (path : String) : IO Unit := do
  let file := (← IO.currentDir) / path
  let .ok metadata ← attempt file.metadata | return
  if RotatingLog.defaultBytes < metadata.byteSize.toNat then
    let some folder := file.parent | return
    let some name := file.fileName | return
    let backup := Log.backupName name.toList (← timeStamp)
    IO.FS.rename file (folder / String.ofList backup)
    let names := (← folder.readDir).toList.map fun entry => entry.fileName.toList
    for old in Log.outdated RotatingLog.defaultBackups name.toList names do
      let _ ← attempt (IO.FS.removeFile (folder / String.ofList old))

/-- Writes notices to a log file or else to standard error. A notice is lost if the file cannot be
renamed before it. -/
def writeLog (path : Option Text) (notices : List Log.Notice) : IO Unit := do
  for notice in notices do
    let line := String.ofList notice.line
    match path with
    | none => IO.eprint line
    | some path =>
      let _ ← attempt do
        rotateFile (String.ofList path)
        let handle ← IO.FS.Handle.mk (String.ofList path) .append
        handle.putStr line

/-- The world of a run, as far as the run depends on it. The log is started before the theme
resource is read, which may be the same file. -/
def observe (arguments : List Text) : IO World := do
  let options := (Options.ofArguments arguments).toOption.getD []
  let known ← Known.add [] (options.value? "config")
  let logFilter := (← IO.getEnv "RUST_LOG").map String.toList
  let unseen : World := ⟨known.read, fun _ _ => .ok known.read, [], logFilter⟩
  let .ok (options, settings) := Command.readSettings known.read arguments | return unseen
  let some threshold := unseen.threshold? settings | return unseen
  let made ← makeParents settings
  if made.toBool then
    writeLog settings.logFile (Command.logged threshold options settings.startNotices)
  let known ← known.add settings.themeFile
  let isReady := made.toBool && (settings.openStore known.read).toBool
  let input ← if isReady && Command.readsInput options then readAll (← IO.getStdin) else pure []
  return ⟨known.read, fun _ _ => made.map fun _ => known.read, input, logFilter⟩

end EditorKit.Program

/-- Runs the command line. -/
def main (args : List String) : IO UInt32 := do
  let arguments := args.map String.toList
  let outcome := EditorKit.Command.run (← EditorKit.Program.observe arguments) arguments
  EditorKit.Program.writeLog outcome.logFile outcome.notices
  match outcome.ending with
  | .printed t => IO.print (String.ofList t)
  | .failed e =>
    IO.eprintln (String.ofList (EditorKit.Log.programName ++ ':' :: ' ' :: e.message))
  | .aborted => IO.eprintln "a directive cannot be cut out of the threshold"
  return outcome.ending.exitCode
