import EditorKit.Files.Folder
import EditorKit.Text.Numeral

/-!
# Rotating logs

A log that is kept in a file of limited size. Before something is written, a file that has grown
past the limit is renamed to a backup, whose name ends with the time of the renaming, and the oldest
backups beyond a given number are removed. The file stays open from one writing to the next: what is
written after somebody has removed it goes nowhere.

* `rotate` and `append` change the folder that a log is kept in;
* `RotatingLog.write` does both, in the folder that the path of a log leads to.
-/

namespace EditorKit.Log

/-! ## In one folder -/

/-- The name of a backup of the file `name`. -/
def backupName (name stamp : Text) : Text := name ++ '.' :: stamp

/-- Whether `other` looks like a backup of the file `name`. -/
def isBackupOf (name other : Text) : Bool := (name ++ ['.']).isPrefixOf other

/-- Whether one name sorts at or behind another: by code points, from the first that differs. -/
def sortsBehind (a b : Text) : Bool :=
  match a, b with
  | _, [] => true
  | [], _ :: _ => false
  | x :: xs, y :: ys => if x = y then sortsBehind xs ys else y.toNat < x.toNat

/-- Of the names in a folder, the backups of a file beyond the `keep` latest ones. -/
def outdated (keep : Nat) (name : Text) (names : List Text) : List Text :=
  ((names.filter (isBackupOf name)).mergeSort sortsBehind).drop keep

/-- A folder without a name, unless that is a folder itself. -/
def removeFile (folder : Folder) (name : Text) : Folder :=
  match folder.find? name with
  | some (.file _) => folder.erase name
  | _ => folder

/-- Renames a file to its backup. -/
def moveToBackup (name stamp : Text) (folder : Folder) : Folder :=
  match folder.find? name with
  | some node => (folder.erase name).put (backupName name stamp) node
  | none => folder

/-- Why a file cannot be renamed to its backup, if there is a reason: a file replaces no folder, and
a folder replaces only an empty folder. -/
def renameFault? (name stamp : Text) (folder : Folder) : Option Fault :=
  match folder.find? name, folder.find? (backupName name stamp) with
  | some (.file _), some (.folder _) => some .isDirectory
  | some (.folder _), some (.file _) => some .notDirectory
  | some (.folder _), some (.folder (_ :: _)) => some .notEmpty
  | _, _ => none

/-- Renames a file to its backup and removes the oldest backups. -/
def rotate (keep : Nat) (name stamp : Text) (folder : Folder) : Folder :=
  let moved := moveToBackup name stamp folder
  (outdated keep name moved.names).foldl removeFile moved

/-- A folder with an empty file of a given name, unless the name is taken. -/
def ensure (name : Text) (folder : Folder) : Folder :=
  if (folder.find? name).isSome then folder else folder.put name (.file [])

/-- Writes at the end of a file, if it is there. -/
def append (name : Text) (bytes : Bytes) (folder : Folder) : Folder :=
  match folder.find? name with
  | some (.file content) => folder.put name (.file (content ++ bytes))
  | _ => folder

/-- The size of a file or a folder in bytes. -/
def nodeSize : Node → Nat
  | .file content => content.length
  | .folder _ => 4096

/-! ## At a path -/

/-- A log: its file, the size that starts a rotation, the number of backups to keep, and whether its
file is open. -/
structure RotatingLog where
  path : Text
  maxBytes : Nat
  maxBackups : Nat
  isOpen : Bool

namespace RotatingLog

/-- The size that a log file may have. -/
def defaultBytes : Nat := 10 * 1024 * 1024

/-- The number of backups that are kept. -/
def defaultBackups : Nat := 3

/-- A log whose file is not open yet. -/
def ofPath (path : Text) (maxBytes maxBackups : Nat) : RotatingLog :=
  ⟨path, maxBytes, maxBackups, false⟩

/-- Whether the file of a log has grown past its limit. -/
def isFull (log : RotatingLog) (top : Folder) : Bool :=
  match top.stat log.path with
  | .ok node => log.maxBytes < nodeSize node
  | .error _ => false

/-- Changes the folder that something stands in. -/
def changeAt (spot : Folder.Spot) (top : Folder) (change : Text → Folder → Folder) : Folder :=
  match spot with
  | .inside names => top.modifyAt (change (names.getLastD [])) names.dropLast
  | _ => top

/-- The folder that something stands in, as far as it is known. -/
def holderAt (spot : Folder.Spot) (top : Folder) : Folder :=
  match spot with
  | .inside names =>
    match top.nodeAt? names.dropLast with
    | some (.folder folder) => folder
    | _ => []
  | _ => []

/-- Closes the file of a log, renames it to a backup and removes the oldest backups; `stamp` is the
time. Where the last step of the path is no name, or the backup's name is not possible or taken by a
folder, the file stays where it is. -/
def rotateFile (log : RotatingLog) (top : Folder) (stamp : Text) :
    Except Fault Unit × RotatingLog × Folder :=
  let closed := { log with isOpen := false }
  let path := Path.ofText log.path
  match path.fileName, top.locate path with
  | none, _ => (.error .unnamed, closed, top)
  | some _, .error fault => (.error fault, closed, top)
  | some name, .ok (spot, _) =>
    if !path.endsInName then (.error .busy, closed, top)
    else if Path.nameLimit < (backupName name stamp).byteSize then
      (.error .nameTooLong, closed, top)
    else
      match renameFault? name stamp (holderAt spot top) with
      | some fault => (.error fault, closed, top)
      | none => (.ok (), closed, changeAt spot top fun name => rotate log.maxBackups name stamp)

/-- Opens the file of a log for writing at its end, and makes it if it is not there. -/
def openFile (log : RotatingLog) (top : Folder) : Except Fault (RotatingLog × Folder) := do
  if log.isOpen then return (log, top)
  return ({ log with isOpen := true }, changeAt (← top.openPlace log.path) top ensure)

/-- Adds bytes to the file of a log, if it is there. -/
def appendFile (log : RotatingLog) (top : Folder) (bytes : Bytes) : Folder :=
  match top.locate (.ofText log.path) with
  | .ok (spot, _) => changeAt spot top fun name => append name bytes
  | .error _ => top

/-- Writes bytes to a log at the time `stamp`. The answer is the number of bytes written. -/
def write (log : RotatingLog) (top : Folder) (stamp : Text) (bytes : Bytes) :
    Except Fault Nat × RotatingLog × Folder :=
  match if log.isFull top then log.rotateFile top stamp else (.ok (), log, top) with
  | (.error fault, log, top) => (.error fault, log, top)
  | (.ok (), log, top) =>
    match log.openFile top with
    | .error fault => (.error fault, log, top)
    | .ok (log, top) => (.ok bytes.length, log, log.appendFile top bytes)

/-- Removes the file of a log from outside, and tells whether it could be removed. -/
def delete (log : RotatingLog) (top : Folder) : Bool × Folder :=
  match top.stat log.path, top.locate (.ofText log.path) with
  | .ok (.file _), .ok (spot, _) => (true, changeAt spot top fun name folder => folder.erase name)
  | _, _ => (false, top)

end RotatingLog
end EditorKit.Log
