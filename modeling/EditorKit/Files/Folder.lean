import EditorKit.Files.Path

/-!
# Folders

A folder maps names to files and further folders. All paths are taken from one folder, the top. Of
what lies elsewhere, only the folders that every system has are known, and the null device, which is
an empty file.

* `find?`, `put` and `erase` look up and change the names of one folder;
* `locate` follows a path through folders, with the fault of the first step that fails, and `reach`
  does so on trust;
* `stat` tells what is at a path, and `contentOf`, `openPlace` and `makeParents` are the file
  operations of a program.
-/

namespace EditorKit

/-- A file with its content, or a folder. -/
inductive Node where
  | file (content : Bytes)
  | folder (nodes : List (Text × Node))

/-- What a folder holds: names, each with a file or a folder. -/
abbrev Folder := List (Text × Node)

namespace Folder

/-! ## One folder -/

/-- What goes by a name. -/
def find? (folder : Folder) (name : Text) : Option Node := folder.lookup name

/-- The names in a folder. -/
def names (folder : Folder) : List Text := folder.map Prod.fst

/-- A folder with what goes by a name replaced or added. -/
def put (name : Text) (node : Node) : Folder → Folder
  | [] => [(name, node)]
  | (n, old) :: rest =>
    if n = name then (name, node) :: rest else (n, old) :: put name node rest

/-- A folder without what goes by a name. -/
def erase (folder : Folder) (name : Text) : Folder := folder.filter fun (n, _) => n != name

/-! ## Folders inside folders -/

/-- What a row of names leads to. -/
def nodeAt? (top : Folder) : List Text → Option Node
  | [] => some (.folder top)
  | name :: rest =>
    match top.find? name with
    | some (.folder inner) => nodeAt? inner rest
    | some (.file content) => if rest.isEmpty then some (.file content) else none
    | none => none

/-- A folder with the folder changed that a row of names leads to. -/
def modifyAt (change : Folder → Folder) (top : Folder) : List Text → Folder
  | [] => change top
  | name :: rest =>
    match top.find? name with
    | some (.folder inner) => top.put name (.folder (modifyAt change inner rest))
    | _ => top

/-! ## Following paths -/

/-- A place that a path leads to: a row of names from the top, a folder above the top, something
unknown in such a folder, or a row of names from the root. -/
inductive Spot where
  | inside (names : List Text)
  | above
  | unknown
  | root (names : List Text)
deriving DecidableEq, Repr

/-- The folders that every system has right below the root. -/
def systemFolders : List Text :=
  ["bin".toList, "dev".toList, "etc".toList, "home".toList, "lib".toList, "opt".toList,
    "proc".toList, "root".toList, "run".toList, "sbin".toList, "srv".toList, "sys".toList,
    "tmp".toList, "usr".toList, "var".toList]

/-- What is known to be at a row of names from the root. -/
def systemNode? : List Text → Option Node
  | [] => some (.folder [])
  | [name] => if systemFolders.contains name then some (.folder []) else none
  | names => if names = ["dev".toList, "null".toList] then some (.file []) else none

/-- What is at a place. Whoever is trusting takes what is not known for a folder. -/
def at? (top : Folder) (isTrusting : Bool) : Spot → Option Node
  | .inside names => top.nodeAt? names
  | .above => some (.folder [])
  | .unknown => if isTrusting then some (.folder []) else none
  | .root names =>
    (systemNode? names).orElse fun _ => if isTrusting then some (.folder []) else none

/-- The place one step further. -/
def next (spot : Spot) (step : Text) : Spot :=
  if step = Path.here then spot
  else if step = Path.up then
    match spot with
    | .inside [] => .above
    | .inside names => .inside names.dropLast
    | .root names => .root names.dropLast
    | .above | .unknown => .above
  else
    match spot with
    | .inside names => .inside (names ++ [step])
    | .root names => .root (names ++ [step])
    | .above | .unknown => .unknown

/-- Follows steps from a place. Every place but the last one has to be a folder, and every step a
possible name. -/
def follow (top : Folder) (isTrusting : Bool) (spot : Spot) : List Text → Except Fault Spot
  | [] => .ok spot
  | step :: rest =>
    match top.at? isTrusting spot with
    | none => .error .notFound
    | some (.file _) => .error .notDirectory
    | some (.folder _) =>
      if Path.nameLimit < step.byteSize then .error .nameTooLong
      else top.follow isTrusting (next spot step) rest

/-- The place that a path leads to, where there need not be anything yet, and what is there. -/
def reach (top : Folder) (isTrusting : Bool) (path : Path) : Except Fault (Spot × Option Node) := do
  let spot ← top.follow isTrusting (if path.isAbsolute then .root [] else .inside []) path.steps
  return (spot, top.at? isTrusting spot)

/-- The place that a path leads to, as far as known, and what is there. -/
def locate (top : Folder) (path : Path) : Except Fault (Spot × Option Node) := top.reach false path

/-! ## File operations -/

/-- What is at a path. -/
def stat (top : Folder) (path : Text) : Except Fault Node := do
  let path ← Path.read path
  match ← top.locate path with
  | (_, none) => throw .notFound
  | (_, some (.file content)) =>
    if path.endsInSlash then throw .notDirectory else return .file content
  | (_, some node) => return node

/-- The content of the file at a path. -/
def contentOf (top : Folder) (path : Text) : Except Fault Bytes := do
  match ← top.stat path with
  | .folder _ => throw .isDirectory
  | .file content => return content

/-- The place of a file that is opened for writing and made if it is not there. -/
def openPlace (top : Folder) (path : Text) : Except Fault Spot := do
  let path ← Path.read path
  if path.endsInName && path.endsInSlash then
    let _ ← top.locate path.holder
    throw .isDirectory
  match ← top.locate path with
  | (_, some (.folder _)) => throw .isDirectory
  | (spot, _) => return spot

/-- Makes a folder at a path. What is not known is taken to be there already. -/
def makeFolder (top : Folder) (path : Path) : Except Fault Folder := do
  match ← top.reach true path with
  | (.inside names, none) =>
    return top.modifyAt (Folder.put (names.getLastD []) (.folder [])) names.dropLast
  | _ => throw .alreadyExists

/-- Whether a path leads to a folder. -/
def isFolder (top : Folder) (path : Path) : Bool :=
  match top.reach true path with
  | .ok (_, some (.folder _)) => true
  | _ => false

/-- Makes the folder that steps lead to, given in reverse, and the ones that it stands in. Those
that are made before a fault stay. -/
def makeFolders (top : Folder) (isAbsolute : Bool) : List Text → Except Fault Unit × Folder
  | [] => (.ok (), top)
  | last :: before =>
    let path : Path := ⟨isAbsolute, (last :: before).reverse, false⟩
    let make (top : Folder) : Except Fault Unit × Folder :=
      match top.makeFolder path with
      | .ok top => (.ok (), top)
      | .error fault => (if top.isFolder path then .ok () else .error fault, top)
    match top.makeFolder path with
    | .error .notFound =>
      match top.makeFolders isAbsolute before with
      | (.ok (), top) => make top
      | failed => failed
    | _ => make top

/-- Makes the folders that a file at a path stands in. -/
def makeParents (top : Folder) (path : Text) : Except Fault Unit × Folder :=
  match Path.read (Path.parentOf path) with
  | .error .notFound => (.ok (), top)
  | .error fault => (.error fault, top)
  | .ok parent => top.makeFolders parent.isAbsolute parent.moves.reverse

end Folder
end EditorKit
