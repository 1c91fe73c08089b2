import EditorKit.Text.Numeral

/-!
# Notices

Notices about what the program does, and the tasks that are under way when they are given. A notice
has a level, which says how much it matters. A notice and a task belong to a topic, which names a
part of the program from the whole to the details, and have details with names. The values of
details are kept only for tasks, where a threshold can ask for them.
-/

namespace EditorKit.Log

/-! ## Levels -/

/-- How much a notice matters. -/
inductive Level where
  | error
  | warn
  | info
  | debug
  | trace
deriving DecidableEq, Repr

/-- The place of a level: a threshold lets through what is at most as high. -/
def Level.rank : Level → Nat
  | .error => 1
  | .warn => 2
  | .info => 3
  | .debug => 4
  | .trace => 5

/-- The name of a level in the log. -/
def Level.name : Level → Text
  | .error => "ERROR".toList
  | .warn => "WARN".toList
  | .info => "INFO".toList
  | .debug => "DEBUG".toList
  | .trace => "TRACE".toList

/-- The highest rank, which lets everything through. -/
def topRank : Nat := 5

/-- The names of ranks, in lower case; `off` lets nothing through. -/
def rankNames : List (Text × Nat) :=
  [("off".toList, 0), ("error".toList, 1), ("warn".toList, 2), ("info".toList, 3),
    ("debug".toList, 4), ("trace".toList, 5)]

/-! ## Notices and tasks -/

/-- The name of the program, and of the topic of the program as a whole. -/
def programName : Text := "ablstyle".toList

/-- The topic of a part of the program. -/
def topic (parts : List String) : Text :=
  parts.foldl (fun whole part => whole ++ "::".toList ++ part.toList) programName

/-- What a detail of a task says. -/
inductive Detail where
  | number (n : Nat)
  | word (t : Text)
deriving DecidableEq, Repr

/-- Something that the program is at, with details. -/
structure Task where
  topic : Text
  name : Text
  details : List (Text × Detail)
deriving DecidableEq, Repr

/-- Something that the program has done, with the names of its details, and the tasks that were
under way. -/
structure Notice where
  level : Level
  topic : Text
  message : Text
  details : List Text
  tasks : List Task
deriving DecidableEq, Repr

namespace Notice

/-- A notice with a message and further details, outside all tasks. -/
def of (level : Level) (topic : Text) (message : String) (details : List String) : Notice :=
  ⟨level, topic, message.toList, "message".toList :: details.map String.toList, []⟩

/-- A notice that was given during a task. -/
def during (task : Task) (notice : Notice) : Notice :=
  { notice with tasks := task :: notice.tasks }

/-- The line of the log for a notice. -/
def line (notice : Notice) : Text :=
  notice.level.name ++ ' ' :: notice.topic ++ ':' :: ' ' :: notice.message ++ ['\n']

end Notice

end EditorKit.Log
