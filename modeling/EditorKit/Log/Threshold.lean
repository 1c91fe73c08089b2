import EditorKit.Log.Directive

/-!
# Thresholds

A threshold decides which notices are written to the log. It is given as directives between commas.
Whoever reads it passes over what is no directive, or insists that everything is one; without any
directive only errors are written.

A notice is written if it passes in one of two ways:

* of the directives for notices that fit, the most particular one lets it through
  (`Threshold.noticeRank`);
* a directive for tasks that fits a task under way lets it through (`Threshold.taskRank`).
-/

namespace EditorKit.Log

/-- The directives of a threshold, in the order in which they are given. -/
structure Threshold where
  directives : List Directive
deriving DecidableEq, Repr

namespace Threshold

/-- A threshold of some directives, or for errors only if there is none. -/
def ofDirectives : List Directive → Threshold
  | [] => ⟨[⟨[], none, none, Level.error.rank⟩]⟩
  | directives => ⟨directives⟩

/-- The pieces of a text that should be directives. -/
def pieces (t : Text) : List Text := (t.splitOn ',').filter (! ·.isEmpty)

/-- Reads directives and passes over those that are none. -/
def readDirectives : List Text → Option (List Directive)
  | [] => some []
  | piece :: pieces =>
    match Directive.ofText piece with
    | .ok directive => (readDirectives pieces).map (directive :: ·)
    | .error .notDirective => readDirectives pieces
    | .error .insideCharacter => none

/-- Reads a threshold. There is none if a part of a directive cannot be cut out. -/
def ofText? (t : Text) : Option Threshold := (readDirectives (pieces t)).map ofDirectives

/-- Reads a threshold all of whose pieces have to be directives. -/
def ofWhole (t : Text) : Except Directive.Refusal Threshold :=
  return ofDirectives (← (pieces t).mapM Directive.ofText)

/-! ## Notices as such -/

/-- Whether a directive for notices fits a notice: its topic, and the detail that is asked for. -/
def fitsNotice (notice : Notice) (directive : Directive) : Bool :=
  directive.isForNotices && directive.topic.isPrefixOf notice.topic
    && directive.detail.all fun detail => notice.details.contains detail.name

/-- The name of the detail that a directive asks for, empty if it asks for none. -/
def detailName (directive : Directive) : Text :=
  match directive.detail with
  | some detail => detail.name
  | none => []

/-- Whether a directive is at least as particular as another one that fits the same notices: a
longer topic goes before a detail, and of two details the one whose name is later in the order. -/
def isAsParticular (directive other : Directive) : Bool :=
  if directive.topic.length ≠ other.topic.length then
    other.topic.length < directive.topic.length
  else if directive.detail.isSome ≠ other.detail.isSome then directive.detail.isSome
  else !decide (detailName directive < detailName other)

/-- The more particular of the best directive so far and a later one, which wins if they are equal
in that. -/
def better (best : Option Directive) (directive : Directive) : Option Directive :=
  match best with
  | none => some directive
  | some other => if isAsParticular directive other then some directive else some other

/-- The rank up to which a threshold lets a notice through for what it is. -/
def noticeRank (threshold : Threshold) (notice : Notice) : Nat :=
  match (threshold.directives.filter (fitsNotice notice)).foldl better none with
  | some directive => directive.rank
  | none => 0

/-! ## Notices during tasks -/

/-- Whether a directive for tasks fits a task: its topic, its name, and its detail with a value. -/
def fitsTask (task : Task) (directive : Directive) : Bool :=
  directive.isForTasks && directive.topic.isPrefixOf task.topic
    && directive.task.all (· == task.name)
    && directive.detail.all fun wanted =>
      match task.details.lookup wanted.name with
      | none => false
      | some detail => wanted.value.all (·.accepts detail)

/-- Whether two directives are for the same notices. -/
def sameAim (a b : Directive) : Bool :=
  a.topic == b.topic && a.task == b.task && a.detail == b.detail

/-- The directives without those that a later one with the same aim replaces. -/
def inForce : List Directive → List Directive
  | [] => []
  | directive :: rest =>
    if rest.any (sameAim directive) then inForce rest else directive :: inForce rest

/-- The highest rank of some directives. -/
def highest (directives : List Directive) : Nat :=
  directives.foldl (fun rank directive => max rank directive.rank) 0

/-- The rank up to which a threshold lets notices through for a task that is under way. -/
def taskRank (threshold : Threshold) (task : Task) : Nat :=
  highest ((inForce threshold.directives).filter (fitsTask task))

/-! ## All notices -/

/-- The rank that no notice and no task can pass: the highest rank of all directives, also of those
that are replaced. Values can only be compared once a task has started, so a directive that asks for
one lets all tasks start. -/
def ceiling (threshold : Threshold) : Nat :=
  if threshold.directives.any Directive.asksForValue then topRank
  else highest threshold.directives

/-- Whether a notice passes a threshold. Tasks have the level of details for developers. -/
def passes (threshold : Threshold) (notice : Notice) : Bool :=
  notice.level.rank ≤ threshold.ceiling
    && (notice.level.rank ≤ threshold.noticeRank notice
      || (Level.debug.rank ≤ threshold.ceiling
        && notice.tasks.any fun task => notice.level.rank ≤ threshold.taskRank task))

end Threshold
end EditorKit.Log
