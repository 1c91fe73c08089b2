import EditorKit.Log.Notice
import EditorKit.Log.Pattern.Machine
import EditorKit.Log.Pattern.Reader

/-!
# Directives

A directive lets notices through up to some rank. It can ask for a topic, for a task, and for a
detail with or without a value:

    rank        topic=rank        topic[task]=rank        topic[task{detail=value}]=rank

Each part but one may be left out; without a rank, everything is let through.

* `Directive.ofText` reads a directive;
* `Directive.isForNotices` and `Directive.isForTasks` tell what it is about. A directive with a
  detail but no task can be about both.
-/

namespace EditorKit.Log

/-! ## Values -/

/-- What the value of a detail has to be. No detail of a task is a negative number or a fraction. -/
inductive Wanted where
  | number (n : Nat)
  | word (pattern : Text)
  | otherNumber
deriving DecidableEq, Repr

/-- Whether a text is a number with a sign, a fraction or an exponent, or the name of a number that
is not finite. -/
def isReal (t : Text) : Bool :=
  let unsigned :=
    match t with
    | '+' :: t | '-' :: t => t
    | t => t
  let whole := unsigned.takeWhile Char.isDigit
  let (fraction, exponent) :=
    match unsigned.dropWhile Char.isDigit with
    | '.' :: rest => (rest.takeWhile Char.isDigit, rest.dropWhile Char.isDigit)
    | rest => ([], rest)
  let isExponent :=
    match exponent with
    | [] => true
    | e :: rest => Char.toLower e == 'e' &&
      match rest with
      | '+' :: digits | '-' :: digits | digits => !digits.isEmpty && digits.all Char.isDigit
  ["inf".toList, "infinity".toList, "nan".toList].contains (unsigned.map Char.toLower)
    || (!(whole ++ fraction).isEmpty && isExponent)

namespace Wanted

/-- Reads what a value has to be: a number, or else a pattern. -/
def ofText? (t : Text) : Option Wanted :=
  match Text.readNat 0xFFFFFFFFFFFFFFFF t with
  | some n => some (.number n)
  | none =>
    if isReal t then some .otherNumber
    else if (Pattern.ofText? t).isSome then some (.word t)
    else none

/-- Whether a detail is as it has to be. -/
def accepts : Wanted → Detail → Bool
  | number n, .number m => n == m
  | word pattern, .word t =>
    match Pattern.ofText? pattern with
    | some pattern => pattern.isMatch t
    | none => false
  | _, _ => false

end Wanted

/-! ## Directives -/

/-- A detail that is asked for, with its value or any. -/
structure WantedDetail where
  name : Text
  value : Option Wanted
deriving DecidableEq, Repr

/-- A rank, and what it is for: the topics that start with `topic`, a task, and a detail. -/
structure Directive where
  topic : Text
  task : Option Text
  detail : Option WantedDetail
  rank : Nat
deriving DecidableEq, Repr

namespace Directive

/-- Whether a directive is about notices as such. -/
def isForNotices (directive : Directive) : Bool :=
  directive.task.isNone && directive.detail.all (·.value.isNone)

/-- Whether a directive is about the notices that are given during some tasks. -/
def isForTasks (directive : Directive) : Bool :=
  directive.task.isSome || directive.detail.isSome

/-- Whether a directive asks for a value. -/
def asksForValue (directive : Directive) : Bool :=
  directive.detail.any (·.value.isSome)

/-! ## Reading -/

/-- Reads a rank: a number, or a name in any letter case. -/
def readRank (t : Text) : Option Nat :=
  (Text.readNat topRank t).orElse fun _ => rankNames.lookup (t.map Char.toLower)

/-- Reads a detail that is asked for. What stands behind a second equals sign does not count. -/
def readDetail (t : Text) : Option WantedDetail :=
  match t.splitOn '=' with
  | name :: value :: _ => (Wanted.ofText? value).map fun value => ⟨name, some value⟩
  | _ => some ⟨t, none⟩

/-- Whether a directive may start with a character. -/
def isStart (c : Char) : Bool := "-:_".toList.contains c || Text.isLetterOrNumber c

/-- The first position from `start` on with one of two characters. -/
def position (t : Text) (start : Nat) (a b : Char) : Option Nat :=
  ((t.drop start).findIdx? fun c => c == a || c == b).map (start + ·)

/-- Why a directive is not read. -/
inductive Refusal where
  | notDirective
  | insideCharacter
deriving DecidableEq, Repr

/-- What has been read, if anything. -/
def read {α : Type} : Option α → Except Refusal α
  | some a => .ok a
  | none => .error .notDirective

/-- A part that has been cut out, if that was possible. -/
def cutOut : Option Text → Except Refusal Text
  | some t => .ok t
  | none => .error .insideCharacter

/-- Reads a directive. Its parts are found in the text without the blanks around it, but cut out of
the text as it is, at the same places in bytes: blanks in front shift all parts, maybe into the
middle of a character, and blanks behind belong to the last one. -/
def ofText (whole : Text) : Except Refusal Directive :=
  let t := whole.trim
  let place (position : Nat) : Nat := Text.byteSize (t.take position)
  let behind (start : Nat) : Except Refusal Text := cutOut (whole.dropBytes (place start))
  let cut (start stop : Nat) : Except Refusal Text :=
    cutOut ((whole.dropBytes (place start)).bind (·.takeBytes (place stop - place start)))
  let rankFrom (start : Nat) : Except Refusal Nat := do
    match ← behind start with
    | [] => return topRank
    | rank => read (readRank rank)
  let rankBehind (start : Nat) : Except Refusal Nat :=
    match t.drop start with
    | [] => .ok topRank
    | '=' :: _ => rankFrom (start + 1)
    | _ => .error .notDirective
  let taskFrom (topic : Text) (start : Nat) : Except Refusal Directive := do
    let stop ← read (position t start ']' '\x7b')
    let task ← cut start stop
    if t[stop]? = some ']' then return ⟨topic, some task, none, ← rankBehind (stop + 1)⟩
    let close ← read (position t (stop + 1) '\x7d' '\x7d')
    let detail ← cut (stop + 1) close
    let detail ← read (if detail.isEmpty then none else readDetail detail)
    if t[close + 1]? ≠ some ']' then throw .notDirective
    return ⟨topic, if task.isEmpty then none else some task, detail, ← rankBehind (close + 2)⟩
  match t with
  | [] => .error .notDirective
  | '[' :: _ => taskFrom [] 1
  | c :: _ =>
    if !isStart c then .error .notDirective
    else
      match position t 0 '=' '[' with
      | none =>
        match readRank whole with
        | some rank => .ok ⟨[], none, none, rank⟩
        | none => .ok ⟨whole, none, none, topRank⟩
      | some stop => do
        let topic ← cut 0 stop
        if t[stop]? = some '[' then taskFrom topic (stop + 1)
        else return ⟨topic, none, none, ← rankFrom (stop + 1)⟩

end Directive
end EditorKit.Log
