import EditorKit.Log.Pattern

/-!
# Pattern machines

A pattern is looked for in a text by a machine of numbered steps. The machine keeps the steps that
it can be at, in order of preference. It may start anywhere, but rather earlier than later, and once
the preferred way is at its end, all ways behind it are given up: so a pattern is found at the end
of a text only if the match that is preferred over all others is still under way there.

* `Pattern.steps` lays a pattern out as steps;
* `Machine.closure` finds the steps that can be reached without a character;
* `Pattern.isMatch` follows a text to its end.
-/

namespace EditorKit.Log

/-- A step of a machine, with the steps that may follow it. -/
inductive Step where
  | accept
  | skip (next : Nat)
  | check (b : Boundary) (next : Nat)
  | take (set : CharSet) (next : Nat)
  | fork (first second : Nat)
deriving DecidableEq, Repr

namespace Pattern

/-- The number of steps of a pattern. -/
def size : Pattern → Nat
  | nothing | boundary _ | oneOf _ => 1
  | sequence first second => first.size + second.size
  | choice first second => 1 + first.size + second.size
  | optional _ body | repeatedOnce _ body => 1 + body.size
  | repeated _ body => if body.mayBeEmpty then 2 + body.size else 1 + body.size

/-- The fork before a round of a repetition. -/
def round (isEager : Bool) (body next : Nat) : Step :=
  if isEager then .fork body next else .fork next body

/-- The steps of a pattern, numbered from `start`, with `next` behind them. The first one is where
the pattern starts. A body that may be empty has a fork of its own for further rounds, because the
one in front of it has already been passed when an empty round comes back. -/
def steps (start next : Nat) : Pattern → List Step
  | nothing => [.skip next]
  | boundary b => [.check b next]
  | oneOf set => [.take set next]
  | sequence first second =>
    let middle := start + first.size
    first.steps start middle ++ second.steps middle next
  | choice first second =>
    let other := start + 1 + first.size
    .fork (start + 1) other :: (first.steps (start + 1) next ++ second.steps other next)
  | optional isEager body => round isEager (start + 1) next :: body.steps (start + 1) next
  | repeatedOnce isEager body =>
    let again := start + body.size
    body.steps start again ++ [round isEager start next]
  | repeated isEager body =>
    let entry := round isEager (start + 1) next
    if body.mayBeEmpty then
      entry :: (body.steps (start + 1) (start + 1 + body.size) ++ [entry])
    else entry :: body.steps (start + 1) start

end Pattern

/-- A machine: its steps by their numbers. It starts at the first one. -/
structure Machine where
  steps : Array Step

namespace Machine

/-- The machine of a pattern. In front of the pattern, any characters may be passed over, as few as
possible. -/
def ofPattern (pattern : Pattern) : Machine :=
  ⟨(.fork 2 1 :: .take .all 0 :: (pattern.steps 2 (2 + pattern.size) ++ [.accept])).toArray⟩

/-- Fewer places are left when one of them is ticked off. -/
theorem count_false_set_lt {seen : Array Bool} {i : Nat} (h : i < seen.size)
    (hi : seen[i] = false) : (seen.set i true).count false < seen.count false := by
  have hpos : 0 < seen.count false := Array.count_pos_iff.2 (hi ▸ Array.getElem_mem h)
  rw [Array.count_set, hi]
  change seen.count false - 1 + 0 < seen.count false
  omega

/-- The steps that stay put until there is a character, among those that can be reached from a row
of steps through boundaries that hold, in order of preference. Boundaries that do not hold stay put
too. Each step is reached once, by the way that is preferred. -/
def closure (machine : Machine) (holds : Boundary → Bool) (seen : Array Bool) :
    (row : List Nat) → List Nat
  | [] => []
  | i :: row =>
    if h : i < seen.size then
      if hi : seen[i] = false then
        have := count_false_set_lt h hi
        let seen := seen.set i true
        match machine.steps[i]? with
        | some (.skip next) => machine.closure holds seen (next :: row)
        | some (.fork first second) => machine.closure holds seen (first :: second :: row)
        | some (.check b next) =>
          i :: machine.closure holds seen (if holds b then next :: row else row)
        | _ => i :: machine.closure holds seen row
      else machine.closure holds seen row
    else machine.closure holds seen row
  termination_by row => (seen.count false, row.length)

/-- The closure of a row of steps, with no step seen before. -/
def freshClosure (machine : Machine) (holds : Boundary → Bool) (row : List Nat) : List Nat :=
  machine.closure holds (Array.replicate machine.steps.size false) row

/-- The row of steps once it is known what comes next: if that makes another boundary hold, all
steps of the row are followed again. -/
def settle (machine : Machine) (before after : Option Char) (row : List Nat) : List Nat :=
  let isNew (i : Nat) : Bool :=
    match machine.steps[i]? with
    | some (.check .textStart _) => false
    | some (.check b _) => b.isBetween before after
    | _ => false
  if row.any isNew then machine.freshClosure (·.isBetween before after) row else row

/-- The steps that follow a row of steps when it takes a character. Steps behind an accepting one
are given up. -/
def survivors (machine : Machine) (c : Char) : List Nat → List Nat
  | [] => []
  | i :: row =>
    match machine.steps[i]? with
    | some .accept => []
    | some (.take set next) =>
      if set.contains c then next :: machine.survivors c row else machine.survivors c row
    | _ => machine.survivors c row

/-- The row of steps at a place of which only the character before it is known. -/
def arrive (machine : Machine) (before : Option Char) (row : List Nat) : List Nat :=
  machine.freshClosure (fun b => b == .textStart && before.isNone) row

/-- Whether a machine accepts the end of a text, from a row of steps on. -/
def accepts (machine : Machine) (before : Option Char) (row : List Nat) : Text → Bool
  | [] => (machine.settle before none row).any fun i => machine.steps[i]? == some .accept
  | c :: rest =>
    let row := machine.survivors c (machine.settle before (some c) row)
    machine.accepts (some c) (machine.arrive (some c) row) rest

end Machine

/-- Whether the match of a pattern that is preferred is found at the end of a text. -/
def Pattern.isMatch (pattern : Pattern) (t : Text) : Bool :=
  let machine := Machine.ofPattern pattern
  machine.accepts none (machine.arrive none [0]) t

end EditorKit.Log
