import EditorKit.Command.Run
import Mathlib.Data.List.Basic

/-!
# Assignments

The options of a command line are its assignments, the latest first (`Options.given`). A command
line with an argument that is no assignment has no options (`Options.ofArguments_eq`).
-/

namespace EditorKit

namespace Text

theorem cutAt_of_mem {sep : Char} {t : Text} (h : sep ∈ t) :
    cutAt sep t = some (t.takeWhile (· != sep), (t.dropWhile (· != sep)).tail) := by
  induction t with
  | nil => simp at h
  | cons c rest ih =>
    by_cases hc : c = sep
    · simp [cutAt, hc]
    · have hrest : sep ∈ rest := by
        rcases List.mem_cons.1 h with heq | hrest
        · exact absurd heq.symm hc
        · exact hrest
      simp [cutAt, hc, ih hrest]

theorem cutAt_of_not_mem {sep : Char} {t : Text} (h : sep ∉ t) : cutAt sep t = none := by
  induction t with
  | nil => rfl
  | cons c rest ih =>
    rw [List.mem_cons, not_or] at h
    rw [cutAt, if_neg (Ne.symm h.1), ih h.2, Option.map_none]

end Text

namespace Command.Options

/-- The key and the value of an assignment: what stands in front of the first equals sign, without
white space around, and what stands behind it. -/
def assignment (argument : Text) : Text × Text :=
  (Text.trim (argument.takeWhile (· != '=')), (argument.dropWhile (· != '=')).tail)

/-- The options that some assignments give, the latest first. -/
def given (arguments : List Text) : Options := (arguments.map assignment).reverse

/-- One step of `ofArguments`. -/
def addArgument (options : Options) (argument : Text) : Except Error Options :=
  match Text.cutAt '=' argument with
  | some (key, value) => .ok ((Text.trim key, value) :: options)
  | none => .error (.notAssignment argument)

theorem addArgument_of_mem {argument : Text} (h : '=' ∈ argument) (options : Options) :
    addArgument options argument = .ok (assignment argument :: options) := by
  rw [addArgument, Text.cutAt_of_mem h]
  rfl

theorem addArgument_of_not_mem {argument : Text} (h : '=' ∉ argument) (options : Options) :
    addArgument options argument = .error (.notAssignment argument) := by
  rw [addArgument, Text.cutAt_of_not_mem h]

/-- The options grow at the front while arguments are read. -/
theorem foldlM_addArgument (arguments : List Text) (options : Options) :
    arguments.foldlM addArgument options =
      match arguments.find? (fun argument => '=' ∉ argument) with
      | some argument => .error (.notAssignment argument)
      | none => .ok (given arguments ++ options) := by
  induction arguments generalizing options with
  | nil => rfl
  | cons argument rest ih =>
    rw [List.foldlM_cons, List.find?_cons]
    by_cases h : '=' ∈ argument
    · have hgiven : given (argument :: rest) ++ options =
          given rest ++ assignment argument :: options := by
        simp [given]
      simp only [h, not_true_eq_false, decide_false]
      rw [addArgument_of_mem h, hgiven]
      exact ih (assignment argument :: options)
    · simp only [h, not_false_eq_true, decide_true]
      rw [addArgument_of_not_mem h]
      rfl

/-- **Arguments are read as assignments**, unless one has no equals sign: the first such one is
refused. -/
theorem ofArguments_eq (arguments : List Text) :
    ofArguments arguments =
      match arguments.find? (fun argument => '=' ∉ argument) with
      | some argument => .error (.notAssignment argument)
      | none => .ok (given arguments) := by
  have hfold := foldlM_addArgument arguments []
  rwa [List.append_nil] at hfold

theorem ofArguments_of_forall {arguments : List Text}
    (h : ∀ argument ∈ arguments, '=' ∈ argument) :
    ofArguments arguments = .ok (given arguments) := by
  have hfind : arguments.find? (fun argument => '=' ∉ argument) = none := by
    simpa using h
  rw [ofArguments_eq, hfind]

end Command.Options
end EditorKit
