import EditorKit.Json.Value
import EditorKit.Proofs.Text.Numeral

/-!
# Written JSON

There is no control character in a written value (`Value.hasNoControls_write`): the ones in texts
are escaped. So a value is written on one line.
-/

namespace EditorKit.Json

open Text (HasNoControls)

/-! ## Numbers and texts -/

theorem hasNoControls_toText (d : Number.Decimal) : HasNoControls d.toText := by
  have hdigits := Text.hasNoControls_decimal d.digits
  have hmark := fun n => Text.hasNoControls_decimalInt n
  unfold Number.Decimal.toText
  dsimp only
  split
  · simp [hdigits, Text.hasNoControls_replicate_zero]
  split
  · simp [hdigits.of_subset (List.take_subset _ _), hdigits.of_subset (List.drop_subset _ _)]
  split
  · simp [hdigits, Text.hasNoControls_replicate_zero]
  · split
    all_goals simp_all

theorem hasNoControls_floatText (x : Float) : HasNoControls (Number.floatText x) := by
  have hzero : HasNoControls ['0', '.', '0'] := by decide
  unfold Number.floatText
  dsimp only
  split <;> split <;> simp [hzero, hasNoControls_toText]

theorem hasNoControls_writeReal (x : Float) : HasNoControls (writeReal x) := by
  unfold writeReal
  split
  · exact hasNoControls_floatText x
  · decide

/-- Controls are escaped. -/
theorem hasNoControls_escapedChar (c : Char) : HasNoControls (escapedChar c) := by
  have hcode : ∀ n < 0x20, HasNoControls (['\\', 'u'] ++ Text.padZeros 4 (Text.hex n)) := by
    decide +kernel
  unfold escapedChar
  split
  case h_8 =>
    split
    · exact hcode _ ‹_›
    · exact Text.hasNoControls_cons.2 ⟨Nat.le_of_not_lt ‹_›, Text.hasNoControls_nil⟩
  all_goals decide

theorem hasNoControls_writeText (t : Text) : HasNoControls (writeText t) := by
  intro c hc
  simp only [writeText, List.mem_cons, List.mem_append, List.mem_flatMap, List.not_mem_nil,
    or_false] at hc
  rcases hc with rfl | ⟨d, -, hc⟩ | rfl
  · decide
  · exact hasNoControls_escapedChar d c hc
  · decide

/-! ## Values -/

mutual

/-- **There is no control character in a written value.** -/
theorem Value.hasNoControls_write : (value : Value) → HasNoControls value.write
  | .null | .bool true | .bool false => by simp only [Value.write]; decide
  | .int n => Text.hasNoControls_decimalInt n
  | .real x => hasNoControls_writeReal x
  | .text t => hasNoControls_writeText t
  | .list items => by simp [Value.write, hasNoControls_writeItems items]
  | .record members => by simp [Value.write, hasNoControls_writeMembers members]

theorem hasNoControls_writeItems : (items : List Value) → HasNoControls (writeItems items)
  | [] => by simp only [writeItems]; decide
  | [item] => by simp [writeItems, item.hasNoControls_write]
  | item :: next :: rest => by
    simp [writeItems, item.hasNoControls_write, hasNoControls_writeItems (next :: rest)]

theorem hasNoControls_writeMembers :
    (members : List (Text × Value)) → HasNoControls (writeMembers members)
  | [] => by simp only [writeMembers]; decide
  | [(name, value)] => by
    simp [writeMembers, hasNoControls_writeText, value.hasNoControls_write]
  | (name, value) :: next :: rest => by
    simp [writeMembers, hasNoControls_writeText, value.hasNoControls_write,
      hasNoControls_writeMembers (next :: rest)]

end

end EditorKit.Json
