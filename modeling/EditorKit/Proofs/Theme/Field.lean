import EditorKit.Proofs.Text.Numeral
import EditorKit.Proofs.Text.Trim
import EditorKit.Theme.Color
import EditorKit.Theme.StyleKey

/-!
# Written fields

The fields of a written entry are the name of a style key, two colors and a number. There is no
white space in a name or a color, and both stand for what they were written for.

* `StyleKey.ofName_name`: a style key is the one with its own name, which does not look like the
  marker of a theme;
* `Color.ofText_toText`: a color reads back from its own text.
-/

namespace EditorKit.Theme

/-! ## Names of style keys -/

namespace StyleKey

theorem mem_all (key : StyleKey) : key ∈ all := by
  cases key <;> simp [all]

/-- A key is found by its own name. -/
theorem ofName_name (key : StyleKey) : ofName key.name = some key := by
  have hall : ∀ key ∈ all, ofName key.name = some key := by decide +kernel
  exact hall key key.mem_all

/-- There is no white space in a name. -/
theorem not_isBlank_of_mem_name {key : StyleKey} {c : Char} (h : c ∈ key.name) :
    ¬ Text.isBlank c := by
  have hall : ∀ key ∈ all, key.name.all (! Text.isBlank ·) := by decide +kernel
  simpa using List.all_eq_true.1 (hall key key.mem_all) c h

theorem name_ne_nil (key : StyleKey) : key.name ≠ [] := by
  have hall : ∀ key ∈ all, key.name ≠ [] := by decide +kernel
  exact hall key key.mem_all

/-- A name does not open a theme. -/
theorem head?_name_ne (key : StyleKey) : key.name.head? ≠ some '>' := by
  have hall : ∀ key ∈ all, key.name.head? ≠ some '>' := by decide +kernel
  exact hall key key.mem_all

end StyleKey

/-! ## Colors -/

namespace Color

open Text (upperDigit)

/-- A channel reads back from its two digits. -/
theorem channel_upperDigit (b : UInt8) :
    channel (upperDigit (b.toNat / 16)) (upperDigit (b.toNat % 16)) = some b := by
  have hlt : b.toNat < 256 := b.toNat_lt
  have hhigh := Text.hexDigitValue_upperDigit (d := b.toNat / 16) (by omega)
  have hlow := Text.hexDigitValue_upperDigit (d := b.toNat % 16) (by omega)
  have hsum : 16 * (b.toNat / 16) + b.toNat % 16 = b.toNat := Nat.div_add_mod ..
  calc channel (upperDigit (b.toNat / 16)) (upperDigit (b.toNat % 16))
    _ = some (UInt8.ofNat (16 * (b.toNat / 16) + b.toNat % 16)) := by rw [channel, hhigh, hlow]; rfl
    _ = some b := by rw [hsum, UInt8.ofNat_toNat]

theorem not_isBlank_upperDigit {d : Nat} (h : d < 16) : ¬ Text.isBlank (upperDigit d) := by
  have hall : ∀ d : Fin 16, ¬ Text.isBlank (upperDigit d) := by decide
  exact hall ⟨d, h⟩

theorem not_isBlank_of_mem_hexByte {b : UInt8} {c : Char} (h : c ∈ Text.hexByte b) :
    ¬ Text.isBlank c := by
  have hlt : b.toNat < 256 := b.toNat_lt
  rw [Text.hexByte_eq, List.mem_pair] at h
  rcases h with rfl | rfl
  · exact not_isBlank_upperDigit (by omega)
  · exact not_isBlank_upperDigit (by omega)

/-- There is no white space in a written color. -/
theorem not_isBlank_of_mem_toText {color : Color} {c : Char} (h : c ∈ color.toText) :
    ¬ Text.isBlank c := by
  cases color with
  | unset =>
    have hall : (toText unset).all (! Text.isBlank ·) := by decide
    simpa using List.all_eq_true.1 hall c h
  | rgb red green blue =>
    simp only [toText, List.mem_cons, List.mem_append] at h
    rcases h with rfl | (h | h) | h
    · decide
    all_goals exact not_isBlank_of_mem_hexByte h

theorem ofTrimmed_toText (color : Color) : ofTrimmed color.toText = some color := by
  cases color with
  | unset => decide
  | rgb red green blue =>
    simp only [toText, Text.hexByte_eq, List.cons_append, List.nil_append, ofTrimmed, ofDigits,
      channel_upperDigit]
    rfl

/-- A color reads back from its own text. -/
theorem ofText_toText (color : Color) : ofText color.toText = .ok color := by
  have htrim : color.toText.trim = color.toText :=
    Text.trim_of_forall_not_isBlank fun _ => not_isBlank_of_mem_toText
  rw [ofText, htrim, ofTrimmed_toText]

end Color
end EditorKit.Theme
