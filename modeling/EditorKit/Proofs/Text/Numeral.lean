import EditorKit.Proofs.Text.Lines
import EditorKit.Text.Numeral
import Mathlib.Data.Nat.Digits.Defs

/-!
# Numerals

What is written in digits reads back as the same number: a number in decimal digits
(`Text.readNat_decimal`), and a byte in two hexadecimal digits (`Text.hexByte_eq` gives the digits).

`Text.IsSigned` are the signed numerals and their values, and `Text.readInt64_eq_some_iff` says that
the reader accepts those whose value has 64 bits and nothing else.
-/

namespace EditorKit.Text

/-! ## Rows of digits -/

theorem digitValue_eq (c : Char) :
    digitValue c = if c.isDigit then some (c.toNat - '0'.toNat) else none := by
  have hiff : ('0' ≤ c ∧ c ≤ '9') ↔ c.isDigit := by
    simp only [Char.isDigit, Bool.and_eq_true, decide_eq_true_eq]
    rfl
  rw [digitValue]
  simp only [hiff]

theorem digitValue_digitChar {d : Nat} (h : d < 10) : digitValue d.digitChar = some d := by
  have hall : ∀ d : Fin 10, digitValue (Nat.digitChar d) = some d.val := by decide
  exact hall ⟨d, h⟩

/-- A number reads back from its digits in any base whose digits have their values. -/
theorem foldlM_addDigit_toDigits {base : Nat} {digit : Char → Option Nat} (hbase : 1 < base)
    (hdigit : ∀ d < base, digit d.digitChar = some d) (n : Nat) :
    (Nat.toDigits base n).foldlM (addDigit base digit) 0 = some n := by
  induction n using Nat.strong_induction_on with
  | _ n ih =>
    rw [Nat.toDigits_eq_if hbase]
    split
    · rename_i hlt
      simp [addDigit, hdigit n hlt]
    · rename_i hge
      have hpos : 0 < n := by omega
      have hmod : n % base < base := Nat.mod_lt _ (by omega)
      rw [List.foldlM_append, ih (n / base) (Nat.div_lt_self hpos hbase)]
      simp [addDigit, hdigit _ hmod, Nat.div_add_mod]

theorem readDigits_toDigits {base : Nat} {digit : Char → Option Nat} (hbase : 1 < base)
    (hdigit : ∀ d < base, digit d.digitChar = some d) (n : Nat) :
    readDigits base digit (Nat.toDigits base n) = some n := by
  rw [readDigits, if_neg (by simp), foldlM_addDigit_toDigits hbase hdigit]

/-! ## Decimal numerals -/

theorem isDigit_of_mem_decimal {c : Char} {n : Nat} (h : c ∈ decimal n) : c.isDigit :=
  Nat.isDigit_of_mem_toDigits (by decide) (by decide) h

theorem not_mem_decimal {c : Char} (hc : c.isDigit = false) (n : Nat) : c ∉ decimal n := by
  intro h
  simp [isDigit_of_mem_decimal h] at hc

/-- There is no white space in a numeral. -/
theorem not_isBlank_of_mem_decimal {c : Char} {n : Nat} (h : c ∈ decimal n) : ¬ isBlank c := by
  have hdigit : 48 ≤ c.toNat ∧ c.toNat ≤ 57 := by
    have hc := isDigit_of_mem_decimal h
    rwa [Char.isDigit, Bool.and_eq_true, decide_eq_true_eq, decide_eq_true_eq] at hc
  simp only [isBlank, blankRanges, List.any_cons, List.any_nil, Bool.or_eq_true,
    Bool.and_eq_true, decide_eq_true_eq, Bool.false_eq_true, or_false]
  omega

theorem hasNoControls_decimal (n : Nat) : HasNoControls (decimal n) := by
  intro c hc
  have hdigit := isDigit_of_mem_decimal hc
  simp only [Char.isDigit, Bool.and_eq_true, decide_eq_true_eq] at hdigit
  have hlow : 48 ≤ c.toNat := hdigit.1
  omega

theorem hasNoControls_decimalInt (n : Int) : HasNoControls (decimalInt n) := by
  cases n with
  | ofNat n => exact hasNoControls_decimal n
  | negSucc n => exact hasNoControls_cons.2 ⟨by decide, hasNoControls_decimal (n + 1)⟩

theorem hasNoControls_replicate_zero (n : Nat) : HasNoControls (List.replicate n '0') := by
  intro c hc
  rw [List.eq_of_mem_replicate hc]
  decide

theorem HasNoControls.padZeros {width : Nat} {digits : Text} (h : digits.HasNoControls) :
    HasNoControls (padZeros width digits) :=
  hasNoControls_append.2 ⟨hasNoControls_replicate_zero _, h⟩

theorem dropPlus_of_not_mem {t : Text} (h : '+' ∉ t) : dropPlus t = t := by
  unfold dropPlus
  split
  · simp at h
  · rfl

/-- A number reads back from its decimal digits if it is inside the bounds. -/
theorem readNat_decimal {limit n : Nat} (h : n ≤ limit) : readNat limit (decimal n) = some n := by
  have hdigits : readDigits 10 digitValue (decimal n) = some n :=
    readDigits_toDigits (by decide) (fun _ => digitValue_digitChar) n
  rw [readNat, dropPlus_of_not_mem (not_mem_decimal (by decide) n), hdigits]
  simp [h]

theorem readByte_decimal (b : UInt8) : readByte (decimal b.toNat) = some b := by
  have hle : b.toNat ≤ 255 := Nat.le_of_lt_succ b.toNat_lt
  rw [readByte, readNat_decimal hle, Option.map_some, UInt8.ofNat_toNat]

/-! ## Hexadecimal bytes -/

/-- The upper-case hexadecimal digit of a number below sixteen. -/
def upperDigit (d : Nat) : Char := d.digitChar.toUpper

theorem hexDigitValue_upperDigit {d : Nat} (h : d < 16) :
    hexDigitValue (upperDigit d) = some d := by
  have hall : ∀ d : Fin 16, hexDigitValue (upperDigit d) = some d.val := by decide
  exact hall ⟨d, h⟩

/-- A byte is written as its upper and its lower half. -/
theorem hexByte_eq (b : UInt8) :
    hexByte b = [upperDigit (b.toNat / 16), upperDigit (b.toNat % 16)] := by
  have hlt : b.toNat < 256 := b.toNat_lt
  rw [hexByte, hex]
  by_cases hsmall : b.toNat < 16
  · rw [Nat.toDigits_of_lt_base hsmall, Nat.div_eq_of_lt hsmall, Nat.mod_eq_of_lt hsmall]
    rfl
  · have hhalf : b.toNat / 16 < 16 := by omega
    rw [Nat.toDigits_of_base_le (by decide) (by omega), Nat.toDigits_of_lt_base hhalf]
    rfl

/-! ## Signed numerals -/

/-- A row of at least one decimal digit. -/
def IsDigits (t : Text) : Prop := t ≠ [] ∧ t.all Char.isDigit

/-- A signed numeral and its value: a row of digits, which may have a sign in front. -/
inductive IsSigned : Text → Int → Prop where
  | bare {digits : Text} (h : IsDigits digits) : IsSigned digits (Nat.ofDigitChars 10 digits 0)
  | plus {digits : Text} (h : IsDigits digits) :
    IsSigned ('+' :: digits) (Nat.ofDigitChars 10 digits 0)
  | minus {digits : Text} (h : IsDigits digits) :
    IsSigned ('-' :: digits) (-(Nat.ofDigitChars 10 digits 0 : Int))

/-- A signed numeral of 64 bits and its value. -/
def IsInt64 (t : Text) (i : Int) : Prop := IsSigned t i ∧ -2 ^ 63 ≤ i ∧ i < 2 ^ 63

theorem foldlM_addDigit_eq (t : Text) (n : Nat) :
    t.foldlM (addDigit 10 digitValue) n =
      if t.all Char.isDigit then some (Nat.ofDigitChars 10 t n) else none := by
  induction t generalizing n with
  | nil => rfl
  | cons c t ih =>
    rw [List.foldlM_cons, addDigit, digitValue_eq, List.all_cons]
    by_cases hc : c.isDigit
    · rw [if_pos hc, Option.map_some, hc, Bool.true_and, Nat.ofDigitChars_cons]
      exact ih (10 * n + (c.toNat - '0'.toNat))
    · rw [if_neg hc, eq_false_of_ne_true hc]
      rfl

theorem readDigits_eq_some_iff {t : Text} {n : Nat} :
    readDigits 10 digitValue t = some n ↔ IsDigits t ∧ Nat.ofDigitChars 10 t 0 = n := by
  rw [readDigits, foldlM_addDigit_eq, IsDigits]
  cases t with
  | nil => simp
  | cons c t => simp [and_assoc]

theorem not_isDigits_cons {c : Char} (hc : c.isDigit = false) (t : Text) :
    ¬ IsDigits (c :: t) := by
  simp [IsDigits, hc]

/-- A row of digits has no sign in front. -/
theorem dropPlus_of_isDigits {t : Text} (h : IsDigits t) : dropPlus t = t := by
  unfold dropPlus
  split
  · exact absurd h (not_isDigits_cons (by decide) _)
  · rfl

/-- The value of a signed numeral, however large. -/
def signedValue? : Text → Option Int
  | '-' :: t => (readDigits 10 digitValue t).map fun n : Nat => -(n : Int)
  | t => (readDigits 10 digitValue (dropPlus t)).map fun n : Nat => (n : Int)

theorem signedValue?_of_ne {t : Text} (h : ∀ digits, t ≠ '-' :: digits) :
    signedValue? t = (readDigits 10 digitValue (dropPlus t)).map fun n : Nat => (n : Int) := by
  unfold signedValue?
  split
  · exact (h _ rfl).elim
  · rfl

theorem readInt_eq (low high : Int) (t : Text) :
    readInt low high t = (signedValue? t).filter fun i => low ≤ i && i ≤ high := by
  by_cases h : ∃ digits, t = '-' :: digits
  · obtain ⟨digits, rfl⟩ := h
    show _ = ((readDigits 10 digitValue digits).map fun n : Nat => -(n : Int)).filter _
    rw [readInt]
    cases readDigits 10 digitValue digits <;> rfl
  · have hne : ∀ digits, t ≠ '-' :: digits := fun digits ht => h ⟨digits, ht⟩
    rw [signedValue?_of_ne hne]
    unfold readInt
    split
    · exact (hne _ rfl).elim
    · cases readDigits 10 digitValue (dropPlus t) <;> rfl

theorem signedValue?_of_isDigits {t : Text} (h : IsDigits t) :
    signedValue? t = some (Nat.ofDigitChars 10 t 0 : Int) := by
  have hvalue := readDigits_eq_some_iff.2 ⟨h, rfl⟩
  have hne : ∀ digits, t ≠ '-' :: digits := by
    rintro digits rfl
    exact not_isDigits_cons (by decide) _ h
  rw [signedValue?_of_ne hne, dropPlus_of_isDigits h, hvalue, Option.map_some]

theorem signedValue?_eq_some_iff {t : Text} {i : Int} : signedValue? t = some i ↔ IsSigned t i := by
  constructor
  · intro h
    unfold signedValue? at h
    split at h
    · obtain ⟨n, hn, rfl⟩ := Option.map_eq_some_iff.1 h
      obtain ⟨hdigits, rfl⟩ := readDigits_eq_some_iff.1 hn
      exact .minus hdigits
    · obtain ⟨n, hn, rfl⟩ := Option.map_eq_some_iff.1 h
      obtain ⟨hdigits, rfl⟩ := readDigits_eq_some_iff.1 hn
      unfold dropPlus at hdigits ⊢
      split at hdigits
      · exact .plus hdigits
      · exact .bare hdigits
  · intro h
    cases h with
    | bare hdigits => exact signedValue?_of_isDigits hdigits
    | plus hdigits =>
      have hvalue := readDigits_eq_some_iff.2 ⟨hdigits, rfl⟩
      show (readDigits 10 digitValue _).map _ = _
      rw [dropPlus, hvalue]
      rfl
    | minus hdigits =>
      have hvalue := readDigits_eq_some_iff.2 ⟨hdigits, rfl⟩
      show (readDigits 10 digitValue _).map _ = _
      rw [hvalue]
      rfl

/-- A text is read as a numeral of 64 bits exactly if it is one. -/
theorem readInt64_eq_some_iff {t : Text} {i : Int} : readInt64 t = some i ↔ IsInt64 t i := by
  rw [readInt64, readInt_eq, Option.filter_eq_some_iff, signedValue?_eq_some_iff, IsInt64,
    Bool.and_eq_true, decide_eq_true_eq, decide_eq_true_eq]
  exact and_congr_right fun _ => by omega

theorem readInt64_eq_none_iff {t : Text} : readInt64 t = none ↔ ∀ i, ¬ IsInt64 t i := by
  rw [Option.eq_none_iff_forall_ne_some]
  exact forall_congr' fun _ => not_congr readInt64_eq_some_iff

/-! ## Unsigned numerals -/

/-- An unsigned numeral and its value: a row of digits, which may have a plus sign in front. -/
inductive IsUnsigned : Text → Nat → Prop where
  | bare {digits : Text} (h : IsDigits digits) : IsUnsigned digits (Nat.ofDigitChars 10 digits 0)
  | plus {digits : Text} (h : IsDigits digits) :
    IsUnsigned ('+' :: digits) (Nat.ofDigitChars 10 digits 0)

theorem readDigits_dropPlus_eq_some_iff {t : Text} {n : Nat} :
    readDigits 10 digitValue (dropPlus t) = some n ↔ IsUnsigned t n := by
  rw [readDigits_eq_some_iff]
  constructor
  · rintro ⟨hdigits, rfl⟩
    unfold dropPlus at hdigits ⊢
    split at hdigits
    · exact .plus hdigits
    · exact .bare hdigits
  · intro h
    cases h with
    | plus hdigits => exact ⟨hdigits, rfl⟩
    | bare hdigits =>
      rw [dropPlus_of_isDigits hdigits]
      exact ⟨hdigits, rfl⟩

/-- A text is read as a number exactly if it is a numeral of this number, and inside the bounds. -/
theorem readNat_eq_some_iff {limit n : Nat} {t : Text} :
    readNat limit t = some n ↔ IsUnsigned t n ∧ n ≤ limit := by
  rw [readNat, Option.filter_eq_some_iff, readDigits_dropPlus_eq_some_iff, decide_eq_true_eq]

theorem readByte_eq_some_iff {t : Text} {b : UInt8} :
    readByte t = some b ↔ IsUnsigned t b.toNat := by
  rw [readByte, Option.map_eq_some_iff]
  constructor
  · rintro ⟨n, hn, rfl⟩
    obtain ⟨hnumeral, hle⟩ := readNat_eq_some_iff.1 hn
    rwa [UInt8.toNat_ofNat_of_lt' (Nat.lt_succ_of_le hle)]
  · intro hnumeral
    have hle : b.toNat ≤ 255 := Nat.le_of_lt_succ b.toNat_lt
    exact ⟨b.toNat, readNat_eq_some_iff.2 ⟨hnumeral, hle⟩, UInt8.ofNat_toNat⟩

theorem readWord_eq_some_iff {t : Text} {w : UInt32} :
    readWord t = some w ↔ IsUnsigned t w.toNat := by
  rw [readWord, Option.map_eq_some_iff]
  constructor
  · rintro ⟨n, hn, rfl⟩
    obtain ⟨hnumeral, hle⟩ := readNat_eq_some_iff.1 hn
    rwa [UInt32.toNat_ofNat_of_lt' (Nat.lt_succ_of_le hle)]
  · intro hnumeral
    have hle : w.toNat ≤ 0xFFFFFFFF := Nat.le_of_lt_succ w.toNat_lt
    exact ⟨w.toNat, readNat_eq_some_iff.2 ⟨hnumeral, hle⟩, UInt32.ofNat_toNat⟩

theorem readWord_decimal (w : UInt32) : readWord (decimal w.toNat) = some w := by
  have hle : w.toNat ≤ 0xFFFFFFFF := Nat.le_of_lt_succ w.toNat_lt
  rw [readWord, readNat_decimal hle, Option.map_some, UInt32.ofNat_toNat]

end EditorKit.Text
