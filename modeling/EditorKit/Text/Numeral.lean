import EditorKit.Text.Basic

/-!
# Numerals

Whole numbers as text. A numeral is read whole or not at all: a sign where the type has one, then
ASCII digits and nothing else, with a value inside the bounds of the type.

* `Text.readNat limit` and `Text.readInt low high` read decimal numerals, `Text.readHexByte` two
  hexadecimal digits' worth of bits;
* `Text.decimal`, `Text.decimalInt` and `Text.hex` write numerals without padding.
-/

namespace EditorKit.Text

/-! ## Digits -/

/-- The value of a decimal digit. -/
def digitValue (c : Char) : Option Nat :=
  if '0' ≤ c ∧ c ≤ '9' then some (c.toNat - '0'.toNat) else none

/-- The value of a hexadecimal digit in either case. -/
def hexDigitValue (c : Char) : Option Nat :=
  if '0' ≤ c ∧ c ≤ '9' then some (c.toNat - '0'.toNat)
  else if 'a' ≤ c ∧ c ≤ 'f' then some (c.toNat - 'a'.toNat + 10)
  else if 'A' ≤ c ∧ c ≤ 'F' then some (c.toNat - 'A'.toNat + 10)
  else none

/-- The number that one more digit makes of a number. -/
def addDigit (base : Nat) (digit : Char → Option Nat) (n : Nat) (c : Char) : Option Nat :=
  (digit c).map (base * n + ·)

/-- The number that a row of digits stands for; an empty row is no number. -/
def readDigits (base : Nat) (digit : Char → Option Nat) (t : Text) : Option Nat :=
  if t.isEmpty then none else t.foldlM (addDigit base digit) 0

/-! ## Reading -/

/-- A text without the one plus sign that it may start with. -/
def dropPlus : Text → Text
  | '+' :: t => t
  | t => t

/-- Reads an unsigned decimal numeral that is at most `limit`. -/
def readNat (limit : Nat) (t : Text) : Option Nat :=
  (readDigits 10 digitValue (dropPlus t)).filter (· ≤ limit)

/-- Reads a signed decimal numeral between `low` and `high`. -/
def readInt (low high : Int) : Text → Option Int
  | '-' :: t => ((readDigits 10 digitValue t).map fun n => -(n : Int)).filter fun i =>
      low ≤ i && i ≤ high
  | t => ((readDigits 10 digitValue (dropPlus t)).map fun n => (n : Int)).filter fun i =>
      low ≤ i && i ≤ high

/-- Reads a signed decimal numeral of 64 bits. -/
def readInt64 : Text → Option Int := readInt (-0x8000000000000000) 0x7FFFFFFFFFFFFFFF

/-- Reads a decimal numeral of eight bits. -/
def readByte (t : Text) : Option UInt8 := (readNat 255 t).map UInt8.ofNat

/-- Reads a decimal numeral of 32 bits. -/
def readWord (t : Text) : Option UInt32 := (readNat 0xFFFFFFFF t).map UInt32.ofNat

/-- Reads a hexadecimal numeral of eight bits. -/
def readHexByte (t : Text) : Option UInt8 :=
  ((readDigits 16 hexDigitValue (dropPlus t)).filter (· ≤ 255)).map UInt8.ofNat

/-! ## Writing -/

/-- Writes a number in decimal digits. -/
def decimal (n : Nat) : Text := Nat.toDigits 10 n

/-- Writes a number in decimal digits, with a minus sign if it is negative. -/
def decimalInt : Int → Text
  | .ofNat n => decimal n
  | .negSucc n => '-' :: decimal (n + 1)

/-- Writes a number in lower-case hexadecimal digits. -/
def hex (n : Nat) : Text := Nat.toDigits 16 n

/-- Writes a number in at least `width` characters, with zeros in front. -/
def padZeros (width : Nat) (digits : Text) : Text :=
  List.replicate (width - digits.length) '0' ++ digits

/-- Writes a byte in two upper-case hexadecimal digits. -/
def hexByte (b : UInt8) : Text := padZeros 2 ((hex b.toNat).map Char.toUpper)

end EditorKit.Text
