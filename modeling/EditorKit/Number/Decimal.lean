import EditorKit.Text.Numeral

/-!
# Doubles as decimals

A finite double is a whole number times a power of two. `Binary.ofFloat` takes a double apart into
that form, `Binary.numerator` and `Binary.denominator` write its size as a quotient of whole
numbers, and `totalOrderKey` gives doubles the total order of their bits. A double can be written in
two ways:

* `floatText`: as the decimal with the fewest digits that reads back as the double, and of those the
  nearest one;
* `fixedText`: with a fixed number of places, where the exact value is rounded and a half goes to
  the even neighbour.
-/

namespace EditorKit.Number

/-! ## Binary fractions -/

/-- The number `mantissa · 2 ^ exponent`. -/
structure Binary where
  mantissa : Nat
  exponent : Int
deriving DecidableEq, Repr

namespace Binary

/-- The place of the leading one in front of the 52 bits of a fraction. -/
def leadingOne : Nat := 0x10000000000000

/-- The size of a finite double from its bits: eleven bits of exponent, 52 bits of fraction, and a
leading one in front of the fraction unless the exponent field is zero. -/
def ofBits (bits : Nat) : Binary :=
  let field : Nat := bits / leadingOne % 0x800
  let fraction : Nat := bits % leadingOne
  if field = 0 then ⟨fraction, -1074⟩ else ⟨leadingOne + fraction, (field : Int) - 1075⟩

/-- The size of a finite double. -/
def ofFloat (x : Float) : Binary := ofBits x.toBits.toNat

/-- The numerator of a binary fraction over its `denominator`. -/
def numerator (b : Binary) : Nat := b.mantissa <<< b.exponent.toNat

/-- The denominator of a binary fraction: the power of two of a negative exponent, else one. -/
def denominator (b : Binary) : Nat := 1 <<< (-b.exponent).toNat

end Binary

/-- The sign bit of a double. -/
def signBit : Nat := 0x8000000000000000

/-- The power of ten with a given exponent. -/
def tenTo (k : Nat) : Nat := Nat.pow 10 k

/-- The place of a double in the total order of doubles: the negative ones below the positive ones,
and each side by size. -/
def totalOrderKey (x : Float) : Int :=
  let bits := x.toBits.toNat
  if bits < signBit then bits else (signBit : Int) - 1 - bits

/-! ## Shortest decimals

A decimal reads back as a double when it lies in the interval of numbers that round to it: from half
way to the neighbour below up to half way to the neighbour above, with the ends only if the mantissa
is even. `shortest` tries the grids of one digit, two digits and so on; on each grid only the two
points next to the double can lie in the interval.
-/

/-- The number `digits · 10 ^ exponent`. -/
structure Decimal where
  digits : Nat
  exponent : Int
deriving DecidableEq, Repr

/-- The power of ten of the leading digit of `num / den`, for positive numbers. -/
def leadingPlace (num den : Nat) : Int :=
  if den ≤ num then ((Text.decimal (num / den)).length : Int) - 1
  else
    let least := (den + num - 1) / num
    Int.negOfNat (Text.decimal (least - 1)).length

/-- Whether `digits · 10 ^ place` rounds to the binary fraction `b`. All numbers are compared in
quarters of the last binary place: `b` is four times its mantissa, the neighbour above begins two
quarters higher, and the one below ends two quarters lower, or one if it has finer places. -/
def readsBack (b : Binary) (digits : Nat) (place : Int) : Bool :=
  let unit := b.exponent - 2
  let point := (digits * tenTo place.toNat) <<< (-unit).toNat
  let scale := tenTo (-place).toNat <<< unit.toNat
  let gap := if b.mantissa = Binary.leadingOne ∧ b.exponent ≠ -1074 then 1 else 2
  let low := (4 * b.mantissa - gap) * scale
  let high := (4 * b.mantissa + 2) * scale
  if b.mantissa % 2 = 0 then low ≤ point && point ≤ high else low < point && point < high

/-- The point of the grid of `10 ^ place` that reads back as `b`, and the nearer one of two. -/
def gridPoint (b : Binary) (place : Int) : Option Decimal :=
  let num := b.numerator * tenTo (-place).toNat
  let den := b.denominator * tenTo place.toNat
  let below := num / den
  let nearest := if 2 * (num % den) ≤ den then below else below + 1
  let other := if 2 * (num % den) ≤ den then below + 1 else below
  if readsBack b nearest place then some ⟨nearest, place⟩
  else if readsBack b other place then some ⟨other, place⟩
  else none

/-- A decimal without zeros at its end. -/
def Decimal.strip (d : Decimal) : (fuel : Nat) → Decimal
  | 0 => d
  | fuel + 1 =>
    if d.digits ≠ 0 ∧ d.digits % 10 = 0 then Decimal.strip ⟨d.digits / 10, d.exponent + 1⟩ fuel
    else d

/-- The shortest decimal that reads back as a positive binary fraction. Seventeen digits always
suffice for a double. -/
def shortest (b : Binary) : Decimal :=
  let top := leadingPlace b.numerator b.denominator
  match (List.range 17).findSome? fun (n : Nat) => gridPoint b (top - n) with
  | some d => d.strip 17
  | none => ⟨b.numerator / b.denominator, 0⟩

/-! ## Notation -/

/-- The digits of a decimal with a point: positional with at least one digit on both sides of the
point while the leading digit is from the fifth place behind it up to the sixteenth before it, and
with an exponent otherwise. -/
def Decimal.toText (d : Decimal) : Text :=
  let digits := Text.decimal d.digits
  let before := (digits.length : Int) + d.exponent
  if 0 ≤ d.exponent ∧ before ≤ 16 then
    digits ++ List.replicate d.exponent.toNat '0' ++ ['.', '0']
  else if 0 < before ∧ before ≤ 16 then
    digits.take before.toNat ++ '.' :: digits.drop before.toNat
  else if -5 < before ∧ before ≤ 0 then
    ['0', '.'] ++ List.replicate (-before).toNat '0' ++ digits
  else
    let mark := 'e' :: Text.decimalInt (before - 1)
    match digits with
    | [single] => single :: mark
    | first :: rest => first :: '.' :: rest ++ mark
    | [] => mark

/-- A finite double as the shortest decimal that reads back, with a sign if its sign bit is set. -/
def floatText (x : Float) : Text :=
  let b := Binary.ofFloat x
  let size := if b.mantissa = 0 then ['0', '.', '0'] else (shortest b).toText
  if x.toBits.toNat < signBit then size else '-' :: size

/-! ## Fixed places -/

/-- The whole number nearest to `num / den`, and the even one of two. -/
def roundDiv (num den : Nat) : Nat :=
  let below := num / den
  let twice := 2 * (num % den)
  if twice < den ∨ (twice = den ∧ below % 2 = 0) then below else below + 1

/-- A finite double that is not negative, with `places` digits behind the point. -/
def fixedText (places : Nat) (x : Float) : Text :=
  let b := Binary.ofFloat x
  let scaled := roundDiv (b.numerator * tenTo places) b.denominator
  Text.decimal (scaled / tenTo places) ++ '.' ::
    Text.padZeros places (Text.decimal (scaled % tenTo places))

end EditorKit.Number
