import EditorKit.Text.Lower
import EditorKit.Text.Numeral

/-!
# Colors

A color is three channels of eight bits, or unset, in which case another color shows through.

* `Color.ofText` reads a color: nothing or a word for unset, three or six hexadecimal digits behind
  a number sign, or a name of the CSS standard; it ignores letter case and white space around;
* `Color.toText` writes a color as six digits, and `Color.orElse` lets a color show through.
-/

namespace EditorKit.Theme

/-- A color, or the absence of one. -/
inductive Color where
  | unset
  | rgb (red green blue : UInt8)
deriving DecidableEq, Repr, Inhabited

namespace Color

/-- Whether no color is set. -/
def isUnset : Color → Bool
  | unset => true
  | rgb .. => false

/-- A color, or another one that shows through when it is unset. -/
def orElse : Color → Color → Color
  | unset, fallback => fallback
  | color, _ => color

/-- The three channels of a color that is set. -/
def channels : Color → Option (UInt8 × UInt8 × UInt8)
  | unset => none
  | rgb red green blue => some (red, green, blue)

/-! ## Names -/

/-- The words for an unset color. -/
def unsetWords : List Text := ["unset".toList, "transparent".toList, "empty".toList]

/-- The named colors of the CSS standard, in the order of their names. -/
def named : List (Text × Color) :=
  [("aliceblue".toList, .rgb 0xF0 0xF8 0xFF), ("antiquewhite".toList, .rgb 0xFA 0xEB 0xD7),
    ("aqua".toList, .rgb 0x00 0xFF 0xFF), ("aquamarine".toList, .rgb 0x7F 0xFF 0xD4),
    ("azure".toList, .rgb 0xF0 0xFF 0xFF), ("beige".toList, .rgb 0xF5 0xF5 0xDC),
    ("bisque".toList, .rgb 0xFF 0xE4 0xC4), ("black".toList, .rgb 0x00 0x00 0x00),
    ("blanchedalmond".toList, .rgb 0xFF 0xEB 0xCD), ("blue".toList, .rgb 0x00 0x00 0xFF),
    ("blueviolet".toList, .rgb 0x8A 0x2B 0xE2), ("brown".toList, .rgb 0xA5 0x2A 0x2A),
    ("burlywood".toList, .rgb 0xDE 0xB8 0x87), ("cadetblue".toList, .rgb 0x5F 0x9E 0xA0),
    ("chartreuse".toList, .rgb 0x7F 0xFF 0x00), ("chocolate".toList, .rgb 0xD2 0x69 0x1E),
    ("coral".toList, .rgb 0xFF 0x7F 0x50), ("cornflowerblue".toList, .rgb 0x64 0x95 0xED),
    ("cornsilk".toList, .rgb 0xFF 0xF8 0xDC), ("crimson".toList, .rgb 0xDC 0x14 0x3C),
    ("cyan".toList, .rgb 0x00 0xFF 0xFF), ("darkblue".toList, .rgb 0x00 0x00 0x8B),
    ("darkcyan".toList, .rgb 0x00 0x8B 0x8B), ("darkgoldenrod".toList, .rgb 0xB8 0x86 0x0B),
    ("darkgray".toList, .rgb 0xA9 0xA9 0xA9), ("darkgreen".toList, .rgb 0x00 0x64 0x00),
    ("darkgrey".toList, .rgb 0xA9 0xA9 0xA9), ("darkkhaki".toList, .rgb 0xBD 0xB7 0x6B),
    ("darkmagenta".toList, .rgb 0x8B 0x00 0x8B), ("darkolivegreen".toList, .rgb 0x55 0x6B 0x2F),
    ("darkorange".toList, .rgb 0xFF 0x8C 0x00), ("darkorchid".toList, .rgb 0x99 0x32 0xCC),
    ("darkred".toList, .rgb 0x8B 0x00 0x00), ("darksalmon".toList, .rgb 0xE9 0x96 0x7A),
    ("darkseagreen".toList, .rgb 0x8F 0xBC 0x8F), ("darkslateblue".toList, .rgb 0x48 0x3D 0x8B),
    ("darkslategray".toList, .rgb 0x2F 0x4F 0x4F), ("darkslategrey".toList, .rgb 0x2F 0x4F 0x4F),
    ("darkturquoise".toList, .rgb 0x00 0xCE 0xD1), ("darkviolet".toList, .rgb 0x94 0x00 0xD3),
    ("deeppink".toList, .rgb 0xFF 0x14 0x93), ("deepskyblue".toList, .rgb 0x00 0xBF 0xFF),
    ("dimgray".toList, .rgb 0x69 0x69 0x69), ("dimgrey".toList, .rgb 0x69 0x69 0x69),
    ("dodgerblue".toList, .rgb 0x1E 0x90 0xFF), ("firebrick".toList, .rgb 0xB2 0x22 0x22),
    ("floralwhite".toList, .rgb 0xFF 0xFA 0xF0), ("forestgreen".toList, .rgb 0x22 0x8B 0x22),
    ("fuchsia".toList, .rgb 0xFF 0x00 0xFF), ("gainsboro".toList, .rgb 0xDC 0xDC 0xDC),
    ("ghostwhite".toList, .rgb 0xF8 0xF8 0xFF), ("gold".toList, .rgb 0xFF 0xD7 0x00),
    ("goldenrod".toList, .rgb 0xDA 0xA5 0x20), ("gray".toList, .rgb 0x80 0x80 0x80),
    ("green".toList, .rgb 0x00 0x80 0x00), ("greenyellow".toList, .rgb 0xAD 0xFF 0x2F),
    ("grey".toList, .rgb 0x80 0x80 0x80), ("honeydew".toList, .rgb 0xF0 0xFF 0xF0),
    ("hotpink".toList, .rgb 0xFF 0x69 0xB4), ("indianred".toList, .rgb 0xCD 0x5C 0x5C),
    ("indigo".toList, .rgb 0x4B 0x00 0x82), ("ivory".toList, .rgb 0xFF 0xFF 0xF0),
    ("khaki".toList, .rgb 0xF0 0xE6 0x8C), ("lavender".toList, .rgb 0xE6 0xE6 0xFA),
    ("lavenderblush".toList, .rgb 0xFF 0xF0 0xF5), ("lawngreen".toList, .rgb 0x7C 0xFC 0x00),
    ("lemonchiffon".toList, .rgb 0xFF 0xFA 0xCD), ("lightblue".toList, .rgb 0xAD 0xD8 0xE6),
    ("lightcoral".toList, .rgb 0xF0 0x80 0x80), ("lightcyan".toList, .rgb 0xE0 0xFF 0xFF),
    ("lightgoldenrodyellow".toList, .rgb 0xFA 0xFA 0xD2),
    ("lightgray".toList, .rgb 0xD3 0xD3 0xD3), ("lightgreen".toList, .rgb 0x90 0xEE 0x90),
    ("lightgrey".toList, .rgb 0xD3 0xD3 0xD3), ("lightpink".toList, .rgb 0xFF 0xB6 0xC1),
    ("lightsalmon".toList, .rgb 0xFF 0xA0 0x7A), ("lightseagreen".toList, .rgb 0x20 0xB2 0xAA),
    ("lightskyblue".toList, .rgb 0x87 0xCE 0xFA), ("lightslategray".toList, .rgb 0x77 0x88 0x99),
    ("lightslategrey".toList, .rgb 0x77 0x88 0x99), ("lightsteelblue".toList, .rgb 0xB0 0xC4 0xDE),
    ("lightyellow".toList, .rgb 0xFF 0xFF 0xE0), ("lime".toList, .rgb 0x00 0xFF 0x00),
    ("limegreen".toList, .rgb 0x32 0xCD 0x32), ("linen".toList, .rgb 0xFA 0xF0 0xE6),
    ("magenta".toList, .rgb 0xFF 0x00 0xFF), ("maroon".toList, .rgb 0x80 0x00 0x00),
    ("mediumaquamarine".toList, .rgb 0x66 0xCD 0xAA), ("mediumblue".toList, .rgb 0x00 0x00 0xCD),
    ("mediumorchid".toList, .rgb 0xBA 0x55 0xD3), ("mediumpurple".toList, .rgb 0x93 0x70 0xDB),
    ("mediumseagreen".toList, .rgb 0x3C 0xB3 0x71),
    ("mediumslateblue".toList, .rgb 0x7B 0x68 0xEE),
    ("mediumspringgreen".toList, .rgb 0x00 0xFA 0x9A),
    ("mediumturquoise".toList, .rgb 0x48 0xD1 0xCC),
    ("mediumvioletred".toList, .rgb 0xC7 0x15 0x85), ("midnightblue".toList, .rgb 0x19 0x19 0x70),
    ("mintcream".toList, .rgb 0xF5 0xFF 0xFA), ("mistyrose".toList, .rgb 0xFF 0xE4 0xE1),
    ("moccasin".toList, .rgb 0xFF 0xE4 0xB5), ("navajowhite".toList, .rgb 0xFF 0xDE 0xAD),
    ("navy".toList, .rgb 0x00 0x00 0x80), ("oldlace".toList, .rgb 0xFD 0xF5 0xE6),
    ("olive".toList, .rgb 0x80 0x80 0x00), ("olivedrab".toList, .rgb 0x6B 0x8E 0x23),
    ("orange".toList, .rgb 0xFF 0xA5 0x00), ("orangered".toList, .rgb 0xFF 0x45 0x00),
    ("orchid".toList, .rgb 0xDA 0x70 0xD6), ("palegoldenrod".toList, .rgb 0xEE 0xE8 0xAA),
    ("palegreen".toList, .rgb 0x98 0xFB 0x98), ("paleturquoise".toList, .rgb 0xAF 0xEE 0xEE),
    ("palevioletred".toList, .rgb 0xDB 0x70 0x93), ("papayawhip".toList, .rgb 0xFF 0xEF 0xD5),
    ("peachpuff".toList, .rgb 0xFF 0xDA 0xB9), ("peru".toList, .rgb 0xCD 0x85 0x3F),
    ("pink".toList, .rgb 0xFF 0xC0 0xCB), ("plum".toList, .rgb 0xDD 0xA0 0xDD),
    ("powderblue".toList, .rgb 0xB0 0xE0 0xE6), ("purple".toList, .rgb 0x80 0x00 0x80),
    ("rebeccapurple".toList, .rgb 0x66 0x33 0x99), ("red".toList, .rgb 0xFF 0x00 0x00),
    ("rosybrown".toList, .rgb 0xBC 0x8F 0x8F), ("royalblue".toList, .rgb 0x41 0x69 0xE1),
    ("saddlebrown".toList, .rgb 0x8B 0x45 0x13), ("salmon".toList, .rgb 0xFA 0x80 0x72),
    ("sandybrown".toList, .rgb 0xF4 0xA4 0x60), ("seagreen".toList, .rgb 0x2E 0x8B 0x57),
    ("seashell".toList, .rgb 0xFF 0xF5 0xEE), ("sienna".toList, .rgb 0xA0 0x52 0x2D),
    ("silver".toList, .rgb 0xC0 0xC0 0xC0), ("skyblue".toList, .rgb 0x87 0xCE 0xEB),
    ("slateblue".toList, .rgb 0x6A 0x5A 0xCD), ("slategray".toList, .rgb 0x70 0x80 0x90),
    ("slategrey".toList, .rgb 0x70 0x80 0x90), ("snow".toList, .rgb 0xFF 0xFA 0xFA),
    ("springgreen".toList, .rgb 0x00 0xFF 0x7F), ("steelblue".toList, .rgb 0x46 0x82 0xB4),
    ("tan".toList, .rgb 0xD2 0xB4 0x8C), ("teal".toList, .rgb 0x00 0x80 0x80),
    ("thistle".toList, .rgb 0xD8 0xBF 0xD8), ("tomato".toList, .rgb 0xFF 0x63 0x47),
    ("turquoise".toList, .rgb 0x40 0xE0 0xD0), ("violet".toList, .rgb 0xEE 0x82 0xEE),
    ("wheat".toList, .rgb 0xF5 0xDE 0xB3), ("white".toList, .rgb 0xFF 0xFF 0xFF),
    ("whitesmoke".toList, .rgb 0xF5 0xF5 0xF5), ("yellow".toList, .rgb 0xFF 0xFF 0x00),
    ("yellowgreen".toList, .rgb 0x9A 0xCD 0x32)]

/-! ## Reading and writing -/

/-- The byte with two given hexadecimal digits. -/
def channel (high low : Char) : Option UInt8 := do
  let h ← Text.hexDigitValue high
  let l ← Text.hexDigitValue low
  return UInt8.ofNat (16 * h + l)

/-- The color with given hexadecimal digits: two for each channel, or one that counts twice. -/
def ofDigits : Text → Option Color
  | [r₁, r₀, g₁, g₀, b₁, b₀] => do
    return rgb (← channel r₁ r₀) (← channel g₁ g₀) (← channel b₁ b₀)
  | [r, g, b] => do return rgb (← channel r r) (← channel g g) (← channel b b)
  | _ => none

/-- Looks a name up in a table that is in the order of its names, from place `low` up to `high`, by
halving. -/
def bisect (table : Array (Text × Color)) (name : Text) (low high : Nat) : Option Color :=
  if _h : low < high then
    let middle := (low + high) / 2
    match table[middle]? with
    | none => none
    | some (known, color) =>
      if name = known then some color
      else if name < known then bisect table name low middle
      else bisect table name (middle + 1) high
  else none
termination_by high - low

/-- The named colors as an array. -/
def namedTable : Array (Text × Color) := named.toArray

/-- The color with a given name, in lower case. -/
def ofName (name : Text) : Option Color :=
  if name ∈ unsetWords then some unset else bisect namedTable name 0 namedTable.size

/-- The color that a text without white space around stands for. -/
def ofTrimmed : Text → Option Color
  | [] => some unset
  | '#' :: digits => ofDigits digits
  | name => ofName (Text.asciiLower name)

/-- Reads a color. If it cannot, it answers with the text that is no color. -/
def ofText (t : Text) : Except Text Color :=
  match ofTrimmed t.trim with
  | some color => .ok color
  | none => .error t.trim

/-- Writes a color as six hexadecimal digits, or the word for an unset color. -/
def toText : Color → Text
  | unset => "unset".toList
  | rgb red green blue =>
    '#' :: (Text.hexByte red ++ Text.hexByte green ++ Text.hexByte blue)

end Color
end EditorKit.Theme
