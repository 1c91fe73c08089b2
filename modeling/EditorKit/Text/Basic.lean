/-!
# Text

Text is the list of its characters, so a position in a text counts characters and never bytes. This
file holds the ways to cut a text apart, and the bytes that spell it:

* `Text.isBlank`, `Text.trim` and `Text.words`: white space, and what is left between it;
* `Text.lines`: the lines between line ends;
* `Text.cutAt`: the two sides of a separator;
* `Text.dropBytes` and `Text.takeBytes`: the two sides of a place that is given in bytes;
* `Text.encode` and `Bytes.decode`: the bytes of a text in UTF-8, as in a file or in standard input.
-/

namespace EditorKit

/-- Text as the list of its characters. -/
abbrev Text := List Char

namespace Text

/-! ## White space -/

/-- The code points with the property `White_Space`, as closed ranges. -/
def blankRanges : List (Nat × Nat) :=
  [(0x09, 0x0D), (0x20, 0x20), (0x85, 0x85), (0xA0, 0xA0), (0x1680, 0x1680), (0x2000, 0x200A),
    (0x2028, 0x2029), (0x202F, 0x202F), (0x205F, 0x205F), (0x3000, 0x3000)]

/-- Whether a character is white space. -/
def isBlank (c : Char) : Bool :=
  blankRanges.any fun (first, last) => first ≤ c.toNat && c.toNat ≤ last

/-- Whether a text shows nothing: it is empty or all white space. -/
def isBlankText (t : Text) : Bool := t.all isBlank

/-- A text without the white space at its two ends. -/
def trim (t : Text) : Text :=
  ((t.dropWhile isBlank).reverse.dropWhile isBlank).reverse

/-! ## Cutting -/

/-- The words of a text: its longest pieces without white space. -/
def words (t : Text) : List Text := (t.splitOnP isBlank).filter (! ·.isEmpty)

/-- A line without the carriage return that may stand before its line feed. -/
def dropReturn (line : Text) : Text :=
  if line.getLast? = some '\r' then line.dropLast else line

/-- Turns the pieces between line feeds into lines. The last piece has no line feed behind it: it
keeps its carriage return, and is no line when it is empty. -/
def endLines : List Text → List Text
  | [] => []
  | [last] => if last.isEmpty then [] else [last]
  | line :: rest => dropReturn line :: endLines rest

/-- The lines of a text. A line ends at a line feed, or at a carriage return and a line feed. -/
def lines (t : Text) : List Text := endLines (t.splitOn '\n')

/-- Cuts a text at the first occurrence of `sep`, which belongs to neither side. -/
def cutAt (sep : Char) : Text → Option (Text × Text)
  | [] => none
  | c :: cs =>
    if c = sep then some ([], cs) else (cutAt sep cs).map fun (before, rest) => (c :: before, rest)

/-! ## Sizes -/

/-- The number of bytes that a text takes in UTF-8. -/
def byteSize : Text → Nat
  | [] => 0
  | c :: rest => c.utf8Size + byteSize rest

/-- A text without its first `n` bytes. No text is left if they end inside a character. -/
def dropBytes (n : Nat) : Text → Option Text
  | [] => if n = 0 then some [] else none
  | c :: rest =>
    if n = 0 then some (c :: rest)
    else if n < c.utf8Size then none
    else dropBytes (n - c.utf8Size) rest

/-- The first `n` bytes of a text, unless they end inside a character. -/
def takeBytes (n : Nat) : Text → Option Text
  | [] => if n = 0 then some [] else none
  | c :: rest =>
    if n = 0 then some []
    else if n < c.utf8Size then none
    else (takeBytes (n - c.utf8Size) rest).map (c :: ·)

end Text

/-! ## Bytes -/

/-- A row of bytes. -/
abbrev Bytes := List UInt8

/-- The text that bytes spell in UTF-8, if they are valid. -/
def Bytes.decode (bytes : Bytes) : Option Text :=
  (ByteArray.mk bytes.toArray).utf8Decode?.map Array.toList

/-- The bytes of a text in UTF-8. -/
def Text.encode (t : Text) : Bytes := (String.ofList t).toUTF8.data.toList

end EditorKit
