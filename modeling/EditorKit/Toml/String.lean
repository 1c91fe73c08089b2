import EditorKit.Text.Numeral

/-!
# Strings of TOML

The four kinds of strings of TOML documents: between quotes or apostrophes, on one line or on
several; and the spaces, comments and line ends around them.

* `restOfLine` and `skipSpread` pass over what may stand between values;
* `readString` reads a string of any kind.
-/

namespace EditorKit.Toml

/-! ## Characters -/

/-- Whether a character is a space inside a line. -/
def isSpace (c : Char) : Bool := c == ' ' || c == '\t'

/-- Whether a character may stand in a comment or a string: all but the controls. -/
def isPlain (c : Char) : Bool := c == '\t' || (0x20 ≤ c.toNat && c.toNat ≠ 0x7F)

/-- Whether a character may stand in a bare key. -/
def isKeyChar (c : Char) : Bool := c.isAlphanum || c == '_' || c == '-'

/-- A text without the spaces at its start. -/
def skipSpace (t : Text) : Text := t.dropWhile isSpace

/-! ## Lines -/

/-- What follows a line end at the start of a text, or at the end of the document. -/
def lineEnd : Text → Option Text
  | [] => some []
  | '\n' :: rest => some rest
  | '\r' :: '\n' :: rest => some rest
  | _ => none

/-- What follows the rest of a line that holds nothing but spaces and a comment. -/
def restOfLine (t : Text) : Option Text :=
  match skipSpace t with
  | '#' :: comment => lineEnd (comment.dropWhile isPlain)
  | rest => lineEnd rest

/-- What follows the spaces, comments and line ends at the start of a text. -/
def skipSpread (isInComment : Bool) : Text → Text
  | [] => []
  | '\r' :: '\n' :: rest => skipSpread false rest
  | c :: rest =>
    if c == '\n' then skipSpread false rest
    else if isInComment then if isPlain c then skipSpread true rest else c :: rest
    else if isSpace c then skipSpread false rest
    else if c == '#' then skipSpread true rest
    else c :: rest

/-! ## Strings -/

/-- The character with a given code in hexadecimal digits. -/
def charOfHex (digits : Text) : Option Char := do
  let n ← Text.readDigits 16 Text.hexDigitValue digits
  if n.isValidChar then some (Char.ofNat n) else none

/-- Reads an escaped character behind its backslash. -/
def readEscape : Text → Option (Char × Text)
  | 'b' :: rest => some ('\x08', rest)
  | 't' :: rest => some ('\t', rest)
  | 'n' :: rest => some ('\n', rest)
  | 'f' :: rest => some ('\x0c', rest)
  | 'r' :: rest => some ('\r', rest)
  | '"' :: rest => some ('"', rest)
  | '\\' :: rest => some ('\\', rest)
  | 'u' :: a :: b :: c :: d :: rest => (charOfHex [a, b, c, d]).map (·, rest)
  | 'U' :: a :: b :: c :: d :: e :: f :: g :: h :: rest =>
    (charOfHex [a, b, c, d, e, f, g, h]).map (·, rest)
  | _ => none

/-- A text without the spaces and line ends at its start. -/
def skipBlank : Text → Text
  | '\r' :: '\n' :: rest => skipBlank rest
  | c :: rest => if c == '\n' || isSpace c then skipBlank rest else c :: rest
  | [] => []

/-- What follows a backslash at the end of a line: the text from the next character on that is
neither a space nor a line end. -/
def skipBreak (t : Text) : Option Text :=
  match skipSpace t with
  | [] => none
  | rest => (lineEnd rest).map skipBlank

/-- Reads the rest of a string of one line up to its quote. -/
def readBasic : (fuel : Nat) → Text → Option (Text × Text)
  | 0, _ => none
  | _, [] => none
  | _, '"' :: rest => some ([], rest)
  | fuel + 1, '\\' :: rest => do
    let (c, rest) ← readEscape rest
    let (cs, rest) ← readBasic fuel rest
    return (c :: cs, rest)
  | fuel + 1, c :: rest => do
    guard (isPlain c)
    let (cs, rest) ← readBasic fuel rest
    return (c :: cs, rest)

/-- Reads the rest of a string of several lines up to its three quotes. Up to two further quotes
before them belong to the string. -/
def readBlock : (fuel : Nat) → Text → Option (Text × Text)
  | 0, _ => none
  | _, [] => none
  | _, '"' :: '"' :: '"' :: '"' :: '"' :: rest => some (['"', '"'], rest)
  | _, '"' :: '"' :: '"' :: '"' :: rest => some (['"'], rest)
  | _, '"' :: '"' :: '"' :: rest => some ([], rest)
  | fuel + 1, '\r' :: '\n' :: rest => do
    let (cs, rest) ← readBlock fuel rest
    return ('\n' :: cs, rest)
  | fuel + 1, '\\' :: rest =>
    match skipBreak rest with
    | some rest => readBlock fuel rest
    | none => do
      let (c, rest) ← readEscape rest
      let (cs, rest) ← readBlock fuel rest
      return (c :: cs, rest)
  | fuel + 1, c :: rest => do
    guard (isPlain c || c == '\n')
    let (cs, rest) ← readBlock fuel rest
    return (c :: cs, rest)

/-- Reads the rest of a string of one line without escapes up to its apostrophe. -/
def readLiteral : Text → Option (Text × Text)
  | [] => none
  | c :: rest =>
    if c = '\x27' then some ([], rest)
    else if isPlain c then (readLiteral rest).map fun (cs, rest) => (c :: cs, rest)
    else none

/-- Reads the rest of a string of several lines without escapes up to its three apostrophes. Up to
two further apostrophes before them belong to the string. -/
def readLiteralBlock : Text → Option (Text × Text)
  | [] => none
  | '\x27' :: '\x27' :: '\x27' :: '\x27' :: '\x27' :: rest => some (['\x27', '\x27'], rest)
  | '\x27' :: '\x27' :: '\x27' :: '\x27' :: rest => some (['\x27'], rest)
  | '\x27' :: '\x27' :: '\x27' :: rest => some ([], rest)
  | '\r' :: '\n' :: rest => (readLiteralBlock rest).map fun (cs, rest) => ('\n' :: cs, rest)
  | c :: rest =>
    if isPlain c || c == '\n' then
      (readLiteralBlock rest).map fun (cs, rest) => (c :: cs, rest)
    else none

/-- A text without the line end that it may start with. -/
def skipFirstBreak : Text → Text
  | '\n' :: rest => rest
  | '\r' :: '\n' :: rest => rest
  | t => t

/-- Reads a string of any kind. -/
def readString : Text → Option (Text × Text)
  | '"' :: '"' :: '"' :: rest => readBlock (rest.length + 1) (skipFirstBreak rest)
  | '"' :: rest => readBasic (rest.length + 1) rest
  | '\x27' :: '\x27' :: '\x27' :: rest => readLiteralBlock (skipFirstBreak rest)
  | '\x27' :: rest => readLiteral rest
  | _ => none

end EditorKit.Toml
