import EditorKit.Json.Value
import EditorKit.Theme.Basic

/-!
# Themes as JSON

A color is a text, as it is written in a resource; a font is a text that joins the names of its
flags; an entry is a record of two colors and a font; and a theme is a record of its name and its
entries. Every `ofValue` reads what `toValue` writes, and what else stands for the same.
-/

namespace EditorKit.Theme

open Json (Value Field)

/-! ## Colors -/

/-- The value of a color. -/
def Color.toValue (color : Color) : Value := .text color.toText

/-- Reads a color in any spelling. -/
def Color.ofValue (value : Value) : Option Color := do
  (Color.ofText (← Json.asText value)).toOption

/-! ## Fonts -/

namespace Font

/-- The flags that have names. -/
def flags : List (Text × UInt8) := [("BOLD".toList, bold), ("ITALIC".toList, italic)]

/-- The names of the flags that are set, and the other bits as one hexadecimal number. -/
def parts (font : Font) : List Text :=
  let names := (flags.filter fun (_, flag) => font.bits &&& flag == flag).map Prod.fst
  let others := font.bits &&& ~~~(bold ||| italic)
  names ++ if others = 0 then [] else ["0x".toList ++ Text.hex others.toNat]

/-- The parts of a font between bars. -/
def toText (font : Font) : Text := " | ".toList.intercalate font.parts

/-- Reads one part of a font: the name of a flag, or a hexadecimal number. -/
def readPart (part : Text) : Option UInt8 :=
  match "0x".toList.isPrefixOf? part with
  | some digits => Text.readHexByte digits
  | none => flags.lookup part

/-- Reads a font. A blank text is the font without flags. -/
def ofText (t : Text) : Option Font :=
  if Text.isBlankText t then some .plain
  else do
    let bits ← (t.splitOn '|').mapM fun part => readPart (Text.trim part)
    return ⟨bits.foldl (· ||| ·) 0⟩

/-- The value of a font. -/
def toValue (font : Font) : Value := .text font.toText

/-- Reads a font from a value. -/
def ofValue (value : Value) : Option Font := Json.asText value >>= ofText

end Font

/-! ## Entries -/

namespace Entry

/-- The fields of an entry. -/
def fields : List Field :=
  [.required "fore_color", .required "back_color", .required "font"]

/-- The value of an entry. -/
def toValue (entry : Entry) : Value :=
  .record [("fore_color".toList, entry.fore.toValue), ("back_color".toList, entry.back.toValue),
    ("font".toList, entry.font.toValue)]

/-- Reads an entry from a value. -/
def ofValue (value : Value) : Option Entry := do
  match ← Json.readFields fields false value with
  | [some fore, some back, some font] =>
    return ⟨← Color.ofValue fore, ← Color.ofValue back, ← Font.ofValue font⟩
  | _ => none

end Entry

/-! ## Style keys -/

/-- The value of a style key. -/
def StyleKey.toValue (key : StyleKey) : Value := .text key.name

/-- Reads a style key by its exact name. -/
def StyleKey.ofValue : Value → Option StyleKey := Json.asChoice StyleKey.ofExactName

/-! ## Themes -/

/-- The fields of a theme. -/
def fields : List Field := [.required "name", .required "entries"]

/-- The value of a theme. -/
def toValue (theme : Theme) : Value :=
  .record [("name".toList, .text theme.name),
    ("entries".toList, .record (theme.entries.map fun (key, entry) => (key.name, entry.toValue)))]

/-- Reads the entries of a theme, each under the exact name of its key. -/
def readEntries (theme : Theme) : List (Text × Value) → Option Theme
  | [] => some theme
  | (name, value) :: rest => do
    let key ← StyleKey.ofExactName name
    readEntries (theme.set key (← Entry.ofValue value)) rest

/-- Reads a theme from a value. -/
def ofValue (value : Value) : Option Theme := do
  match ← Json.readFields fields false value with
  | [some name, some (.record entries)] => readEntries (bare (← Json.asText name)) entries
  | _ => none

end EditorKit.Theme
