import EditorKit.Theme.Color
import EditorKit.Theme.StyleKey

/-!
# Themes

A theme has a name and at most one entry for each style key. An entry says three things: the color
of the text, that of the ground behind it, and the font.
-/

namespace EditorKit

namespace Theme

/-! ## Entries -/

/-- The font of an entry as eight flags, of which the lowest two have a meaning. -/
structure Font where
  bits : UInt8
deriving DecidableEq, Repr, Inhabited

namespace Font

/-- The font without flags. -/
def plain : Font := ⟨0⟩

/-- The flag of bold letters. -/
def bold : UInt8 := 1

/-- The flag of italic letters. -/
def italic : UInt8 := 2

/-- Whether letters are bold. -/
def isBold (font : Font) : Bool := font.bits &&& bold == bold

/-- Whether letters are italic. -/
def isItalic (font : Font) : Bool := font.bits &&& italic == italic

end Font

/-- The colors and the font of a style key. -/
structure Entry where
  fore : Color
  back : Color
  font : Font
deriving DecidableEq, Repr

namespace Entry

/-- The entry that sets nothing. -/
def empty : Entry := ⟨.unset, .unset, .plain⟩

instance : Inhabited Entry := ⟨empty⟩

/-- An entry with its unset colors taken from another one. The font stays. -/
def inheritFrom (entry fallback : Entry) : Entry :=
  { entry with fore := entry.fore.orElse fallback.fore, back := entry.back.orElse fallback.back }

end Entry

end Theme

/-! ## Themes -/

/-- A named choice of entries. -/
structure Theme where
  name : Text
  entry? : Theme.StyleKey → Option Theme.Entry

namespace Theme

/-- The theme that styles nothing. -/
def bare (name : Text) : Theme := ⟨name, fun _ => none⟩

/-- A theme with the entry of one key replaced. -/
def set (theme : Theme) (key : StyleKey) (entry : Entry) : Theme :=
  { theme with entry? := fun k => if k = key then some entry else theme.entry? k }

/-- A theme with the entry of the key of a given name replaced, if there is such a key. -/
def setByName (theme : Theme) (name : Text) (entry : Entry) : Option Theme :=
  (StyleKey.ofName name).map fun key => theme.set key entry

/-- The entries of a theme, in the order of their keys. -/
def entries (theme : Theme) : List (StyleKey × Entry) :=
  StyleKey.all.filterMap fun key => (theme.entry? key).map (key, ·)

/-- The number of keys that a theme styles. -/
def size (theme : Theme) : Nat := theme.entries.length

/-- Whether a theme styles nothing. -/
def isEmpty (theme : Theme) : Bool := theme.entries.isEmpty

/-- Whether two themes have the same name and the same entries. -/
def same (s t : Theme) : Bool := s.name == t.name && s.entries == t.entries

end Theme

end EditorKit
