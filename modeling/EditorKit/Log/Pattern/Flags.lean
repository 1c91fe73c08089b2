import EditorKit.Log.Pattern
import EditorKit.Text.Numeral

/-!
# Flags of patterns

How a pattern is read depends on the flags in force. This file holds the flags, and the smallest
parts of a pattern, which are read by them: characters, and what stands behind a backslash.

Only ASCII has letter cases, words, digits and blanks here. A flag switches to ASCII, so what needs
them is refused without that flag; and with it everything is refused that takes a single character
beyond ASCII without naming it.
-/

namespace EditorKit.Log.Pattern

/-! ## Flags -/

/-- Flags: whether letters count the same in both cases, whether only ASCII is known, whether
repetitions rather take few rounds, and whether blanks and comments are passed over. -/
structure Flags where
  ignoresCase : Bool
  isAscii : Bool
  takesFew : Bool
  skipsBlanks : Bool
deriving DecidableEq, Repr

namespace Flags

/-- No flag but those that are in force from the start. -/
def bare : Flags := ⟨false, false, false, false⟩

/-- Flags with one of them switched on or off. Those about lines make no difference, as what is
matched is a single line. -/
def set (flags : Flags) (letter : Char) (isOn : Bool) : Flags :=
  match letter with
  | 'i' => { flags with ignoresCase := isOn }
  | 'u' => { flags with isAscii := !isOn }
  | 'U' => { flags with takesFew := isOn }
  | 'x' => { flags with skipsBlanks := isOn }
  | _ => flags

/-- Reads the letters of flags, each at most once, up to the sign behind them. A hyphen switches off
those behind it, of which there must be one. -/
def read (flags : Flags) (seen : Text) : Text → Option (Flags × Text)
  | [] => none
  | c :: rest =>
    if c = ':' || c = ')' then if seen.head? = some '-' then none else some (flags, c :: rest)
    else if seen.contains c || !"imsRUux-".toList.contains c then none
    else (flags.set c (!seen.contains '-')).read (c :: seen) rest

/-- What follows the blanks and comments at the start of a text. A comment goes from a hash sign to
the end of the line. -/
def skipFrom (isInComment : Bool) : Text → Text
  | [] => []
  | c :: rest =>
    if isInComment then skipFrom (c != '\n') rest
    else if Text.isBlank c then skipFrom false rest
    else if c = '#' then skipFrom true rest
    else c :: rest

/-- What follows at the start of a text, behind blanks and comments if they are passed over. -/
def skip (flags : Flags) (t : Text) : Text :=
  if flags.skipsBlanks then skipFrom false t else t

/-! ## Sets by flags -/

/-- A set with its letters in both cases if the flags ask for that. -/
def cased (flags : Flags) (set : CharSet) : Option CharSet :=
  if !flags.ignoresCase then some set
  else if flags.isAscii then some (.anyCase set)
  else none

/-- The range between two characters. -/
def range (flags : Flags) (first last : Char) : Option CharSet :=
  if last < first || (flags.isAscii && 0x7F < last.toNat) then none
  else flags.cased (.range first last)

/-- The pattern of one character that stands for itself. -/
def literal (flags : Flags) (c : Char) : Option Pattern :=
  (flags.cased (.range c c)).map oneOf

/-- All characters but those of a set. -/
def complement (flags : Flags) (set : CharSet) : Option CharSet :=
  if flags.isAscii then none else some (.complement set)

end Flags

/-! ## Behind a backslash -/

/-- What a smallest part of a pattern stands for. -/
inductive Atom where
  | char (c : Char)
  | set (set : CharSet)
  | boundary (b : Boundary)

/-- The digits. -/
def digits : List (Char × Char) := [('0', '9')]

/-- The blanks of ASCII. -/
def blanks : List (Char × Char) := [('\t', '\r'), (' ', ' ')]

/-- The characters of words. -/
def wordChars : List (Char × Char) := [('0', '9'), ('A', 'Z'), ('_', '_'), ('a', 'z')]

/-- The sets that a letter behind a backslash stands for. -/
def namedSets : List (Char × List (Char × Char)) :=
  [('d', digits), ('s', blanks), ('w', wordChars)]

/-- The characters that a letter behind a backslash stands for. -/
def namedChars : List (Char × Char) :=
  [('n', '\n'), ('t', '\t'), ('r', '\r'), ('f', '\x0c'), ('v', '\x0b'), ('a', '\x07')]

/-- The ends of the text behind a backslash. -/
def namedEnds : List (Char × Boundary) := [('A', .textStart), ('z', .textEnd)]

/-- The boundaries of words behind a backslash. -/
def namedWords : List (Char × Boundary) :=
  [('b', .word), ('B', .noWord), ('<', .wordStart), ('>', .wordEnd)]

/-- The letters in front of codes, with the number of digits of the code. -/
def codeSizes : List (Char × Nat) := [('x', 2), ('u', 4), ('U', 8)]

/-- Whether a character stands for itself behind a backslash. -/
def isMark (c : Char) : Bool := c.toNat < 0x80 && !c.isAlphanum && c != '<' && c != '>'

/-- Reads some hexadecimal digits behind a number. -/
def readCode (flags : Flags) (n : Nat) : (size : Nat) → Text → Option (Nat × Text)
  | 0, t => some (n, t)
  | size + 1, t =>
    match flags.skip t with
    | [] => none
    | c :: rest => do readCode flags (16 * n + (← Text.hexDigitValue c)) size rest

/-- Reads what stands behind a backslash. A code of two digits is that of a byte if only ASCII is
known. -/
def readEscape (flags : Flags) : Text → Option (Atom × Text)
  | [] => none
  | c :: rest =>
    match codeSizes.lookup c with
    | some size => do
      let (n, rest) ← readCode flags 0 size rest
      guard (n.isValidChar && !(flags.isAscii && size == 2 && 0x7F < n))
      return (.char (Char.ofNat n), rest)
    | none =>
      if isMark c then some (.char c, rest)
      else
        match namedChars.lookup c, namedEnds.lookup c, namedWords.lookup c, namedSets.lookup c with
        | some named, _, _, _ => some (.char named, rest)
        | _, some b, _, _ => some (.boundary b, rest)
        | _, _, some b, _ => if flags.isAscii then some (.boundary b, rest) else none
        | _, _, _, some ranges =>
          if flags.isAscii then some (.set (.ofRanges ranges), rest) else none
        | _, _, _, _ => none

end EditorKit.Log.Pattern
