import EditorKit.Log.Notice
import EditorKit.Theme.Basic

/-!
# Theme resources

The text form of a list of themes, line by line. A line that starts with `>` opens the theme with
the name behind it; every other line is an entry of the theme that is open and has four fields
between tabs: style key, color of the text, color of the ground, and the bits of the font as a
number.

Reading goes on behind a line that is no entry, and reports it.

* `Line.ofText` tells what a line is, on its own;
* `readReport` puts the lines together to themes and lists the lines that did not make it;
* `readNotices` is what reading leaves in the log;
* `write` writes themes in the order of their keys;
* `builtin` is the resource that is read when no other one is given.
-/

namespace EditorKit.Theme

/-! ## Lines -/

/-- Why a line is no entry. -/
inductive LineFault where
  | outsideTheme
  | fieldCount (found : Nat)
  | foreColor (token : Text)
  | backColor (token : Text)
  | fontBits (field : Text)
deriving DecidableEq, Repr

namespace LineFault

/-- The words about a field that is no color. -/
def colorMessage (token : Text) : Text := "invalid color token: ".toList ++ token.quoted

/-- The words for a line fault. -/
def message : LineFault → Text
  | outsideTheme => "line appears before any theme marker".toList
  | fieldCount found => "expected 4 tab-separated fields, found ".toList ++ Text.decimal found
  | foreColor token => "foreground: ".toList ++ colorMessage token
  | backColor token => "background: ".toList ++ colorMessage token
  | fontBits field => "font type is not a small integer: ".toList ++ field.quoted

end LineFault

/-- Reads the four fields of an entry: the name of its key, and the entry itself. The first field
that is wrong decides the fault. -/
def readEntry (line : Text) : Except LineFault (Text × Entry) :=
  match line.splitOn '\t' with
  | [key, fore, back, font] => do
    let fore ← (Color.ofText fore).mapError .foreColor
    let back ← (Color.ofText back).mapError .backColor
    match Text.readByte (Text.trim font) with
    | some bits => return (Text.trim key, ⟨fore, back, ⟨bits⟩⟩)
    | none => throw (.fontBits (Text.trim font))
  | fields => throw (.fieldCount fields.length)

/-- What a line of a resource is. -/
inductive Line where
  | marker (name : Text)
  | blank
  | style (key : Text) (entry : Entry)
  | faulty (fault : LineFault)
deriving DecidableEq, Repr

/-- What a line of a resource is, on its own. -/
def Line.ofText (line : Text) : Line :=
  match line with
  | '>' :: name => .marker (Text.trim name)
  | line =>
    if Text.isBlankText line then .blank
    else
      match readEntry line with
      | .ok (key, entry) => .style key entry
      | .error fault => .faulty fault

/-! ## Reading -/

/-- What has been read of a resource: the finished themes in reverse, the open theme, and the lines
that are no entries and the names that are no keys, both in reverse. -/
structure Reader where
  finished : List Theme
  opened : Option Theme
  skipped : List (Nat × LineFault)
  unknownKeys : List Text

namespace Reader

/-- Nothing read yet. -/
def start : Reader := ⟨[], none, [], []⟩

/-- All themes that have been read, the open one included, in reverse. -/
def themes (reader : Reader) : List Theme := reader.opened.toList ++ reader.finished

/-- Reads one line, which has a given number. -/
def step (reader : Reader) (number : Nat) (line : Line) : Reader :=
  match line, reader.opened with
  | .marker name, _ => { reader with finished := reader.themes, opened := some (bare name) }
  | .blank, _ => reader
  | _, none => { reader with skipped := (number, .outsideTheme) :: reader.skipped }
  | .faulty fault, some _ => { reader with skipped := (number, fault) :: reader.skipped }
  | .style key entry, some theme =>
    match theme.setByName key entry with
    | some theme => { reader with opened := some theme }
    | none => { reader with unknownKeys := key :: reader.unknownKeys }

/-- Reads lines, the first of which has a given number. -/
def run (reader : Reader) (number : Nat) : List Text → Reader
  | [] => reader
  | line :: rest => (reader.step number (Line.ofText line)).run (number + 1) rest

end Reader

/-- The themes of a resource, the lines that are no entries, each with its number, and the names
that are no keys. -/
structure Report where
  themes : List Theme
  skipped : List (Nat × LineFault)
  unknownKeys : List Text

/-- Reads a resource. Lines are numbered from one. -/
def readReport (resource : Text) : Report :=
  let reader := Reader.start.run 1 resource.lines
  ⟨reader.themes.reverse, reader.skipped.reverse, reader.unknownKeys.reverse⟩

/-- Reads the themes of a resource. -/
def read (resource : Text) : List Theme := (readReport resource).themes

/-! ## Notices -/

/-- The task of reading a resource. -/
def readTask (resource : Text) : Log.Task :=
  ⟨Log.topic ["theme", "parse"], "parse_themes".toList,
    [("bytes".toList, .number resource.byteSize)]⟩

/-- The notices that reading a resource leaves in the log. -/
def readNotices (resource : Text) : List Log.Notice :=
  let report := readReport resource
  let notice := Log.Notice.of .debug (Log.topic ["theme", "parse"])
  let skipped := report.skipped.map fun _ =>
    notice "skipping theme line" ["line_number", "reason"]
  let unknown := report.unknownKeys.map fun _ =>
    notice "ignoring unknown style key" ["line_number", "key"]
  let done := notice "themes parsed" ["theme_count", "skipped_count"]
  (skipped ++ unknown ++ [done]).map (.during (readTask resource))

/-! ## Writing -/

/-- Writes an entry of a theme as a line. -/
def writeEntry (key : StyleKey) (entry : Entry) : Text :=
  key.name ++ '\t' :: entry.fore.toText ++ '\t' :: entry.back.toText
    ++ '\t' :: Text.decimal entry.font.bits.toNat ++ ['\n']

/-- Writes a theme: its name, and its entries in the order of their keys. -/
def writeTheme (theme : Theme) : Text :=
  '>' :: theme.name ++ '\n' :: theme.entries.flatMap fun (key, entry) => writeEntry key entry

/-- Writes themes. -/
def write (themes : List Theme) : Text := themes.flatMap writeTheme

/-! ## The built-in resource -/

/-- The lines of the built-in resource. -/
def builtinLines : List String :=
  [">Default", "Default\t#000000\t#FFFFFF\t0", "Comment\t#008000\tunset\t2",
    "Number\t#FF8000\tunset\t0", "Operator\t#804000\tunset\t1", "Keyword1\t#0000FF\tunset\t1",
    "Keyword2\t#8000FF\tunset\t0", "Keyword3\t#0080C0\tunset\t0", "Keyword4\t#800000\tunset\t1",
    "Keyword5\t#004080\tunset\t0", "Keyword6\t#808000\tunset\t0", "Keyword7\t#408080\tunset\t0",
    "Keyword8\t#800080\tunset\t0", "StringDelimiter1\t#808080\tunset\t0",
    "StringDelimiter2\t#808080\tunset\t0", "Preprocessor\t#804000\tunset\t0",
    "Include\t#C00000\tunset\t0", "Selection\tunset\t#C0C0C0\t0", "CaretLine\tunset\t#E8E8FF\t0",
    "Whitespace\t#C0C0C0\tunset\t0", "FoldMargin\tunset\t#F0F0F0\t0",
    "MatchHighlight\t#000000\t#FFD700\t1", "ErrorSeverity0\t#000000\t#E0F0FF\t0",
    "ErrorSeverity1\t#000000\t#FFF3C0\t0", "ErrorSeverity2\t#000000\t#FFD8A8\t0",
    "ErrorSeverity3\t#000000\t#FFB0B0\t0", "ErrorSeverity4\t#FFFFFF\t#C00000\t1",
    ">Dark", "Default\t#D4D4D4\t#1E1E1E\t0", "Comment\t#6A9955\tunset\t2",
    "Number\t#B5CEA8\tunset\t0", "Operator\t#D4D4D4\tunset\t0", "Keyword1\t#569CD6\tunset\t1",
    "Keyword2\t#C586C0\tunset\t0", "Keyword3\t#4EC9B0\tunset\t0", "Keyword4\t#DCDCAA\tunset\t0",
    "StringDelimiter1\t#CE9178\tunset\t0", "StringDelimiter2\t#CE9178\tunset\t0",
    "Preprocessor\t#9B9B9B\tunset\t0", "Include\t#D7BA7D\tunset\t0",
    "Selection\tunset\t#264F78\t0", "CaretLine\tunset\t#2A2D2E\t0",
    "Whitespace\t#404040\tunset\t0", "MatchHighlight\t#1E1E1E\t#F9E2AF\t1",
    "ErrorSeverity0\tunset\t#1B2B3A\t0", "ErrorSeverity2\tunset\t#4B3A14\t0",
    "ErrorSeverity4\t#FFFFFF\t#8B0000\t1",
    ">Solarized", "Default\t#657B83\t#FDF6E3\t0", "Comment\t#93A1A1\tunset\t2",
    "Number\t#D33682\tunset\t0", "Operator\t#586E75\tunset\t0", "Keyword1\t#859900\tunset\t1",
    "Keyword2\t#268BD2\tunset\t0", "Keyword3\t#2AA198\tunset\t0",
    "StringDelimiter1\t#2AA198\tunset\t0", "Preprocessor\t#CB4B16\tunset\t0",
    "Include\t#B58900\tunset\t0", "Selection\tunset\t#EEE8D5\t0", "CaretLine\tunset\t#EEE8D5\t0",
    "MatchHighlight\t#FDF6E3\t#B58900\t1", "ErrorSeverity4\t#FDF6E3\t#DC322F\t1"]

/-- The resource that is read when no other one is given. -/
def builtin : Text := builtinLines.flatMap fun line => line.toList ++ ['\n']

end EditorKit.Theme
