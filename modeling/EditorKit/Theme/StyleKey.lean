import EditorKit.Error
import EditorKit.Text.Lower

/-!
# Style keys

The kinds of syntax and of editor surface that a theme can style. A key can be named with separators
and in any letter case; the keyword keys have a second name, `keyword class`.
-/

namespace EditorKit.Theme

/-- What a theme can style. The numbered keys count from zero here, though the keywords and string
delimiters are named from one. -/
inductive StyleKey where
  | base
  | comment
  | number
  | operator
  | keyword (n : Fin 8)
  | stringDelimiter (n : Fin 8)
  | preprocessor
  | includeFile
  | selection
  | caretLine
  | whitespace
  | foldMargin
  | matchHighlight
  | errorSeverity (n : Fin 5)
deriving DecidableEq, Repr

namespace StyleKey

/-- The keys in their order. -/
def all : List StyleKey :=
  [base, comment, number, operator] ++ (List.finRange 8).map keyword
    ++ (List.finRange 8).map stringDelimiter
    ++ [preprocessor, includeFile, selection, caretLine, whitespace, foldMargin, matchHighlight]
    ++ (List.finRange 5).map errorSeverity

/-- The name of a key. -/
def name : StyleKey → Text
  | base => "Default".toList
  | comment => "Comment".toList
  | number => "Number".toList
  | operator => "Operator".toList
  | keyword n => "Keyword".toList ++ Text.decimal (n + 1)
  | stringDelimiter n => "StringDelimiter".toList ++ Text.decimal (n + 1)
  | preprocessor => "Preprocessor".toList
  | includeFile => "Include".toList
  | selection => "Selection".toList
  | caretLine => "CaretLine".toList
  | whitespace => "Whitespace".toList
  | foldMargin => "FoldMargin".toList
  | matchHighlight => "MatchHighlight".toList
  | errorSeverity n => "ErrorSeverity".toList ++ Text.decimal n

/-- The key of a keyword class, from one to eight. -/
def ofKeywordClass (n : Nat) : Option StyleKey :=
  if h : 1 ≤ n ∧ n ≤ 8 then some (keyword ⟨n - 1, by omega⟩) else none

/-- The key of an error severity, from zero to four. -/
def ofErrorSeverity (n : Nat) : Option StyleKey :=
  if h : n < 5 then some (errorSeverity ⟨n, h⟩) else none

/-! ## Names as they are typed -/

/-- Whether a character may separate the words of a name. -/
def isSeparator (c : Char) : Bool := c == '-' || c == '_' || c == ' '

/-- A name without separators and in lower case. -/
def plainName (name : Text) : Text := Text.lower (name.filter (! isSeparator ·))

/-- A text with the first occurrence of `old` replaced by `new`. -/
def replaceFirst (old new : Text) : Text → Text
  | [] => if old.isEmpty then new else []
  | c :: rest =>
    match old.isPrefixOf? (c :: rest) with
    | some behind => new ++ behind
    | none => c :: replaceFirst old new rest

/-- The key with a given name, written in any way. -/
def ofName (name : Text) : Option StyleKey :=
  let wanted := replaceFirst "keywordclass".toList "keyword".toList (plainName name)
  all.find? fun key => plainName key.name == wanted

/-- The key with a given name, or the reason why there is none. -/
def ofText (t : Text) : Except Error StyleKey :=
  match ofName t with
  | some key => .ok key
  | none => .error (.unknownKey t)

/-- The key with exactly this name. -/
def ofExactName (name : Text) : Option StyleKey := all.find? fun key => key.name == name

end StyleKey
end EditorKit.Theme
