import EditorKit.Files.Path
import EditorKit.Text.Quoted

/-!
# Errors

What can go wrong with a request, by cause. `Error.kind` is the part of the program that is at fault
and `Error.message` the full wording.
-/

namespace EditorKit

/-- The parts of the program that report errors. -/
inductive ErrorKind where
  | io
  | theme
  | config
  | toml
  | json
deriving DecidableEq, Repr

/-- Why a request was refused. -/
inductive Error where
  /-- A file operation failed. -/
  | file (fault : Fault)
  /-- A theme selector is neither a number nor the name of a theme. -/
  | noTheme (selector : Text)
  /-- A name is not that of a match mode. -/
  | unknownMode (name : Text)
  /-- A name is not that of a style key. -/
  | unknownKey (name : Text)
  /-- A name is not that of an outline kind. -/
  | unknownKind (name : Text)
  /-- A command line argument has no equals sign. -/
  | notAssignment (argument : Text)
  /-- A settings file is not a document of known keys and strings. -/
  | badToml
  /-- A JSON value has not the shape that is asked for. -/
  | badJson
deriving DecidableEq, Repr

namespace Error

/-- The part of the program that an error comes from. -/
def kind : Error → ErrorKind
  | file _ => .io
  | noTheme _ => .theme
  | unknownMode _ | unknownKey _ | unknownKind _ | notAssignment _ => .config
  | badToml => .toml
  | badJson => .json

/-- What an error says about its cause. -/
def detail : Error → Text
  | file fault => fault.message
  | noTheme selector => "no theme named ".toList ++ selector.quoted
  | unknownMode name => "unknown match mode: ".toList ++ name
  | unknownKey name => "unknown style key: ".toList ++ name
  | unknownKind name => "unknown outline kind: ".toList ++ name
  | notAssignment argument => "expected key=value, got ".toList ++ argument.quoted
  | badToml => "invalid document".toList
  | badJson => "invalid value".toList

/-- The words in front of the details of an error. -/
def label : ErrorKind → Text
  | .io => "IO error".toList
  | .theme => "Theme error".toList
  | .config => "Configuration error".toList
  | .toml => "TOML error".toList
  | .json => "JSON error".toList

/-- The full wording of an error. -/
def message (e : Error) : Text := label e.kind ++ ": ".toList ++ e.detail

end Error
end EditorKit
