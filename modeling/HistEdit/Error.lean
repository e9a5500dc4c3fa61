import HistEdit.Argument.Error
import HistEdit.Flags

/-!
Every way in which editing can fail, with its kind, its message and sometimes a suggestion.
-/

namespace HistEdit

inductive FileError where
  | notFound
  | isDirectory
  | notDirectory
  | invalidText
  | other (detail : String)
  deriving DecidableEq

def FileError.message : FileError → String
  | .notFound => "No such file or directory (os error 2)"
  | .isDirectory => "Is a directory (os error 21)"
  | .notDirectory => "Not a directory (os error 20)"
  | .invalidText => "stream did not contain valid UTF-8"
  | .other detail => detail

inductive EditError where
  | file (path : String) (cause : FileError)
  | unsupportedInput (path : String)
  | invalidDocument (path : String)
  | invalidConfig (path : String)
  | invalidFlags (run : String) (cause : FlagError)
  | unterminated (delimiter : Char) (expression : String)
  | unmatchedBrace (expression : String)
  | invalidPattern (pattern : String)
  | unknownFunction (name args : String)
  | badArguments (name args : String) (cause : ArgError)
  | indexOutOfRange (field : Field) (index : Int) (versions : Nat)
  | badPalette (cause : ArgError)
  | repeatedFunction (name : String)

namespace EditError

def kind : EditError → String
  | .file .. => "io_error"
  | .unsupportedInput .. => "unsupported_input"
  | .invalidDocument .. => "invalid_input"
  | .invalidConfig .. => "invalid_config"
  | .invalidFlags .. | .unterminated .. | .unmatchedBrace .. => "parse_error"
  | .invalidPattern .. => "invalid_regex"
  | .unknownFunction .. => "unknown_function"
  | .badArguments .. => "invalid_arguments"
  | .indexOutOfRange .. => "evaluation_error"
  | .badPalette .. | .repeatedFunction .. => "invalid_request"

def message : EditError → String
  | .file path cause => "Failed to read file '" ++ path ++ "': " ++ cause.message
  | .unsupportedInput path =>
    "Unsupported input '" ++ path ++ "': expected a .json, .yaml, .yml or .toml document"
  | .invalidDocument path => "Failed to parse input document '" ++ path ++ "'"
  | .invalidConfig path => "Failed to parse configuration '" ++ path ++ "'"
  | .invalidFlags run cause => "Invalid flags '" ++ run ++ "': " ++ cause.message
  | .unterminated delimiter expression =>
    "Unterminated '" ++ String.singleton delimiter ++ "' delimiter in expression '" ++
      expression ++ "'"
  | .unmatchedBrace expression => "Missing closing '\x7d' in expression '" ++ expression ++ "'"
  | .invalidPattern pattern => "Invalid regex '" ++ pattern ++ "'"
  | .unknownFunction name args => "No function \"" ++ name ++ "\" with args \"" ++ args ++ "\""
  | .badArguments name args cause =>
    "Function \"" ++ name ++ "\" with args \"" ++ args ++ "\": " ++ cause.message
  | .indexOutOfRange field index versions =>
    "Out of range version index " ++ toString index ++ " for field '" ++
      String.singleton field.letter ++ "' with " ++ toString versions ++ " version(s)"
  | .badPalette cause => "Invalid request: --colors: " ++ cause.message
  | .repeatedFunction name => "Invalid request: function '" ++ name ++ "' registered twice"

def suggestion? : EditError → Option String
  | .unsupportedInput _ =>
    some "Provide input documents with a .json, .yaml, .yml or .toml extension"
  | .invalidConfig _ => some "Supported keys: exprs, canvas_exprs, sort, colors"
  | .invalidFlags .. =>
    some "Flags are s, i, m, p, field letters g n t x y z l d f, integers and '+'"
  | .unknownFunction .. => some "Run 'hed functions' to list available functions"
  | .badArguments .. => some "Run 'hed functions' to see argument signatures"
  | _ => none

end EditError

end HistEdit
