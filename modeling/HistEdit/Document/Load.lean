import HistEdit.Document.Tree
import HistEdit.FileTree

/-!
Loading documents. The ending of the file name says in which of three formats a document is
written; it is looked at before the file is.
-/

namespace HistEdit

inductive DocumentFormat where
  | json
  | yaml
  | toml
  deriving DecidableEq

def DocumentFormat.label : DocumentFormat → String
  | .json => "Json"
  | .yaml => "Yaml"
  | .toml => "Toml"

/-- The last name in a path; there is none when the path leads upwards or nowhere. -/
def fileName? (path : String) : Option String :=
  ((pathParts path).filter fun part => part ≠ "" ∧ part ≠ ".").getLast?.filter (· ≠ "..")

/-- What follows the last point of a name, unless nothing stands before that. -/
def ending? (name : String) : Option String :=
  let tail := name.toList.reverse.takeWhile (· != '.')
  if tail.length + 1 < name.length then some (String.ofList tail.reverse) else none

def DocumentFormat.ofPath? (path : String) : Option DocumentFormat := do
  let ending ← ending? (← fileName? path)
  let ending := String.ofList (ending.toList.map Char.toLower)
  if ending = "json" then some .json
  else if ending = "yaml" ∨ ending = "yml" then some .yaml
  else if ending = "toml" then some .toml
  else none

/-- A reader of documents; a text that is no document in its format gives nothing. -/
class DocumentReader where
  document? : DocumentFormat → String → Option Document

def Document.load [DocumentReader] (read : String → Except FileError ByteArray) (path : String) :
    Except EditError (DocumentFormat × Document) :=
  match DocumentFormat.ofPath? path with
  | none => .error (.unsupportedInput path)
  | some format =>
    match (read path).bind decodeText with
    | .error cause => .error (.file path cause)
    | .ok text =>
      match DocumentReader.document? format text with
      | none => .error (.invalidDocument path)
      | some document => .ok (format, document)

/-- The histograms of a loaded document; without a name of its own it is called after its file. -/
def Document.histogramsAt (document : Document) (path : String) : List Histogram :=
  document.histograms ((fileName? path).getD "")

end HistEdit
