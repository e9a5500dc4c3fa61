import HistEdit.Data.Json
import HistEdit.FileTree

/-!
Configurations: expressions, sorting and colours that hold unless a command line adds to them.
-/

namespace HistEdit

open Data (Value)

structure Configuration where
  exprs : List String := []
  canvasExprs : List String := []
  sort : Bool := false
  colors : List Int16 := []

/-- A reader of configurations; a text that is none gives nothing. -/
class ConfigurationReader where
  configuration? : String → Option Configuration

namespace Configuration

def parse [ConfigurationReader] (path text : String) : Except EditError Configuration :=
  match ConfigurationReader.configuration? text with
  | some configuration => .ok configuration
  | none => .error (.invalidConfig path)

def load [ConfigurationReader] (read : String → Except FileError ByteArray) (path : String) :
    Except EditError Configuration :=
  match (read path).bind decodeText with
  | .ok text => parse path text
  | .error cause => .error (.file path cause)

def report (configuration : Configuration) : Value :=
  .table
    [ ("exprs", .list (configuration.exprs.map .text)),
      ("canvas_exprs", .list (configuration.canvasExprs.map .text)),
      ("sort", .bool configuration.sort),
      ("colors", .list (configuration.colors.map fun color => .int color.toInt)) ]

def describe (configuration : Configuration) : String :=
  let list (items : List String) : String := "[" ++ ", ".intercalate items ++ "]"
  "Config \x7b exprs: " ++ list (configuration.exprs.map Data.quote) ++
    ", canvas_exprs: " ++ list (configuration.canvasExprs.map Data.quote) ++
    ", sort: " ++ (if configuration.sort then "true" else "false") ++
    ", colors: " ++ list (configuration.colors.map fun color => toString color.toInt) ++ " \x7d"

end Configuration

end HistEdit
