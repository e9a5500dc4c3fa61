import HistEdit.Configuration
import HistEdit.Data.Toml.Reader
import HistEdit.Document.Record

/-!
The configurations of the program. They are written in TOML, and every key is one of the four that
are known.
-/

namespace HistEdit

open Data (Value)

namespace Configuration

def list? {α : Type} (item? : Value → Option α) (value : Value) : Option (List α) := do
  (← value.items?).mapM item?

def bool? : Value → Option Bool
  | .bool value => some value
  | _ => none

/-- A configuration from a table without unknown keys. -/
def ofValue? (value : Value) : Option Configuration := do
  let names := ["exprs", "canvas_exprs", "sort", "colors"]
  match value with
  | .table entries =>
    if !entries.all fun entry => names.contains entry.1 then none
    else
      match ← Record.fields? names value with
      | [exprs, canvasExprs, sort, colors] =>
        pure {
          exprs := ← Record.field (list? Value.text?) [] exprs
          canvasExprs := ← Record.field (list? Value.text?) [] canvasExprs
          sort := ← Record.field bool? false sort
          colors := ← Record.field (list? Record.int16?) [] colors }
      | _ => none
  | _ => none

instance : ConfigurationReader where
  configuration? text := (Data.readToml text).bind ofValue?

end Configuration

end HistEdit
