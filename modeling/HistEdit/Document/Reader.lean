import HistEdit.Data.JsonReader
import HistEdit.Data.Toml.Reader
import HistEdit.Data.Yaml.Reader
import HistEdit.Document.Load
import HistEdit.Document.Record

/-!
The documents of the program: records in JSON, YAML or TOML.
-/

namespace HistEdit

open Data (Value)

/-- A document in YAML. Its own fields take any scalar as text, and nothing at all for no nodes;
other keys do not matter. -/
def Document.ofYaml? (root : Data.Yaml.Node) : Option Document := do
  let field (entry : Data.Yaml.Node × Data.Yaml.Node) : Option (List (String × Value)) :=
    match entry with
    | (.scalar _ _ "name", .scalar none plain text) =>
      some
        [("name", if plain && (text.isEmpty || Data.Yaml.isNull text) then .null else .text text)]
    | (.scalar _ _ "name", .scalar (some _) _ text) => some [("name", .text text)]
    | (.scalar _ _ "objects", node) =>
      if node.isEmpty then some [("objects", .list [])]
      else node.value?.map fun value => [("objects", value)]
    | (.scalar _ _ key, _) => if key = "name" then none else some []
    | _ => none
  match root with
  | .table _ entries =>
    let fields ← entries.mapM field
    Record.document? (.table fields.flatten)
  | root => if root.isEmpty then some {} else none

instance : DocumentReader where
  document?
    | .json, text => (Data.readJson text).bind Record.document?
    | .yaml, text => (Data.readYaml text).bind Document.ofYaml?
    | .toml, text => (Data.readToml text).bind Record.document?

end HistEdit
