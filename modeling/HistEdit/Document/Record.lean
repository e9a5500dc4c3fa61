import HistEdit.Data.Value
import HistEdit.Document.Tree

/-!
Reading records from trees of plain data. A record is a table, whose unknown keys do not matter
and whose known keys come at most once, or a list of its fields in order. A node is told by its
`type`; as a list it opens with it.
-/

namespace HistEdit

open Data (Value)

namespace Record

/-- The values of the fields of a record, in the order of `names`. -/
def fields? (names : List String) : Value → Option (List (Option Value))
  | .table entries =>
    names.mapM fun name =>
      match entries.filter fun entry => entry.1 == name with
      | [] => some none
      | [(_, value)] => some (some value)
      | _ => none
  | .list items =>
    if items.length ≤ names.length then
      some (items.map some ++ List.replicate (names.length - items.length) none)
    else none
  | _ => none

/-- A field that may be left out. -/
def field {α : Type} (read : Value → Option α) (missing : α) : Option Value → Option α
  | none => some missing
  | some value => read value

/-- A field that may be left out or null. -/
def unset {α : Type} (read : Value → Option α) : Option Value → Option (Option α)
  | none | some .null => some none
  | some value => (read value).map some

def int16? : Value → Option Int16
  | .int value => if -32768 ≤ value ∧ value ≤ 32767 then some (Int16.ofInt value) else none
  | _ => none

/-- A whole number as a double; natural numbers may have 64 bits. -/
def doubleOfInt (value : Int) : Float :=
  if 0 ≤ value then (UInt64.ofNat value.toNat).toFloat else (Int64.ofInt value).toFloat

def double? : Value → Option Float
  | .int value => some (doubleOfInt value)
  | .double value => some value
  | _ => none

/-- A whole number as a single, in one rounding. -/
def singleOfInt (value : Int) : Float32 :=
  if 0 ≤ value then (UInt64.ofNat value.toNat).toFloat32 else (Int64.ofInt value).toFloat32

def single? : Value → Option Float32
  | .int value => some (singleOfInt value)
  | .double value => some value.toFloat32
  | _ => none

/-- A style; a directive that is null is not set. -/
def style? (value : Value) : Option Style := do
  let fields ← fields?
    [ "line_color", "line_width", "line_style", "marker_color", "marker_style", "marker_size",
      "fill_color", "draw_option", "minimum", "maximum", "scale", "normalize" ] value
  match fields with
  | [lineColor, lineWidth, lineStyle, markerColor, markerStyle, markerSize, fillColor, drawOption,
      minimum, maximum, scale, normalize] =>
    pure {
      lineColor := ← unset int16? lineColor
      lineWidth := ← unset single? lineWidth
      lineStyle := ← unset int16? lineStyle
      markerColor := ← unset int16? markerColor
      markerStyle := ← unset int16? markerStyle
      markerSize := ← unset single? markerSize
      fillColor := ← unset int16? fillColor
      drawOption := ← unset Value.text? drawOption
      minimum := ← unset double? minimum
      maximum := ← unset double? maximum
      scale := ← unset double? scale
      normalize := ← unset double? normalize }
  | _ => none

/-- A histogram; only the name must be there. -/
def histogram? (value : Value) : Option Histogram := do
  let fields ← fields?
    ["name", "title", "x_title", "y_title", "z_title", "legend", "path", "origin", "style"] value
  match fields with
  | [some name, title, xTitle, yTitle, zTitle, legend, path, origin, style] =>
    pure {
      name := ← name.text?
      title := ← field Value.text? "" title
      xTitle := ← field Value.text? "" xTitle
      yTitle := ← field Value.text? "" yTitle
      zTitle := ← field Value.text? "" zTitle
      legend := ← unset Value.text? legend
      path := ← field Value.text? "" path
      origin := ← field Value.text? "" origin
      style := ← field style? {} style }
  | _ => none

def tagged? : Value → Option (String × Value)
  | .table entries =>
    match entries.filter fun entry => entry.1 == "type" with
    | [(_, .text type)] => some (type, .table (entries.filter fun entry => entry.1 != "type"))
    | _ => none
  | .list (.text type :: items) => some (type, .list items)
  | _ => none

def node? : Nat → Value → Option Node
  | 0, _ => none
  | depth + 1, value => do
    let (type, content) ← tagged? value
    if type = "histogram" then
      let record ← histogram? content
      pure (.histogram record)
    else if type = "directory" then
      match ← fields? ["name", "objects"] content with
      | [some name, objects] =>
        let name ← name.text?
        let items ← field Value.items? [] objects
        let nodes ← items.mapM (node? depth)
        pure (.directory name nodes)
      | _ => none
    else none

end Record

mutual

/-- How many values stand inside one another, the outermost one included. -/
def Data.Value.depth : Value → Nat
  | .list items => 1 + depthItems items
  | .table entries => 1 + depthEntries entries
  | _ => 1

def Data.depthItems : List Value → Nat
  | [] => 0
  | item :: items => max item.depth (Data.depthItems items)

def Data.depthEntry : String × Value → Nat
  | (_, value) => value.depth

def Data.depthEntries : List (String × Value) → Nat
  | [] => 0
  | entry :: entries => max (Data.depthEntry entry) (Data.depthEntries entries)

end

def Record.document? (value : Value) : Option Document := do
  match ← fields? ["name", "objects"] value with
  | [name, objects] =>
    let name ← unset Value.text? name
    let items ← field Value.items? [] objects
    let nodes ← items.mapM (node? value.depth)
    pure { name, nodes }
  | _ => none

end HistEdit
