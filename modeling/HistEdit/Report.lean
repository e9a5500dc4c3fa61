import HistEdit.Canvas
import HistEdit.Data.Value
import HistEdit.Flags
import HistEdit.Histogram

/-!
Records as trees of plain data, with their entries in a fixed order. What is not set is left out.
-/

namespace HistEdit

open Data (Value)

def Report.optional {α : Type} (key : String) (encode : α → Value) :
    Option α → List (String × Value)
  | none => []
  | some value => [(key, encode value)]

def Style.report (style : Style) : Value :=
  let color (value : Int16) : Value := .int value.toInt
  .table <|
    Report.optional "line_color" color style.lineColor ++
    Report.optional "line_width" .single style.lineWidth ++
    Report.optional "line_style" color style.lineStyle ++
    Report.optional "marker_color" color style.markerColor ++
    Report.optional "marker_style" color style.markerStyle ++
    Report.optional "marker_size" .single style.markerSize ++
    Report.optional "fill_color" color style.fillColor ++
    Report.optional "draw_option" .text style.drawOption ++
    Report.optional "minimum" .double style.minimum ++
    Report.optional "maximum" .double style.maximum ++
    Report.optional "scale" .double style.scale ++
    Report.optional "normalize" .double style.normalize

def Histogram.report (h : Histogram) : Value :=
  .table <|
    [ ("name", .text h.name), ("title", .text h.title), ("x_title", .text h.xTitle),
      ("y_title", .text h.yTitle), ("z_title", .text h.zTitle) ] ++
    Report.optional "legend" .text h.legend ++
    [("path", .text h.path), ("origin", .text h.origin), ("style", h.style.report)]

def Margins.report (margins : Margins) : Value :=
  .table
    [ ("left", .double margins.left), ("right", .double margins.right),
      ("bottom", .double margins.bottom), ("top", .double margins.top) ]

def AxisSwitches.report (switches : AxisSwitches) : Value :=
  .table [("x", .bool switches.x), ("y", .bool switches.y), ("z", .bool switches.z)]

def Canvas.report (canvas : Canvas) : Value :=
  .table
    [ ("margins", canvas.margins.report), ("log", canvas.log.report),
      ("ticks", canvas.ticks.report), ("grid", canvas.grid.report) ]

def Flags.report (flags : Flags) : Value :=
  .table
    [ ("select", .bool flags.select), ("invert", .bool flags.invert),
      ("match_only", .bool flags.matchOnly), ("print", .bool flags.print),
      ("add", .text flags.add.label), ("from", .text flags.source.label),
      ("to", .text flags.target.label), ("from_index", .int flags.fromIndex.toInt),
      ("match_index", .int flags.matchIndex.toInt) ]

end HistEdit
