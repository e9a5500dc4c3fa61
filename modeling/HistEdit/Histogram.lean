import HistEdit.Field

/-!
Histograms as records of metadata and drawing directives. The fields of a histogram are its native
texts; five of them can be written.
-/

namespace HistEdit

/-- Drawing directives. Each one is set or left to the drawing program. -/
structure Style where
  lineColor : Option Int16 := none
  lineWidth : Option Float32 := none
  lineStyle : Option Int16 := none
  markerColor : Option Int16 := none
  markerStyle : Option Int16 := none
  markerSize : Option Float32 := none
  fillColor : Option Int16 := none
  drawOption : Option String := none
  minimum : Option Float := none
  maximum : Option Float := none
  scale : Option Float := none
  normalize : Option Float := none
  deriving Inhabited

structure Histogram where
  name : String
  title : String := ""
  xTitle : String := ""
  yTitle : String := ""
  zTitle : String := ""
  legend : Option String := none
  path : String := ""
  origin : String := ""
  style : Style := {}
  deriving Inhabited

namespace Histogram

/-- The native text of a field. The group starts as the name, an unset legend is empty. -/
def field (h : Histogram) : Field → String
  | .group | .name => h.name
  | .title => h.title
  | .xLabel => h.xTitle
  | .yLabel => h.yTitle
  | .zLabel => h.zTitle
  | .legend => h.legend.getD ""
  | .path => h.path
  | .origin => h.origin

/-- Writes a field; nothing for the fields that only exist while expressions run. -/
def setField? (h : Histogram) (field : Field) (value : String) : Option Histogram :=
  match field with
  | .title => some { h with title := value }
  | .xLabel => some { h with xTitle := value }
  | .yLabel => some { h with yTitle := value }
  | .zLabel => some { h with zTitle := value }
  | .legend => some { h with legend := some value }
  | .group | .name | .path | .origin => none

def setField (h : Histogram) (field : Field) (value : String) : Histogram :=
  (h.setField? field value).getD h

end Histogram

end HistEdit
