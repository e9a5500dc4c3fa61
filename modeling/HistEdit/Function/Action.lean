import HistEdit.Canvas
import HistEdit.Histogram

/-!
What functions do. An action on a histogram sets directives of its style and nothing else; an
action on a canvas sets its margins or some of its switches.
-/

namespace HistEdit

inductive HistogramAction where
  | normalize (area : Float)
  | scale (factor : Float)
  | lineColor (color : Int16)
  | lineWidth (width : Float32)
  | lineStyle (style : Int16)
  | markerColor (color : Int16)
  | markerStyle (style : Int16) (size : Option Float32)
  | fillColor (color : Int16)
  | color (color : Int16)
  | draw (option : String)
  | range (minimum maximum : Float)
  | minimum (value : Float)
  | maximum (value : Float)

/-- The style after an action. A marker size that is not given stays. -/
def HistogramAction.onStyle (style : Style) : HistogramAction → Style
  | .normalize a => { style with normalize := some a }
  | .scale a => { style with scale := some a }
  | .lineColor a => { style with lineColor := some a }
  | .lineWidth a => { style with lineWidth := some a }
  | .lineStyle a => { style with lineStyle := some a }
  | .markerColor a => { style with markerColor := some a }
  | .markerStyle a size =>
    { style with markerStyle := some a, markerSize := size <|> style.markerSize }
  | .fillColor a => { style with fillColor := some a }
  | .color a => { style with lineColor := some a, markerColor := some a }
  | .draw a => { style with drawOption := some a }
  | .range a b => { style with minimum := some a, maximum := some b }
  | .minimum a => { style with minimum := some a }
  | .maximum a => { style with maximum := some a }

def HistogramAction.apply (action : HistogramAction) (h : Histogram) : Histogram :=
  { h with style := action.onStyle h.style }

inductive CanvasAction where
  | margins (margins : Margins)
  | log (axes : List Axis) (on : Bool)
  | ticks (axes : List Axis) (on : Bool)
  | grid (axes : List Axis) (on : Bool)

def CanvasAction.apply (action : CanvasAction) (canvas : Canvas) : Canvas :=
  match action with
  | .margins m => { canvas with margins := m }
  | .log axes on => { canvas with log := canvas.log.setAll axes on }
  | .ticks axes on => { canvas with ticks := canvas.ticks.setAll axes on }
  | .grid axes on => { canvas with grid := canvas.grid.setAll axes on }

end HistEdit
