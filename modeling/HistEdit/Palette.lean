import HistEdit.Argument.Type
import HistEdit.Histogram

/-!
A ring of colours. The histogram at a place of its group gets the colour of that place, wherever no
colour was set before.
-/

namespace HistEdit

/-- Colours handed out by place. -/
structure Palette where
  colors : List Int16 := []
  deriving DecidableEq

namespace Palette

/-- Whole numbers with commas between them. -/
def read (text : String) : Except ArgError Palette :=
  ((ArgType.list .int16).readList ',' text).map Palette.mk

/-- The colour of a place; an empty palette has none. -/
def color? (palette : Palette) (place : Nat) : Option Int16 :=
  palette.colors[place % palette.colors.length]?

/-- Sets the colours of line and marker that are not set. -/
def fill (color : Int16) (h : Histogram) : Histogram :=
  { h with
    style := { h.style with
      lineColor := some (h.style.lineColor.getD color)
      markerColor := some (h.style.markerColor.getD color) } }

def paint (palette : Palette) (histograms : List Histogram) : List Histogram :=
  histograms.mapIdx fun place h =>
    match palette.color? place with
    | some color => fill color h
    | none => h

end Palette

end HistEdit
