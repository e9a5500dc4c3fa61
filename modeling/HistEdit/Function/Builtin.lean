import HistEdit.Function.Action
import HistEdit.Function.Registry

/-!
The functions that expressions can call: those that style a histogram, with arguments separated by
blanks, and those that set up a canvas, with arguments separated by commas. Values are checked
when the call is made, so that an action never fails.
-/

namespace HistEdit

namespace HistogramFunction

def setter {α : Type} (type : ArgType α) (action : α → HistogramAction) (args : RawArgs) :
    Except ArgError HistogramAction := do
  let (value, ()) ← (Row.cons type .nil).bind args
  return action value

def norm (args : RawArgs) : Except ArgError HistogramAction := do
  let (area, ()) ← (Row.cons .double .nil).bindWith 1 (1.0, ()) args
  return .normalize area

/-- A width below zero is refused. -/
def lineWidth (args : RawArgs) : Except ArgError HistogramAction := do
  let (width, ()) ← (Row.cons .single .nil).bind args
  if width < 0.0 then throw (.negativeWidth width)
  return .lineWidth width

def markerStyle (args : RawArgs) : Except ArgError HistogramAction := do
  let (style, size, ()) ←
    (Row.cons .int16 (.cons (.optional .single) .nil)).bindWith 1 (0, none, ()) args
  return .markerStyle style size

/-- Draw options may hold blanks, so the whole text is the argument. -/
def draw (args : RawArgs) : Except ArgError HistogramAction := do
  let option := Text.trim args.text.toList
  if option.isEmpty then throw (.tooFew 1 0)
  return .draw (String.ofList option)

/-- A range whose minimum lies above its maximum is refused. -/
def range (args : RawArgs) : Except ArgError HistogramAction := do
  let ((minimum, maximum), ()) ← (Row.cons (.pair .double .double) .nil).bind args
  if minimum > maximum then throw (.emptyRange minimum maximum)
  return .range minimum maximum

def entries : List (FunctionEntry HistogramAction) :=
  [ ⟨"norm", "norm [value=1]", norm⟩,
    ⟨"scale", "scale factor", setter .double .scale⟩,
    ⟨"line_color", "line_color color", setter .int16 .lineColor⟩,
    ⟨"line_width", "line_width width", lineWidth⟩,
    ⟨"line_style", "line_style style", setter .int16 .lineStyle⟩,
    ⟨"marker_color", "marker_color color", setter .int16 .markerColor⟩,
    ⟨"marker_style", "marker_style style [size]", markerStyle⟩,
    ⟨"fill_color", "fill_color color", setter .int16 .fillColor⟩,
    ⟨"color", "color color", setter .int16 .color⟩,
    ⟨"draw", "draw option", draw⟩,
    ⟨"yrange", "yrange min:max", range⟩,
    ⟨"ymin", "ymin value", setter .double .minimum⟩,
    ⟨"ymax", "ymax value", setter .double .maximum⟩ ]

end HistogramFunction

namespace CanvasFunction

/-- The first margin outside `[0, 1)`. -/
def badMargin? (margins : List Float) : Option Float :=
  margins.find? fun margin => !(0.0 ≤ margin && margin < 1.0)

/-- Up to four margins; one that is left out is the default. -/
def margin (args : RawArgs) : Except ArgError CanvasAction := do
  let default : Margins := {}
  let row := Row.cons .double (.cons .double (.cons .double (.cons .double .nil)))
  let (left, right, bottom, top, ()) ←
    row.bindWith 4 (default.left, default.right, default.bottom, default.top, ()) args
  match badMargin? [left, right, bottom, top] with
  | some margin => throw (.marginOutside margin)
  | none => return .margins { left, right, bottom, top }

def axis? (c : Char) : Option Axis :=
  if c.toLower = 'x' then some .x
  else if c.toLower = 'y' then some .y
  else if c.toLower = 'z' then some .z
  else none

/-- The axes of a text of letters, all of them among those allowed. -/
def axes (function : String) (allowed : List Axis) (letters : List Char) :
    Except ArgError (List Axis) :=
  letters.mapM fun letter =>
    match axis? letter with
    | some axis =>
      if axis ∈ allowed then .ok axis else .error (.invalidAxis function letter)
    | none => .error (.invalidAxis function letter)

/-- A function that turns axis switches on, or off when its second argument says so. -/
def switch (function : String) (allowed : List Axis) (action : List Axis → Bool → CanvasAction)
    (args : RawArgs) : Except ArgError CanvasAction := do
  let (letters, on, ()) ← (Row.cons .text (.cons .bool .nil)).bindWith 1 ("", true, ()) args
  let axes ← axes function allowed letters.toList
  return action axes on

def entries : List (FunctionEntry CanvasAction) :=
  [ ⟨"log", "log axes[,on=true]", switch "log" [.x, .y, .z] .log⟩,
    ⟨"margin", "margin [left=0.1,right=0.1,bottom=0.1,top=0.1]", margin⟩,
    ⟨"ticks", "ticks axes[,on=true]", switch "ticks" [.x, .y] .ticks⟩,
    ⟨"grid", "grid axes[,on=true]", switch "grid" [.x, .y] .grid⟩ ]

end CanvasFunction

structure Functions where
  histogram : Registry HistogramAction
  canvas : Registry CanvasAction

def Functions.builtin : Functions where
  histogram := .ofEntries ' ' HistogramFunction.entries
  canvas := .ofEntries ',' CanvasFunction.entries

end HistEdit
