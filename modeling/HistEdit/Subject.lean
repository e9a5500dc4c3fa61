import HistEdit.Function.Action

/-!
What expressions can be run on: a histogram, or a canvas together with the group of histograms it
shows.
-/

namespace HistEdit

/-- What an evaluation needs from the thing that it runs on: the native text of its fields, a way
to write a field back, and the effect of actions. An action on canvases has no effect where there
is none. -/
class Subject (σ : Type) where
  native : σ → Field → String
  assign : σ → Field → String → σ
  onHistogram : HistogramAction → σ → σ
  onCanvas? : CanvasAction → σ → Option σ

instance : Subject Histogram where
  native := Histogram.field
  assign := Histogram.setField
  onHistogram := HistogramAction.apply
  onCanvas? _ _ := none

structure GroupCanvas where
  key : String
  canvas : Canvas
  histograms : List Histogram

namespace GroupCanvas

/-- The key of the group stands for its name; every other field is that of the first histogram. -/
def native (group : GroupCanvas) : Field → String
  | .group | .name => group.key
  | field =>
    match group.histograms with
    | [] => ""
    | lead :: _ => lead.field field

/-- Writes a field of the first histogram. -/
def assign (group : GroupCanvas) (field : Field) (value : String) : GroupCanvas :=
  match group.histograms with
  | [] => group
  | lead :: rest => { group with histograms := lead.setField field value :: rest }

/-- An action on histograms acts on every one of the group. -/
def onHistogram (action : HistogramAction) (group : GroupCanvas) : GroupCanvas :=
  { group with histograms := group.histograms.map action.apply }

def onCanvas (action : CanvasAction) (group : GroupCanvas) : GroupCanvas :=
  { group with canvas := action.apply group.canvas }

end GroupCanvas

instance : Subject GroupCanvas where
  native := GroupCanvas.native
  assign := GroupCanvas.assign
  onHistogram := GroupCanvas.onHistogram
  onCanvas? action group := some (group.onCanvas action)

end HistEdit
