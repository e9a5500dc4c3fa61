import HistEdit.Expression.Segment
import HistEdit.Function.Builtin

/-!
Reading expressions. A text is read one expression after the other; a block is read as a text of
its own. Calls are looked up among the functions on histograms and, where canvases are edited,
among those on canvases.
-/

namespace HistEdit

inductive Resolution where
  | histogram
  | histogramThenCanvas
  deriving DecidableEq

namespace Expression

/-- The effect of a call. A function on histograms goes first; one on canvases is tried only where
it is allowed and known. -/
def resolve (functions : Functions) (resolution : Resolution) (name args : String) :
    Except EditError Effect :=
  match functions.histogram.make name args with
  | .ok call => .ok (.histogram call)
  | .error error =>
    if resolution = .histogramThenCanvas ∧ functions.canvas.contains name then
      (functions.canvas.make name args).map .canvas
    else .error error

variable [PatternEngine]

def readList (functions : Functions) (resolution : Resolution) (cs : List Char) :
    Except EditError (List Expression) :=
  match h : Segment.next? cs with
  | .error error => .error error
  | .ok none => .ok []
  | .ok (some segment) =>
    have hshorter := Segment.next?_shorter h
    match hbody : segment.body with
    | .nothing =>
      (readList functions resolution segment.rest).map (.leaf segment.rule .none :: ·)
    | .call name args =>
      match resolve functions resolution name args with
      | .error error => .error error
      | .ok effect =>
        (readList functions resolution segment.rest).map (.leaf segment.rule effect :: ·)
    | .block inner =>
      have := hshorter.2 inner hbody
      match readList functions resolution inner with
      | .error error => .error error
      | .ok children =>
        (readList functions resolution segment.rest).map (.block segment.rule children :: ·)
termination_by cs.length
decreasing_by all_goals omega

def ofSegment (functions : Functions) (resolution : Resolution) (segment : Segment) :
    Except EditError Expression :=
  match segment.body with
  | .nothing => .ok (.leaf segment.rule .none)
  | .call name args => (resolve functions resolution name args).map (.leaf segment.rule)
  | .block inner => (readList functions resolution inner).map (.block segment.rule)

/-- The first expression of a text and the text behind it; nothing when only blanks and separators
are left. -/
def next? (functions : Functions) (resolution : Resolution) (cs : List Char) :
    Except EditError (Option (Expression × List Char)) :=
  match Segment.next? cs with
  | .error error => .error error
  | .ok none => .ok none
  | .ok (some segment) =>
    (ofSegment functions resolution segment).map fun expression => some (expression, segment.rest)

def readAll (functions : Functions) (resolution : Resolution) :
    List String → Except EditError (List Expression)
  | [] => .ok []
  | text :: texts =>
    match readList functions resolution text.toList with
    | .error error => .error error
    | .ok expressions => (readAll functions resolution texts).map (expressions ++ ·)

end Expression

end HistEdit
