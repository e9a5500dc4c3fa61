/-!
The canvas on which a group is drawn: four margins and three sets of axis switches.
-/

namespace HistEdit

inductive Axis where
  | x
  | y
  | z
  deriving DecidableEq

structure Margins where
  left : Float := 0.1
  right : Float := 0.1
  bottom : Float := 0.1
  top : Float := 0.1
  deriving Inhabited

structure AxisSwitches where
  x : Bool := false
  y : Bool := false
  z : Bool := false
  deriving DecidableEq, Inhabited

def AxisSwitches.set (switches : AxisSwitches) (on : Bool) : Axis → AxisSwitches
  | .x => { switches with x := on }
  | .y => { switches with y := on }
  | .z => { switches with z := on }

def AxisSwitches.setAll (switches : AxisSwitches) (axes : List Axis) (on : Bool) : AxisSwitches :=
  axes.foldl (fun switches axis => switches.set on axis) switches

structure Canvas where
  margins : Margins := {}
  log : AxisSwitches := {}
  ticks : AxisSwitches := {}
  grid : AxisSwitches := {}
  deriving Inhabited

end HistEdit
