import HistEdit.Proofs.GroupFrame

/-!
Actions as setters. An action sets some directives of a style, or some settings of a canvas, to
values of its own and leaves all others. So each directive and each setting shows what the last
action that sets it says, and the same actions done once more change nothing.
-/

namespace HistEdit

section

variable {α β γ : Type}

/-- A view of items that actions overwrite: an action that sets a value shows this value, and any
other action leaves what was seen. -/
def Overwrites (act : α → γ → α) (view : α → β) (value? : γ → Option β) : Prop :=
  ∀ item action, view (act item action) = (value? action).getD (view item)

namespace Overwrites

variable {act : α → γ → α} {view : α → β} {value? : γ → Option β}

/-- The last action that sets a value is the one that is seen. -/
theorem foldl (h : Overwrites act view value?) (actions : List γ) (item : α) :
    view (actions.foldl act item) =
      (actions.filterMap value?).getLast?.getD (view item) := by
  induction actions generalizing item with
  | nil => rfl
  | cons action actions ih =>
      rw [List.foldl_cons, ih, h]
      cases hvalue : value? action with
      | none => rw [List.filterMap_cons_none hvalue, Option.getD_none]
      | some value =>
          rw [List.filterMap_cons_some hvalue, Option.getD_some]
          cases actions.filterMap value? with
          | nil => rfl
          | cons next values =>
              rw [List.getLast?_cons_cons, List.getLast?_eq_some_getLast (List.cons_ne_nil _ _)]
              rfl

/-- What some actions show stays when they act once more. -/
theorem foldl_foldl (h : Overwrites act view value?) (actions : List γ) (item : α) :
    view (actions.foldl act (actions.foldl act item)) = view (actions.foldl act item) := by
  rw [h.foldl actions (actions.foldl act item), h.foldl actions item]
  cases (actions.filterMap value?).getLast? <;> rfl

/-- After some actions a view shows the value of the last one that sets it, or what it showed
before. -/
theorem foldl_last (h : Overwrites act view value?) {sets : γ → Bool} {actions : List γ}
    (hsets : ∀ action ∈ actions, (value? action).isSome = sets action) (item : α) :
    match (actions.filter sets).getLast? with
    | none => view (actions.foldl act item) = view item
    | some action =>
      ∃ value, value? action = some value ∧ view (actions.foldl act item) = value := by
  induction actions using List.reverseRecOn with
  | nil => rfl
  | append_singleton actions action ih =>
      have ih := ih fun action hmem => hsets action (List.mem_append_left _ hmem)
      have hlast : (value? action).isSome = sets action :=
        hsets action (List.mem_append_right _ List.mem_cons_self)
      rw [List.filter_append, List.foldl_append, List.foldl_cons, List.foldl_nil,
        h (actions.foldl act item) action]
      cases hvalue : value? action with
      | none =>
          rw [hvalue] at hlast
          rwa [List.filter_cons_of_neg (by simp [← hlast]), List.filter_nil, List.append_nil]
      | some value =>
          rw [hvalue] at hlast
          rw [List.filter_cons_of_pos hlast.symm, List.filter_nil, List.getLast?_concat]
          exact ⟨value, hvalue, rfl⟩

/-- Two actions that do not both set a view can change places. -/
theorem swap (h : Overwrites act view value?) {first second : γ}
    (hapart : value? first = none ∨ value? second = none) (item : α) :
    view (act (act item first) second) = view (act (act item second) first) := by
  simp only [h _ _]
  rcases hapart with hnone | hnone <;> simp [hnone]

end Overwrites

end

inductive Directive where
  | lineColor
  | lineWidth
  | lineStyle
  | markerColor
  | markerStyle
  | markerSize
  | fillColor
  | drawOption
  | minimum
  | maximum
  | scale
  | normalize

def Directive.Value : Directive → Type
  | lineColor | lineStyle | markerColor | markerStyle | fillColor => Int16
  | lineWidth | markerSize => Float32
  | drawOption => String
  | minimum | maximum | scale | normalize => Float

def Style.get (style : Style) : (directive : Directive) → Option directive.Value
  | .lineColor => style.lineColor
  | .lineWidth => style.lineWidth
  | .lineStyle => style.lineStyle
  | .markerColor => style.markerColor
  | .markerStyle => style.markerStyle
  | .markerSize => style.markerSize
  | .fillColor => style.fillColor
  | .drawOption => style.drawOption
  | .minimum => style.minimum
  | .maximum => style.maximum
  | .scale => style.scale
  | .normalize => style.normalize

theorem Style.ext_get {style other : Style}
    (h : ∀ directive, style.get directive = other.get directive) : style = other := by
  obtain ⟨_, _, _, _, _, _, _, _, _, _, _, _⟩ := style
  obtain ⟨_, _, _, _, _, _, _, _, _, _, _, _⟩ := other
  rw [Style.mk.injEq]
  exact ⟨h .lineColor, h .lineWidth, h .lineStyle, h .markerColor, h .markerStyle, h .markerSize,
    h .fillColor, h .drawOption, h .minimum, h .maximum, h .scale, h .normalize⟩

/-- What an action sets a directive to. A color goes to lines and markers, a range to both of its
ends, and a marker style to the size only when it comes with one. -/
def HistogramAction.value? : HistogramAction → (directive : Directive) → Option directive.Value
  | .lineColor value, .lineColor | .color value, .lineColor => some value
  | .lineWidth value, .lineWidth => some value
  | .lineStyle value, .lineStyle => some value
  | .markerColor value, .markerColor | .color value, .markerColor => some value
  | .markerStyle value _, .markerStyle => some value
  | .markerStyle _ size, .markerSize => size
  | .fillColor value, .fillColor => some value
  | .draw value, .drawOption => some value
  | .range value _, .minimum | .minimum value, .minimum => some value
  | .range _ value, .maximum | .maximum value, .maximum => some value
  | .scale value, .scale => some value
  | .normalize value, .normalize => some value
  | _, _ => none

theorem HistogramAction.overwrites (directive : Directive) :
    Overwrites HistogramAction.onStyle (fun style => style.get directive)
      (fun action => (action.value? directive).map some) := by
  intro style action
  cases action with
  | markerStyle style size => cases size <;> cases directive <;> rfl
  | _ => cases directive <;> rfl

theorem Style.actedOn_actedOn (style : Style) (actions : List HistogramAction) :
    (style.actedOn actions).actedOn actions = style.actedOn actions := by
  apply Style.ext_get
  intro directive
  exact (HistogramAction.overwrites directive).foldl_foldl actions style

/-- What a canvas can be set up by: its margins as a whole, or one of its switches. -/
inductive Setting where
  | margins
  | log (axis : Axis)
  | ticks (axis : Axis)
  | grid (axis : Axis)

def Setting.Value : Setting → Type
  | margins => Margins
  | log _ | ticks _ | grid _ => Bool

def AxisSwitches.get (switches : AxisSwitches) : Axis → Bool
  | .x => switches.x
  | .y => switches.y
  | .z => switches.z

def Canvas.get (canvas : Canvas) : (setting : Setting) → setting.Value
  | .margins => canvas.margins
  | .log axis => canvas.log.get axis
  | .ticks axis => canvas.ticks.get axis
  | .grid axis => canvas.grid.get axis

theorem AxisSwitches.ext_get {switches other : AxisSwitches}
    (h : ∀ axis, switches.get axis = other.get axis) : switches = other := by
  obtain ⟨_, _, _⟩ := switches
  obtain ⟨_, _, _⟩ := other
  rw [AxisSwitches.mk.injEq]
  exact ⟨h .x, h .y, h .z⟩

theorem Canvas.ext_get {canvas other : Canvas}
    (h : ∀ setting, canvas.get setting = other.get setting) : canvas = other := by
  obtain ⟨_, _, _, _⟩ := canvas
  obtain ⟨_, _, _, _⟩ := other
  rw [Canvas.mk.injEq]
  refine ⟨h .margins, ?_, ?_, ?_⟩
  · exact AxisSwitches.ext_get fun axis => h (.log axis)
  · exact AxisSwitches.ext_get fun axis => h (.ticks axis)
  · exact AxisSwitches.ext_get fun axis => h (.grid axis)

theorem AxisSwitches.get_set (switches : AxisSwitches) (on : Bool) (axis other : Axis) :
    (switches.set on axis).get other = if other = axis then on else switches.get other := by
  cases axis <;> cases other <;> rfl

/-- What an action turns the switch of an axis to: on or off for the axes that it names. -/
def switchedTo? (axes : List Axis) (on : Bool) (axis : Axis) : Option Bool :=
  if axis ∈ axes then some on else none

theorem AxisSwitches.get_setAll (switches : AxisSwitches) (axes : List Axis) (on : Bool)
    (axis : Axis) :
    (switches.setAll axes on).get axis =
      (switchedTo? axes on axis).getD (switches.get axis) := by
  induction axes generalizing switches with
  | nil => rfl
  | cons first rest ih =>
      change ((switches.set on first).setAll rest on).get axis = _
      rw [ih, get_set]
      unfold switchedTo?
      by_cases hrest : axis ∈ rest
      · rw [if_pos hrest, if_pos (List.mem_cons_of_mem first hrest)]
        rfl
      · simp only [List.mem_cons, hrest, or_false, if_false, Option.getD_none]
        split <;> rfl

def CanvasAction.value? : CanvasAction → (setting : Setting) → Option setting.Value
  | .margins value, .margins => some value
  | .log axes on, .log axis => switchedTo? axes on axis
  | .ticks axes on, .ticks axis => switchedTo? axes on axis
  | .grid axes on, .grid axis => switchedTo? axes on axis
  | _, _ => none

theorem CanvasAction.overwrites (setting : Setting) :
    Overwrites (fun canvas (action : CanvasAction) => action.apply canvas)
      (fun canvas => canvas.get setting) (fun action => action.value? setting) := by
  intro canvas action
  cases action with
  | margins margins => cases setting <;> rfl
  | log axes on =>
      cases setting with
      | log axis => exact canvas.log.get_setAll axes on axis
      | _ => rfl
  | ticks axes on =>
      cases setting with
      | ticks axis => exact canvas.ticks.get_setAll axes on axis
      | _ => rfl
  | grid axes on =>
      cases setting with
      | grid axis => exact canvas.grid.get_setAll axes on axis
      | _ => rfl

theorem Canvas.actedOn_actedOn (canvas : Canvas) (actions : List CanvasAction) :
    (canvas.actedOn actions).actedOn actions = canvas.actedOn actions := by
  apply Canvas.ext_get
  intro setting
  exact (CanvasAction.overwrites setting).foldl_foldl actions canvas

/-- The effects of some steps act on the style of a histogram. -/
theorem actAll_histogram (steps : List Step) (h : Histogram) :
    actAll steps h = { h with style := h.style.actedOn (histogramActions steps) } := by
  induction steps generalizing h with
  | nil => rfl
  | cons step steps ih =>
      rw [histogramActions_cons]
      change actAll steps (step.effect.act h) = _
      rw [ih]
      cases step.effect <;> rfl

/-- The effects of some steps change nothing when they take place once more. -/
theorem actAll_actAll_histogram (steps : List Step) (h : Histogram) :
    actAll steps (actAll steps h) = actAll steps h := by
  simp only [actAll_histogram, Style.actedOn_actedOn]

theorem actAll_actAll_group (steps : List Step) (group : GroupCanvas) :
    actAll steps (actAll steps group) = actAll steps group := by
  simp only [actAll_group, GroupCanvas.actedOn, Canvas.actedOn_actedOn, List.map_map]
  refine congrArg _ (List.map_congr_left ?_)
  intro h _
  simp only [Function.comp_apply, Style.actedOn_actedOn]

end HistEdit
