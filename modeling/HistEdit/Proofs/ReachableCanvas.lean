import HistEdit.Proofs.CanvasCalls
import HistEdit.Proofs.Resolution
import HistEdit.Proofs.Selection

/-!
Canvases that can be reached. Every call in expressions that are read was made by a function of the
tables, so the calls that an evaluation brings about on a canvas set it up like any others; and the
canvases that a run of grouping shows come from such evaluations.
-/

namespace HistEdit

def Effect.canvasCall? : Effect → Option (Call CanvasAction)
  | .canvas call => some call
  | .none | .histogram _ => Option.none

/-- The calls of functions on canvases that the matches among some steps bring about, in order. -/
def canvasCalls (steps : List Step) : List (Call CanvasAction) :=
  steps.filterMap fun step => step.effect.canvasCall?

theorem canvasActions_eq (steps : List Step) :
    canvasActions steps = (canvasCalls steps).map Call.action := by
  rw [canvasActions, canvasCalls, List.map_filterMap]
  congr 1
  funext step
  cases step.effect <;> rfl

/-- However an evaluation comes out, the canvas is what the calls of its matches make of it. -/
theorem GroupCanvas.canvas_evaluate (expressions : List Expression) (group : GroupCanvas) :
    (evaluate expressions group).subject.canvas =
      group.canvas.called (canvasCalls (evaluate expressions group).steps) := by
  have hacted := (subject_runAll expressions 0 { subject := group }).trans (actAll_group _ group)
  obtain ⟨histograms, hleft, -⟩ :=
    exists_finish (runAll 0 { subject := group } expressions)
  have hfinish : evaluate expressions group = (runAll 0 { subject := group } expressions).finish :=
    evaluate_eq_evaluateFrom expressions group
  rw [hfinish, hleft, hacted, Run.steps_finish]
  change group.canvas.actedOn (canvasActions _) = _
  rw [canvasActions_eq]
  exact List.foldl_map

def Effect.MadeBy (functions : Functions) : Effect → Prop
  | .none => True
  | .histogram call => functions.histogram.Makes call
  | .canvas call => functions.canvas.Makes call

/-- All calls in some expressions, at whatever depth, are made by some tables of functions. -/
def CallsMadeBy (functions : Functions) (expressions : List Expression) : Prop :=
  ∀ expression ∈ allSubexpressions expressions, expression.effect.MadeBy functions

section

variable {functions : Functions} {resolution : Resolution}

theorem Expression.madeBy_of_resolve {name args : String} {effect : Effect}
    (h : resolve functions resolution name args = .ok effect) : effect.MadeBy functions := by
  unfold resolve at h
  split at h
  · next call hmake =>
      obtain rfl := Except.ok.inj h
      exact Registry.makes_of_make hmake
  · split at h
    · obtain ⟨call, hmake, rfl⟩ := map_eq_ok_iff.1 h
      exact Registry.makes_of_make hmake
    · cases h

theorem Expression.Reads.callsMadeBy [PatternEngine] {cs : List Char}
    {expressions : List Expression} (h : Reads functions resolution cs expressions) :
    CallsMadeBy functions expressions := by
  induction h with
  | done hnext => exact fun _ hmem => nomatch hmem
  | nothing hnext hbody hlater ih =>
      exact List.forall_mem_cons.2 ⟨trivial, ih⟩
  | call hnext hbody heffect hlater ih =>
      exact List.forall_mem_cons.2 ⟨madeBy_of_resolve heffect, ih⟩
  | block hnext hbody hchildren hlater ihChildren ih =>
      simp only [CallsMadeBy, allSubexpressions, subexpressions, List.forall_mem_append,
        List.forall_mem_singleton]
      exact ⟨⟨ihChildren, trivial⟩, ih⟩

theorem allSubexpressions_append (expressions later : List Expression) :
    allSubexpressions (expressions ++ later) =
      allSubexpressions expressions ++ allSubexpressions later := by
  induction expressions with
  | nil => rfl
  | cons expression rest ih =>
      simp only [List.cons_append, allSubexpressions, ih, List.append_assoc]

theorem Expression.callsMadeBy_of_readLogged [PatternEngine] {texts : List String}
    {expressions : List Expression}
    (h : (readLogged functions resolution texts).result = .ok expressions) :
    CallsMadeBy functions expressions := by
  induction texts generalizing expressions with
  | nil =>
      obtain rfl : [] = expressions := Except.ok.inj h
      exact fun _ hmem => nomatch hmem
  | cons text texts ih =>
      rw [readLogged] at h
      split at h
      · cases h
      · next first hread =>
          obtain ⟨_, hfirst, hrest⟩ := Logged.bind_eq_ok_iff.1 h
          obtain ⟨rest, hlater, hall⟩ := Logged.bind_eq_ok_iff.1 hrest
          obtain rfl := Except.ok.inj hfirst
          obtain rfl : first ++ rest = expressions := Except.ok.inj hall
          rw [CallsMadeBy, allSubexpressions_append, List.forall_mem_append]
          exact ⟨(reads_of_readList hread).callsMadeBy, ih hlater⟩

/-- What takes place at the steps of an evaluation are effects of its expressions. -/
theorem CallsMadeBy.effect_of_mem {σ : Type} [Subject σ] {expressions : List Expression}
    (h : CallsMadeBy functions expressions) {subject : σ} {step : Step}
    (hstep : step ∈ (evaluate expressions subject).steps) : step.effect.MadeBy functions := by
  rw [evaluate_eq_evaluateFrom, evaluateFrom, Run.steps_finish] at hstep
  cases step with
  | matched level expression value result =>
      have hmade := h expression (mem_allSubexpressions_of_step hstep rfl)
      cases expression with
      | leaf rule effect => exact hmade
      | block rule children => trivial
  | unmatched level expression value => trivial
  | noCanvas call => trivial

/-- The calls that an evaluation brings about are calls of its expressions. -/
theorem CallsMadeBy.of_mem_canvasCalls {σ : Type} [Subject σ] {expressions : List Expression}
    (h : CallsMadeBy functions expressions) {subject : σ} {call : Call CanvasAction}
    (hcall : call ∈ canvasCalls (evaluate expressions subject).steps) :
    functions.canvas.Makes call := by
  obtain ⟨step, hstep, heffect⟩ := List.mem_filterMap.1 hcall
  have hmade := h.effect_of_mem hstep
  cases hmatched : step.effect with
  | canvas made =>
      rw [hmatched] at heffect hmade
      obtain rfl : made = call := Option.some.inj heffect
      exact hmade
  | none => rw [hmatched] at heffect; cases heffect
  | histogram _ => rw [hmatched] at heffect; cases heffect

end

/-- Evaluated on a group with the default canvas, expressions set the canvas up by their calls. -/
theorem GroupCanvas.setUpBy_evaluate {expressions : List Expression}
    (h : CallsMadeBy .builtin expressions) {group : GroupCanvas} (hcanvas : group.canvas = {}) :
    (evaluate expressions group).subject.canvas.SetUpBy
      (canvasCalls (evaluate expressions group).steps) := by
  rw [group.canvas_evaluate expressions, hcanvas]
  exact Canvas.setUpBy_called fun call hcall => h.of_mem_canvasCalls hcall

/-- Canvas expressions of a plan call the functions that come with the program. -/
theorem GroupRequest.callsMadeBy_of_plan [PatternEngine] {request : GroupRequest}
    {configuration : Configuration} {plan : GroupPlan}
    (h : (request.plan configuration).result = .ok plan) :
    CallsMadeBy .builtin plan.canvasExprs := by
  simp only [GroupRequest.plan, Logged.bind_eq_ok_iff, Logged.result_pure, Except.ok.injEq] at h
  obtain ⟨_, -, canvasExprs, hread, _, -, rfl⟩ := h
  exact Expression.callsMadeBy_of_readLogged hread

theorem GroupPlan.canvas_of_shown? {plan : GroupPlan} {group : String × List Histogram}
    {shown : GroupCanvas} (h : plan.shown? group = some shown) :
    shown.canvas = (evaluate plan.canvasExprs (canvasOf group)).subject.canvas := by
  obtain ⟨⟨name, edited⟩, haccepted, rfl⟩ := Option.map_eq_some_iff.1 h
  obtain ⟨-, rfl⟩ := Evaluation.accepted?_eq_some_iff.1 haccepted
  rfl

/-- Every canvas that can be reached is in order. Calls of functions on canvases, when they were
made, set up the default canvas so that its margins lie in their interval, the third axis has
neither ticks nor a grid, and each setting is as the last call that sets it says. So do the calls
that an evaluation of expressions brings about on a group, however it comes out, since all calls of
expressions that are read were made; and so does every canvas that a run of grouping shows. -/
theorem Canvas.setUpBy_of_calls [PatternEngine] [DocumentReader] [ConfigurationReader] :
    (∀ calls : List (Call CanvasAction), (∀ call ∈ calls, Functions.builtin.canvas.Makes call) →
      (({} : Canvas).called calls).SetUpBy calls) ∧
    (∀ resolution texts expressions,
      (Expression.readLogged .builtin resolution texts).result = .ok expressions →
        CallsMadeBy .builtin expressions) ∧
    (∀ expressions, CallsMadeBy .builtin expressions → ∀ group : GroupCanvas, group.canvas = {} →
      let evaluation := evaluate expressions group
      evaluation.subject.canvas.SetUpBy (canvasCalls evaluation.steps)) ∧
    ∀ (request : GroupRequest) (surroundings : Surroundings) (response : GroupResponse),
      (request.respond surroundings).result = .ok response →
      ∃ configuration plan, (request.configuration surroundings).result = .ok configuration ∧
        (request.plan configuration).result = .ok plan ∧
        ∀ shown ∈ response.groups, ∃ group, plan.shown? group = some shown ∧
          let evaluation := evaluate plan.canvasExprs (canvasOf group)
          shown.canvas.SetUpBy (canvasCalls evaluation.steps) := by
  refine ⟨fun calls hmade => setUpBy_called hmade,
    fun resolution texts expressions hread => Expression.callsMadeBy_of_readLogged hread,
    fun expressions hmade group hcanvas => GroupCanvas.setUpBy_evaluate hmade hcanvas, ?_⟩
  intro request surroundings response h
  simp only [GroupRequest.respond, Logged.bind_eq_ok_iff] at h
  obtain ⟨configuration, hconfiguration, plan, hplan, hrun⟩ := h
  obtain ⟨collection, -, -, hgroups, -⟩ := GroupPlan.run_eq_ok_iff.1 hrun
  refine ⟨configuration, plan, hconfiguration, hplan, fun shown hshown => ?_⟩
  rw [hgroups] at hshown
  obtain ⟨group, -, hgroup⟩ := List.mem_filterMap.1 hshown
  refine ⟨group, hgroup, ?_⟩
  rw [GroupPlan.canvas_of_shown? hgroup]
  exact GroupCanvas.setUpBy_evaluate (GroupRequest.callsMadeBy_of_plan hplan) rfl

/-- Margins of which one is left out, and logarithmic axes of which one is turned off again. -/
theorem Canvas.setUpBy_switches :
    ∃ (calls : List (Call CanvasAction)) (canvas : Canvas),
      calls.map (fun call => (call.name, call.args)) =
        [("margin", "0.2,,0.05"), ("log", "XZ"), ("log", "x, off")] ∧
      canvas = ({} : Canvas).called calls ∧ canvas.Valid ∧ canvas.margins.right = 0.1 ∧
      canvas.log = { z := true } := by
  obtain ⟨margin, hmargin⟩ :
      ∃ action, Functions.builtin.canvas.Makes ⟨"margin", "0.2,,0.05", action⟩ :=
    Registry.exists_makes (by decide +kernel)
  obtain ⟨on, hon⟩ : ∃ action, Functions.builtin.canvas.Makes ⟨"log", "XZ", action⟩ :=
    Registry.exists_makes (by decide +kernel)
  obtain ⟨off, hoff⟩ : ∃ action, Functions.builtin.canvas.Makes ⟨"log", "x, off", action⟩ :=
    Registry.exists_makes (by decide +kernel)
  obtain ⟨calls, hcalls⟩ : ∃ calls : List (Call CanvasAction),
      calls = [⟨"margin", "0.2,,0.05", margin⟩, ⟨"log", "XZ", on⟩, ⟨"log", "x, off", off⟩] :=
    ⟨_, rfl⟩
  have hmakes : ∀ call ∈ calls, Functions.builtin.canvas.Makes call := by
    simpa [hcalls] using ⟨hmargin, hon, hoff⟩
  have hset := setUpBy_of_calls.1 calls hmakes
  have hon : ∀ axis : Axis, axis.isNamedIn "XZ" = decide (axis ≠ .y) := by
    intro axis
    cases axis <;> decide +kernel
  have hoff : ∀ axis : Axis, axis.isNamedIn "x, off" = decide (axis = .x) := by
    intro axis
    cases axis <;> decide +kernel
  refine ⟨calls, ({} : Canvas).called calls, by rw [hcalls]; rfl, rfl, hset.valid, ?_,
    AxisSwitches.ext_get fun axis => ?_⟩
  · have hlast : (calls.filter Setting.margins.isSetBy).getLast? =
        some ⟨"margin", "0.2,,0.05", margin⟩ := by rw [hcalls]; rfl
    have htoken : (Argument.tokens ',' "0.2,,0.05")[1]? = some "" := by decide +kernel
    have hgives := hset.settings .margins
    rw [hlast] at hgives
    have hright := hgives.2.1
    rw [htoken] at hright
    exact (Except.ok.inj hright).symm
  · have hgives := hset.settings (.log axis)
    cases axis with
    | x =>
        have hlast : (calls.filter (Setting.log .x).isSetBy).getLast? =
            some ⟨"log", "x, off", off⟩ := by simp [hcalls, Setting.isSetBy, hon, hoff]
        have htoken : (Argument.tokens ',' "x, off")[1]? = some "off" := by decide +kernel
        have hread : ArgType.bool.receive true (some "off") = .ok false := rfl
        rw [hlast] at hgives
        have hswitch : ArgType.bool.receive true (Argument.tokens ',' "x, off")[1]? = .ok _ :=
          hgives
        rw [htoken] at hswitch
        exact (Except.ok.inj (hread.symm.trans hswitch)).symm
    | y =>
        have hlast : (calls.filter (Setting.log .y).isSetBy).getLast? = none := by
          simp [hcalls, Setting.isSetBy, hon, hoff]
        rw [hlast] at hgives
        exact hgives
    | z =>
        have hlast : (calls.filter (Setting.log .z).isSetBy).getLast? =
            some ⟨"log", "XZ", on⟩ := by simp [hcalls, Setting.isSetBy, hon, hoff]
        have htoken : (Argument.tokens ',' "XZ")[1]? = none := by decide +kernel
        rw [hlast] at hgives
        have hswitch : ArgType.bool.receive true (Argument.tokens ',' "XZ")[1]? = .ok _ := hgives
        rw [htoken] at hswitch
        exact (Except.ok.inj hswitch).symm

end HistEdit
