import HistEdit.Proofs.GroupRun
import HistEdit.Proofs.Settlement

/-!
What an evaluation changes of a canvas and its group. Effects reach the canvas and the styles of
all histograms alike, in the order in which the steps report the matches that they belong to. The
metadata of a group is written at one place only, its first histogram, and only when the group is
accepted.
-/

namespace HistEdit

def Effect.histogramAction? : Effect → Option HistogramAction
  | .histogram call => some call.action
  | .none | .canvas _ => Option.none

def Effect.canvasAction? : Effect → Option CanvasAction
  | .canvas call => some call.action
  | .none | .histogram _ => Option.none

/-- The actions on histograms that the matches among some steps bring about, in order. -/
def histogramActions (steps : List Step) : List HistogramAction :=
  steps.filterMap fun step => step.effect.histogramAction?

/-- The actions on canvases that the matches among some steps bring about, in order. -/
def canvasActions (steps : List Step) : List CanvasAction :=
  steps.filterMap fun step => step.effect.canvasAction?

def Style.actedOn (style : Style) (actions : List HistogramAction) : Style :=
  actions.foldl HistogramAction.onStyle style

def Canvas.actedOn (canvas : Canvas) (actions : List CanvasAction) : Canvas :=
  actions.foldl (fun canvas action => action.apply canvas) canvas

def GroupCanvas.actedOn (group : GroupCanvas) (onHistograms : List HistogramAction)
    (onCanvas : List CanvasAction) : GroupCanvas where
  key := group.key
  canvas := group.canvas.actedOn onCanvas
  histograms := group.histograms.map fun h => { h with style := h.style.actedOn onHistograms }

theorem GroupCanvas.actedOn_nil (group : GroupCanvas) : group.actedOn [] [] = group := by
  simp [actedOn, Style.actedOn, Canvas.actedOn]

theorem GroupCanvas.actedOn_actedOn (group : GroupCanvas) (onHistograms onHistograms' onCanvas
    onCanvas') :
    (group.actedOn onHistograms onCanvas).actedOn onHistograms' onCanvas' =
      group.actedOn (onHistograms ++ onHistograms') (onCanvas ++ onCanvas') := by
  simp [actedOn, Style.actedOn, Canvas.actedOn]

/-- One effect acts on every histogram of a group or on its canvas. -/
theorem Effect.act_group (effect : Effect) (group : GroupCanvas) :
    effect.act group =
      group.actedOn effect.histogramAction?.toList effect.canvasAction?.toList := by
  cases effect with
  | none => exact group.actedOn_nil.symm
  | histogram call => rfl
  | canvas call =>
      simp [act, Subject.onCanvas?, GroupCanvas.onCanvas, GroupCanvas.actedOn, Canvas.actedOn,
        Style.actedOn, histogramAction?, canvasAction?]

theorem histogramActions_cons (step : Step) (steps : List Step) :
    histogramActions (step :: steps) =
      step.effect.histogramAction?.toList ++ histogramActions steps := by
  simp only [histogramActions, List.filterMap_cons]
  cases step.effect.histogramAction? <;> rfl

theorem canvasActions_cons (step : Step) (steps : List Step) :
    canvasActions (step :: steps) =
      step.effect.canvasAction?.toList ++ canvasActions steps := by
  simp only [canvasActions, List.filterMap_cons]
  cases step.effect.canvasAction? <;> rfl

/-- The effects of some steps act on a group as the actions that they bring about. -/
theorem actAll_group (steps : List Step) (group : GroupCanvas) :
    actAll steps group = group.actedOn (histogramActions steps) (canvasActions steps) := by
  induction steps generalizing group with
  | nil => exact group.actedOn_nil.symm
  | cons step steps ih =>
      calc actAll (step :: steps) group
          = actAll steps (step.effect.act group) := rfl
        _ = (step.effect.act group).actedOn (histogramActions steps) (canvasActions steps) :=
            ih _
        _ = group.actedOn (histogramActions (step :: steps)) (canvasActions (step :: steps)) := by
            rw [Effect.act_group, GroupCanvas.actedOn_actedOn, histogramActions_cons,
              canvasActions_cons]

/-- Writing back keeps the styles of all histograms and everything but the first of them. -/
theorem GroupCanvas.exists_writeBack (state : State GroupCanvas) :
    ∃ histograms, state.writeBack = { state.subject with histograms } ∧
      histograms.map Histogram.style = state.subject.histograms.map Histogram.style ∧
      histograms.tail = state.subject.histograms.tail := by
  obtain ⟨history, key, canvas, histograms⟩ := state
  cases histograms with
  | nil =>
      refine ⟨[], ?_, rfl, rfl⟩
      unfold State.writeBack
      induction writableFields with
      | nil => rfl
      | cons field fields ih =>
          rw [List.foldl_cons]
          cases history.written? field <;> exact ih
  | cons lead rest =>
      refine ⟨State.writeBack ⟨history, lead⟩ :: rest, State.writeBack_group .., ?_, rfl⟩
      simp [State.writeBack_histogram]

/-- However a run of a group is finished, it keeps the styles of all histograms and everything but
the first of them, and the first one too unless the group is accepted. -/
theorem GroupCanvas.exists_finish (run : Run GroupCanvas) :
    ∃ histograms, run.finish.subject = { run.state.subject with histograms } ∧
      histograms.map Histogram.style = run.state.subject.histograms.map Histogram.style ∧
      histograms.tail = run.state.subject.histograms.tail ∧
      ((∀ name, run.finish.outcome ≠ .accepted name) →
        histograms = run.state.subject.histograms) := by
  cases hstop : run.stop with
  | none =>
      obtain ⟨histograms, hwritten, hstyles, htail⟩ := exists_writeBack run.state
      have hleft : run.finish.subject = run.state.writeBack := by simp [Run.finish, hstop]
      have haccepted : run.finish.outcome = .accepted run.state.group := by
        simp [Run.finish, hstop]
      exact ⟨histograms, hleft.trans hwritten, hstyles, htail,
        fun hrejected => absurd haccepted (hrejected _)⟩
  | some stop =>
      -- a run that was stopped leaves its subject as the effects have made it
      have hleft : run.finish.subject = run.state.subject := by
        cases stop <;> simp [Run.finish, hstop]
      exact ⟨run.state.subject.histograms, hleft, rfl, rfl, fun _ => rfl⟩

/-- What an evaluation leaves of a group. The key, the number and the order of the histograms, and
what tells each of them apart, stay. The canvas and every style are what one sequence of actions
makes of them, that of the matches in the order of the steps. The titles and the legend change in
the first histogram only, and there only when the group is accepted. -/
structure GroupCanvas.Kept (group : GroupCanvas) (evaluation : Evaluation GroupCanvas) : Prop where
  key : evaluation.subject.key = group.key
  length : evaluation.subject.histograms.length = group.histograms.length
  identities : evaluation.subject.identities = group.identities
  canvas : evaluation.subject.canvas = group.canvas.actedOn (canvasActions evaluation.steps)
  styles : evaluation.subject.histograms.map Histogram.style =
    group.histograms.map fun h => h.style.actedOn (histogramActions evaluation.steps)
  others : evaluation.subject.histograms.tail.map Histogram.metadata =
    group.histograms.tail.map Histogram.metadata
  first : (∀ name, evaluation.outcome ≠ .accepted name) →
    evaluation.subject.histograms.map Histogram.metadata =
      group.histograms.map Histogram.metadata

/-- Whatever comes out of it, the evaluation of expressions on a canvas stays within its group. -/
theorem evaluate_kept (expressions : List Expression) (group : GroupCanvas) :
    group.Kept (evaluate expressions group) := by
  let run := runAll 0 { subject := group } expressions
  have hfinish : evaluate expressions group = run.finish :=
    evaluate_eq_evaluateFrom expressions group
  have hsteps : run.finish.steps = run.steps := Run.steps_finish run
  have hidentities : run.finish.subject.identities = group.identities :=
    hfinish ▸ GroupCanvas.identities_evaluate expressions group
  have hlength : run.finish.subject.histograms.length = group.histograms.length := by
    simpa [GroupCanvas.identities] using congrArg List.length hidentities
  have hacted : run.state.subject =
      group.actedOn (histogramActions run.steps) (canvasActions run.steps) :=
    (subject_runAll expressions 0 { subject := group }).trans (actAll_group run.steps group)
  have hmetadata : run.state.subject.histograms.map Histogram.metadata =
      group.histograms.map Histogram.metadata := by
    rw [hacted]
    simp [GroupCanvas.actedOn, Histogram.metadata]
  obtain ⟨histograms, hleft, hstyles, htail, hfirst⟩ := GroupCanvas.exists_finish run
  rw [hfinish]
  refine ⟨?_, hlength, hidentities, ?_, ?_, ?_, fun hrejected => ?_⟩
  · rw [hleft, hacted]
    rfl
  · rw [hleft, hacted, hsteps]
    rfl
  · rw [hleft, hsteps, hstyles, hacted]
    simp [GroupCanvas.actedOn]
  · rw [hleft, htail, List.map_tail, hmetadata, List.map_tail]
  · rw [hleft, hfirst hrejected, hmetadata]

/-- The styles that were set stay set when a later expression fails. -/
example :
    let painted : Expression :=
      .leaf ⟨{}, none, none⟩ (.histogram ⟨"line_color", "2", .lineColor 2⟩)
    let missing : Expression := .leaf ⟨{ fromIndex := 3 }, none, none⟩ .none
    let group : GroupCanvas := ⟨"k", {}, [{ name := "a" }, { name := "b" }]⟩
    let evaluation := evaluate [painted, missing] group
    (∃ error, evaluation.outcome = .failed error) ∧
      evaluation.subject.histograms.map (fun h => h.style.lineColor) = [some 2, some 2] :=
  ⟨⟨_, rfl⟩, rfl⟩

end HistEdit
