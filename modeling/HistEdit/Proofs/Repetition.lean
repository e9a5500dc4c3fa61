import HistEdit.Proofs.Directives
import HistEdit.Proofs.GroupTests
import HistEdit.Proofs.Twins

/-!
Evaluating twice in a row. Before anything is written back, a run changes a subject by its effects
only, which cannot be seen from the versions; so the same expressions run once more from there in
the very same way, and their effects change nothing further. An evaluation that writes nothing back
is therefore repeated exactly, whether it accepts, rejects or fails.
-/

namespace HistEdit

/-- Subjects of one kind either all have a canvas to act on, or none has. -/
def Subject.CanvasAlike (σ : Type) [Subject σ] : Prop :=
  ∀ action (s t : σ), Subject.onCanvas? action s = none → Subject.onCanvas? action t = none

theorem Histogram.canvasAlike : Subject.CanvasAlike Histogram :=
  fun _ _ _ _ => rfl

theorem GroupCanvas.canvasAlike : Subject.CanvasAlike GroupCanvas := by
  intro action s t h
  exact absurd h (Option.some_ne_none _)

section

variable {σ ν : Type} [Subject σ] {view : σ → ν}

theorem Effect.steps_perform_alike (hcanvas : Subject.CanvasAlike σ) (effect : Effect)
    (state other : State σ) : (effect.perform state).steps = (effect.perform other).steps := by
  cases effect with
  | none => rfl
  | histogram call => rfl
  | canvas call =>
      simp only [perform]
      cases hleft : Subject.onCanvas? call.action state.subject with
      | none => rw [hcanvas call.action state.subject other.subject hleft]
      | some changed =>
          cases hright : Subject.onCanvas? call.action other.subject with
          | none =>
              have hnone := hcanvas call.action other.subject state.subject hright
              exact absurd (hleft.symm.trans hnone) (Option.some_ne_none _)
          | some changed' => rfl

/-- The same expressions run alike from states that look the same, and report the same. -/
theorem Run.alike_twinLaw (hview : Subject.IsMetadata view) (hcanvas : Subject.CanvasAlike σ) :
    Run.TwinLaw (fun _ => True) (State.Alike view)
      (fun run other => run.Alike view other ∧ run.steps = other.steps) where
  idle h := ⟨⟨h, rfl⟩, rfl⟩
  andThen := by
    intro run other next next' ⟨halike, hsteps⟩ hnext
    refine ⟨halike.andThen fun state other h => (hnext h).1, ?_⟩
    obtain ⟨hstate, hstop⟩ := halike
    cases hcase : run.stop with
    | some stop => rw [andThen_of_stop hcase, andThen_of_stop (hstop.symm.trans hcase), hsteps]
    | none =>
        rw [andThen_of_none hcase, andThen_of_none (hstop.symm.trans hcase), hsteps,
          (hnext hstate).2]
  attempt := by
    intro expression _ level state other h
    obtain ⟨history, subject⟩ := state
    obtain ⟨history', subject'⟩ := other
    obtain ⟨hhistory, hsubject⟩ := h
    simp only at hhistory hsubject
    subst hhistory
    have hnative : Subject.native subject' = Subject.native subject :=
      (hview.native hsubject).symm
    simp only [Expression.attempt, State.prior, hnative]
    cases history.read (Subject.native subject) expression.rule.flags.source
        expression.rule.flags.fromIndex.toInt with
    | mk touched value =>
        cases value with
        | error error => exact ⟨⟨⟨⟨rfl, hsubject⟩, rfl⟩, rfl⟩, fun _ _ => rfl⟩
        | ok value =>
            simp only
            cases expression.rule.apply value with
            | none => exact ⟨⟨⟨⟨rfl, hsubject⟩, rfl⟩, rfl⟩, fun _ _ => rfl⟩
            | some rewritten => exact ⟨⟨⟨⟨rfl, hsubject⟩, rfl⟩, rfl⟩, fun _ _ => rfl⟩
  perform := by
    intro effect state other h
    obtain ⟨hstate, hstop⟩ := effect.perform_alike hview h
    obtain ⟨hstate', hstop'⟩ := effect.perform_alike hview (⟨rfl, rfl⟩ : other.Alike view other)
    refine ⟨⟨⟨?_, ?_⟩, ?_⟩, effect.steps_perform_alike hcanvas state other⟩
    · exact hstate.1.trans hstate'.1.symm
    · exact hstate.2.trans hstate'.2.symm
    · exact hstop.trans hstop'.symm

/-- A run changes its subject, before anything is written back, in a way that the same run does not
notice: from what it has left, it is the same again. -/
theorem runAll_again (hview : Subject.IsMetadata view) (hcanvas : Subject.CanvasAlike σ)
    (hact : ∀ steps (subject : σ), actAll steps (actAll steps subject) = actAll steps subject)
    (expressions : List Expression) (subject : σ) :
    runAll 0 { subject := (runAll 0 { subject } expressions).state.subject } expressions =
      runAll 0 { subject } expressions := by
  have hacted := subject_runAll expressions 0 { subject }
  have hleft : view (runAll 0 { subject } expressions).state.subject = view subject :=
    ((Run.operates_law hview).runAll expressions 0 { subject }).1
  generalize hrun : runAll 0 { subject } expressions = run at hacted hleft ⊢
  have hstart : (State.mk {} run.state.subject).Alike view (State.mk {} subject) := ⟨rfl, hleft⟩
  obtain ⟨⟨⟨hhistory, -⟩, hstop⟩, hsteps⟩ := (Run.alike_twinLaw hview hcanvas).runAll expressions
    (fun _ _ => trivial) 0 hstart
  have hagain := subject_runAll expressions 0 { subject := run.state.subject }
  rw [hrun] at hhistory hstop hsteps
  generalize runAll 0 { subject := run.state.subject } expressions = again at *
  -- the effects are the same ones, on what they have made already
  have hsubject : again.state.subject = run.state.subject := by
    calc again.state.subject
        = actAll run.steps run.state.subject := by rw [hagain, hsteps]
      _ = actAll run.steps (actAll run.steps subject) := congrArg _ hacted
      _ = run.state.subject := (hact run.steps subject).trans hacted.symm
  obtain ⟨steps, ⟨history, left⟩, stop⟩ := again
  obtain ⟨steps', ⟨history', left'⟩, stop'⟩ := run
  simp only at hhistory hstop hsteps hsubject
  rw [hhistory, hstop, hsteps, hsubject]

/-- A field to which no expression leads is not written. -/
theorem written?_runAll_eq_none (hview : Subject.IsMetadata view) {expressions : List Expression}
    {field : Field}
    (h : ∀ expression ∈ allSubexpressions expressions, expression.rule.flags.target ≠ field)
    (subject : σ) : (runAll 0 { subject } expressions).state.history.written? field = none := by
  rw [History.written?_eq, tail_versions_runAll hview, List.getLast?_eq_none_iff]
  apply writes_runAll_eq_nil
  intro expression hmem htarget
  exact absurd htarget (h expression hmem)

theorem State.writeBack_eq_subject {state : State σ}
    (h : ∀ field ∈ writableFields, state.history.written? field = none) :
    state.writeBack = state.subject := by
  unfold writeBack
  generalize writableFields = fields at h ⊢
  induction fields with
  | nil => rfl
  | cons field fields ih =>
      rw [List.forall_mem_cons] at h
      rw [List.foldl_cons, h.1]
      exact ih h.2

theorem Run.subject_finish_of_stop {run : Run σ} {stop : Stop} (h : run.stop = some stop) :
    run.finish.subject = run.state.subject := by
  cases stop <;> simp [finish, h]

/-- An evaluation that writes nothing back is the same from what it has left. -/
theorem evaluate_subject_evaluate (hview : Subject.IsMetadata view)
    (hcanvas : Subject.CanvasAlike σ)
    (hact : ∀ steps (subject : σ), actAll steps (actAll steps subject) = actAll steps subject)
    {expressions : List Expression} {subject : σ}
    (h : (evaluate expressions subject).subject =
      (runAll 0 { subject } expressions).state.subject) :
    evaluate expressions (evaluate expressions subject).subject =
      evaluate expressions subject := by
  rw [h, evaluate_eq_evaluateFrom, evaluate_eq_evaluateFrom]
  exact congrArg Run.finish (runAll_again hview hcanvas hact expressions subject)

theorem subject_evaluate_of_unwritten (hview : Subject.IsMetadata view)
    {expressions : List Expression}
    (h : ∀ expression ∈ allSubexpressions expressions,
      expression.rule.flags.target ∉ writableFields) (subject : σ) :
    (evaluate expressions subject).subject =
      (runAll 0 { subject } expressions).state.subject := by
  have hwritten : ∀ field ∈ writableFields,
      (runAll 0 { subject } expressions).state.history.written? field = none := by
    intro field hfield
    apply written?_runAll_eq_none hview
    intro expression hmem htarget
    exact h expression hmem (htarget ▸ hfield)
  change (runAll 0 { subject } expressions).finish.subject = _
  cases hstop : (runAll 0 { subject } expressions).stop with
  | some stop => exact Run.subject_finish_of_stop hstop
  | none =>
      rw [← State.writeBack_eq_subject hwritten]
      simp only [Run.finish, hstop]

end

/-- Where no expression leads to a field that is written back, evaluating is idempotent: evaluating
the same expressions once more on what the first evaluation has left reports the same steps, comes
out the same and leaves the same, styles and canvas included, also when the subject is rejected or
a version is missing. -/
theorem evaluate_again_of_unwritten {expressions : List Expression}
    (h : ∀ expression ∈ allSubexpressions expressions,
      expression.rule.flags.target ∉ writableFields) :
    (∀ histogram : Histogram,
      evaluate expressions (evaluate expressions histogram).subject =
        evaluate expressions histogram) ∧
    (∀ group : GroupCanvas,
      evaluate expressions (evaluate expressions group).subject =
        evaluate expressions group) := by
  constructor
  · intro histogram
    have hleft := subject_evaluate_of_unwritten Histogram.isMetadata h histogram
    exact evaluate_subject_evaluate Histogram.isMetadata Histogram.canvasAlike
      actAll_actAll_histogram hleft
  · intro group
    have hleft := subject_evaluate_of_unwritten GroupCanvas.isMetadata h group
    exact evaluate_subject_evaluate GroupCanvas.isMetadata GroupCanvas.canvasAlike
      actAll_actAll_group hleft

/-- A rename whose block colors and sets up the canvas before a missing version ends the run. -/
theorem evaluate_again_of_unwritten_failed :
    ∃ (expressions : List Expression) (group : GroupCanvas),
      expressions.map Expression.text =
        ["n//pt/ \x7b g color 2; g line_color 3; g log y; g3 \x7d"] ∧
      (∀ expression ∈ allSubexpressions expressions,
        expression.rule.flags.target ∉ writableFields) ∧
      group.histograms.map Histogram.name = ["a", "b"] ∧
      (evaluate expressions group).subject.histograms.map (fun h => h.style.lineColor) =
        [some 3, some 3] ∧
      (∃ error, (evaluate expressions group).outcome = .failed error) ∧
      evaluate expressions (evaluate expressions group).subject = evaluate expressions group := by
  have hunwritten : ∀ expression ∈ allSubexpressions
      [.block ⟨{ source := .name, target := .name }, none, some "pt"⟩
        [.leaf ⟨{}, none, none⟩ (.histogram ⟨"color", "2", .color 2⟩),
          .leaf ⟨{}, none, none⟩ (.histogram ⟨"line_color", "3", .lineColor 3⟩),
          .leaf ⟨{}, none, none⟩ (.canvas ⟨"log", "y", .log [.y] true⟩),
          .leaf ⟨{ fromIndex := 3 }, none, none⟩ .none]],
      expression.rule.flags.target ∉ writableFields := by
    simp [allSubexpressions, Expression.subexpressions, Expression.rule, writableFields]
  have hagain := (evaluate_again_of_unwritten hunwritten).2
    ⟨"k", {}, [{ name := "a" }, { name := "b" }]⟩
  exact ⟨_, _, by decide, hunwritten, rfl, rfl, ⟨_, rfl⟩, hagain⟩

end HistEdit
