import HistEdit.Proofs.Run

/-!
What an evaluation leaves of a histogram. The name, path and origin are never written. The titles
and the legend change only when the histogram is accepted, and then each of them holds the last
version that the run wrote to it.
-/

namespace HistEdit

/-- Histograms with the same metadata differ in their styles only. -/
theorem Histogram.exists_style_of_metadata {h other : Histogram}
    (hsame : h.metadata = other.metadata) : ∃ style, h = { other with style } := by
  obtain ⟨name, title, xTitle, yTitle, zTitle, legend, path, origin, style⟩ := h
  simp only [metadata, Histogram.mk.injEq] at hsame
  obtain ⟨rfl, rfl, rfl, rfl, rfl, rfl, rfl, rfl, -⟩ := hsame
  exact ⟨style, rfl⟩

theorem State.writeBack_histogram (state : State Histogram) :
    state.writeBack =
      { state.subject with
        title := (state.history.written? .title).getD state.subject.title
        xTitle := (state.history.written? .xLabel).getD state.subject.xTitle
        yTitle := (state.history.written? .yLabel).getD state.subject.yTitle
        zTitle := (state.history.written? .zLabel).getD state.subject.zTitle
        legend := (state.history.written? .legend).or state.subject.legend } := by
  simp only [writeBack, writableFields, List.foldl_cons, List.foldl_nil]
  cases state.history.written? .title <;> cases state.history.written? .xLabel <;>
    cases state.history.written? .yLabel <;> cases state.history.written? .zLabel <;>
    cases state.history.written? .legend <;> rfl

/-- Behind version 0, the versions of an evaluation are the writes that it reports. -/
theorem tail_versions_runAll {σ ν : Type} [Subject σ] {view : σ → ν}
    (hview : Subject.IsMetadata view) (expressions : List Expression) (subject : σ)
    (field : Field) :
    ((runAll 0 { subject } expressions).state.history.versions field).tail =
      writes field (runAll 0 { subject } expressions).steps := by
  obtain ⟨-, operations, hhistory, hpushes⟩ :=
    (Run.operates_law hview).runAll expressions 0 { subject }
  rw [hhistory, History.tail_versions_operate, hpushes]
  rfl

/-- Writing back is all or nothing. The versions of a run behind version 0 are the writes that its
steps report. An evaluation never changes name, path and origin. When it accepts, each writable
field holds the last version written to it, or is as before when there is none; otherwise all of
them are as before. -/
theorem evaluate_allOrNothing (expressions : List Expression) (histogram : Histogram) :
    let run := runAll 0 { subject := histogram } expressions
    let evaluation := evaluate expressions histogram
    let left := evaluation.subject
    let last (field : Field) := (writes field evaluation.steps).getLast?
    (∀ field, (run.state.history.versions field).tail = writes field evaluation.steps) ∧
    left.name = histogram.name ∧ left.path = histogram.path ∧ left.origin = histogram.origin ∧
    match evaluation.outcome with
    | .accepted _ =>
      left.title = (last .title).getD histogram.title ∧
        left.xTitle = (last .xLabel).getD histogram.xTitle ∧
        left.yTitle = (last .yLabel).getD histogram.yTitle ∧
        left.zTitle = (last .zLabel).getD histogram.zTitle ∧
        left.legend = (last .legend).or histogram.legend
    | .rejected | .failed _ =>
      left.title = histogram.title ∧ left.xTitle = histogram.xTitle ∧
        left.yTitle = histogram.yTitle ∧ left.zTitle = histogram.zTitle ∧
        left.legend = histogram.legend := by
  intro run evaluation left last
  have htail := tail_versions_runAll Histogram.isMetadata expressions histogram
  have hsame : run.state.subject.metadata = histogram.metadata :=
    ((Run.operates_law Histogram.isMetadata).runAll expressions 0 { subject := histogram }).1
  obtain ⟨style, hsubject⟩ := Histogram.exists_style_of_metadata hsame
  have hsteps : evaluation.steps = run.steps := Run.steps_finish run
  have hlast (field : Field) : run.state.history.written? field = last field := by
    rw [History.written?_eq, htail, ← hsteps]
  refine ⟨fun field => hsteps ▸ htail field, ?_⟩
  have hfinish : evaluation = run.finish := evaluate_eq_evaluateFrom expressions histogram
  cases hstop : run.stop with
  | none =>
      have hleft : left = run.state.writeBack := by simp [left, hfinish, Run.finish, hstop]
      have houtcome : evaluation.outcome = .accepted run.state.group := by
        simp [hfinish, Run.finish, hstop]
      rw [houtcome, hleft, State.writeBack_histogram, hsubject]
      simp only [hlast, and_self]
  | some stop =>
      -- a run that was stopped leaves its subject without writing back
      have hleft : left = { histogram with style } := by
        cases stop <;> simp [left, hfinish, Run.finish, hstop, hsubject]
      have houtcome : evaluation.outcome = .rejected ∨
          ∃ error, evaluation.outcome = .failed error := by
        cases stop <;> simp [hfinish, Run.finish, hstop]
      rcases houtcome with houtcome | ⟨error, houtcome⟩ <;> simp only [houtcome, hleft, and_self]

end HistEdit
