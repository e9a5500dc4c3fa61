import HistEdit.Evaluation

/-!
Effects, styles and the print flag have no part in matching. What an evaluation reads of its
subject is metadata, and no action changes metadata; so two evaluations of the same tree that
differ only in their effects go through the same versions, stop at the same place and leave the
same metadata.
-/

namespace HistEdit

/-- A histogram without its style: name, titles, legend, path and origin. -/
def Histogram.metadata (h : Histogram) : Histogram :=
  { h with style := {} }

def GroupCanvas.metadata (group : GroupCanvas) : GroupCanvas where
  key := group.key
  canvas := {}
  histograms := group.histograms.map Histogram.metadata

/-- A rule without its print flag. -/
def Rule.bare (rule : Rule) : Rule :=
  { rule with flags := { rule.flags with print := false } }

mutual

/-- An expression without its effects and print flags, at every depth. -/
def Expression.bare : Expression → Expression
  | .leaf rule _ => .leaf rule.bare .none
  | .block rule children => .block rule.bare (bareAll children)

def bareAll : List Expression → List Expression
  | [] => []
  | expression :: rest => expression.bare :: bareAll rest

end

/-- A view of subjects that holds all that an evaluation reads and nothing that actions change. -/
structure Subject.IsMetadata {σ ν : Type} [Subject σ] (view : σ → ν) : Prop where
  native : ∀ {s t : σ}, view s = view t → Subject.native s = Subject.native t
  assign : ∀ {s t : σ}, view s = view t → ∀ field text,
    view (Subject.assign s field text) = view (Subject.assign t field text)
  onHistogram : ∀ action (s : σ), view (Subject.onHistogram action s) = view s
  onCanvas : ∀ action {s t : σ}, Subject.onCanvas? action s = some t → view t = view s

theorem Histogram.field_metadata (h : Histogram) : h.metadata.field = h.field := by
  funext field
  cases field <;> rfl

theorem Histogram.setField_metadata (h : Histogram) (field : Field) (text : String) :
    (h.setField field text).metadata = h.metadata.setField field text := by
  cases field <;> rfl

theorem Histogram.isMetadata : Subject.IsMetadata Histogram.metadata where
  native := by
    intro s t h
    change s.field = t.field
    rw [← field_metadata s, h, field_metadata]
  assign := by
    intro s t h field text
    change (s.setField field text).metadata = (t.setField field text).metadata
    rw [setField_metadata, h, setField_metadata]
  onHistogram := by
    intro action s
    rfl
  onCanvas := by
    intro action s t h
    simp [Subject.onCanvas?] at h

theorem GroupCanvas.native_metadata (group : GroupCanvas) :
    group.metadata.native = group.native := by
  funext field
  obtain ⟨key, canvas, histograms⟩ := group
  cases histograms with
  | nil => cases field <;> rfl
  | cons lead rest => cases field <;> rfl

theorem GroupCanvas.assign_metadata (group : GroupCanvas) (field : Field) (text : String) :
    (group.assign field text).metadata = group.metadata.assign field text := by
  obtain ⟨key, canvas, histograms⟩ := group
  cases histograms with
  | nil => rfl
  | cons lead rest => simp [assign, metadata, Histogram.setField_metadata]

theorem GroupCanvas.isMetadata : Subject.IsMetadata GroupCanvas.metadata where
  native := by
    intro s t h
    change s.native = t.native
    rw [← native_metadata s, h, native_metadata]
  assign := by
    intro s t h field text
    change (s.assign field text).metadata = (t.assign field text).metadata
    rw [assign_metadata, h, assign_metadata]
  onHistogram := by
    intro action s
    have hstyle : Histogram.metadata ∘ action.apply = Histogram.metadata := by
      funext h
      rfl
    simp [Subject.onHistogram, GroupCanvas.onHistogram, metadata, hstyle]
  onCanvas := by
    intro action s t h
    simp only [Subject.onCanvas?, Option.some.injEq] at h
    subst h
    rfl

section

variable {σ ν : Type} {view : σ → ν}

/-- Two states with the same versions and subjects that look the same. -/
def State.Alike (view : σ → ν) (state other : State σ) : Prop :=
  state.history = other.history ∧ view state.subject = view other.subject

/-- Two runs that stopped alike in states that look the same; what they reported may differ. -/
def Run.Alike (view : σ → ν) (run other : Run σ) : Prop :=
  run.state.Alike view other.state ∧ run.stop = other.stop

theorem Run.Alike.andThen {run other : Run σ} (h : run.Alike view other)
    {next next' : State σ → Run σ}
    (hnext : ∀ state state' : State σ, state.Alike view state' →
      (next state).Alike view (next' state')) :
    (run.andThen next).Alike view (other.andThen next') := by
  obtain ⟨hstate, hstop⟩ := h
  unfold Run.andThen
  rw [← hstop]
  cases hcase : run.stop with
  | some stop => exact ⟨hstate, hstop⟩
  | none => exact hnext run.state other.state hstate

variable [Subject σ]

/-- An action may change a subject, but nothing that is looked at. -/
theorem Effect.perform_alike (hview : Subject.IsMetadata view) (effect : Effect)
    {state other : State σ} (h : state.Alike view other) :
    (effect.perform state).Alike view { state := other } := by
  obtain ⟨hhistory, hsubject⟩ := h
  cases effect with
  | none => exact ⟨⟨hhistory, hsubject⟩, rfl⟩
  | histogram call =>
      exact ⟨⟨hhistory, (hview.onHistogram call.action state.subject).trans hsubject⟩, rfl⟩
  | canvas call =>
      simp only [Effect.perform]
      cases hcanvas : Subject.onCanvas? call.action state.subject with
      | none => exact ⟨⟨hhistory, hsubject⟩, rfl⟩
      | some changed =>
          have hchanged : view changed = view state.subject := hview.onCanvas call.action hcanvas
          exact ⟨⟨hhistory, hchanged.trans hsubject⟩, rfl⟩

/-- Matching reads the rule without its print flag, the versions, and the native texts. -/
theorem Expression.attempt_alike (hview : Subject.IsMetadata view) {expression bare : Expression}
    (hrule : bare.rule = expression.rule.bare) {state other : State σ}
    (h : state.Alike view other) (level : Nat) :
    (expression.attempt level state).1.Alike view (bare.attempt level other).1 ∧
      (expression.attempt level state).2 = (bare.attempt level other).2 := by
  obtain ⟨history, subject⟩ := state
  obtain ⟨history', subject'⟩ := other
  obtain ⟨hhistory, hsubject⟩ := h
  simp only at hhistory hsubject
  subst hhistory
  have hnative : Subject.native subject' = Subject.native subject := (hview.native hsubject).symm
  have hread : history.read (Subject.native subject) expression.rule.bare.flags.source
      expression.rule.bare.flags.fromIndex.toInt =
        history.read (Subject.native subject) expression.rule.flags.source
          expression.rule.flags.fromIndex.toInt := rfl
  have hprior (history : History) : State.prior ⟨history, subject'⟩ expression.rule.bare.flags =
      State.prior ⟨history, subject⟩ expression.rule.flags := by
    simp only [State.prior, hnative]
    rfl
  have happly (value : String) : expression.rule.bare.apply value = expression.rule.apply value :=
    rfl
  unfold Expression.attempt
  simp only [hrule, hnative, hread, hprior, happly]
  cases history.read (Subject.native subject) expression.rule.flags.source
      expression.rule.flags.fromIndex.toInt with
  | mk touched value =>
      cases value with
      | error error => exact ⟨⟨⟨rfl, hsubject⟩, rfl⟩, rfl⟩
      | ok value =>
          dsimp only
          cases expression.rule.apply value with
          | none => exact ⟨⟨⟨rfl, hsubject⟩, rfl⟩, rfl⟩
          | some rewritten => exact ⟨⟨⟨rfl, hsubject⟩, rfl⟩, rfl⟩

mutual

/-- Running an expression and its bare form keeps states alike, at any depth. -/
theorem Expression.run_alike (hview : Subject.IsMetadata view) (expression : Expression)
    {state other : State σ} (h : state.Alike view other) (level : Nat) :
    (expression.run level state).Alike view (expression.bare.run level other) := by
  cases expression with
  | leaf rule effect =>
      have hbare : (Expression.leaf rule.bare .none).rule =
          (Expression.leaf rule effect).rule.bare := rfl
      obtain ⟨hrun, hmatch⟩ := Expression.attempt_alike hview hbare h level
      -- both expressions match or none does, so both runs take the same branch
      simp only [Expression.bare, Expression.run, ← hmatch]
      split
      · refine hrun.andThen ?_
        intro state other h
        exact effect.perform_alike hview h
      · exact hrun
  | block rule children =>
      have hbare : (Expression.block rule.bare (bareAll children)).rule =
          (Expression.block rule children).rule.bare := rfl
      obtain ⟨hrun, hmatch⟩ := Expression.attempt_alike hview hbare h level
      simp only [Expression.bare, Expression.run, ← hmatch]
      split
      · refine hrun.andThen ?_
        intro state other h
        exact runAll_alike hview children h (level + 1)
      · exact hrun

theorem runAll_alike (hview : Subject.IsMetadata view) (expressions : List Expression)
    {state other : State σ} (h : state.Alike view other) (level : Nat) :
    (runAll level state expressions).Alike view (runAll level other (bareAll expressions)) := by
  cases expressions with
  | nil => exact ⟨h, rfl⟩
  | cons expression rest =>
      simp only [bareAll, runAll]
      refine (Expression.run_alike hview expression h level).andThen ?_
      intro state other h
      exact runAll_alike hview rest h level

end

/-- The same expressions keep states alike. -/
theorem runAll_alike_of_alike (hview : Subject.IsMetadata view)
    (expressions : List Expression) {state other : State σ} (h : state.Alike view other)
    (level : Nat) :
    (runAll level state expressions).Alike view (runAll level other expressions) := by
  obtain ⟨hstate, hstop⟩ := runAll_alike hview expressions h level
  obtain ⟨hstate', hstop'⟩ :=
    runAll_alike hview expressions (⟨rfl, rfl⟩ : other.Alike view other) level
  exact ⟨⟨hstate.1.trans hstate'.1.symm, hstate.2.trans hstate'.2.symm⟩,
    hstop.trans hstop'.symm⟩

theorem State.writeBack_alike (hview : Subject.IsMetadata view) {state other : State σ}
    (h : state.Alike view other) : view state.writeBack = view other.writeBack := by
  obtain ⟨hhistory, hsubject⟩ := h
  unfold State.writeBack
  rw [← hhistory]
  generalize state.subject = subject at hsubject ⊢
  generalize other.subject = subject' at hsubject ⊢
  induction writableFields generalizing subject subject' with
  | nil => exact hsubject
  | cons field fields ih =>
      simp only [List.foldl_cons]
      apply ih
      cases state.history.written? field with
      | none => exact hsubject
      | some version => exact hview.assign hsubject field version

theorem State.group_alike (hview : Subject.IsMetadata view) {state other : State σ}
    (h : state.Alike view other) : state.group = other.group := by
  unfold State.group
  rw [h.1, hview.native h.2]

def Run.finish (run : Run σ) : Evaluation σ :=
  match run.stop with
  | none => ⟨run.steps, run.state.writeBack, .accepted run.state.group⟩
  | some .rejected => ⟨run.steps, run.state.subject, .rejected⟩
  | some (.failed error) => ⟨run.steps, run.state.subject, .failed error⟩

/-- Runs that look the same come out the same, and leave subjects that look the same. -/
theorem Run.Alike.finish (hview : Subject.IsMetadata view) {run other : Run σ}
    (h : run.Alike view other) :
    run.finish.outcome = other.finish.outcome ∧
      view run.finish.subject = view other.finish.subject := by
  obtain ⟨hstate, hstop⟩ := h
  unfold Run.finish
  rw [← hstop]
  cases run.stop with
  | none =>
      exact ⟨congrArg Outcome.accepted (State.group_alike hview hstate),
        State.writeBack_alike hview hstate⟩
  | some stop =>
      cases stop with
      | rejected => exact ⟨rfl, hstate.2⟩
      | failed error => exact ⟨rfl, hstate.2⟩

/-- An evaluation of expressions comes out like that of their bare forms, on subjects that look the
same, and leaves subjects that look the same. -/
theorem evaluate_bareAll (hview : Subject.IsMetadata view) (expressions : List Expression)
    {subject other : σ} (h : view subject = view other) :
    (evaluate expressions subject).outcome = (evaluate (bareAll expressions) other).outcome ∧
      view (evaluate expressions subject).subject =
        view (evaluate (bareAll expressions) other).subject := by
  have hstart : (State.mk {} subject).Alike view (State.mk {} other) := ⟨rfl, h⟩
  exact (runAll_alike hview expressions hstart 0).finish hview

theorem evaluate_alike (hview : Subject.IsMetadata view) {expressions others : List Expression}
    (hbare : bareAll expressions = bareAll others) {subject other : σ}
    (h : view subject = view other) :
    (evaluate expressions subject).outcome = (evaluate others other).outcome ∧
      view (evaluate expressions subject).subject = view (evaluate others other).subject := by
  obtain ⟨houtcome, hleft⟩ := evaluate_bareAll hview expressions h
  obtain ⟨houtcome', hleft'⟩ := evaluate_bareAll hview others (rfl : view other = view other)
  rw [hbare] at houtcome hleft
  exact ⟨houtcome.trans houtcome'.symm, hleft.trans hleft'.symm⟩

end

/-- Effects, styles, canvases and the print flag never influence matching: expressions that differ
in nothing else come out the same on subjects with the same metadata, and leave the same
metadata. -/
theorem evaluate_of_metadata {expressions others : List Expression}
    (hbare : bareAll expressions = bareAll others) :
    (∀ histogram other : Histogram, histogram.metadata = other.metadata →
      (evaluate expressions histogram).outcome = (evaluate others other).outcome ∧
        (evaluate expressions histogram).subject.metadata =
          (evaluate others other).subject.metadata) ∧
    (∀ group other : GroupCanvas, group.metadata = other.metadata →
      (evaluate expressions group).outcome = (evaluate others other).outcome ∧
        (evaluate expressions group).subject.metadata =
          (evaluate others other).subject.metadata) := by
  refine ⟨?_, ?_⟩
  · intro histogram other h
    exact evaluate_alike Histogram.isMetadata hbare h
  · intro group other h
    exact evaluate_alike GroupCanvas.isMetadata hbare h

/-- A block whose call colors a histogram, and the same block with a call on canvases and a print
flag. -/
theorem evaluate_of_metadata_color :
    ∃ expressions others : List Expression,
      expressions.map Expression.text = ["nt//mass/ \x7b tl color 2 \x7d"] ∧
      others.map Expression.text = ["nt//mass/ \x7b ptl log y \x7d"] ∧
      bareAll expressions = bareAll others ∧
      Histogram.metadata { name := "h", style := { lineColor := some 4 } } =
        Histogram.metadata { name := "h" } ∧
      (evaluate expressions
          ({ name := "h", style := { lineColor := some 4 } } : Histogram)).outcome =
        (evaluate others ({ name := "h" } : Histogram)).outcome ∧
      GroupCanvas.metadata ⟨"k", {}, [{ name := "h" }]⟩ =
        GroupCanvas.metadata ⟨"k", { ticks := { x := true } }, [{ name := "h" }]⟩ ∧
      (evaluate expressions (GroupCanvas.mk "k" {} [{ name := "h" }])).outcome =
        (evaluate others
          (GroupCanvas.mk "k" { ticks := { x := true } } [{ name := "h" }])).outcome := by
  have hbare : bareAll [.block ⟨{ source := .name, target := .title }, none, some "mass"⟩
        [.leaf ⟨{ source := .title, target := .legend }, none, none⟩
          (.histogram ⟨"color", "2", .color 2⟩)]] =
      bareAll [.block ⟨{ source := .name, target := .title }, none, some "mass"⟩
        [.leaf ⟨{ print := true, source := .title, target := .legend }, none, none⟩
          (.canvas ⟨"log", "y", .log [.y] true⟩)]] := rfl
  have hhistogram : Histogram.metadata { name := "h", style := { lineColor := some 4 } } =
      Histogram.metadata { name := "h" } := rfl
  have hgroup : GroupCanvas.metadata ⟨"k", {}, [{ name := "h" }]⟩ =
      GroupCanvas.metadata ⟨"k", { ticks := { x := true } }, [{ name := "h" }]⟩ := rfl
  have hall := evaluate_of_metadata hbare
  exact ⟨_, _, by decide, by decide, hbare, hhistogram, (hall.1 _ _ hhistogram).1, hgroup,
    (hall.2 _ _ hgroup).1⟩

end HistEdit
