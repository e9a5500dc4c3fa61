import HistEdit.Proofs.Metadata
import HistEdit.Proofs.Versions

/-!
Runs from their parts. An attempt fails on an index without a version, does not match, or matches
and settles its result; a run is made of attempts and effects. What holds of both and is handed on
from one part to the next holds of every run, at any depth. In this way a run is seen to do
nothing to a history but operations, whose appends are the writes that it reports.
-/

namespace HistEdit

section

variable {σ : Type}

@[simp] theorem Run.andThen_of_stop {run : Run σ} {stop : Stop} (h : run.stop = some stop)
    (next : State σ → Run σ) : run.andThen next = run := by
  simp [andThen, h]

theorem Run.andThen_of_none {run : Run σ} (h : run.stop = none) (next : State σ → Run σ) :
    run.andThen next =
      ⟨run.steps ++ (next run.state).steps, (next run.state).state, (next run.state).stop⟩ := by
  simp [andThen, h]

theorem Run.andThen_assoc (run : Run σ) (next last : State σ → Run σ) :
    (run.andThen next).andThen last =
      run.andThen fun state => (next state).andThen last := by
  cases hrun : run.stop with
  | some stop => simp [hrun]
  | none =>
      cases hnext : (next run.state).stop with
      | some stop => simp [andThen, hrun, hnext]
      | none => simp [andThen, hrun, hnext]

@[simp] theorem Run.andThen_idle (run : Run σ) : (run.andThen fun state => { state }) = run := by
  cases hstop : run.stop with
  | some stop => exact andThen_of_stop hstop _
  | none =>
      rw [andThen_of_none hstop]
      simp only [List.append_nil, ← hstop]

def Run.retold (tell : Step → Step) (run : Run σ) : Run σ :=
  { run with steps := run.steps.map tell }

theorem Run.retold_andThen (tell : Step → Step) (run : Run σ) {next next' : State σ → Run σ}
    (hnext : ∀ state, next' state = (next state).retold tell) :
    (run.retold tell).andThen next' = (run.andThen next).retold tell := by
  cases hstop : run.stop with
  | some stop =>
      rw [andThen_of_stop hstop,
        andThen_of_stop (show (run.retold tell).stop = some stop from hstop)]
  | none =>
      rw [andThen_of_none hstop,
        andThen_of_none (show (run.retold tell).stop = none from hstop)]
      simp only [retold, hnext, List.map_append]

theorem Run.isPrefix_steps_andThen (run : Run σ) (next : State σ → Run σ) :
    run.steps <+: (run.andThen next).steps := by
  cases hstop : run.stop with
  | some stop => simp only [andThen_of_stop hstop, List.prefix_rfl]
  | none =>
      rw [andThen_of_none hstop]
      exact List.prefix_append run.steps (next run.state).steps

theorem Run.isPrefix_andThen (run : Run σ) {next : State σ → Run σ}
    (hnext : ∀ state : State σ, state.history.IsPrefix (next state).state.history) :
    run.state.history.IsPrefix (run.andThen next).state.history := by
  cases hstop : run.stop with
  | some stop =>
      rw [andThen_of_stop hstop]
      exact .refl _
  | none =>
      rw [andThen_of_none hstop]
      exact hnext run.state

end

section

variable {σ : Type} [Subject σ]

def State.touch (state : State σ) (field : Field) : State σ :=
  { state with history := state.history.touch (Subject.native state.subject) field }

def State.source (state : State σ) (flags : Flags) : Except EditError String :=
  (state.history.read (Subject.native state.subject) flags.source flags.fromIndex.toInt).2

/-- What a match makes of its destination. -/
def State.result (state : State σ) (flags : Flags) (rewritten : String) : String :=
  flags.add.join (state.prior flags).2 rewritten

/-- The history after a match that read `value`: the result is appended to the destination, unless
it leaves the field that was read as it was. -/
def State.settle (state : State σ) (flags : Flags) (value rewritten : String) : History :=
  if flags.target ≠ flags.source ∨ state.result flags rewritten ≠ value then
    (state.prior flags).1.push (Subject.native state.subject) flags.target
      (state.result flags rewritten)
  else (state.prior flags).1

/-- An attempt touches the field it reads. It fails where the version is missing, reports a value
that does not match, or settles what the rule makes of the value. -/
theorem Expression.attempt_eq (expression : Expression) (level : Nat) (state : State σ) :
    expression.attempt level state =
      let flags := expression.rule.flags
      let touched := state.touch flags.source
      match state.source flags with
      | .error error => (⟨[], touched, some (.failed error)⟩, false)
      | .ok value =>
        match expression.rule.apply value with
        | none =>
          (⟨[.unmatched level expression value], touched,
            if flags.select then some .rejected else none⟩, false)
        | some rewritten =>
          (⟨[.matched level expression value (touched.result flags rewritten)],
            { state with history := touched.settle flags value rewritten }, none⟩, true) := by
  have hread : state.history.read (Subject.native state.subject) expression.rule.flags.source
      expression.rule.flags.fromIndex.toInt =
        ((state.touch expression.rule.flags.source).history,
          state.source expression.rule.flags) :=
    Prod.ext (History.history_read _ _ _ _) rfl
  simp only [Expression.attempt, hread]
  cases state.source expression.rule.flags with
  | error error => rfl
  | ok value =>
      simp only
      cases expression.rule.apply value with
      | none => rfl
      | some rewritten => rfl

/-- What relates a state to every run from it, if it relates a state to its attempts and effects and
is handed on from one part of a run to the next. -/
structure Run.Law (relates : State σ → Run σ → Prop) : Prop where
  idle : ∀ state, relates state { state }
  andThen : ∀ {state run later}, relates state run → run.stop = none → relates run.state later →
    relates state ⟨run.steps ++ later.steps, later.state, later.stop⟩
  attempt : ∀ (expression : Expression) level state,
    relates state (expression.attempt level state).1
  perform : ∀ (effect : Effect) state, relates state (effect.perform state)

namespace Run.Law

variable {relates : State σ → Run σ → Prop}

theorem step (law : Law relates) {state : State σ} {run : Run σ} (h : relates state run)
    {next : State σ → Run σ} (hnext : ∀ state, relates state (next state)) :
    relates state (run.andThen next) := by
  cases hstop : run.stop with
  | some stop => rwa [andThen_of_stop hstop]
  | none =>
      rw [andThen_of_none hstop]
      exact law.andThen h hstop (hnext run.state)

mutual

/-- A law holds of the run of an expression, by induction on the tree. -/
theorem run (law : Law relates) (expression : Expression) (level : Nat) (state : State σ) :
    relates state (expression.run level state) := by
  cases expression with
  | leaf rule effect =>
      have hattempt := law.attempt (.leaf rule effect) level state
      simp only [Expression.run]
      split
      · exact law.step hattempt (law.perform effect)
      · exact hattempt
  | block rule children =>
      have hattempt := law.attempt (.block rule children) level state
      simp only [Expression.run]
      split
      · exact law.step hattempt (law.runAll children (level + 1))
      · exact hattempt

theorem runAll (law : Law relates) (expressions : List Expression) (level : Nat)
    (state : State σ) : relates state (HistEdit.runAll level state expressions) := by
  cases expressions with
  | nil => exact law.idle state
  | cons expression rest =>
      simp only [HistEdit.runAll]
      exact law.step (law.run expression level state) (law.runAll rest level)

end

end Run.Law

/-- Running a list is running a first part of it and then the others. -/
theorem runAll_append (level : Nat) (state : State σ) (first second : List Expression) :
    runAll level state (first ++ second) =
      (runAll level state first).andThen fun state => runAll level state second := by
  induction first generalizing state with
  | nil => rfl
  | cons expression rest ih =>
      simp only [List.cons_append, runAll, Run.andThen_assoc, ih]

def Step.write? (field : Field) : Step → Option String
  | .matched _ expression value result =>
    let flags := expression.rule.flags
    if flags.target = field ∧ (flags.target ≠ flags.source ∨ result ≠ value) then some result
    else none
  | .unmatched .. | .noCanvas _ => none

def writes (field : Field) (steps : List Step) : List String :=
  steps.filterMap (Step.write? field)

theorem writes_append (field : Field) (steps later : List Step) :
    writes field (steps ++ later) = writes field steps ++ writes field later :=
  List.filterMap_append

theorem State.touch_operates (state : State σ) (flags : Flags) :
    (state.touch flags.source).history =
      state.history.operate (Subject.native state.subject)
        [.read flags.source flags.fromIndex] :=
  (History.history_read _ _ _ _).symm

theorem State.prior_operates (state : State σ) (flags : Flags) :
    ∃ operations, (state.prior flags).1 =
        state.history.operate (Subject.native state.subject) operations ∧
      ∀ field, History.pushes field operations = [] := by
  unfold prior
  split
  · exact ⟨[], rfl, fun _ => rfl⟩
  · exact ⟨[.latest flags.target], rfl, fun _ => rfl⟩
  · exact ⟨[.latest flags.target], rfl, fun _ => rfl⟩

theorem State.settle_operates (state : State σ) (flags : Flags) (value rewritten : String) :
    ∃ operations, state.settle flags value rewritten =
        state.history.operate (Subject.native state.subject) operations ∧
      ∀ field, History.pushes field operations =
        if flags.target = field ∧
            (flags.target ≠ flags.source ∨ state.result flags rewritten ≠ value) then
          [state.result flags rewritten]
        else [] := by
  obtain ⟨operations, hprior, hpushes⟩ := state.prior_operates flags
  unfold settle
  split
  · rename_i hchanged
    refine ⟨operations ++ [.push flags.target (state.result flags rewritten)], ?_, ?_⟩
    · rw [hprior, History.operate_append]
      rfl
    · intro field
      rw [History.pushes_append, hpushes]
      by_cases hfield : flags.target = field
      · rw [if_pos ⟨hfield, hchanged⟩]
        simp [History.pushes, History.Operation.pushed?, hfield]
      · rw [if_neg fun h => hfield h.1]
        simp [History.pushes, History.Operation.pushed?, hfield]
  · rename_i hchanged
    refine ⟨operations, hprior, ?_⟩
    intro field
    simp [hpushes, hchanged]

/-- A run looks the same to a view, and does nothing to the history but operations whose appends are
the writes it reports. -/
def Run.Operates {ν : Type} (view : σ → ν) (state : State σ) (run : Run σ) : Prop :=
  view run.state.subject = view state.subject ∧
    ∃ operations, run.state.history =
        state.history.operate (Subject.native state.subject) operations ∧
      ∀ field, History.pushes field operations = writes field run.steps

theorem Run.operates_law {ν : Type} {view : σ → ν} (hview : Subject.IsMetadata view) :
    Run.Law (Run.Operates view) where
  idle state := ⟨rfl, [], rfl, fun _ => rfl⟩
  andThen := by
    intro state run later hrun _ hlater
    obtain ⟨hsubject, operations, hhistory, hpushes⟩ := hrun
    obtain ⟨hsubject', operations', hhistory', hpushes'⟩ := hlater
    refine ⟨hsubject'.trans hsubject, operations ++ operations', ?_, ?_⟩
    · rw [hhistory', hhistory, hview.native hsubject, History.operate_append]
    · intro field
      rw [History.pushes_append, writes_append, hpushes, hpushes']
  attempt := by
    intro expression level state
    have htouch := state.touch_operates expression.rule.flags
    simp only [Expression.attempt_eq]
    cases state.source expression.rule.flags with
    | error error => exact ⟨rfl, _, htouch, fun _ => rfl⟩
    | ok value =>
        simp only
        cases expression.rule.apply value with
        | none => exact ⟨rfl, _, htouch, fun _ => rfl⟩
        | some rewritten =>
            obtain ⟨operations, hsettle, hpushes⟩ :=
              (state.touch expression.rule.flags.source).settle_operates expression.rule.flags
                value rewritten
            refine ⟨rfl, [.read expression.rule.flags.source expression.rule.flags.fromIndex] ++
              operations, ?_, ?_⟩
            · rw [History.operate_append, ← htouch]
              exact hsettle
            · intro field
              rw [History.pushes_append, hpushes]
              simp only [writes, Step.write?, List.filterMap_cons, List.filterMap_nil]
              split <;> rfl
  perform := by
    intro effect state
    cases effect with
    | none => exact ⟨rfl, [], rfl, fun _ => rfl⟩
    | histogram call =>
        exact ⟨hview.onHistogram call.action state.subject, [], rfl, fun _ => rfl⟩
    | canvas call =>
        simp only [Effect.perform]
        cases hcanvas : Subject.onCanvas? call.action state.subject with
        | none => exact ⟨rfl, [], rfl, fun _ => rfl⟩
        | some changed => exact ⟨hview.onCanvas call.action hcanvas, [], rfl, fun _ => rfl⟩

theorem Run.Operates.isPrefix {ν : Type} {view : σ → ν} {state : State σ} {run : Run σ}
    (h : Run.Operates view state run) : state.history.IsPrefix run.state.history := by
  obtain ⟨-, operations, hhistory, -⟩ := h
  rw [hhistory]
  exact History.isPrefix_operate _ _ operations

/-- Evaluates expressions on a subject some of whose fields have versions already. -/
def evaluateFrom (history : History) (expressions : List Expression) (subject : σ) : Evaluation σ :=
  (runAll 0 { history, subject } expressions).finish

theorem evaluate_eq_evaluateFrom (expressions : List Expression) (subject : σ) :
    evaluate expressions subject = evaluateFrom {} expressions subject :=
  rfl

theorem Run.steps_finish (run : Run σ) : run.finish.steps = run.steps := by
  unfold finish
  split <;> rfl

end

end HistEdit
