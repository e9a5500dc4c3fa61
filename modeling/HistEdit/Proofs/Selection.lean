import HistEdit.Proofs.Turns

/-!
Select flags. A run in which no select flag has force is the run of the same expressions without
these flags; its steps still tell of the expressions as they stand. The run in which the flags have
force goes the same way, and ends at the first step of an expression that selects and does not
match, whatever the depth.
-/

namespace HistEdit

def Rule.lenient (rule : Rule) : Rule :=
  { rule with flags := { rule.flags with select := false } }

mutual

/-- An expression without its select flags, at every depth. -/
def Expression.lenient : Expression → Expression
  | .leaf rule effect => .leaf rule.lenient effect
  | .block rule children => .block rule.lenient (lenientAll children)

def lenientAll : List Expression → List Expression
  | [] => []
  | expression :: rest => expression.lenient :: lenientAll rest

end

def Step.lenient : Step → Step
  | .matched level expression value result => .matched level expression.lenient value result
  | .unmatched level expression value => .unmatched level expression.lenient value
  | .noCanvas call => .noCanvas call

def Step.rejects : Step → Bool
  | .unmatched _ expression _ => expression.rule.flags.select
  | .matched .. | .noCanvas _ => false

theorem Expression.rule_lenient (expression : Expression) :
    expression.lenient.rule = expression.rule.lenient := by
  cases expression <;> rfl

theorem Step.rejects_lenient (step : Step) : step.lenient.rejects = false := by
  cases step with
  | matched level expression value result => rfl
  | unmatched level expression value =>
      simp only [lenient, rejects, Expression.rule_lenient]
      rfl
  | noCanvas call => rfl

section

variable {σ : Type}

def Run.lenient (run : Run σ) : Run σ :=
  { run with steps := run.steps.map Step.lenient }

/-- A run that goes on where it would be rejected. -/
def Run.spared (run : Run σ) : Run σ :=
  match run.stop with
  | some .rejected => { run with stop := none }
  | some (.failed _) | none => run

/-- What becomes of a full run when select flags have force: it stays as it is as long as no step
rejects, and ends at the first one that does. -/
inductive Run.Cut (full : Run σ) : Run σ → Prop
  | whole : (∀ step ∈ full.steps, step.rejects = false) → Cut full full
  | short {run : Run σ} (before : List Step) (last : Step) (after : List Step) :
    full.steps = before ++ last :: after →
    (∀ step ∈ before, step.rejects = false) →
    last.rejects = true →
    run.steps = before ++ [last] →
    run.stop = some .rejected →
    Cut full run

theorem Run.Cut.andThen {full run : Run σ} (h : full.Cut run) {next next' : State σ → Run σ}
    (hnext : ∀ state, (next state).Cut (next' state)) :
    (full.andThen next).Cut (run.andThen next') := by
  cases h with
  | whole hfull =>
      cases hstop : full.stop with
      | some stop =>
          rw [andThen_of_stop hstop, andThen_of_stop hstop]
          exact .whole hfull
      | none =>
          rw [andThen_of_none hstop, andThen_of_none hstop]
          have hlater := hnext full.state
          generalize next full.state = later, next' full.state = cut at hlater
          cases hlater with
          | whole hlater => exact .whole (List.forall_mem_append.2 ⟨hfull, hlater⟩)
          | short before last after hsteps hbefore hlast hcut hrejected =>
              refine .short (full.steps ++ before) last after ?_
                (List.forall_mem_append.2 ⟨hfull, hbefore⟩) hlast ?_ hrejected
              · simp only [hsteps, List.append_assoc]
              · simp only [hcut, List.append_assoc]
  | short before last after hsteps hbefore hlast hcut hrejected =>
      -- nothing follows on a rejection, whatever the full run goes on with
      rw [andThen_of_stop hrejected]
      cases hstop : full.stop with
      | some stop =>
          rw [andThen_of_stop hstop]
          exact .short before last after hsteps hbefore hlast hcut hrejected
      | none =>
          rw [andThen_of_none hstop]
          refine .short before last (after ++ (next full.state).steps) ?_ hbefore hlast hcut
            hrejected
          simp only [hsteps, List.append_assoc, List.cons_append]

theorem Run.lenient_andThen (run : Run σ) {next next' : State σ → Run σ}
    (hnext : ∀ state, next' state = (next state).lenient) :
    run.lenient.andThen next' = (run.andThen next).lenient :=
  run.retold_andThen Step.lenient hnext

end

section

variable {σ : Type} [Subject σ]

mutual

/-- Runs one expression as if select flags had no force. -/
def Expression.runThrough (level : Nat) (state : State σ) : Expression → Run σ
  | .leaf rule effect =>
    let (run, isMatch) := (Expression.leaf rule effect).attempt level state
    if isMatch then run.andThen effect.perform else run.spared
  | .block rule children =>
    let (run, isMatch) := (Expression.block rule children).attempt level state
    if isMatch then run.andThen fun state => runThroughAll (level + 1) state children
    else run.spared

def runThroughAll (level : Nat) (state : State σ) : List Expression → Run σ
  | [] => { state }
  | expression :: rest =>
    (expression.runThrough level state).andThen fun state => runThroughAll level state rest

end

/-- An expression without its select flags is attempted like the one that has them, but it never
rejects. -/
theorem Expression.attempt_lenient (expression : Expression) (level : Nat) (state : State σ) :
    expression.lenient.attempt level state =
      ((expression.attempt level state).1.spared.lenient, (expression.attempt level state).2) := by
  have hsource : state.source expression.rule.lenient.flags =
      state.source expression.rule.flags := rfl
  have happly (value : String) :
      expression.rule.lenient.apply value = expression.rule.apply value := rfl
  simp only [attempt_eq, rule_lenient, hsource, happly]
  cases state.source expression.rule.flags with
  | error error => rfl
  | ok value =>
      simp only
      cases expression.rule.apply value with
      | some rewritten => rfl
      | none =>
          simp only [Rule.lenient]
          cases expression.rule.flags.select <;> rfl

theorem Effect.lenient_perform (effect : Effect) (state : State σ) :
    (effect.perform state).lenient = effect.perform state := by
  cases effect with
  | none => rfl
  | histogram call => rfl
  | canvas call =>
      simp only [perform]
      cases Subject.onCanvas? call.action state.subject <;> rfl

theorem Run.spared_of_match {expression : Expression} {level : Nat} {state : State σ}
    (h : (expression.attempt level state).2 = true) :
    (expression.attempt level state).1.spared = (expression.attempt level state).1 := by
  simp only [spared, Expression.stop_of_attempt h]

/-- What follows a match follows it also without select flags. -/
theorem Expression.continue_lenient (expression : Expression) (level : Nat) (state : State σ)
    {next next' : State σ → Run σ} (hnext : ∀ state, next' state = (next state).lenient) :
    (if (expression.lenient.attempt level state).2 then
        (expression.lenient.attempt level state).1.andThen next'
      else (expression.lenient.attempt level state).1) =
      (if (expression.attempt level state).2 then
        (expression.attempt level state).1.andThen next
      else (expression.attempt level state).1.spared).lenient := by
  simp only [attempt_lenient]
  split
  · rename_i hmatch
    rw [Run.spared_of_match hmatch]
    exact Run.lenient_andThen _ hnext
  · rfl

mutual

/-- Without its select flags, an expression runs through. -/
theorem Expression.run_lenient (expression : Expression) (level : Nat) (state : State σ) :
    expression.lenient.run level state = (expression.runThrough level state).lenient := by
  cases expression with
  | leaf rule effect =>
      exact (Expression.leaf rule effect).continue_lenient level state fun state =>
        (effect.lenient_perform state).symm
  | block rule children =>
      exact (Expression.block rule children).continue_lenient level state fun state =>
        runAll_lenientAll children (level + 1) state

theorem runAll_lenientAll (expressions : List Expression) (level : Nat) (state : State σ) :
    runAll level state (lenientAll expressions) =
      (runThroughAll level state expressions).lenient := by
  cases expressions with
  | nil => rfl
  | cons expression rest =>
      simp only [lenientAll, runAll, runThroughAll, Expression.run_lenient expression level state]
      exact Run.lenient_andThen _ fun state => runAll_lenientAll rest level state

end

/-- Up to its end, an attempt does the same whether or not select flags have force. -/
theorem Expression.cut_attempt (expression : Expression) (level : Nat) (state : State σ) :
    (expression.attempt level state).1.spared.Cut (expression.attempt level state).1 := by
  have hattempted := expression.attempted level state
  generalize expression.attempt level state = attempt at hattempted ⊢
  cases hattempted with
  | failed error => exact .whole (by simp [Run.spared])
  | matched value rewritten => exact .whole (by simp [Run.spared, Step.rejects])
  | unmatched value =>
      cases hselect : expression.rule.flags.select with
      | true => exact .short [] _ [] rfl (by simp) hselect rfl rfl
      | false => exact .whole (by simp [Run.spared, Step.rejects, hselect])

theorem Effect.cut_perform (effect : Effect) (state : State σ) :
    (effect.perform state).Cut (effect.perform state) := by
  refine .whole ?_
  intro step hstep
  have hnote := Effect.turn?_of_mem_perform hstep
  cases step with
  | noCanvas call => rfl
  | matched level expression value result => exact absurd hnote (by simp [Step.turn?])
  | unmatched level expression value => exact absurd hnote (by simp [Step.turn?])

theorem Expression.cut_continue (expression : Expression) (level : Nat) (state : State σ)
    {next next' : State σ → Run σ} (hnext : ∀ state, (next state).Cut (next' state)) :
    (if (expression.attempt level state).2 then
        (expression.attempt level state).1.andThen next
      else (expression.attempt level state).1.spared).Cut
      (if (expression.attempt level state).2 then
        (expression.attempt level state).1.andThen next'
      else (expression.attempt level state).1) := by
  have hattempt := expression.cut_attempt level state
  split
  · rename_i hmatch
    rw [Run.spared_of_match hmatch] at hattempt
    exact hattempt.andThen hnext
  · exact hattempt

mutual

/-- Running an expression is cutting its full run short, at any depth. -/
theorem Expression.cut_run (expression : Expression) (level : Nat) (state : State σ) :
    (expression.runThrough level state).Cut (expression.run level state) := by
  cases expression with
  | leaf rule effect =>
      exact (Expression.leaf rule effect).cut_continue level state effect.cut_perform
  | block rule children =>
      exact (Expression.block rule children).cut_continue level state
        (cut_runAll children (level + 1))

theorem cut_runAll (expressions : List Expression) (level : Nat) (state : State σ) :
    (runThroughAll level state expressions).Cut (runAll level state expressions) := by
  cases expressions with
  | nil => exact .whole (by simp [runThroughAll])
  | cons expression rest =>
      simp only [runThroughAll, runAll]
      exact (Expression.cut_run expression level state).andThen (cut_runAll rest level)

end

/-- A run is rejected only by an expression that selects and has a pattern. -/
def Run.RejectedBy (_ : State σ) (run : Run σ) : Prop :=
  run.stop = some .rejected →
    ∃ level expression value, .unmatched level expression value ∈ run.steps ∧
      expression.rule.flags.select = true ∧ expression.rule.pattern.isSome = true

theorem Rule.pattern_of_apply {rule : Rule} {value : String} (h : rule.apply value = none) :
    rule.pattern.isSome = true := by
  unfold apply at h
  split at h
  · exact absurd h (by simp)
  · rename_i pattern hpattern
    simp [hpattern]

/-- Without a pattern an expression matches, unless the version that it reads is missing. -/
theorem Expression.exists_stop_of_plain {expression : Expression}
    (hplain : expression.rule.pattern = none) {level : Nat} {state : State σ}
    (h : (expression.attempt level state).2 = false) :
    ∃ stop, (expression.attempt level state).1.stop = some stop := by
  have hattempted := expression.attempted level state
  generalize expression.attempt level state = attempt at h hattempted ⊢
  cases hattempted with
  | failed error => exact ⟨_, rfl⟩
  | matched value rewritten => exact absurd h (by simp)
  | unmatched value _ hrule =>
      have hpattern := Rule.pattern_of_apply hrule
      exact absurd hpattern (by simp [hplain])

theorem Run.rejectedBy_law : Run.Law (Run.RejectedBy (σ := σ)) where
  idle _ h := absurd h (by simp)
  andThen := by
    intro state run later _ _ hlater hrejected
    obtain ⟨level, expression, value, hmem, hselect, hpattern⟩ := hlater hrejected
    exact ⟨level, expression, value, List.mem_append_right _ hmem, hselect, hpattern⟩
  attempt := by
    intro expression level state hrejected
    have hattempted := expression.attempted level state
    generalize expression.attempt level state = attempt at hrejected hattempted ⊢
    cases hattempted with
    | failed error => exact absurd hrejected (by simp)
    | matched value rewritten => exact absurd hrejected (by simp)
    | unmatched value _ hrule =>
        cases hselect : expression.rule.flags.select with
        | false => exact absurd hrejected (by simp [hselect])
        | true =>
            exact ⟨level, expression, value, List.mem_singleton_self _, hselect,
              Rule.pattern_of_apply hrule⟩
  perform := by
    intro effect state hrejected
    cases effect with
    | none => exact absurd hrejected (by simp [Effect.perform])
    | histogram call => exact absurd hrejected (by simp [Effect.perform])
    | canvas call =>
        simp only [Effect.perform] at hrejected
        split at hrejected <;> exact absurd hrejected (by simp)

/-- The steps of a run tell of expressions of its tree. -/
theorem mem_allSubexpressions_of_step {expressions : List Expression} {level : Nat}
    {state : State σ} {step : Step} {turn : Turn}
    (h : step ∈ (runAll level state expressions).steps) (hstep : step.turn? = some turn) :
    turn.expression ∈ allSubexpressions expressions := by
  obtain ⟨before, after, hsteps⟩ := List.append_of_mem h
  rw [runAll_eq_playAll] at hsteps
  obtain ⟨earlier, later, hturns, -⟩ := exists_turn_of_step hsteps hstep
  have hturn : turn ∈ turnsAll level state expressions := by simp [hturns]
  exact mem_allSubexpressions_of_mem_turnsAll expressions hturn

theorem evaluate_rejected {expressions : List Expression} {subject : σ}
    (h : (evaluate expressions subject).outcome = .rejected) :
    (runAll 0 { subject } expressions).stop = some .rejected := by
  rw [evaluate_eq_evaluateFrom] at h
  simp only [evaluateFrom, Run.finish] at h
  split at h
  · exact absurd h (by simp)
  · assumption
  · exact absurd h (by simp)

theorem Run.finish_of_rejected {run : Run σ} (h : run.stop = some .rejected) :
    run.finish = ⟨run.steps, run.state.subject, .rejected⟩ := by
  simp only [finish, h]

theorem Run.finish_lenient (run : Run σ) :
    run.lenient.finish = { run.finish with steps := run.steps.map Step.lenient } := by
  unfold finish lenient
  split <;> simp_all

/-- A select flag only cuts a run short. The full run goes through the expressions as if no flag
selected: it is the run of the expressions without their select flags. When none of its steps is
that of an expression that selects and does not match, the evaluation is the same with the flags
and without. Otherwise it rejects the subject at the first such step: it reports the steps up to
this one, and has made of the subject what the effects before it make of it. Without select flags
no evaluation rejects, and with them none does unless an expression has both a select flag and a
pattern. -/
theorem evaluate_select (expressions : List Expression) (subject : σ) :
    let full := runThroughAll 0 { subject } expressions
    let evaluation := evaluate expressions subject
    let spared := evaluate (lenientAll expressions) subject
    spared.steps = full.steps.map Step.lenient ∧
    (if full.steps.any Step.rejects then
      ∃ before last after, full.steps = before ++ last :: after ∧
        (∀ step ∈ before, step.rejects = false) ∧ last.rejects = true ∧
        evaluation = ⟨before ++ [last], actAll before subject, .rejected⟩
    else
      evaluation.outcome = spared.outcome ∧ evaluation.subject = spared.subject ∧
        evaluation.steps = full.steps) ∧
    spared.outcome ≠ .rejected ∧
    (evaluation.outcome ≠ .rejected ∨
      ∃ expression ∈ allSubexpressions expressions,
        expression.rule.flags.select = true ∧ expression.rule.pattern.isSome = true) := by
  intro full evaluation spared
  have hspared : spared = { full.finish with steps := full.steps.map Step.lenient } := by
    simp only [spared, evaluate_eq_evaluateFrom, evaluateFrom, runAll_lenientAll,
      Run.finish_lenient, full]
  have hevaluation : evaluation = (runAll 0 { subject } expressions).finish := rfl
  have hcut : full.Cut (runAll 0 { subject } expressions) := cut_runAll expressions 0 { subject }
  have hsubject := subject_runAll expressions 0 { subject }
  refine ⟨by rw [hspared], ?_, ?_, ?_⟩
  · generalize runAll 0 { subject } expressions = run at hevaluation hcut hsubject
    cases hcut with
    | whole hfull =>
        rw [if_neg (by simpa using hfull), hevaluation, hspared]
        exact ⟨rfl, rfl, Run.steps_finish _⟩
    | short before last after hsteps hbefore hlast hrun hrejected =>
        have hlastEffect : last.effect = .none := by
          cases last with
          | matched level expression value result => exact absurd hlast (by simp [Step.rejects])
          | unmatched level expression value => rfl
          | noCanvas call => rfl
        rw [if_pos (by simp [hsteps, hlast])]
        refine ⟨before, last, after, hsteps, hbefore, hlast, ?_⟩
        rw [hevaluation, Run.finish_of_rejected hrejected, hsubject, hrun, actAll_append]
        simp [actAll, hlastEffect, Effect.act]
  · intro hrejected
    obtain ⟨level, expression, value, hmem, hselect, -⟩ :=
      Run.rejectedBy_law.runAll _ 0 _ (evaluate_rejected hrejected)
    rw [runAll_lenientAll] at hmem
    obtain ⟨step, -, hstep⟩ := List.mem_map.1 hmem
    have hnone := step.rejects_lenient
    rw [hstep] at hnone
    exact absurd (hselect.symm.trans hnone) (by simp)
  · by_cases hrejected : evaluation.outcome = .rejected
    · obtain ⟨level, expression, value, hmem, hselect, hpattern⟩ :=
        Run.rejectedBy_law.runAll _ 0 _ (evaluate_rejected hrejected)
      exact .inr ⟨expression, mem_allSubexpressions_of_step hmem rfl, hselect, hpattern⟩
    · exact .inl hrejected

end

end HistEdit
