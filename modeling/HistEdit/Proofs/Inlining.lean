import HistEdit.Proofs.Selection
import Mathlib.Data.List.Forall2

/-!
Blocks that always run. An expression without a pattern matches whatever it reads, so its block can
be written behind it: at any place of any list, the expressions of the block then run one block
higher, on the same versions and the same subject, and stop where they stopped before. What the
steps report stays, but for the level of the expressions that were moved and for the texts of the
blocks around them.
-/

namespace HistEdit

def Step.sunk : Step → Step
  | .matched level expression value result => .matched (level + 1) expression value result
  | .unmatched level expression value => .unmatched (level + 1) expression value
  | .noCanvas call => .noCanvas call

/-- A place in a list of expressions, at any depth. -/
inductive Spot where
  | here (before after : List Expression)
  | inside (before : List Expression) (rule : Rule) (spot : Spot) (after : List Expression)

namespace Spot

def fill (expressions : List Expression) : Spot → List Expression
  | here before after => before ++ expressions ++ after
  | inside before rule spot after => before ++ .block rule (spot.fill expressions) :: after

/-- The blocks around the place, from the outermost inwards, with some expressions at it. -/
def enclosing (expressions : List Expression) : Spot → List Expression
  | here _ _ => []
  | inside _ rule spot _ => .block rule (spot.fill expressions) :: spot.enclosing expressions

end Spot

/-- What becomes of a step when other expressions stand at a place: it stays; or it tells of the
same expression, one of `moved`, one block higher; or it tells of an expression that reads
differently now, and of the same value and result. -/
inductive Step.Inlined (moved : List Expression) (renamed : List (Expression × Expression)) :
    Step → Step → Prop
  | same (step : Step) : Inlined moved renamed step step
  | raised (step : Step) : (∀ turn ∈ step.turn?, turn.expression ∈ moved) →
    Inlined moved renamed step.sunk step
  | matched (level : Nat) (expression other : Expression) (value result : String) :
    (expression, other) ∈ renamed →
    Inlined moved renamed (.matched level expression value result)
      (.matched level other value result)
  | unmatched (level : Nat) (expression other : Expression) (value : String) :
    (expression, other) ∈ renamed →
    Inlined moved renamed (.unmatched level expression value) (.unmatched level other value)

section

variable {σ : Type}

/-- Two runs that end alike, and whose steps correspond one by one. -/
structure Run.Corresponds (steps : Step → Step → Prop) (run other : Run σ) : Prop where
  steps : List.Forall₂ steps run.steps other.steps
  state : run.state = other.state
  stop : run.stop = other.stop

namespace Run.Corresponds

variable {steps : Step → Step → Prop} {run other : Run σ}

theorem refl (h : ∀ step, steps step step) (run : Run σ) : run.Corresponds steps run where
  steps := List.forall₂_same.2 fun step _ => h step
  state := rfl
  stop := rfl

theorem andThen (h : run.Corresponds steps other) {next next' : State σ → Run σ}
    (hnext : ∀ state, (next state).Corresponds steps (next' state)) :
    (run.andThen next).Corresponds steps (other.andThen next') := by
  cases hstop : run.stop with
  | some stop =>
      rw [andThen_of_stop hstop, andThen_of_stop (h.stop.symm.trans hstop)]
      exact h
  | none =>
      rw [andThen_of_none hstop, andThen_of_none (h.stop.symm.trans hstop), ← h.state]
      have hlater := hnext run.state
      exact ⟨List.rel_append h.steps hlater.steps, hlater.state, hlater.stop⟩

end Run.Corresponds

end

section

variable {σ : Type} [Subject σ]

/-- The depth of an expression is seen in its steps only. -/
theorem Expression.attempt_succ (expression : Expression) (level : Nat) (state : State σ) :
    expression.attempt (level + 1) state =
      ((expression.attempt level state).1.retold Step.sunk,
        (expression.attempt level state).2) := by
  simp only [attempt_eq]
  cases state.source expression.rule.flags with
  | error error => rfl
  | ok value =>
      simp only
      cases expression.rule.apply value with
      | none => rfl
      | some rewritten => rfl

theorem Effect.sunk_perform (effect : Effect) (state : State σ) :
    (effect.perform state).retold Step.sunk = effect.perform state := by
  cases effect with
  | none => rfl
  | histogram call => rfl
  | canvas call =>
      simp only [perform]
      cases Subject.onCanvas? call.action state.subject <;> rfl

theorem Expression.continue_succ (expression : Expression) (level : Nat) (state : State σ)
    {next next' : State σ → Run σ}
    (hnext : ∀ state, next' state = (next state).retold Step.sunk) :
    (if (expression.attempt (level + 1) state).2 then
        (expression.attempt (level + 1) state).1.andThen next'
      else (expression.attempt (level + 1) state).1) =
      (if (expression.attempt level state).2 then
        (expression.attempt level state).1.andThen next
      else (expression.attempt level state).1).retold Step.sunk := by
  simp only [attempt_succ]
  split
  · exact Run.retold_andThen Step.sunk _ hnext
  · rfl

mutual

theorem Expression.run_succ (expression : Expression) (level : Nat) (state : State σ) :
    expression.run (level + 1) state =
      (expression.run level state).retold Step.sunk := by
  cases expression with
  | leaf rule effect =>
      exact (Expression.leaf rule effect).continue_succ level state fun state =>
        (effect.sunk_perform state).symm
  | block rule children =>
      exact (Expression.block rule children).continue_succ level state fun state =>
        runAll_succ children (level + 1) state

/-- Expressions run the same at every depth, and their steps tell how deep they stand. -/
theorem runAll_succ (expressions : List Expression) (level : Nat) (state : State σ) :
    runAll (level + 1) state expressions =
      (runAll level state expressions).retold Step.sunk := by
  cases expressions with
  | nil => rfl
  | cons expression rest =>
      simp only [runAll, Expression.run_succ expression level state]
      exact Run.retold_andThen Step.sunk _ fun state => runAll_succ rest level state

end

/-- What an expression does alone, without an effect. -/
theorem Expression.run_bare_leaf (rule : Rule) (level : Nat) (state : State σ) :
    (Expression.leaf rule .none).run level state =
      ((Expression.leaf rule .none).attempt level state).1 := by
  simp only [Expression.run]
  split
  · exact Run.andThen_idle _
  · rfl

/-- A block without a pattern runs behind its rule, unless the rule has ended the run. -/
theorem Expression.run_plain_block (rule : Rule) (children : List Expression)
    (hplain : rule.pattern = none) (level : Nat) (state : State σ) :
    (Expression.block rule children).run level state =
      ((Expression.block rule children).attempt level state).1.andThen
        fun state => runAll (level + 1) state children := by
  simp only [Expression.run]
  cases hmatch : ((Expression.block rule children).attempt level state).2 with
  | true => rfl
  | false =>
      have hrule : (Expression.block rule children).rule.pattern = none := hplain
      obtain ⟨stop, hstop⟩ := Expression.exists_stop_of_plain hrule hmatch
      rw [Run.andThen_of_stop hstop]
      rfl

variable {moved : List Expression} {renamed : List (Expression × Expression)}

/-- What an attempt does is up to the rule. -/
theorem Expression.attempt_renamed (moved : List Expression) {expression other : Expression}
    (hrule : expression.rule = other.rule) (hrenamed : (expression, other) ∈ renamed)
    (level : Nat) (state : State σ) :
    (expression.attempt level state).1.Corresponds (Step.Inlined moved renamed)
        (other.attempt level state).1 ∧
      (expression.attempt level state).2 = (other.attempt level state).2 := by
  simp only [attempt_eq, hrule]
  cases state.source other.rule.flags with
  | error error => exact ⟨.refl .same _, rfl⟩
  | ok value =>
      simp only
      cases other.rule.apply value with
      | none => exact ⟨⟨.cons (.unmatched _ _ _ _ hrenamed) .nil, rfl, rfl⟩, rfl⟩
      | some rewritten => exact ⟨⟨.cons (.matched _ _ _ _ _ hrenamed) .nil, rfl, rfl⟩, rfl⟩

/-- A block and the same one with other expressions that run alike. -/
theorem Expression.run_block_corresponds {rule : Rule} {children others : List Expression}
    (hrenamed : (Expression.block rule children, Expression.block rule others) ∈ renamed)
    (hchildren : ∀ level (state : State σ), (runAll level state children).Corresponds
      (Step.Inlined moved renamed) (runAll level state others))
    (level : Nat) (state : State σ) :
    ((Expression.block rule children).run level state).Corresponds (Step.Inlined moved renamed)
      ((Expression.block rule others).run level state) := by
  have hrule : (Expression.block rule children).rule = (Expression.block rule others).rule := rfl
  obtain ⟨hattempt, hmatch⟩ := Expression.attempt_renamed moved hrule hrenamed level state
  simp only [Expression.run, hmatch]
  split
  · exact hattempt.andThen (hchildren (level + 1))
  · exact hattempt

/-- A block that always runs does what its rule and then its expressions do without it. -/
theorem Expression.run_inlined {rule : Rule} {children : List Expression}
    (hplain : rule.pattern = none)
    (hrenamed : (Expression.block rule children, Expression.leaf rule .none) ∈ renamed)
    (level : Nat) (state : State σ) :
    ((Expression.block rule children).run level state).Corresponds
      (Step.Inlined (allSubexpressions children) renamed)
      (runAll level state (.leaf rule .none :: children)) := by
  have hrule : (Expression.block rule children).rule = (Expression.leaf rule .none).rule := rfl
  rw [Expression.run_plain_block rule children hplain]
  simp only [runAll, Expression.run_bare_leaf]
  apply (Expression.attempt_renamed _ hrule hrenamed level state).1.andThen
  intro state
  rw [runAll_succ]
  refine ⟨?_, rfl, rfl⟩
  apply List.forall₂_map_left_iff.2
  apply List.forall₂_same.2
  intro step hstep
  apply Step.Inlined.raised
  intro turn hturn
  exact mem_allSubexpressions_of_step hstep hturn

/-- Expressions that run alike do so at every place of a list. -/
theorem Spot.runAll_corresponds (spot : Spot) {expressions others : List Expression}
    (hrenamed : ∀ pair ∈ (spot.enclosing expressions).zip (spot.enclosing others),
      pair ∈ renamed)
    (h : ∀ level (state : State σ), (runAll level state expressions).Corresponds
      (Step.Inlined moved renamed) (runAll level state others))
    (level : Nat) (state : State σ) :
    (runAll level state (spot.fill expressions)).Corresponds (Step.Inlined moved renamed)
      (runAll level state (spot.fill others)) := by
  induction spot generalizing level state with
  | here before after =>
      simp only [fill, List.append_assoc, runAll_append]
      refine Run.Corresponds.andThen (.refl .same _) ?_
      intro state
      refine Run.Corresponds.andThen (h level state) ?_
      intro state
      exact .refl .same _
  | inside before rule spot after ih =>
      simp only [enclosing, List.zip_cons_cons, List.forall_mem_cons] at hrenamed
      simp only [fill, runAll_append, runAll]
      refine Run.Corresponds.andThen (.refl .same _) ?_
      intro state
      refine Run.Corresponds.andThen ?_ ?_
      · exact Expression.run_block_corresponds hrenamed.1 (ih hrenamed.2) level state
      · intro state
        exact .refl .same _

theorem Run.Corresponds.finish {steps : Step → Step → Prop} {run other : Run σ}
    (h : run.Corresponds steps other) :
    other.finish.outcome = run.finish.outcome ∧ other.finish.subject = run.finish.subject ∧
      List.Forall₂ steps run.finish.steps other.finish.steps := by
  refine ⟨?_, ?_, ?_⟩
  · simp only [Run.finish, ← h.stop, ← h.state]
    split <;> rfl
  · simp only [Run.finish, ← h.stop, ← h.state]
    split <;> rfl
  · rw [Run.steps_finish, Run.steps_finish]
    exact h.steps

/-- Evaluation goes from one part of a list to the next, and a block without a pattern is no more
than its rule and its expressions in a row. Running two lists in a row is running the first and
then, unless it ended the run, the second from where the first has led. Wherever an expression
without a pattern stands with a block, the block may be written behind it: the evaluation comes
out the same and leaves the same subject, and its steps are the same one by one, but that those of
the block's expressions are told one block higher, and those of the expression and of the blocks
around it tell of them as they read now. -/
theorem evaluate_inline (subject : σ) :
    (∀ level (state : State σ) (first second : List Expression),
      let run := runAll level state first
      let later := runAll level run.state second
      runAll level state (first ++ second) =
        if run.stop.isSome then run else ⟨run.steps ++ later.steps, later.state, later.stop⟩) ∧
    ∀ (spot : Spot) (flags : Flags) (substitution : Option String) (children : List Expression),
      let rule : Rule := { flags, substitution }
      let nested : List Expression := [.block rule children]
      let flat : List Expression := .leaf rule .none :: children
      let renamed := (.block rule children, .leaf rule .none) ::
        (spot.enclosing nested).zip (spot.enclosing flat)
      let block := evaluate (spot.fill nested) subject
      let inlined := evaluate (spot.fill flat) subject
      inlined.outcome = block.outcome ∧ inlined.subject = block.subject ∧
        List.Forall₂ (Step.Inlined (allSubexpressions children) renamed) block.steps
          inlined.steps := by
  constructor
  · intro level state first second run later
    rw [runAll_append]
    cases hstop : run.stop with
    | some stop => exact Run.andThen_of_stop hstop _
    | none => exact Run.andThen_of_none hstop _
  · intro spot flags substitution children rule nested flat renamed block inlined
    have hblock : ∀ level (state : State σ), (runAll level state nested).Corresponds
        (Step.Inlined (allSubexpressions children) renamed) (runAll level state flat) := by
      intro level state
      have hhead : (Expression.block rule children, Expression.leaf rule .none) ∈ renamed :=
        List.mem_cons_self
      have hinlined := Expression.run_inlined rfl hhead level state
      have hsingle : runAll level state nested = (Expression.block rule children).run level state :=
        Run.andThen_idle _
      rw [hsingle]
      exact hinlined
    have htail : ∀ pair ∈ (spot.enclosing nested).zip (spot.enclosing flat), pair ∈ renamed := by
      intro pair hpair
      exact List.mem_cons_of_mem _ hpair
    exact (spot.runAll_corresponds htail hblock 0 { subject }).finish

end

end HistEdit
