import HistEdit.Grouping
import HistEdit.Proofs.Run

/-!
Runs as sequences of turns. A tree of expressions is run by attempting one expression after the
other: the turns of a run are the expressions that are attempted, in order and with their depths.
Playing the turns is the run, so that the states in the midst of a run are those that its first
turns lead to, and what a step reports is what happens at its turn.
-/

namespace HistEdit

/-- An expression whose turn it is, and how many blocks deep it stands. -/
structure Turn where
  level : Nat
  expression : Expression

section

variable {σ : Type}

theorem Run.andThen_congr {run : Run σ} {next next' : State σ → Run σ}
    (h : next run.state = next' run.state) : run.andThen next = run.andThen next' := by
  simp only [andThen, h]

end

section

variable {σ : Type} [Subject σ]

/-- What happens at a turn. A match without a block has its effect at once; the expressions of a
block have turns of their own. -/
def Turn.play (turn : Turn) (state : State σ) : Run σ :=
  let (run, isMatch) := turn.expression.attempt turn.level state
  match turn.expression with
  | .leaf _ effect => if isMatch then run.andThen effect.perform else run
  | .block .. => run

/-- Plays turns in order, up to the one that ends the run. -/
def playAll (state : State σ) : List Turn → Run σ
  | [] => { state }
  | turn :: turns => (turn.play state).andThen fun state => playAll state turns

mutual

/-- The turns of one expression that stands `level` blocks deep. -/
def Expression.turns (level : Nat) (state : State σ) : Expression → List Turn
  | .leaf rule effect => [⟨level, .leaf rule effect⟩]
  | .block rule children =>
    let (run, isMatch) := (Expression.block rule children).attempt level state
    ⟨level, .block rule children⟩ ::
      if isMatch then turnsAll (level + 1) run.state children else []

/-- The turns of expressions in order; none after the one that ends the run. -/
def turnsAll (level : Nat) (state : State σ) : List Expression → List Turn
  | [] => []
  | expression :: rest =>
    let run := expression.run level state
    expression.turns level state ++
      if run.stop.isNone then turnsAll level run.state rest else []

end

theorem playAll_append (state : State σ) (turns later : List Turn) :
    playAll state (turns ++ later) =
      (playAll state turns).andThen fun state => playAll state later := by
  induction turns generalizing state with
  | nil => rfl
  | cons turn turns ih => simp only [List.cons_append, playAll, Run.andThen_assoc, ih]

theorem playAll_singleton (state : State σ) (turn : Turn) :
    playAll state [turn] = turn.play state :=
  Run.andThen_idle (turn.play state)

/-- The three ways in which an attempt comes out: the version that the expression reads is missing,
the rule fails on what was read, or it makes something of it. -/
inductive Expression.Attempted (expression : Expression) (level : Nat) (state : State σ) :
    Run σ × Bool → Prop
  | failed (error : EditError) :
    state.source expression.rule.flags = .error error →
    Attempted expression level state
      (⟨[], state.touch expression.rule.flags.source, some (.failed error)⟩, false)
  | unmatched (value : String) :
    state.source expression.rule.flags = .ok value →
    expression.rule.apply value = none →
    Attempted expression level state
      (⟨[.unmatched level expression value], state.touch expression.rule.flags.source,
        if expression.rule.flags.select then some .rejected else none⟩, false)
  | matched (value rewritten : String) :
    state.source expression.rule.flags = .ok value →
    expression.rule.apply value = some rewritten →
    Attempted expression level state
      (let touched := state.touch expression.rule.flags.source
      (⟨[.matched level expression value (touched.result expression.rule.flags rewritten)],
        { state with history := touched.settle expression.rule.flags value rewritten }, none⟩,
        true))

theorem Expression.attempted (expression : Expression) (level : Nat) (state : State σ) :
    expression.Attempted level state (expression.attempt level state) := by
  simp only [attempt_eq]
  cases hread : state.source expression.rule.flags with
  | error error => exact .failed error hread
  | ok value =>
      simp only
      cases hrule : expression.rule.apply value with
      | none => exact .unmatched value hread hrule
      | some rewritten => exact .matched value rewritten hread hrule

theorem Expression.stop_of_attempt {expression : Expression} {level : Nat} {state : State σ}
    (h : (expression.attempt level state).2 = true) :
    (expression.attempt level state).1.stop = none := by
  have hattempted := expression.attempted level state
  generalize expression.attempt level state = attempt at h hattempted ⊢
  cases hattempted with
  | failed error => exact absurd h (by simp)
  | unmatched value => exact absurd h (by simp)
  | matched value rewritten => rfl

mutual

/-- Playing the turns of an expression is running it. -/
theorem Expression.run_eq_playAll (expression : Expression) (level : Nat) (state : State σ) :
    expression.run level state = playAll state (expression.turns level state) := by
  cases expression with
  | leaf rule effect =>
      simp only [Expression.turns, playAll_singleton, Expression.run, Turn.play]
  | block rule children =>
      simp only [Expression.turns, Expression.run, playAll, Turn.play]
      split
      · exact Run.andThen_congr (runAll_eq_playAll children (level + 1) _)
      · exact (playAll_singleton state ⟨level, .block rule children⟩).symm

/-- Playing the turns of some expressions is running them. -/
theorem runAll_eq_playAll (expressions : List Expression) (level : Nat) (state : State σ) :
    runAll level state expressions = playAll state (turnsAll level state expressions) := by
  cases expressions with
  | nil => rfl
  | cons expression rest =>
      have hfirst := Expression.run_eq_playAll expression level state
      simp only [runAll, turnsAll, playAll_append, ← hfirst]
      cases hstop : (expression.run level state).stop with
      | some stop => simp only [Run.andThen_of_stop hstop]
      | none => exact Run.andThen_congr (runAll_eq_playAll rest level _)

end

mutual

theorem Expression.mem_subexpressions_of_mem_turns {turn : Turn} (expression : Expression)
    {level : Nat} {state : State σ} (h : turn ∈ expression.turns level state) :
    turn.expression ∈ expression.subexpressions := by
  cases expression with
  | leaf rule effect =>
      rw [List.mem_singleton.1 h]
      exact List.mem_singleton_self _
  | block rule children =>
      simp only [Expression.turns] at h
      simp only [Expression.subexpressions, List.mem_append, List.mem_singleton]
      rcases List.mem_cons.1 h with rfl | hinside
      · exact .inr rfl
      · split at hinside
        · exact .inl (mem_allSubexpressions_of_mem_turnsAll children hinside)
        · exact absurd hinside List.not_mem_nil

/-- Only expressions of the tree have turns. -/
theorem mem_allSubexpressions_of_mem_turnsAll {turn : Turn} (expressions : List Expression)
    {level : Nat} {state : State σ} (h : turn ∈ turnsAll level state expressions) :
    turn.expression ∈ allSubexpressions expressions := by
  cases expressions with
  | nil => exact absurd h List.not_mem_nil
  | cons expression rest =>
      simp only [turnsAll] at h
      simp only [allSubexpressions, List.mem_append]
      rcases List.mem_append.1 h with hfirst | hrest
      · exact .inl (expression.mem_subexpressions_of_mem_turns hfirst)
      · split at hrest
        · exact .inr (mem_allSubexpressions_of_mem_turnsAll rest hrest)
        · exact absurd hrest List.not_mem_nil

end

theorem Run.Law.play {relates : State σ → Run σ → Prop} (law : Run.Law relates) (turn : Turn)
    (state : State σ) : relates state (turn.play state) := by
  obtain ⟨level, expression⟩ := turn
  cases expression with
  | leaf rule effect => exact law.run (.leaf rule effect) level state
  | block rule children => exact law.attempt (.block rule children) level state

theorem Run.Law.playAll {relates : State σ → Run σ → Prop} (law : Run.Law relates)
    (turns : List Turn) (state : State σ) : relates state (HistEdit.playAll state turns) := by
  induction turns generalizing state with
  | nil => exact law.idle state
  | cons turn turns ih =>
      simp only [HistEdit.playAll]
      exact law.step (law.play turn state) ih

/-- The turn that a step tells of; none for a note of an effect. -/
def Step.turn? : Step → Option Turn
  | .matched level expression _ _ | .unmatched level expression _ => some ⟨level, expression⟩
  | .noCanvas _ => none

theorem Effect.turn?_of_mem_perform {effect : Effect} {state : State σ} {step : Step}
    (h : step ∈ (effect.perform state).steps) : step.turn?.isNone := by
  cases effect with
  | none => exact absurd h List.not_mem_nil
  | histogram call => exact absurd h List.not_mem_nil
  | canvas call =>
      simp only [perform] at h
      split at h
      · exact absurd h List.not_mem_nil
      · rw [List.mem_singleton.1 h]
        rfl

theorem Expression.turn?_of_mem_attempt {expression : Expression} {level : Nat}
    {state : State σ} {step : Step} (h : step ∈ (expression.attempt level state).1.steps) :
    (expression.attempt level state).1.steps = [step] ∧
      step.turn? = some ⟨level, expression⟩ := by
  have hattempted := expression.attempted level state
  generalize expression.attempt level state = attempt at h hattempted ⊢
  cases hattempted with
  | failed error => exact absurd h List.not_mem_nil
  | unmatched value =>
      obtain rfl := List.mem_singleton.1 h
      exact ⟨rfl, rfl⟩
  | matched value rewritten =>
      obtain rfl := List.mem_singleton.1 h
      exact ⟨rfl, rfl⟩

/-- A turn reports its attempt, and behind it only notes. -/
theorem Turn.exists_steps_play (turn : Turn) (state : State σ) :
    ∃ notes, (turn.play state).steps =
        (turn.expression.attempt turn.level state).1.steps ++ notes ∧
      ∀ note ∈ notes, note.turn?.isNone := by
  obtain ⟨level, expression⟩ := turn
  cases expression with
  | leaf rule effect =>
      simp only [play]
      split
      · rename_i hmatch
        rw [Run.andThen_of_none (Expression.stop_of_attempt hmatch)]
        exact ⟨_, rfl, fun note hnote => Effect.turn?_of_mem_perform hnote⟩
      · exact ⟨[], (List.append_nil _).symm, by simp⟩
  | block rule children => exact ⟨[], (List.append_nil _).symm, by simp⟩

/-- A step of a turn that tells of a turn tells of this one, and comes first. -/
theorem Turn.eq_of_steps_play {turn other : Turn} {state : State σ} {before after : List Step}
    {step : Step} (h : (turn.play state).steps = before ++ step :: after)
    (hstep : step.turn? = some other) :
    before = [] ∧ other = turn ∧
      (turn.expression.attempt turn.level state).1.steps = [step] := by
  obtain ⟨notes, hsteps, hnotes⟩ := turn.exists_steps_play state
  have hmem : step ∈ (turn.expression.attempt turn.level state).1.steps := by
    have hplay : step ∈ (turn.play state).steps := by simp [h]
    rw [hsteps] at hplay
    rcases List.mem_append.1 hplay with hattempt | hnote
    · exact hattempt
    · exact absurd (hnotes step hnote) (by simp [hstep])
  obtain ⟨hattempt, hturn⟩ := Expression.turn?_of_mem_attempt hmem
  have hother : other = turn := Option.some.inj (hstep.symm.trans hturn)
  refine ⟨?_, hother, hattempt⟩
  rw [hsteps, hattempt, List.singleton_append] at h
  cases before with
  | nil => rfl
  | cons first before =>
      -- the step would be one of the notes
      have hnote : step ∈ notes := by
        rw [(List.cons.inj h).2]
        simp
      exact absurd (hnotes step hnote) (by simp [hstep])

/-- An item of two lists in a row stands in the first one or behind it. -/
theorem append_eq_append_cons {α : Type} {first second before after : List α} {item : α}
    (h : first ++ second = before ++ item :: after) :
    (∃ rest, first = before ++ item :: rest ∧ after = rest ++ second) ∨
      ∃ behind, before = first ++ behind ∧ second = behind ++ item :: after := by
  rcases List.append_eq_append_iff.1 h with ⟨behind, hbefore, hsecond⟩ | ⟨rest, hfirst, hrest⟩
  · exact .inr ⟨behind, hbefore, hsecond⟩
  · cases rest with
    | nil => exact .inr ⟨[], by simp [hfirst], by simpa using hrest.symm⟩
    | cons other rest =>
        obtain ⟨rfl, hafter⟩ := List.cons.inj hrest
        exact .inl ⟨rest, hfirst, hafter⟩

/-- Every step that tells of a turn is what this turn reports, in the state that the turns before it
lead to. -/
theorem exists_turn_of_step {turns : List Turn} {state : State σ} {before after : List Step}
    {step : Step} {turn : Turn} (h : (playAll state turns).steps = before ++ step :: after)
    (hstep : step.turn? = some turn) :
    ∃ earlier later, turns = earlier ++ turn :: later ∧
      (playAll state earlier).stop = none ∧ (playAll state earlier).steps = before ∧
      (turn.expression.attempt turn.level (playAll state earlier).state).1.steps = [step] := by
  induction turns generalizing state before with
  | nil => simp [playAll] at h
  | cons first turns ih =>
      have hfirst {after : List Step}
          (hsteps : (first.play state).steps = before ++ step :: after) :
          ∃ earlier later, first :: turns = earlier ++ turn :: later ∧
            (playAll state earlier).stop = none ∧ (playAll state earlier).steps = before ∧
            (turn.expression.attempt turn.level (playAll state earlier).state).1.steps =
              [step] := by
        obtain ⟨rfl, rfl, hattempt⟩ := Turn.eq_of_steps_play hsteps hstep
        exact ⟨[], turns, rfl, rfl, rfl, hattempt⟩
      simp only [playAll] at h
      cases hstop : (first.play state).stop with
      | some stop =>
          rw [Run.andThen_of_stop hstop] at h
          exact hfirst h
      | none =>
          rw [Run.andThen_of_none hstop] at h
          rcases append_eq_append_cons h with ⟨rest, hplay, -⟩ | ⟨behind, rfl, hlater⟩
          · exact hfirst hplay
          · obtain ⟨earlier, later, rfl, hstop', hsteps, hattempt⟩ := ih hlater
            refine ⟨first :: earlier, later, rfl, ?_, ?_, ?_⟩
            all_goals simp only [playAll, Run.andThen_of_none hstop]
            · exact hstop'
            · rw [hsteps]
            · exact hattempt

def Effect.act (effect : Effect) (subject : σ) : σ :=
  match effect with
  | .none => subject
  | .histogram call => Subject.onHistogram call.action subject
  | .canvas call => (Subject.onCanvas? call.action subject).getD subject

/-- The effect that a step brings about: that of a matched expression without a block. -/
def Step.effect : Step → Effect
  | .matched _ (.leaf _ effect) _ _ => effect
  | .matched _ (.block _ _) _ _ | .unmatched .. | .noCanvas _ => .none

def actAll (steps : List Step) (subject : σ) : σ :=
  steps.foldl (fun subject step => step.effect.act subject) subject

theorem actAll_append (steps later : List Step) (subject : σ) :
    actAll (steps ++ later) subject = actAll later (actAll steps subject) :=
  List.foldl_append

theorem Effect.subject_perform (effect : Effect) (state : State σ) :
    (effect.perform state).state.subject = effect.act state.subject ∧
      ∀ subject : σ, actAll (effect.perform state).steps subject = subject := by
  cases effect with
  | none => exact ⟨rfl, fun _ => rfl⟩
  | histogram call => exact ⟨rfl, fun _ => rfl⟩
  | canvas call =>
      simp only [perform, act]
      cases Subject.onCanvas? call.action state.subject with
      | none => exact ⟨rfl, fun _ => rfl⟩
      | some changed => exact ⟨rfl, fun _ => rfl⟩

theorem Turn.subject_play (turn : Turn) (state : State σ) :
    (turn.play state).state.subject = actAll (turn.play state).steps state.subject := by
  obtain ⟨level, expression⟩ := turn
  have hattempted := expression.attempted level state
  cases expression with
  | leaf rule effect =>
      simp only [play]
      generalize (Expression.leaf rule effect).attempt level state = attempt at hattempted ⊢
      cases hattempted with
      | failed error => rfl
      | unmatched value => rfl
      | matched value rewritten =>
          obtain ⟨hact, hnotes⟩ := effect.subject_perform
            ⟨(state.touch rule.flags.source).settle rule.flags value rewritten, state.subject⟩
          rw [if_pos rfl, Run.andThen_of_none rfl, actAll_append]
          exact hact.trans (hnotes _).symm
  | block rule children =>
      simp only [play]
      generalize (Expression.block rule children).attempt level state = attempt at hattempted ⊢
      cases hattempted <;> rfl

theorem subject_playAll (turns : List Turn) (state : State σ) :
    (playAll state turns).state.subject = actAll (playAll state turns).steps state.subject := by
  induction turns generalizing state with
  | nil => rfl
  | cons turn turns ih =>
      simp only [playAll]
      cases hstop : (turn.play state).stop with
      | some stop =>
          rw [Run.andThen_of_stop hstop]
          exact turn.subject_play state
      | none =>
          rw [Run.andThen_of_none hstop, actAll_append, ← turn.subject_play state]
          exact ih (turn.play state).state

/-- What a run makes of its subject is what the effects of its matched steps make of it, in
order. -/
theorem subject_runAll (expressions : List Expression) (level : Nat) (state : State σ) :
    (runAll level state expressions).state.subject =
      actAll (runAll level state expressions).steps state.subject := by
  rw [runAll_eq_playAll]
  exact subject_playAll _ state

end

end HistEdit
