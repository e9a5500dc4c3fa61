import HistEdit.Proofs.Place

/-!
What the steps of an evaluation say about the tree of its expressions. The levels of the steps tell
the place of each of them in the tree. A step inside a block follows on the match of that block, the
steps behind such a match are the run of its block, and nothing is told from inside an expression
that did not match. The functions that take effect are those of the matches, in order.
-/

namespace HistEdit

def told (steps : List Step) : List Turn :=
  steps.filterMap Step.turn?

def toldAt (level : Nat) (steps : List Step) : List Expression :=
  ((told steps).filter fun turn => turn.level == level).map Turn.expression

/-- The place of a step at `level` behind some steps, read off the levels of those. -/
def placeBehind (before : List Step) (level : Nat) : List Nat :=
  nextPlace level (placeFrom [] (told before))

/-- A step that stands deeper than `level`, or a note of an effect. -/
def Step.Deeper (level : Nat) (step : Step) : Prop :=
  ∀ turn ∈ step.turn?, level < turn.level

def Effect.isFunction : Effect → Bool
  | .none => false
  | .histogram _ | .canvas _ => true

/-- The functions that some steps bring into effect, in order. -/
def functionsOf (steps : List Step) : List Effect :=
  (steps.map Step.effect).filter Effect.isFunction

theorem told_append (steps later : List Step) : told (steps ++ later) = told steps ++ told later :=
  List.filterMap_append

theorem told_cons_of_turn? {step : Step} {turn : Turn} (h : step.turn? = some turn)
    (steps : List Step) : told (step :: steps) = turn :: told steps := by
  simp [told, h]

theorem told_of_notes {notes : List Step} (h : ∀ note ∈ notes, note.turn?.isNone) :
    told notes = [] := by
  simpa [told, List.filterMap_eq_nil_iff] using h

theorem toldAt_append (level : Nat) (steps later : List Step) :
    toldAt level (steps ++ later) = toldAt level steps ++ toldAt level later := by
  simp [toldAt, told_append]

theorem Step.deeper_of_told {level : Nat} {steps : List Step}
    (h : ∀ turn ∈ told steps, level < turn.level) : ∀ step ∈ steps, step.Deeper level := by
  intro step hstep turn hturn
  exact h turn (List.mem_filterMap.2 ⟨step, hstep, hturn⟩)

section

variable {σ : Type} [Subject σ]

/-- Making of a subject what the effects of some steps make of it is letting their functions act. -/
theorem actAll_eq_functionsOf (steps : List Step) (subject : σ) :
    actAll steps subject =
      (functionsOf steps).foldl (fun subject effect => effect.act subject) subject := by
  induction steps generalizing subject with
  | nil => rfl
  | cons step steps ih =>
      have hcons : actAll (step :: steps) subject = actAll steps (step.effect.act subject) := rfl
      rw [hcons, ih, functionsOf, functionsOf, List.map_cons]
      cases heffect : step.effect with
      | none => rw [List.filter_cons_of_neg (by simp [Effect.isFunction])]; rfl
      | histogram call => rw [List.filter_cons_of_pos rfl]; rfl
      | canvas call => rw [List.filter_cons_of_pos rfl]; rfl

/-- A turn reports nothing and ends the run, or its first step tells of it and notes may follow. -/
theorem Turn.steps_play (turn : Turn) (state : State σ) :
    ((turn.play state).steps = [] ∧ (turn.play state).stop.isSome) ∨
      ∃ step notes, (turn.play state).steps = step :: notes ∧ step.turn? = some turn ∧
        ∀ note ∈ notes, note.turn?.isNone := by
  obtain ⟨notes, hsteps, hnotes⟩ := turn.exists_steps_play state
  have hattempted := turn.expression.attempted turn.level state
  generalize hattempt : turn.expression.attempt turn.level state = attempt at hsteps hattempted
  cases hattempted with
  | failed error =>
      left
      obtain ⟨level, expression⟩ := turn
      have hplay : Turn.play ⟨level, expression⟩ state = (expression.attempt level state).1 := by
        cases expression <;> simp [play, hattempt]
      rw [hplay, hattempt]
      exact ⟨rfl, rfl⟩
  | unmatched value => exact .inr ⟨_, notes, hsteps, rfl, hnotes⟩
  | matched value rewritten => exact .inr ⟨_, notes, hsteps, rfl, hnotes⟩

/-- The steps tell of the turns in order, and of all of them when the run is not stopped. -/
theorem told_playAll (turns : List Turn) (state : State σ) :
    told (playAll state turns).steps <+: turns ∧
      ((playAll state turns).stop = none → told (playAll state turns).steps = turns) := by
  induction turns generalizing state with
  | nil => exact ⟨List.prefix_rfl, fun _ => rfl⟩
  | cons turn turns ih =>
      simp only [playAll]
      have hplay : (turn.play state).stop = none ∧ told (turn.play state).steps = [turn] ∨
          (turn.play state).stop.isSome ∧ told (turn.play state).steps <+: [turn] := by
        rcases turn.steps_play state with ⟨hsteps, hstop⟩ | ⟨step, notes, hsteps, hturn, hnotes⟩
        · exact .inr ⟨hstop, by simp [hsteps, told]⟩
        · rw [hsteps, told_cons_of_turn? hturn, told_of_notes hnotes]
          cases (turn.play state).stop with
          | none => exact .inl ⟨rfl, rfl⟩
          | some stop => exact .inr ⟨rfl, List.prefix_rfl⟩
      rcases hplay with ⟨hstop, htold⟩ | ⟨hstop, htold⟩
      · rw [Run.andThen_of_none hstop, told_append, htold]
        obtain ⟨hfirst, hall⟩ := ih (turn.play state).state
        exact ⟨(List.prefix_cons_inj turn).2 hfirst, fun hnone => by simp [hall hnone]⟩
      · obtain ⟨stop, hstop⟩ := Option.isSome_iff_exists.1 hstop
        rw [Run.andThen_of_stop hstop]
        exact ⟨htold.trans (by simp), fun hnone => by simp [hstop] at hnone⟩

theorem isPrefix_told_runAll (expressions : List Expression) (level : Nat) (state : State σ) :
    told (runAll level state expressions).steps <+: turnsAll level state expressions := by
  rw [runAll_eq_playAll]
  exact (told_playAll _ state).1

/-- At its own level, the run of an expression tells of this expression, or it reports nothing and
is stopped. -/
theorem Expression.toldAt_run (expression : Expression) (level : Nat) (state : State σ) :
    ((expression.run level state).steps = [] ∧ (expression.run level state).stop.isSome) ∨
      toldAt level (expression.run level state).steps = [expression] := by
  have hrun := expression.run_eq_playAll level state
  have hturns := (told_playAll (expression.turns level state) state).1
  rw [← hrun, turns_eq] at hturns
  rcases List.prefix_cons_iff.1 hturns with hnone | ⟨inside, htold, hinside⟩
  · left
    rw [turns_eq] at hrun
    simp only [playAll] at hrun
    rcases Turn.steps_play ⟨level, expression⟩ state with
      ⟨hsteps, hstop⟩ | ⟨step, notes, hsteps, hturn, -⟩
    · obtain ⟨stop, hstop⟩ := Option.isSome_iff_exists.1 hstop
      rw [hrun, Run.andThen_of_stop hstop]
      exact ⟨hsteps, by simp [hstop]⟩
    · -- the first step of the turn is told
      have hmem : ⟨level, expression⟩ ∈ told (expression.run level state).steps := by
        rw [hrun]
        cases hstop : (Turn.play ⟨level, expression⟩ state).stop with
        | some stop => simp [Run.andThen_of_stop hstop, hsteps, told_cons_of_turn? hturn]
        | none => simp [Run.andThen_of_none hstop, hsteps, told_cons_of_turn? hturn]
      rw [hnone] at hmem
      exact absurd hmem List.not_mem_nil
  · right
    have hdeeper : inside.filter (fun turn => turn.level == level) = [] := by
      rw [List.filter_eq_nil_iff]
      intro turn hturn
      have := expression.lt_level_of_mem_innerTurns (hinside.subset hturn)
      simp only [beq_iff_eq]
      omega
    simp [toldAt, htold, hdeeper]

/-- The run of some expressions is that of the first of them, which are those that it tells of at
their level; they are all of them unless it was stopped. -/
theorem exists_taken (expressions : List Expression) (level : Nat) (state : State σ) :
    ∃ taken untaken, expressions = taken ++ untaken ∧
      (runAll level state expressions).steps = (runAll level state taken).steps ∧
      toldAt level (runAll level state expressions).steps = taken ∧
      ((runAll level state expressions).stop = none → untaken = []) := by
  induction expressions generalizing state with
  | nil => exact ⟨[], [], rfl, rfl, rfl, fun _ => rfl⟩
  | cons expression rest ih =>
      simp only [runAll]
      cases hstop : (expression.run level state).stop with
      | some stop =>
          rw [Run.andThen_of_stop hstop]
          rcases expression.toldAt_run level state with ⟨hsteps, -⟩ | htold
          · refine ⟨[], expression :: rest, rfl, ?_, ?_, ?_⟩
            · rw [hsteps]
              rfl
            · rw [hsteps]
              rfl
            · simp [hstop]
          · refine ⟨[expression], rest, rfl, ?_, htold, ?_⟩
            · simp only [runAll]
              rw [Run.andThen_of_stop hstop]
            · simp [hstop]
      | none =>
          obtain ⟨taken, untaken, hrest, hsteps, htold, hall⟩ :=
            ih (expression.run level state).state
          have hfirst : toldAt level (expression.run level state).steps = [expression] :=
            (expression.toldAt_run level state).resolve_left (by simp [hstop])
          rw [Run.andThen_of_none hstop]
          refine ⟨expression :: taken, untaken, by simp [hrest], ?_, ?_, hall⟩
          · simp only [runAll]
            rw [Run.andThen_of_none hstop, hsteps]
          · rw [toldAt_append, hfirst, htold, List.singleton_append]

/-- A match reports one step. -/
theorem Expression.exists_steps_of_match {expression : Expression} {level : Nat} {state : State σ}
    (h : (expression.attempt level state).2 = true) :
    ∃ value result,
      (expression.attempt level state).1.steps = [.matched level expression value result] := by
  have hattempted := expression.attempted level state
  generalize expression.attempt level state = attempt at h hattempted ⊢
  cases hattempted with
  | failed error => exact absurd h (by simp)
  | unmatched value => exact absurd h (by simp)
  | matched value rewritten => exact ⟨value, _, rfl⟩

theorem stop_of_playAll_append {turns later : List Turn} {state : State σ}
    (h : (playAll state (turns ++ later)).stop = none) : (playAll state turns).stop = none := by
  cases hstop : (playAll state turns).stop with
  | none => rfl
  | some stop =>
      rw [playAll_append, Run.andThen_of_stop hstop, hstop] at h
      exact absurd h (by simp)

/-- A step of an evaluation that tells of a turn: the run gets to it with the steps before it, at
the place that these tell. -/
theorem exists_reached_of_step {expressions : List Expression} {subject : σ}
    {before after : List Step} {step : Step} {turn : Turn}
    (h : (evaluate expressions subject).steps = before ++ step :: after)
    (hstep : step.turn? = some turn) :
    ∃ earlier later, Reached 0 { subject } expressions (placeBehind before turn.level) earlier turn
        later ∧
      turnsAll 0 { subject } expressions = earlier ++ turn :: later ∧
      (playAll { subject } earlier).stop = none ∧ (playAll { subject } earlier).steps = before ∧
      (turn.expression.attempt turn.level (playAll { subject } earlier).state).1.steps =
        [step] := by
  rw [evaluate_eq_evaluateFrom, evaluateFrom, Run.steps_finish, runAll_eq_playAll] at h
  obtain ⟨earlier, later, hturns, hstop, hbefore, hattempt⟩ := exists_turn_of_step h hstep
  obtain ⟨place, hreached⟩ := exists_reached expressions hturns
  have htold : told before = earlier := hbefore ▸ (told_playAll earlier _).2 hstop
  have hplace : placeBehind before turn.level = place := by
    rw [placeBehind, htold]
    exact hreached.nextPlace_placeFrom_nil
  exact ⟨earlier, later, hplace ▸ hreached, hturns, hstop, hbefore, hattempt⟩

theorem deeper_of_playAll {turns : List Turn} {level : Nat} (h : ∀ turn ∈ turns, level < turn.level)
    (state : State σ) : ∀ step ∈ (playAll state turns).steps, step.Deeper level := by
  refine Step.deeper_of_told fun turn hturn => h turn ?_
  exact (told_playAll turns state).1.subset hturn

/-- What an evaluation reports, and what its functions do, is ruled by the tree of its
expressions. -/
structure Gated (expressions : List Expression) (subject : σ) : Prop where
  /-- At every point, the subject is what the functions of the matches so far make of it. -/
  acts : ∀ earlier later, turnsAll 0 { subject } expressions = earlier ++ later →
    (playAll { subject } earlier).state.subject =
      (functionsOf (playAll { subject } earlier).steps).foldl
        (fun subject effect => effect.act subject) subject
  /-- The same at the end, before anything is written back. -/
  actsAll : (runAll 0 { subject } expressions).state.subject =
    (functionsOf (evaluate expressions subject).steps).foldl
      (fun subject effect => effect.act subject) subject
  /-- The place that the steps tell is that of the expression. -/
  placed : ∀ before step after level expression,
    (evaluate expressions subject).steps = before ++ step :: after →
    step.turn? = some ⟨level, expression⟩ →
    (placeBehind before level).length = level + 1 ∧
      expressionAt? expressions (placeBehind before level) = some expression
  /-- A step inside a block follows on the match of the block, with no step between them that is not
  inside the block. -/
  enclosed : ∀ before step after level expression,
    (evaluate expressions subject).steps = before ++ step :: after →
    step.turn? = some ⟨level + 1, expression⟩ →
    ∃ outer rule children value result between index,
      before = outer ++ .matched level (.block rule children) value result :: between ∧
      expression ∈ children ∧ (∀ other ∈ between, other.Deeper level) ∧
      placeBehind before (level + 1) = placeBehind outer level ++ [index]
  /-- The steps behind the match of a block are the run of its first expressions, up to the next
  step that is not inside it; they are that of all of them unless the evaluation ends there. -/
  inside : ∀ before level rule children value result after,
    (evaluate expressions subject).steps =
      before ++ .matched level (.block rule children) value result :: after →
    ∃ earlier later,
      turnsAll 0 { subject } expressions = earlier ++ ⟨level, .block rule children⟩ :: later ∧
      let found := playAll { subject } earlier
      let left := ((Expression.block rule children).attempt level found.state).1.state
      let block := runAll (level + 1) left children
      found.steps = before ∧ found.stop = none ∧
      ∃ taken untaken rest, children = taken ++ untaken ∧ after = block.steps ++ rest ∧
        block.steps = (runAll (level + 1) left taken).steps ∧
        toldAt (level + 1) block.steps = taken ∧
        (∀ step ∈ block.steps, step.Deeper level) ∧
        (∀ step ∈ rest.head?, ∃ turn, step.turn? = some turn ∧ turn.level ≤ level) ∧
        (block.stop = none → untaken = []) ∧
        ∀ stop, block.stop = some stop →
          rest = [] ∧ (runAll 0 { subject } expressions).stop = some stop
  /-- No step stands below that of an expression that did not match. -/
  shut : ∀ before level expression value after before' step' after' turn index inner,
    (evaluate expressions subject).steps = before ++ .unmatched level expression value :: after →
    (evaluate expressions subject).steps = before' ++ step' :: after' →
    step'.turn? = some turn →
    placeBehind before' turn.level ≠ placeBehind before level ++ index :: inner

/-- Behind a place, the next turn one level deeper is that of an expression in its block. -/
theorem exists_nextPlace_below {base last : List Nat} {level : Nat} (hbase : base.length = level)
    (hlast : base <+: last) : ∃ index, nextPlace level last = base ++ [index] := by
  obtain ⟨below, rfl⟩ := hlast
  cases below with
  | nil => exact ⟨0, by rw [List.append_nil, nextPlace_first hbase]⟩
  | cons index below => exact ⟨index + 1, nextPlace_of_isPrefix hbase ⟨below, by simp⟩⟩

theorem length_nextPlace {expressions : List Expression} {state : State σ}
    {earlier later : List Turn} {turn : Turn}
    (h : turnsAll 0 state expressions = earlier ++ turn :: later) :
    (nextPlace turn.level (placeFrom [] earlier)).length = turn.level + 1 := by
  obtain ⟨place, hreached⟩ := exists_reached expressions h
  rw [hreached.nextPlace_placeFrom_nil, ← hreached.length_place, Nat.zero_add]

theorem enclosed_of_step {expressions : List Expression} {subject : σ} {before after : List Step}
    {step : Step} {level : Nat} {expression : Expression}
    (h : (evaluate expressions subject).steps = before ++ step :: after)
    (hstep : step.turn? = some ⟨level + 1, expression⟩) :
    ∃ outer rule children value result between index,
      before = outer ++ .matched level (.block rule children) value result :: between ∧
      expression ∈ children ∧ (∀ other ∈ between, other.Deeper level) ∧
      placeBehind before (level + 1) = placeBehind outer level ++ [index] := by
  obtain ⟨earlier, later, hreached, hturns, hstop, hbefore, -⟩ := exists_reached_of_step h hstep
  rcases hreached.enclosed with ⟨hlevel, -⟩ |
    ⟨outer, outerLevel, rule, children, between, hlevel, rfl, hmem, hbetween, hmatch⟩
  · exact absurd hlevel (by simp)
  · obtain rfl : level = outerLevel := by simpa using hlevel
    -- the run was not stopped before the block
    have houter := stop_of_playAll_append hstop
    have htold := (told_playAll outer { subject }).2 houter
    have hwhole := (told_playAll _ { subject }).2 hstop
    obtain ⟨value, result, hsteps⟩ := Expression.exists_steps_of_match hmatch
    refine ⟨(playAll { subject } outer).steps, rule, children, value, result,
      (playAll ((Expression.block rule children).attempt level
        (playAll { subject } outer).state).1.state between).steps, ?_⟩
    have hplace : placeBehind (playAll { subject } outer).steps level =
        nextPlace level (placeFrom [] outer) := by rw [placeBehind, htold]
    rw [List.append_assoc] at hturns
    have hlength := length_nextPlace hturns
    have hbelow : nextPlace level (placeFrom [] outer) <+:
        placeFrom (nextPlace level (placeFrom [] outer)) between :=
      isPrefix_placeFrom (fun other hother => hlength ▸ hbetween other hother) List.prefix_rfl
    obtain ⟨index, hindex⟩ := exists_nextPlace_below hlength hbelow
    refine ⟨index, ?_, hmem, deeper_of_playAll hbetween _, ?_⟩
    · rw [← hbefore, playAll_append, Run.andThen_of_none houter]
      simp only [playAll, Turn.play]
      rw [Run.andThen_of_none (Expression.stop_of_attempt hmatch), hsteps]
      rfl
    · rw [hplace, ← hindex, placeBehind, ← hbefore, hwhole, placeFrom_append]
      rfl

/-- Turns of which the first stands no deeper than `level` are first told by a step that stands no
deeper. -/
theorem level_of_head?_playAll {turns : List Turn} {level : Nat} {state : State σ}
    (h : ∀ next ∈ turns.head?, next.level ≤ level) :
    ∀ step ∈ (playAll state turns).steps.head?,
      ∃ turn, step.turn? = some turn ∧ turn.level ≤ level := by
  intro step hstep
  cases turns with
  | nil => exact absurd hstep (by simp [playAll])
  | cons turn turns =>
      simp only [playAll] at hstep
      rcases turn.steps_play state with ⟨hsteps, hstop⟩ | ⟨first, notes, hsteps, hturn, -⟩
      · obtain ⟨stop, hstop⟩ := Option.isSome_iff_exists.1 hstop
        rw [Run.andThen_of_stop hstop, hsteps] at hstep
        exact absurd hstep (by simp)
      · have hhead : ((turn.play state).andThen fun state => playAll state turns).steps.head? =
            some first := by
          cases hstop : (turn.play state).stop with
          | none => simp [Run.andThen_of_none hstop, hsteps]
          | some stop => simp [Run.andThen_of_stop hstop, hsteps]
        rw [hhead, Option.mem_some_iff] at hstep
        exact ⟨turn, hstep ▸ hturn, h turn (by simp)⟩

/-- The turns of an expression, inside it too, are its run. -/
theorem playAll_turns {earlier rest : List Turn} {state : State σ} {turn : Turn}
    (hstop : (playAll state earlier).stop = none) :
    (playAll state (earlier ++ turn ::
        (turn.expression.innerTurns turn.level (playAll state earlier).state ++ rest))).steps =
      (playAll state earlier).steps ++
        ((turn.expression.run turn.level (playAll state earlier).state).andThen
          fun state => playAll state rest).steps := by
  rw [← List.cons_append, ← turn.expression.turns_eq turn.level, playAll_append,
    Run.andThen_of_none hstop, playAll_append, ← Expression.run_eq_playAll]

/-- A reported match is a match, and behind it the block is run. -/
theorem Expression.run_of_matched {rule : Rule} {children : List Expression} {level : Nat}
    {state : State σ} {value result : String}
    (h : ((Expression.block rule children).attempt level state).1.steps =
      [.matched level (.block rule children) value result]) :
    let block := runAll (level + 1) ((Expression.block rule children).attempt level state).1.state
      children
    (Expression.block rule children).run level state =
      ⟨.matched level (.block rule children) value result :: block.steps, block.state,
        block.stop⟩ := by
  intro block
  have hmatch : ((Expression.block rule children).attempt level state).2 = true := by
    have hattempted := (Expression.block rule children).attempted level state
    generalize (Expression.block rule children).attempt level state = attempt at h hattempted
    cases hattempted with
    | failed error => exact absurd h (by simp)
    | unmatched value => exact absurd h (by simp)
    | matched value rewritten => rfl
  simp only [Expression.run, hmatch, if_true]
  rw [Run.andThen_of_none (Expression.stop_of_attempt hmatch), h]
  rfl

theorem inside_of_step {expressions : List Expression} {subject : σ} {before after : List Step}
    {level : Nat} {rule : Rule} {children : List Expression} {value result : String}
    (h : (evaluate expressions subject).steps =
      before ++ .matched level (.block rule children) value result :: after) :
    ∃ earlier later,
      turnsAll 0 { subject } expressions = earlier ++ ⟨level, .block rule children⟩ :: later ∧
      let found := playAll { subject } earlier
      let left := ((Expression.block rule children).attempt level found.state).1.state
      let block := runAll (level + 1) left children
      found.steps = before ∧ found.stop = none ∧
      ∃ rest, after = block.steps ++ rest ∧
        (∀ step ∈ block.steps, step.Deeper level) ∧
        (∀ step ∈ rest.head?, ∃ turn, step.turn? = some turn ∧ turn.level ≤ level) ∧
        ∀ stop, block.stop = some stop →
          rest = [] ∧ (runAll 0 { subject } expressions).stop = some stop := by
  obtain ⟨earlier, later, hreached, hturns, hstop, hbefore, hattempt⟩ :=
    exists_reached_of_step h rfl
  refine ⟨earlier, later, hturns, ?_⟩
  intro found left block
  have hrun : (Expression.block rule children).run level found.state =
      ⟨.matched level (.block rule children) value result :: block.steps, block.state,
        block.stop⟩ := Expression.run_of_matched hattempt
  have hdeeper : ∀ step ∈ block.steps, step.Deeper level :=
    Step.deeper_of_told fun turn hturn =>
      le_level_of_mem_turnsAll children ((isPrefix_told_runAll children _ left).subset hturn)
  obtain ⟨rest, rfl, hhead⟩ := hreached.exists_later
  have hafter : .matched level (.block rule children) value result :: after =
      (((Expression.block rule children).run level found.state).andThen
        fun state => playAll state rest).steps := by
    have hsteps := h
    rw [evaluate_eq_evaluateFrom, evaluateFrom, Run.steps_finish, runAll_eq_playAll, hturns,
      playAll_turns hstop, hbefore] at hsteps
    exact (List.append_cancel_left hsteps).symm
  refine ⟨hbefore, hstop, ?_⟩
  cases hblock : block.stop with
  | none =>
      rw [Run.andThen_of_none (by rw [hrun, hblock]), hrun] at hafter
      refine ⟨(playAll block.state rest).steps, (List.cons.inj hafter).2, hdeeper,
        level_of_head?_playAll hhead, ?_⟩
      exact fun stop hsome => absurd hsome (by simp)
  | some stop =>
      have hends : ((Expression.block rule children).run level found.state).stop = some stop := by
        rw [hrun, hblock]
      rw [Run.andThen_of_stop hends, hrun] at hafter
      refine ⟨[], by simpa using hafter, hdeeper, by simp, ?_⟩
      rintro _ ⟨rfl⟩
      exact ⟨rfl, hreached.stop_runAll hends⟩

theorem shut_of_step {expressions : List Expression} {subject : σ}
    {before after before' after' : List Step} {level : Nat} {expression : Expression}
    {value : String} {step : Step} {turn : Turn}
    (h : (evaluate expressions subject).steps =
      before ++ .unmatched level expression value :: after)
    (h' : (evaluate expressions subject).steps = before' ++ step :: after')
    (hstep : step.turn? = some turn) (index : Nat) (inner : List Nat) :
    placeBehind before' turn.level ≠ placeBehind before level ++ index :: inner := by
  intro hbelow
  obtain ⟨earlier, later, hreached, -, -, -, hattempt⟩ := exists_reached_of_step h rfl
  obtain ⟨earlier', later', hreached', -⟩ := exists_reached_of_step h' hstep
  rw [hbelow] at hreached'
  obtain ⟨value', result, hsteps⟩ :=
    Expression.exists_steps_of_match (hreached.match_of_below hreached')
  rw [hattempt] at hsteps
  exact absurd hsteps (by simp)

/-- Blocks gate. The levels of the steps tell the place of each one in the tree, whatever the
evaluation comes to. A step inside a block follows on the match of the block; the steps behind such
a match are the run of the first expressions of the block, and of all of them unless the evaluation
ends there; and nothing is told from inside an expression that did not match. What is done to the
subject, which may be any and may keep a record of it, is what the functions of the matches do, each
once and in order. -/
theorem evaluate_gated (expressions : List Expression) (subject : σ) :
    Gated expressions subject where
  acts earlier later _ := by rw [subject_playAll, actAll_eq_functionsOf]
  actsAll := by
    rw [subject_runAll, actAll_eq_functionsOf, evaluate_eq_evaluateFrom, evaluateFrom,
      Run.steps_finish]
  placed := by
    intro before step after level expression h hstep
    obtain ⟨earlier, later, hreached, -⟩ := exists_reached_of_step h hstep
    have hlength := hreached.length_place
    exact ⟨by simpa using hlength, hreached.expressionAt?⟩
  enclosed before step after level expression h hstep := enclosed_of_step h hstep
  inside := by
    intro before level rule children value result after h
    obtain ⟨earlier, later, hturns, hbefore, hstop, rest, hafter, hdeeper, hhead, hends⟩ :=
      inside_of_step h
    obtain ⟨taken, untaken, hchildren, hsteps, htold, hall⟩ := exists_taken children (level + 1)
      ((Expression.block rule children).attempt level (playAll { subject } earlier).state).1.state
    exact ⟨earlier, later, hturns, hbefore, hstop, taken, untaken, rest, hchildren, hafter, hsteps,
      htold, hdeeper, hhead, hall, hends⟩
  shut before level expression value after before' step' after' turn index inner h h' hstep :=
    shut_of_step h h' hstep index inner

/-- The expression of a block is told behind the match of the block, and its place is read off the
levels. -/
theorem evaluate_gated_nested :
    let inner : Expression := .leaf ⟨{}, none, none⟩ .none
    let block : Expression := .block ⟨{}, none, none⟩ [inner]
    let histogram : Histogram := { name := "h" }
    (evaluate [block] histogram).steps =
        [.matched 0 block "h" "h"] ++ .matched 1 inner "h" "h" :: [] ∧
      placeBehind [.matched 0 block "h" "h"] 1 = [0, 0] ∧
      expressionAt? [block] [0, 0] = some inner := by
  intro inner block histogram
  have hsteps : (evaluate [block] histogram).steps =
      [.matched 0 block "h" "h"] ++ .matched 1 inner "h" "h" :: [] := rfl
  exact ⟨hsteps, rfl, ((evaluate_gated [block] histogram).placed _ _ _ _ _ hsteps rfl).2⟩

end

end HistEdit
