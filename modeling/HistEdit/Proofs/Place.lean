import HistEdit.Proofs.Turns

/-!
Places in a tree of expressions, and the turns of a run at their places. A run gets to a place along
the blocks around it, each of which matched; on the way it has run all that stands in front of them.
The levels of the turns alone tell their places: a deeper turn opens the block of the one before it,
and any other turn is that of the next expression in its list.
-/

namespace HistEdit

/-- The expression at a place: the index of an expression, then that of one in its block, and so
on. -/
def expressionAt? (expressions : List Expression) : List Nat → Option Expression
  | [] => none
  | [index] => expressions[index]?
  | index :: next :: place =>
    match expressions[index]? with
    | some (.block _ children) => expressionAt? children (next :: place)
    | some (.leaf ..) | none => none

/-- The place of the turn at `level` that comes next behind the turn at the place `last`. -/
def nextPlace (level : Nat) (last : List Nat) : List Nat :=
  match last.drop level with
  | [] => last ++ [0]
  | index :: _ => last.take level ++ [index + 1]

/-- The place of the last of some turns that follow the turn at the place `last`. -/
def placeFrom (last : List Nat) (turns : List Turn) : List Nat :=
  turns.foldl (fun last turn => nextPlace turn.level last) last

section Places

variable {level index : Nat} {base last : List Nat}

theorem nextPlace_first (h : base.length = level) : nextPlace level base = base ++ [0] := by
  simp [nextPlace, ← h]

/-- Behind anything at or below a place, the next place at its level has the next index. -/
theorem nextPlace_of_isPrefix (h : base.length = level) (hlast : base ++ [index] <+: last) :
    nextPlace level last = base ++ [index + 1] := by
  obtain ⟨below, rfl⟩ := hlast
  simp [nextPlace, ← h]

theorem isPrefix_nextPlace (hlevel : base.length ≤ level) (hlast : base <+: last) :
    base <+: nextPlace level last := by
  unfold nextPlace
  split
  · exact hlast.trans (List.prefix_append _ _)
  · exact (List.prefix_take_iff.2 ⟨hlast, hlevel⟩).trans (List.prefix_append _ _)

/-- Turns below a place stay below it. -/
theorem isPrefix_placeFrom {turns : List Turn} (hturns : ∀ turn ∈ turns, base.length ≤ turn.level)
    (hlast : base <+: last) : base <+: placeFrom last turns := by
  induction turns generalizing last with
  | nil => exact hlast
  | cons turn turns ih =>
      obtain ⟨hturn, hrest⟩ := List.forall_mem_cons.1 hturns
      exact ih hrest (isPrefix_nextPlace hturn hlast)

theorem placeFrom_append (last : List Nat) (turns later : List Turn) :
    placeFrom last (turns ++ later) = placeFrom (placeFrom last turns) later :=
  List.foldl_append

end Places

section

variable {σ : Type} [Subject σ]

def Expression.innerTurns (level : Nat) (state : State σ) : Expression → List Turn
  | .leaf .. => []
  | .block rule children =>
    let (run, isMatch) := (Expression.block rule children).attempt level state
    if isMatch then turnsAll (level + 1) run.state children else []

/-- The turns of expressions that follow a run; none when it was stopped. -/
def turnsAfter (run : Run σ) (level : Nat) (expressions : List Expression) : List Turn :=
  if run.stop.isNone then turnsAll level run.state expressions else []

theorem Expression.turns_eq (expression : Expression) (level : Nat) (state : State σ) :
    expression.turns level state = ⟨level, expression⟩ :: expression.innerTurns level state := by
  cases expression <;> rfl

theorem turnsAll_cons (level : Nat) (state : State σ) (expression : Expression)
    (rest : List Expression) :
    turnsAll level state (expression :: rest) =
      ⟨level, expression⟩ ::
        (expression.innerTurns level state ++
          turnsAfter (expression.run level state) level rest) := by
  simp only [turnsAll, Expression.turns_eq, turnsAfter, List.cons_append]

theorem turnsAfter_of_none {run : Run σ} (h : run.stop = none) (level : Nat)
    (expressions : List Expression) :
    turnsAfter run level expressions = turnsAll level run.state expressions := by
  simp [turnsAfter, h]

theorem turnsAfter_of_stop {run : Run σ} {stop : Stop} (h : run.stop = some stop) (level : Nat)
    (expressions : List Expression) : turnsAfter run level expressions = [] := by
  simp [turnsAfter, h]

mutual

theorem Expression.lt_level_of_mem_innerTurns (expression : Expression) {level : Nat}
    {state : State σ} {turn : Turn} (h : turn ∈ expression.innerTurns level state) :
    level < turn.level := by
  cases expression with
  | leaf rule effect => exact absurd h List.not_mem_nil
  | block rule children =>
      simp only [Expression.innerTurns] at h
      split at h
      · exact le_level_of_mem_turnsAll children h
      · exact absurd h List.not_mem_nil

/-- No turn of some expressions stands above them. -/
theorem le_level_of_mem_turnsAll (expressions : List Expression) {level : Nat} {state : State σ}
    {turn : Turn} (h : turn ∈ turnsAll level state expressions) : level ≤ turn.level := by
  cases expressions with
  | nil => exact absurd h List.not_mem_nil
  | cons expression rest =>
      rw [turnsAll_cons] at h
      rcases List.mem_cons.1 h with rfl | h
      · exact Nat.le_refl _
      · rcases List.mem_append.1 h with hinside | hrest
        · exact Nat.le_of_lt (expression.lt_level_of_mem_innerTurns hinside)
        · simp only [turnsAfter] at hrest
          split at hrest
          · exact le_level_of_mem_turnsAll rest hrest
          · exact absurd hrest List.not_mem_nil

end

theorem level_of_head?_turnsAfter {run : Run σ} {level : Nat} {expressions : List Expression} :
    ∀ turn ∈ (turnsAfter run level expressions).head?, turn.level = level := by
  intro turn hturn
  unfold turnsAfter at hturn
  split at hturn
  · cases expressions with
    | nil => exact absurd hturn (by simp [turnsAll])
    | cons expression rest =>
        rw [turnsAll_cons, List.head?_cons, Option.mem_some_iff] at hturn
        rw [← hturn]
  · exact absurd hturn (by simp)

/-- The state in which a run of expressions gets to the one at an index. -/
def stateAt (level : Nat) (state : State σ) (expressions : List Expression) (index : Nat) :
    State σ :=
  (runAll level state (expressions.take index)).state

/-- How a run gets to the expression at a place: the turns before it, its own turn, and those behind
it. Either the expression stands in the list that is run, or in the block of one that matched. -/
inductive Reached :
    Nat → State σ → List Expression → List Nat → List Turn → Turn → List Turn → Prop
  | here {level : Nat} {state : State σ} {expressions : List Expression} {index : Nat}
      {expression : Expression} (hat : expressions[index]? = some expression)
      (hstop : (runAll level state (expressions.take index)).stop = none) :
      Reached level state expressions [index] (turnsAll level state (expressions.take index))
        ⟨level, expression⟩
        (expression.innerTurns level (stateAt level state expressions index) ++
          turnsAfter (expression.run level (stateAt level state expressions index)) level
            (expressions.drop (index + 1)))
  | inside {level : Nat} {state : State σ} {expressions : List Expression} {index : Nat}
      {rule : Rule} {children : List Expression} {place : List Nat} {earlier later : List Turn}
      {turn : Turn} (hat : expressions[index]? = some (.block rule children))
      (hstop : (runAll level state (expressions.take index)).stop = none)
      (hmatch : ((Expression.block rule children).attempt level
        (stateAt level state expressions index)).2 = true)
      (hinside : Reached (level + 1) ((Expression.block rule children).attempt level
        (stateAt level state expressions index)).1.state children place earlier turn later) :
      Reached level state expressions (index :: place)
        (turnsAll level state (expressions.take index) ++
          ⟨level, .block rule children⟩ :: earlier) turn
        (later ++ turnsAfter ((Expression.block rule children).run level
          (stateAt level state expressions index)) level (expressions.drop (index + 1)))

theorem stateAt_cons (level : Nat) (state : State σ) (expression : Expression)
    (rest : List Expression) (index : Nat) (h : (expression.run level state).stop = none) :
    stateAt level state (expression :: rest) (index + 1) =
      stateAt level (expression.run level state).state rest index := by
  simp only [stateAt, List.take_succ_cons, runAll, Run.andThen_of_none h]

/-- A stop of one expression is the stop of the list that is run. -/
theorem stop_runAll_of_getElem? {level : Nat} {state : State σ} {expressions : List Expression}
    {index : Nat} {expression : Expression} {stop : Stop}
    (hat : expressions[index]? = some expression)
    (hdone : (runAll level state (expressions.take index)).stop = none)
    (hrun : (expression.run level (stateAt level state expressions index)).stop = some stop) :
    (runAll level state expressions).stop = some stop := by
  obtain ⟨hindex, rfl⟩ := List.getElem?_eq_some_iff.1 hat
  unfold stateAt at hrun
  rw [← List.take_append_drop index expressions, List.drop_eq_getElem_cons hindex, runAll_append,
    Run.andThen_of_none hdone]
  simp only [runAll]
  rw [Run.andThen_of_stop hrun]
  exact hrun

/-- One more expression in front, whose run was not stopped. -/
theorem Reached.cons {level : Nat} {state : State σ} {expression : Expression}
    {rest : List Expression} {index : Nat} {place : List Nat} {earlier later : List Turn}
    {turn : Turn} (hstop : (expression.run level state).stop = none)
    (h : Reached level (expression.run level state).state rest (index :: place) earlier turn
      later) :
    Reached level state (expression :: rest) ((index + 1) :: place)
      (⟨level, expression⟩ :: (expression.innerTurns level state ++ earlier)) turn later := by
  have hrun (index : Nat)
      (hrest : (runAll level (expression.run level state).state (rest.take index)).stop = none) :
      (runAll level state ((expression :: rest).take (index + 1))).stop = none := by
    simp only [List.take_succ_cons, runAll, Run.andThen_of_none hstop, hrest]
  have hturns (index : Nat) : turnsAll level state ((expression :: rest).take (index + 1)) =
      ⟨level, expression⟩ :: (expression.innerTurns level state ++
        turnsAll level (expression.run level state).state (rest.take index)) := by
    rw [List.take_succ_cons, turnsAll_cons, turnsAfter_of_none hstop]
  have hstate := stateAt_cons level state expression rest index hstop
  cases h with
  | @here _ _ _ _ found hat hrest =>
      have hhere := @Reached.here σ _ level state (expression :: rest) (index + 1) found hat
        (hrun index hrest)
      rw [hturns, hstate] at hhere
      exact hhere
  | @inside _ _ _ _ rule children _ earlier later _ hat hrest hmatch hinside =>
      rw [← hstate] at hmatch hinside
      have hbelow := @Reached.inside σ _ level state (expression :: rest) (index + 1) rule children
        _ earlier later turn hat (hrun index hrest) hmatch hinside
      rw [hturns, hstate] at hbelow
      simpa using hbelow

mutual

theorem Expression.exists_reached (expression : Expression) {level : Nat} {state : State σ}
    {earlier later : List Turn} {turn : Turn}
    (h : expression.innerTurns level state = earlier ++ turn :: later) :
    ∃ rule children place, expression = .block rule children ∧
      (expression.attempt level state).2 = true ∧
      Reached (level + 1) (expression.attempt level state).1.state children place earlier turn
        later := by
  cases expression with
  | leaf rule effect => exact absurd h (by simp [Expression.innerTurns])
  | block rule children =>
      simp only [Expression.innerTurns] at h
      split at h
      · rename_i hmatch
        obtain ⟨place, hreached⟩ := exists_reached children h
        exact ⟨rule, children, place, rfl, hmatch, hreached⟩
      · exact absurd h (by simp)

/-- Every turn of a run is at some place. -/
theorem exists_reached (expressions : List Expression) {level : Nat} {state : State σ}
    {earlier later : List Turn} {turn : Turn}
    (h : turnsAll level state expressions = earlier ++ turn :: later) :
    ∃ place, Reached level state expressions place earlier turn later := by
  cases expressions with
  | nil => exact absurd h (by simp [turnsAll])
  | cons expression rest =>
      rw [turnsAll_cons] at h
      cases earlier with
      | nil =>
          obtain ⟨rfl, rfl⟩ := List.cons.inj h
          exact ⟨[0], .here rfl rfl⟩
      | cons first earlier =>
          obtain ⟨rfl, hinner⟩ := List.cons.inj h
          rcases append_eq_append_cons hinner with ⟨after, hinside, rfl⟩ | ⟨behind, rfl, hrest⟩
          · obtain ⟨rule, children, place, rfl, hmatch, hreached⟩ :=
              expression.exists_reached hinside
            exact ⟨0 :: place, @Reached.inside σ _ level state (.block rule children :: rest) 0 rule
              children place _ _ turn rfl rfl hmatch hreached⟩
          · cases hstop : (expression.run level state).stop with
            | some stop =>
                rw [turnsAfter_of_stop hstop] at hrest
                exact absurd hrest (by simp)
            | none =>
                rw [turnsAfter_of_none hstop] at hrest
                obtain ⟨place, hreached⟩ := exists_reached rest hrest
                cases hplace : place with
                | nil =>
                    rw [hplace] at hreached
                    cases hreached
                | cons index place =>
                    exact ⟨_, .cons hstop (hplace ▸ hreached)⟩

end

namespace Reached

variable {level : Nat} {state : State σ} {expressions : List Expression} {place : List Nat}
  {earlier later : List Turn} {turn : Turn}

theorem ne_nil (h : Reached level state expressions place earlier turn later) : place ≠ [] := by
  cases h <;> simp

/-- The expression at the place is the one whose turn it is. -/
theorem expressionAt? (h : Reached level state expressions place earlier turn later) :
    HistEdit.expressionAt? expressions place = some turn.expression := by
  induction h with
  | here hat hstop => exact hat
  | @inside level state expressions index rule children place earlier later turn hat hstop hmatch
      hinside ih =>
      cases hplace : place with
      | nil => exact absurd hplace hinside.ne_nil
      | cons next place =>
          rw [hplace] at ih
          simp only [HistEdit.expressionAt?, hat, ih]

theorem length_place (h : Reached level state expressions place earlier turn later) :
    level + place.length = turn.level + 1 := by
  induction h with
  | here hat hstop => rfl
  | inside hat hstop hmatch hinside ih =>
      rw [List.length_cons]
      omega

/-- The turns of a list that is run to its end count its expressions. -/
theorem nextPlace_turnsAll {base last : List Nat} {index : Nat} (hbase : base.length = level)
    (hlast : nextPlace level last = base ++ [index])
    (hstop : (runAll level state expressions).stop = none) :
    nextPlace level (placeFrom last (turnsAll level state expressions)) =
      base ++ [index + expressions.length] := by
  induction expressions generalizing state last index with
  | nil => exact hlast
  | cons expression rest ih =>
      cases hfirst : (expression.run level state).stop with
      | some stop =>
          simp only [runAll, Run.andThen_of_stop hfirst] at hstop
          rw [hfirst] at hstop
          exact absurd hstop (by simp)
      | none =>
          simp only [runAll, Run.andThen_of_none hfirst] at hstop
          rw [turnsAll_cons, turnsAfter_of_none hfirst, ← List.cons_append, placeFrom_append]
          -- the turns inside the expression stay below its place
          have hbelow : base ++ [index] <+: placeFrom last
              (⟨level, expression⟩ :: expression.innerTurns level state) := by
            change base ++ [index] <+:
              placeFrom (nextPlace level last) (expression.innerTurns level state)
            refine isPrefix_placeFrom ?_ ?_
            · intro turn hturn
              have hlevel := expression.lt_level_of_mem_innerTurns hturn
              rw [List.length_append, hbase]
              exact hlevel
            · exact hlast ▸ List.prefix_rfl
          have hrest := ih (nextPlace_of_isPrefix hbase hbelow) hstop
          rw [hrest, List.length_cons, Nat.add_assoc, Nat.add_comm 1]

/-- The levels of the turns before it tell the place of a turn. -/
theorem nextPlace_placeFrom (h : Reached level state expressions place earlier turn later)
    {base last : List Nat} (hbase : base.length = level)
    (hlast : nextPlace level last = base ++ [0]) :
    nextPlace turn.level (placeFrom last earlier) = base ++ place := by
  induction h generalizing base last with
  | @here level state expressions index expression hat hstop =>
      have hcount := nextPlace_turnsAll hbase hlast hstop
      have hindex : index < expressions.length := (List.getElem?_eq_some_iff.1 hat).1
      rwa [List.length_take_of_le (Nat.le_of_lt hindex), Nat.zero_add] at hcount
  | @inside level state expressions index rule children place earlier later turn hat hstop hmatch
      hinside ih =>
      have hcount := nextPlace_turnsAll hbase hlast hstop
      have hindex : index < expressions.length := (List.getElem?_eq_some_iff.1 hat).1
      rw [List.length_take_of_le (Nat.le_of_lt hindex), Nat.zero_add] at hcount
      have hlength : (base ++ [index]).length = level + 1 := by simp [hbase]
      have hplace := ih hlength (nextPlace_first hlength)
      rw [placeFrom_append, List.append_cons, ← hplace, ← hcount]
      rfl

theorem nextPlace_placeFrom_nil (h : Reached 0 state expressions place earlier turn later) :
    nextPlace turn.level (placeFrom [] earlier) = place := by
  have hbase : ([] : List Nat).length = 0 := rfl
  simpa using h.nextPlace_placeFrom hbase (nextPlace_first hbase)

/-- The first turns of a block behind those before the block lead to the same state as the turns of
the block alone, run from behind its own match. -/
theorem playAll_inside {index : Nat} {rule : Rule} {children : List Expression} {turns : List Turn}
    (hstop : (runAll level state (expressions.take index)).stop = none)
    (hmatch : ((Expression.block rule children).attempt level
      (stateAt level state expressions index)).2 = true) :
    (playAll state (turnsAll level state (expressions.take index) ++
        ⟨level, .block rule children⟩ :: turns)).state =
      (playAll ((Expression.block rule children).attempt level
        (stateAt level state expressions index)).1.state turns).state := by
  unfold stateAt at hmatch ⊢
  rw [playAll_append, ← runAll_eq_playAll, Run.andThen_of_none hstop]
  simp only [playAll, Turn.play]
  rw [Run.andThen_of_none (Expression.stop_of_attempt hmatch)]

/-- A turn is that of an expression of the list that is run, with no turn above it before; or the
last turn above it is that of a block that holds its expression, and which matched. -/
theorem enclosed (h : Reached level state expressions place earlier turn later) :
    (turn.level = level ∧ turn.expression ∈ expressions ∧ ∀ other ∈ earlier, level ≤ other.level) ∨
    ∃ outer outerLevel rule children between, turn.level = outerLevel + 1 ∧
      earlier = outer ++ ⟨outerLevel, .block rule children⟩ :: between ∧
      turn.expression ∈ children ∧ (∀ other ∈ between, outerLevel < other.level) ∧
      ((Expression.block rule children).attempt outerLevel (playAll state outer).state).2 =
        true := by
  induction h with
  | here hat hstop =>
      exact .inl ⟨rfl, List.mem_of_getElem? hat, fun other h => le_level_of_mem_turnsAll _ h⟩
  | @inside level state expressions index rule children place earlier later turn hat hstop hmatch
      hinside ih =>
      right
      rcases ih with ⟨hlevel, hmem, hearlier⟩ |
        ⟨outer, outerLevel, rule', children', between, hlevel, rfl, hmem, hbetween, hmatched⟩
      · refine ⟨turnsAll level state (expressions.take index), level, rule, children, earlier,
          hlevel, rfl, hmem, hearlier, ?_⟩
        rwa [← runAll_eq_playAll]
      · refine ⟨turnsAll level state (expressions.take index) ++ ⟨level, .block rule children⟩ ::
          outer, outerLevel, rule', children', between, hlevel, by simp, hmem, hbetween, ?_⟩
        rwa [playAll_inside hstop hmatch]

/-- A stop at the turn of an expression is the stop of the whole run. -/
theorem stop_runAll (h : Reached level state expressions place earlier turn later) {stop : Stop}
    (hturn : (turn.expression.run turn.level (playAll state earlier).state).stop = some stop) :
    (runAll level state expressions).stop = some stop := by
  induction h with
  | here hat hstop =>
      rw [← runAll_eq_playAll] at hturn
      exact stop_runAll_of_getElem? hat hstop hturn
  | inside hat hstop hmatch hinside ih =>
      rw [playAll_inside hstop hmatch] at hturn
      refine stop_runAll_of_getElem? hat hstop ?_
      simp only [Expression.run, hmatch, if_true]
      rw [Run.andThen_of_none (Expression.stop_of_attempt hmatch)]
      exact ih hturn

/-- Behind a turn come the turns inside its expression. What follows on them begins no deeper than
the turn. -/
theorem exists_later (h : Reached level state expressions place earlier turn later) :
    ∃ rest, later =
        turn.expression.innerTurns turn.level (playAll state earlier).state ++ rest ∧
      ∀ next ∈ rest.head?, next.level ≤ turn.level := by
  induction h with
  | here hat hstop =>
      rw [← runAll_eq_playAll]
      exact ⟨_, rfl, fun next hnext => Nat.le_of_eq (level_of_head?_turnsAfter next hnext)⟩
  | inside hat hstop hmatch hinside ih =>
      rw [playAll_inside hstop hmatch]
      obtain ⟨rest, rfl, hhead⟩ := ih
      refine ⟨_, List.append_assoc _ _ _, ?_⟩
      intro next hnext
      cases rest with
      | nil =>
          have hlevel := level_of_head?_turnsAfter next hnext
          have hlength := hinside.length_place
          have hpos := List.length_pos_iff.2 hinside.ne_nil
          omega
      | cons first rest => exact hhead next hnext

/-- A run gets below a place only when the expression there matched. -/
theorem match_of_below (h : Reached level state expressions place earlier turn later)
    {index : Nat} {inner : List Nat} {earlier' later' : List Turn} {turn' : Turn}
    (hbelow : Reached level state expressions (place ++ index :: inner) earlier' turn' later') :
    (turn.expression.attempt turn.level (playAll state earlier).state).2 = true := by
  induction h generalizing earlier' later' turn' with
  | @here level state expressions _ expression hat hstop =>
      rw [← runAll_eq_playAll]
      cases hbelow with
      | inside hat' hstop' hmatch hinside =>
          obtain rfl := Option.some.inj (hat.symm.trans hat')
          exact hmatch
  | inside hat hstop hmatch hinside ih =>
      rw [playAll_inside hstop hmatch]
      generalize hplace : _ ++ index :: inner = below at hbelow
      cases hbelow with
      | here hat' hstop' =>
          have hlength := congrArg List.length hplace
          simp at hlength
      | inside hat' hstop' hmatch' hinside' =>
          obtain ⟨rfl, rfl⟩ := List.cons.inj hplace
          obtain ⟨rfl, rfl⟩ := Expression.block.inj (Option.some.inj (hat.symm.trans hat'))
          exact ih hinside'

end Reached

end

end HistEdit
