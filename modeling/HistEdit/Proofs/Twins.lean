import HistEdit.Proofs.Turns

/-!
The same expressions run from two states. What relates the attempts of every expression from two
states, and the effects, and is handed on from one part of the runs to the next, relates the runs
of whole trees. One run may end earlier than the other; where both go on, both match or none does.
-/

namespace HistEdit

section

variable {σ : Type} [Subject σ]

/-- What relates two runs of the same expressions, if it relates their attempts and effects from
states that are twins and is handed on from one part of the runs to the next. Only expressions of
one kind are looked at. -/
structure Run.TwinLaw (kind : Expression → Prop) (twins : State σ → State σ → Prop)
    (alike : Run σ → Run σ → Prop) : Prop where
  idle : ∀ {state other}, twins state other → alike { state } { state := other }
  andThen : ∀ {run other next next'}, alike run other →
    (∀ {state other}, twins state other → alike (next state) (next' other)) →
    alike (run.andThen next) (other.andThen next')
  attempt : ∀ {expression : Expression}, kind expression → ∀ level {state other},
    twins state other →
    alike (expression.attempt level state).1 (expression.attempt level other).1 ∧
      ((expression.attempt level state).1.stop = none →
        (expression.attempt level other).1.stop = none →
        (expression.attempt level state).2 = (expression.attempt level other).2)
  perform : ∀ (effect : Effect) {state other}, twins state other →
    alike (effect.perform state) (effect.perform other)

namespace Run.TwinLaw

variable {kind : Expression → Prop} {twins : State σ → State σ → Prop}
  {alike : Run σ → Run σ → Prop}

/-- What follows a match follows it in both runs, unless one of them has ended. -/
theorem continued (law : TwinLaw kind twins alike) {expression : Expression}
    (hkind : kind expression) (level : Nat) {state other : State σ} (h : twins state other)
    {next next' : State σ → Run σ}
    (hnext : ∀ {state other}, twins state other → alike (next state) (next' other)) :
    alike
      (if (expression.attempt level state).2 then
        (expression.attempt level state).1.andThen next
      else (expression.attempt level state).1)
      (if (expression.attempt level other).2 then
        (expression.attempt level other).1.andThen next'
      else (expression.attempt level other).1) := by
  obtain ⟨hattempt, hmatch⟩ := law.attempt hkind level h
  have hboth := law.andThen hattempt hnext
  cases hleft : (expression.attempt level state).2 with
  | true =>
      have hgoes := Expression.stop_of_attempt hleft
      cases hright : (expression.attempt level other).2 with
      | true => exact hboth
      | false =>
          cases hstop : (expression.attempt level other).1.stop with
          | none =>
              have hsame := hmatch hgoes hstop
              exact absurd (hleft.symm.trans (hsame.trans hright)) (by simp)
          | some stop =>
              rw [andThen_of_stop hstop] at hboth
              exact hboth
  | false =>
      cases hright : (expression.attempt level other).2 with
      | false => exact hattempt
      | true =>
          have hgoes := Expression.stop_of_attempt hright
          cases hstop : (expression.attempt level state).1.stop with
          | none =>
              have hsame := hmatch hstop hgoes
              exact absurd (hleft.symm.trans (hsame.trans hright)) (by simp)
          | some stop =>
              rw [andThen_of_stop hstop] at hboth
              exact hboth

mutual

/-- A law holds of the two runs of an expression, by induction on the tree. -/
theorem run (law : TwinLaw kind twins alike) (expression : Expression)
    (hkind : ∀ inner ∈ expression.subexpressions, kind inner) (level : Nat)
    {state other : State σ} (h : twins state other) :
    alike (expression.run level state) (expression.run level other) := by
  cases expression with
  | leaf rule effect =>
      have hself := hkind (.leaf rule effect) (by simp [Expression.subexpressions])
      simp only [Expression.run]
      exact law.continued hself level h (law.perform effect)
  | block rule children =>
      have hself := hkind (.block rule children) (by simp [Expression.subexpressions])
      have hchildren : ∀ inner ∈ allSubexpressions children, kind inner := by
        intro inner hinner
        exact hkind inner (by simp [Expression.subexpressions, hinner])
      simp only [Expression.run]
      exact law.continued hself level h (law.runAll children hchildren (level + 1))

theorem runAll (law : TwinLaw kind twins alike) (expressions : List Expression)
    (hkind : ∀ inner ∈ allSubexpressions expressions, kind inner) (level : Nat)
    {state other : State σ} (h : twins state other) :
    alike (HistEdit.runAll level state expressions)
      (HistEdit.runAll level other expressions) := by
  cases expressions with
  | nil => exact law.idle h
  | cons expression rest =>
      simp only [allSubexpressions, List.forall_mem_append] at hkind
      simp only [HistEdit.runAll]
      apply law.andThen
      · exact law.run expression hkind.1 level h
      · exact law.runAll rest hkind.2 level

end

end Run.TwinLaw

end

end HistEdit
