import HistEdit.Proofs.Guard
import HistEdit.Proofs.Selection
import HistEdit.Proofs.Settlement

/-!
Testing the group. An expression that edits nothing writes nothing, whatever it matches and however
often it is run. Where only such expressions lead to the group, the group has never more than the
version that it took from the name when it was touched first; and as nothing was written to it, an
accepted subject goes by the latest name of all, not by the one that the tests have seen.
-/

namespace HistEdit

section

variable {σ ν : Type} [Subject σ] {view : σ → ν}

/-- Where an expression that edits nothing matches, its result is what it read. -/
theorem Run.tests_law : Run.Law fun (_ : State σ) (run : Run σ) =>
    ∀ level expression value result, .matched level expression value result ∈ run.steps →
      expression.rule.IsGuard → result = value where
  idle _ _ _ _ _ h _ := absurd h List.not_mem_nil
  andThen := by
    intro state run later hrun _ hlater level expression value result h hguard
    rcases List.mem_append.1 h with hfirst | hrest
    · exact hrun level expression value result hfirst hguard
    · exact hlater level expression value result hrest hguard
  attempt := by
    intro expression level state level' expression' value' result h hguard
    have hattempted := expression.attempted level state
    generalize expression.attempt level state = attempt at h hattempted
    cases hattempted with
    | failed error => exact absurd h List.not_mem_nil
    | unmatched value => exact absurd (List.mem_singleton.1 h) (by simp)
    | matched value rewritten _ hrule =>
        cases List.mem_singleton.1 h
        simp only [State.result, hguard.add, AddMode.join]
        exact hguard.apply hrule
  perform := by
    intro effect state level expression value result h _
    have hnote := Effect.turn?_of_mem_perform h
    exact absurd hnote (by simp [Step.turn?])

/-- A field is not written where the expressions that lead to it edit nothing. -/
theorem writes_runAll_eq_nil {expressions : List Expression} {field : Field}
    (h : ∀ expression ∈ allSubexpressions expressions,
      expression.rule.flags.target = field → expression.rule.IsGuard)
    (level : Nat) (state : State σ) :
    writes field (runAll level state expressions).steps = [] := by
  apply List.filterMap_eq_nil_iff.2
  intro step hstep
  cases step with
  | matched level' expression value result =>
      apply if_neg
      intro ⟨htarget, hchanged⟩
      have hmem : expression ∈ allSubexpressions expressions :=
        mem_allSubexpressions_of_step hstep rfl
      have hguard := h expression hmem htarget
      have hresult := Run.tests_law.runAll expressions level state _ _ _ _ hstep hguard
      rcases hchanged with hfields | htexts
      · exact hfields hguard.target
      · exact htexts hresult
  | unmatched level' expression value => rfl
  | noCanvas call => rfl

/-- A run has all the versions that its first turns lead to, in their places. -/
theorem isPrefix_playAll_of_isPrefix (hview : Subject.IsMetadata view) {turns all : List Turn}
    (h : turns <+: all) (state : State σ) :
    (playAll state turns).state.history.IsPrefix (playAll state all).state.history := by
  obtain ⟨later, rfl⟩ := h
  rw [playAll_append]
  apply Run.isPrefix_andThen
  intro state
  exact ((Run.operates_law hview).playAll later state).isPrefix

theorem Run.group_of_accepted {run : Run σ} {group : String}
    (h : run.finish.outcome = .accepted group) : run.state.group = group := by
  obtain ⟨hstop, -⟩ := finish_of_accepted h
  simp only [finish, hstop] at h
  exact Outcome.accepted.inj h

/-- The group goes by the name. At no time of the run does it have more than one version; and when
the subject is accepted, its group is the latest name at the end of the run, which is what reading
the name at index -1 would give, and which is the name written last, or the native one if none was
written. -/
structure GroupFollowsName (expressions : List Expression) (subject : σ) : Prop where
  single : ∀ turns, turns <+: turnsAll 0 { subject } expressions →
    ((playAll { subject } turns).state.history.versions .group).length ≤ 1
  accepted : ∀ group, (evaluate expressions subject).outcome = .accepted group →
    let state := (runAll 0 { subject } expressions).state
    let names := writes .name (evaluate expressions subject).steps
    state.latest .name = group ∧
      (state.history.read (Subject.native state.subject) .name (-1)).2 = .ok group ∧
      names.getLast?.getD (Subject.native subject .name) = group

theorem groupFollowsName (hview : Subject.IsMetadata view) {expressions : List Expression}
    (h : ∀ expression ∈ allSubexpressions expressions,
      expression.rule.flags.target = .group → expression.rule.IsGuard)
    (subject : σ) : GroupFollowsName expressions subject := by
  have hunwritten := writes_runAll_eq_nil h 0 (State.mk {} subject)
  have htail := tail_versions_runAll hview expressions subject
  obtain ⟨hsubject, operations, hhistory, -⟩ :=
    (Run.operates_law hview).runAll expressions 0 { subject }
  have hnative := hview.native hsubject
  have hgroup : ((runAll 0 { subject } expressions).state.history.versions .group).tail = [] :=
    (htail .group).trans hunwritten
  constructor
  · intro turns hturns
    have hlater := (isPrefix_playAll_of_isPrefix hview hturns { subject } .group).length_le
    rw [← runAll_eq_playAll] at hlater
    have hlength := congrArg List.length hgroup
    rw [List.length_tail, List.length_nil] at hlength
    omega
  · intro group haccepted state names
    have hnamed : (state.history.written? .name).getD (Subject.native state.subject .name) =
        state.latest .name := by
      rw [State.latest, hnative, hhistory]
      exact History.getD_written? _ operations (by decide)
    have hlatest : state.latest .name = group := by
      have hfinished : state.group = group := Run.group_of_accepted haccepted
      have hnone : state.history.written? .group = none := by
        rw [History.written?_eq, hgroup]
        rfl
      rw [← hnamed, ← hfinished, State.group, hnone]
      rfl
    refine ⟨hlatest, ?_, ?_⟩
    · rw [History.read_latest]
      exact congrArg Except.ok hlatest
    · have hnames : names = writes .name (runAll 0 { subject } expressions).steps :=
        congrArg (writes .name) (Run.steps_finish _)
      rw [← hlatest, ← hnamed, History.written?_eq, htail, hnames, hnative]

end

/-- Testing the group never fixes it. Where every expression that leads to the group edits nothing,
the group goes by the name, on histograms and on groups alike. -/
theorem evaluate_tested_group {expressions : List Expression}
    (h : ∀ expression ∈ allSubexpressions expressions,
      expression.rule.flags.target = .group → expression.rule.IsGuard) :
    (∀ histogram : Histogram, GroupFollowsName expressions histogram) ∧
    (∀ group : GroupCanvas, GroupFollowsName expressions group) := by
  constructor
  · intro histogram
    exact groupFollowsName Histogram.isMetadata h histogram
  · intro group
    exact groupFollowsName GroupCanvas.isMetadata h group

/-- A call touches the group before the name is rewritten, and a test reads it afterwards. -/
theorem evaluate_tested_group_norm :
    ∃ (expressions : List Expression) (histogram : Histogram),
      expressions.map Expression.text = ["g norm", "n//pt/", "sg0 \x7b tl \x7d"] ∧
      (∀ expression ∈ allSubexpressions expressions,
        expression.rule.flags.target = .group → expression.rule.IsGuard) ∧
      (evaluate expressions histogram).outcome = .accepted "pt" ∧
      GroupFollowsName expressions histogram := by
  have htests : ∀ expression ∈ allSubexpressions
      [.leaf ⟨{}, none, none⟩ (.histogram ⟨"norm", "", .normalize 1.0⟩),
        .leaf ⟨{ source := .name, target := .name }, none, some "pt"⟩ .none,
        .block ⟨{ select := true, fromIndex := 0 }, none, none⟩
          [.leaf ⟨{ source := .title, target := .legend }, none, none⟩ .none]],
      expression.rule.flags.target = .group → expression.rule.IsGuard := by
    simp only [allSubexpressions, Expression.subexpressions, List.append_nil,
      List.singleton_append, List.forall_mem_cons]
    refine ⟨fun _ => ⟨rfl, rfl, rfl⟩, ?_, ?_, fun _ => ⟨rfl, rfl, rfl⟩, by simp⟩
    · intro htarget
      exact absurd htarget (by decide)
    · intro htarget
      exact absurd htarget (by decide)
  exact ⟨_, { name := "h" }, by decide, htests, rfl, (evaluate_tested_group htests).1 _⟩

end HistEdit
