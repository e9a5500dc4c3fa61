import HistEdit.Proofs.Repetition

/-!
Agreement on some fields. Two runs of the same expressions that start with the same texts in some
fields keep the same versions of these fields, as long as no text that differs between the runs is
carried into them from outside. The group comes from the versions of group and name; so writing
back can change what evaluating once more makes of the group, but only through a text that an
expression carries over.
-/

namespace HistEdit

/-- Native texts that agree on some fields, the group and the name among them. -/
structure Field.AgreeOn (fields : List Field) (native native' : Field → String) : Prop where
  group : .group ∈ fields
  name : .name ∈ fields
  native : ∀ field ∈ fields, native field = native' field

namespace History

/-- Two histories with the same versions of some fields. -/
def SameOn (fields : List Field) (history other : History) : Prop :=
  ∀ field ∈ fields, history.versions field = other.versions field

variable {fields : List Field} {history other third : History} {native native' : Field → String}

theorem SameOn.symm (h : history.SameOn fields other) : other.SameOn fields history :=
  fun field hfield => (h field hfield).symm

theorem SameOn.trans (h : history.SameOn fields other) (h' : other.SameOn fields third) :
    history.SameOn fields third :=
  fun field hfield => (h field hfield).trans (h' field hfield)

theorem SameOn.set (h : history.SameOn fields other) {field : Field}
    {versions versions' : List String} (hversions : field ∈ fields → versions = versions') :
    (history.set field versions).SameOn fields (other.set field versions') := by
  intro kept hkept
  by_cases hfield : kept = field
  · subst hfield
    rw [versions_set_self, versions_set_self, hversions hkept]
  · rw [versions_set_of_ne _ _ hfield, versions_set_of_ne _ _ hfield]
    exact h kept hkept

theorem SameOn.start (h : history.SameOn fields other) {field : Field} {text text' : String}
    (htext : field ∈ fields → text = text') :
    (history.start field text).SameOn fields (other.start field text') := by
  intro kept hkept
  by_cases hfield : kept = field
  · subst hfield
    simp only [History.start, h kept hkept, htext hkept]
    split
    · simp only [versions_set_self]
    · exact h kept hkept
  · rw [versions_start_of_ne hfield, versions_start_of_ne hfield]
    exact h kept hkept

theorem SameOn.touch (h : history.SameOn fields other)
    (hnative : Field.AgreeOn fields native native') (field : Field) :
    (history.touch native field).SameOn fields (other.touch native' field) := by
  by_cases hfield : field = .group
  · subst hfield
    have hgroup := h .group hnative.group
    by_cases hnil : other.versions .group = []
    · -- the group takes the latest name, which is the same in both
      have hstarted := h.start (hnative.native .name)
      simp only [History.touch, hgroup, hnil, List.isEmpty_nil, if_true]
      apply hstarted.set
      intro _
      simp only [last, hstarted .name hnative.name]
    · rw [touch_of_ne_nil native (hgroup ▸ hnil), touch_of_ne_nil native' hnil]
      exact h
  · rw [touch_of_ne_group native hfield, touch_of_ne_group native' hfield]
    exact h.start (hnative.native field)

theorem SameOn.read (h : history.SameOn fields other)
    (hnative : Field.AgreeOn fields native native') {field : Field} (hfield : field ∈ fields)
    (index : Int) :
    (history.read native field index).2 = (other.read native' field index).2 := by
  simp only [History.read, h.touch hnative field field hfield]
  split <;> rfl

theorem SameOn.push (h : history.SameOn fields other)
    (hnative : Field.AgreeOn fields native native') {field : Field} {version version' : String}
    (hversion : field ∈ fields → version = version') :
    (history.push native field version).SameOn fields (other.push native' field version') := by
  have htouched := h.touch hnative field
  apply htouched.set
  intro hfield
  rw [htouched field hfield, hversion hfield]

/-- Appending to a field outside is not seen. -/
theorem sameOn_push (history : History) (native : Field → String) (hgroup : .group ∈ fields)
    {field : Field} (hfield : field ∉ fields) (version : String) :
    (history.push native field version).SameOn fields history := by
  intro kept hkept
  have hne : kept ≠ field := fun heq => hfield (heq ▸ hkept)
  have hfield' : field ≠ .group := fun heq => hfield (heq ▸ hgroup)
  rw [History.push, versions_set_of_ne _ _ hne, versions_touch_of_ne native hfield' hne]

theorem SameOn.written? (h : history.SameOn fields other) {field : Field}
    (hfield : field ∈ fields) : history.written? field = other.written? field := by
  rw [written?_eq, written?_eq, h field hfield]

end History

section

variable {σ : Type} [Subject σ] {fields : List Field}

theorem State.sameOn_settle (state : State σ) (hgroup : .group ∈ fields) {flags : Flags}
    (htarget : flags.target ∉ fields) (value rewritten : String) :
    (state.settle flags value rewritten).SameOn fields (state.prior flags).1 := by
  unfold State.settle
  split
  · exact History.sameOn_push _ _ hgroup htarget _
  · intro field _
    rfl

/-- Two states that agree on some fields: in their native texts and in their versions. -/
structure State.SameOn (fields : List Field) (state other : State σ) : Prop where
  native : Field.AgreeOn fields (Subject.native state.subject) (Subject.native other.subject)
  history : state.history.SameOn fields other.history

namespace State.SameOn

variable {state other : State σ}

theorem touch (h : state.SameOn fields other) (field : Field) :
    (state.touch field).SameOn fields (other.touch field) :=
  ⟨h.native, h.history.touch h.native field⟩

theorem source (h : state.SameOn fields other) {flags : Flags} (hsource : flags.source ∈ fields) :
    state.source flags = other.source flags :=
  h.history.read h.native hsource flags.fromIndex.toInt

theorem prior (h : state.SameOn fields other) (flags : Flags) :
    (state.prior flags).1.SameOn fields (other.prior flags).1 ∧
      (flags.target ∈ fields → (state.prior flags).2 = (other.prior flags).2) := by
  have htouched := h.history.touch h.native flags.target
  have hlast : flags.target ∈ fields →
      (state.history.latest (Subject.native state.subject) flags.target).2 =
        (other.history.latest (Subject.native other.subject) flags.target).2 := by
    intro htarget
    simp only [History.latest, History.last, htouched flags.target htarget]
  unfold State.prior
  cases flags.add with
  | none => exact ⟨h.history, fun _ => rfl⟩
  | prepend => exact ⟨htouched, hlast⟩
  | append => exact ⟨htouched, hlast⟩

theorem result (h : state.SameOn fields other) {flags : Flags} (htarget : flags.target ∈ fields)
    (rewritten : String) : state.result flags rewritten = other.result flags rewritten := by
  simp only [State.result, (h.prior flags).2 htarget]

/-- What a match makes of a field outside is not seen, and inside it makes the same of the same
value. -/
theorem settle (h : state.SameOn fields other) {flags : Flags}
    {value value' rewritten rewritten' : String}
    (hvalue : flags.target ∈ fields → value = value' ∧ rewritten = rewritten') :
    (state.settle flags value rewritten).SameOn fields
      (other.settle flags value' rewritten') := by
  have hprior := (h.prior flags).1
  by_cases htarget : flags.target ∈ fields
  · obtain ⟨rfl, rfl⟩ := hvalue htarget
    simp only [State.settle, h.result htarget]
    split
    · exact hprior.push h.native fun _ => rfl
    · exact hprior
  · have hleft := state.sameOn_settle h.native.group htarget value rewritten
    have hright := other.sameOn_settle h.native.group htarget value' rewritten'
    exact hleft.trans (hprior.trans hright.symm)

theorem group_eq (h : state.SameOn fields other) : state.group = other.group := by
  simp only [State.group, h.history.written? h.native.group, h.history.written? h.native.name,
    h.native.native .name h.native.name]

end State.SameOn

/-- No expression that leads from a field outside into one of the fields has read another text the
second time. -/
def Uncrossed (fields : List Field) (steps again : List Step) : Prop :=
  ∀ level expression value result value' result',
    (Step.matched level expression value result,
      Step.matched level expression value' result') ∈ steps.zip again →
    expression.rule.flags.target ∈ fields → expression.rule.flags.source ∉ fields →
    value = value'

theorem Uncrossed.of_isPrefix {steps again steps' again' : List Step}
    (h : Uncrossed fields steps' again') (hsteps : steps <+: steps') (hagain : again <+: again') :
    Uncrossed fields steps again := by
  obtain ⟨rest, rfl⟩ := hsteps
  obtain ⟨rest', rfl⟩ := hagain
  intro level expression value result value' result' hmem
  apply h level expression value result value' result'
  obtain ⟨place, hplace⟩ := List.mem_iff_getElem?.1 hmem
  apply List.mem_iff_getElem?.2
  obtain ⟨hleft, hright⟩ := List.getElem?_zip_eq_some.1 hplace
  refine ⟨place, List.getElem?_zip_eq_some.2 ⟨?_, ?_⟩⟩
  · exact List.getElem?_append_left (List.getElem?_eq_some_iff.1 hleft).1 ▸ hleft
  · exact List.getElem?_append_left (List.getElem?_eq_some_iff.1 hright).1 ▸ hright

/-- A run that fails on a missing version of a field outside. -/
def Run.Misses (fields : List Field) (run : Run σ) : Prop :=
  ∃ field index count, field ∉ fields ∧
    run.stop = some (.failed (.indexOutOfRange field index count))

omit [Subject σ] in
theorem Run.Misses.andThen {run : Run σ} (h : run.Misses fields) (next : State σ → Run σ) :
    (run.andThen next).Misses fields := by
  obtain ⟨field, index, count, hfield, hstop⟩ := h
  rw [andThen_of_stop hstop]
  exact ⟨field, index, count, hfield, hstop⟩

/-- Two runs that go the same way as far as some fields are concerned, if nothing crosses into them
and neither misses a version outside. -/
def Run.AgreeOn (fields : List Field) (run other : Run σ) : Prop :=
  Uncrossed fields run.steps other.steps →
    run.Misses fields ∨ other.Misses fields ∨
      run.state.SameOn fields other.state ∧ run.steps.length = other.steps.length ∧
        run.stop = other.stop

theorem Run.AgreeOn.andThen {run other : Run σ} (h : run.AgreeOn fields other)
    {next next' : State σ → Run σ}
    (hnext : ∀ {state other : State σ}, state.SameOn fields other →
      (next state).AgreeOn fields (next' other)) :
    (run.andThen next).AgreeOn fields (other.andThen next') := by
  intro huncrossed
  have hfirst : Uncrossed fields run.steps other.steps :=
    huncrossed.of_isPrefix (run.isPrefix_steps_andThen next) (other.isPrefix_steps_andThen next')
  rcases h hfirst with hmisses | hmisses | ⟨hstate, hlength, hstop⟩
  · exact .inl (hmisses.andThen next)
  · exact .inr (.inl (hmisses.andThen next'))
  · cases hcase : run.stop with
    | some stop =>
        have hother := hstop.symm.trans hcase
        rw [andThen_of_stop hcase, andThen_of_stop hother]
        exact .inr (.inr ⟨hstate, hlength, hstop⟩)
    | none =>
        have hother := hstop.symm.trans hcase
        rw [andThen_of_none hcase, andThen_of_none hother] at huncrossed ⊢
        have hlater : Uncrossed fields (next run.state).steps (next' other.state).steps := by
          intro level expression value result value' result' hmem
          apply huncrossed level expression value result value' result'
          simp only [List.zip_append hlength]
          exact List.mem_append_right _ hmem
        rcases hnext hstate hlater with hmisses | hmisses | ⟨hstate, hlength', hstop⟩
        · exact .inl hmisses
        · exact .inr (.inl hmisses)
        · refine .inr (.inr ⟨hstate, ?_, hstop⟩)
          simp only [List.length_append, hlength, hlength']

theorem State.source_error {state : State σ} {flags : Flags} {error : EditError}
    (h : state.source flags = .error error) :
    ∃ index count, error = .indexOutOfRange flags.source index count := by
  simp only [State.source, History.read] at h
  split at h
  · exact absurd h (by simp)
  · exact ⟨_, _, (Except.error.inj h).symm⟩

theorem Rule.exists_apply_of_plain {rule : Rule} (hplain : rule.pattern = none)
    (value : String) : ∃ rewritten, rule.apply value = some rewritten := by
  cases hrule : rule.apply value with
  | some rewritten => exact ⟨rewritten, rfl⟩
  | none =>
      have hpattern := Rule.pattern_of_apply hrule
      exact absurd hpattern (by simp [hplain])

theorem Expression.matches_of_plain {expression : Expression}
    (hplain : expression.rule.pattern = none) {level : Nat} {state : State σ}
    (h : (expression.attempt level state).1.stop = none) :
    (expression.attempt level state).2 = true := by
  cases hmatch : (expression.attempt level state).2 with
  | true => rfl
  | false =>
      obtain ⟨stop, hstop⟩ := Expression.exists_stop_of_plain hplain hmatch
      exact absurd (h.symm.trans hstop) (by simp)

theorem Expression.misses_attempt {expression : Expression} {state : State σ}
    {error : EditError} (hsource : expression.rule.flags.source ∉ fields)
    (h : state.source expression.rule.flags = .error error) (level : Nat) :
    (expression.attempt level state).1.Misses fields := by
  obtain ⟨index, count, rfl⟩ := State.source_error h
  simp only [attempt_eq, h]
  exact ⟨_, index, count, hsource, rfl⟩

/-- Two attempts that both find a version go the same way, whatever they have read, if it is the
same where it matters. -/
theorem Expression.attempt_agreeOn_of_ok {expression : Expression}
    (hplain : expression.rule.pattern = none) {state other : State σ}
    (h : state.SameOn fields other) {value value' : String}
    (hleft : state.source expression.rule.flags = .ok value)
    (hright : other.source expression.rule.flags = .ok value') (level : Nat)
    (hvalue : expression.rule.flags.source ∈ fields → value = value') :
    (expression.attempt level state).1.AgreeOn fields (expression.attempt level other).1 := by
  obtain ⟨rewritten, hrule⟩ := Rule.exists_apply_of_plain hplain value
  obtain ⟨rewritten', hrule'⟩ := Rule.exists_apply_of_plain hplain value'
  simp only [attempt_eq, hleft, hright, hrule, hrule']
  intro huncrossed
  have hsame : expression.rule.flags.target ∈ fields → value = value' := by
    intro htarget
    by_cases hsource : expression.rule.flags.source ∈ fields
    · exact hvalue hsource
    · exact huncrossed level expression value _ value' _ (List.mem_singleton_self _) htarget
        hsource
  have hsettled := (h.touch expression.rule.flags.source).settle fun htarget => by
    have heq := hsame htarget
    exact ⟨heq, Option.some.inj (hrule.symm.trans ((congrArg _ heq).trans hrule'))⟩
  exact .inr (.inr ⟨⟨h.native, hsettled⟩, rfl, rfl⟩)

theorem Expression.attempt_agreeOn {expression : Expression}
    (hplain : expression.rule.pattern = none) (level : Nat) {state other : State σ}
    (h : state.SameOn fields other) :
    (expression.attempt level state).1.AgreeOn fields (expression.attempt level other).1 := by
  by_cases hsource : expression.rule.flags.source ∈ fields
  · have hsame := h.source hsource
    cases hright : other.source expression.rule.flags with
    | error error =>
        simp only [attempt_eq, hsame, hright]
        exact fun _ => .inr (.inr ⟨h.touch _, rfl, rfl⟩)
    | ok value =>
        exact attempt_agreeOn_of_ok hplain h (hsame.trans hright) hright level fun _ => rfl
  · cases hleft : state.source expression.rule.flags with
    | error error => exact fun _ => .inl (misses_attempt hsource hleft level)
    | ok value =>
        cases hright : other.source expression.rule.flags with
        | error error => exact fun _ => .inr (.inl (misses_attempt hsource hright level))
        | ok value' =>
            exact attempt_agreeOn_of_ok hplain h hleft hright level fun hmem =>
              absurd hmem hsource

variable {ν : Type} {view : σ → ν}

theorem Effect.perform_agreeOn (hview : Subject.IsMetadata view)
    (hcanvas : Subject.CanvasAlike σ) (effect : Effect) {state other : State σ}
    (h : state.SameOn fields other) :
    (effect.perform state).AgreeOn fields (effect.perform other) := by
  obtain ⟨⟨hhistory, hsubject⟩, hstop⟩ :=
    effect.perform_alike hview (⟨rfl, rfl⟩ : state.Alike view state)
  obtain ⟨⟨hhistory', hsubject'⟩, hstop'⟩ :=
    effect.perform_alike hview (⟨rfl, rfl⟩ : other.Alike view other)
  have hlength := congrArg List.length (effect.steps_perform_alike hcanvas state other)
  refine fun _ => .inr (.inr ⟨⟨?_, ?_⟩, hlength, hstop.trans hstop'.symm⟩)
  · rw [hview.native hsubject, hview.native hsubject']
    exact h.native
  · rw [hhistory, hhistory']
    exact h.history

/-- Without patterns, the same expressions run alike from states that agree on some fields. -/
theorem Run.agreeOn_twinLaw (hview : Subject.IsMetadata view)
    (hcanvas : Subject.CanvasAlike σ) :
    Run.TwinLaw (fun expression => expression.rule.pattern = none) (State.SameOn fields)
      (Run.AgreeOn (σ := σ) fields) where
  idle h _ := .inr (.inr ⟨h, rfl, rfl⟩)
  andThen h hnext := h.andThen hnext
  attempt := by
    intro expression hplain level state other h
    refine ⟨Expression.attempt_agreeOn hplain level h, ?_⟩
    intro hleft hright
    rw [Expression.matches_of_plain hplain hleft, Expression.matches_of_plain hplain hright]
  perform effect _ _ h := effect.perform_agreeOn hview hcanvas h

/-- A run fails on missing versions only. -/
theorem Run.failsOnIndex_law : Run.Law fun (_ : State σ) (run : Run σ) =>
    ∀ error, run.stop = some (.failed error) →
      ∃ field index count, error = .indexOutOfRange field index count where
  idle _ error h := absurd h (by simp)
  andThen _ _ hlater := hlater
  attempt := by
    intro expression level state error h
    have hattempted := expression.attempted level state
    generalize expression.attempt level state = attempt at h hattempted
    cases hattempted with
    | failed cause hsource =>
        obtain ⟨index, count, rfl⟩ := State.source_error hsource
        cases h
        exact ⟨_, index, count, rfl⟩
    | unmatched value =>
        cases hselect : expression.rule.flags.select <;> simp [hselect] at h
    | matched value rewritten => exact absurd h (by simp)
  perform := by
    intro effect state error h
    cases effect with
    | none => exact absurd h (by simp [Effect.perform])
    | histogram call => exact absurd h (by simp [Effect.perform])
    | canvas call =>
        simp only [Effect.perform] at h
        split at h <;> exact absurd h (by simp)

/-- Without patterns, a run goes through to its end unless a version is missing. -/
theorem evaluate_of_plain {expressions : List Expression}
    (hplain : ∀ expression ∈ allSubexpressions expressions, expression.rule.pattern = none)
    (subject : σ) :
    (∃ group, (evaluate expressions subject).outcome = .accepted group) ∨
      ∃ field index count, (evaluate expressions subject).outcome =
        .failed (.indexOutOfRange field index count) := by
  rw [evaluate_eq_evaluateFrom]
  unfold evaluateFrom Run.finish
  cases hstop : (runAll 0 { subject } expressions).stop with
  | none => exact .inl ⟨_, rfl⟩
  | some stop =>
      cases stop with
      | rejected =>
          obtain ⟨level, expression, value, hmem, -, hpattern⟩ :=
            Run.rejectedBy_law.runAll expressions 0 { subject } hstop
          have hnone := hplain expression (mem_allSubexpressions_of_step hmem rfl)
          exact absurd hpattern (by simp [hnone])
      | failed error =>
          obtain ⟨field, index, count, rfl⟩ :=
            Run.failsOnIndex_law.runAll expressions 0 { subject } error hstop
          exact .inr ⟨field, index, count, rfl⟩

/-- From states that agree on the fields that the group comes from, what is accepted once is given
the same group again, or misses a version. -/
theorem Run.AgreeOn.outcome_finish {run other : Run σ} (h : run.AgreeOn fields other)
    (huncrossed : Uncrossed fields run.steps other.steps) (haccepted : run.stop = none) :
    other.finish.outcome = run.finish.outcome ∨
      ∃ field index count, field ∉ fields ∧
        other.finish.outcome = .failed (.indexOutOfRange field index count) := by
  rcases h huncrossed with hmisses | hmisses | ⟨hstate, -, hstop⟩
  · obtain ⟨field, index, count, -, hstop⟩ := hmisses
    exact absurd (haccepted.symm.trans hstop) (by simp)
  · obtain ⟨field, index, count, hfield, hstop⟩ := hmisses
    exact .inr ⟨field, index, count, hfield, by simp only [finish, hstop]⟩
  · have hother := hstop.symm.trans haccepted
    exact .inl (by simp only [finish, haccepted, hother, hstate.group_eq])

end

/-- Evaluating twice in a row without patterns. The first evaluation accepts, or fails on a missing
version. Take any fields whose texts it leaves as they were, the group and the name among them: the
second evaluation comes out the same, with the same group or the same error, unless an expression
that leads from another field into one of them reads another text the second time, or a version of
another field is missing then. -/
theorem evaluate_again_of_plain {expressions : List Expression}
    (hplain : ∀ expression ∈ allSubexpressions expressions, expression.rule.pattern = none)
    (histogram : Histogram) :
    let first := evaluate expressions histogram
    let second := evaluate expressions first.subject
    ((∃ group, first.outcome = .accepted group) ∨
      ∃ field index count, first.outcome = .failed (.indexOutOfRange field index count)) ∧
    ∀ fields : List Field, .group ∈ fields → .name ∈ fields →
      (∀ field ∈ fields, first.subject.field field = histogram.field field) →
      Uncrossed fields first.steps second.steps →
      second.outcome = first.outcome ∨
        ∃ field index count, field ∉ fields ∧
          second.outcome = .failed (.indexOutOfRange field index count) := by
  intro first second
  refine ⟨evaluate_of_plain hplain histogram, ?_⟩
  intro fields hgroup hname hkept huncrossed
  let run := runAll 0 { subject := histogram } expressions
  let again := runAll 0 { subject := first.subject } expressions
  have hsteps : first.steps = run.steps := run.steps_finish
  have hsteps' : second.steps = again.steps := again.steps_finish
  cases hstop : run.stop with
  | some stop =>
      -- nothing was written back
      have hleft : first.subject = run.state.subject := Run.subject_finish_of_stop hstop
      have hsame : second = first :=
        evaluate_subject_evaluate Histogram.isMetadata Histogram.canvasAlike
          actAll_actAll_histogram hleft
      exact .inl (congrArg Evaluation.outcome hsame)
  | none =>
      have hstart : State.SameOn fields { subject := histogram } { subject := first.subject } :=
        ⟨⟨hgroup, hname, fun field hfield => (hkept field hfield).symm⟩, fun _ _ => rfl⟩
      have hagree : run.AgreeOn fields again :=
        (Run.agreeOn_twinLaw Histogram.isMetadata Histogram.canvasAlike).runAll expressions
          hplain 0 hstart
      rw [hsteps, hsteps'] at huncrossed
      exact hagree.outcome_finish huncrossed hstop

/-- `t//B/; t1` on the titles `A` and `B`: a title that is `B` already gets no version 1. -/
example :
    let expressions : List Expression :=
      [.leaf ⟨{ source := .title, target := .title }, none, some "B"⟩ .none,
        .leaf ⟨{ source := .title, target := .title, fromIndex := 1 }, none, none⟩ .none]
    (evaluate expressions ({ name := "h", title := "A" } : Histogram)).outcome =
        .accepted "h" ∧
      (evaluate expressions ({ name := "h", title := "B" } : Histogram)).outcome =
        .failed (.indexOutOfRange .title 1 1) :=
  ⟨rfl, rfl⟩

/-- `t//B/`: the title becomes `B`. -/
def retitle : Expression :=
  .leaf ⟨{ source := .title, target := .title }, none, some "B"⟩ .none

/-- `tn`: the name becomes the title. -/
def nameByTitle : Expression :=
  .leaf ⟨{ source := .title, target := .name }, none, none⟩ .none

def titled (title : String) : Histogram := { name := "h", title }

/-- A title that is rewritten first and then becomes the name: both evaluations read the new title,
and the group is the same. -/
theorem evaluate_again_of_plain_title :
    [retitle, nameByTitle].map Expression.text = ["t//B/", "tn"] ∧
    (evaluate [retitle, nameByTitle] (titled "A")).outcome = .accepted "B" ∧
    (evaluate [retitle, nameByTitle] (titled "A")).subject = titled "B" ∧
    Uncrossed [.group, .name] (evaluate [retitle, nameByTitle] (titled "A")).steps
      (evaluate [retitle, nameByTitle] (titled "B")).steps ∧
    ((evaluate [retitle, nameByTitle] (titled "B")).outcome =
        (evaluate [retitle, nameByTitle] (titled "A")).outcome ∨
      ∃ field index count, field ∉ [Field.group, .name] ∧
        (evaluate [retitle, nameByTitle] (titled "B")).outcome =
          .failed (.indexOutOfRange field index count)) := by
  have hplain : ∀ expression ∈ allSubexpressions [retitle, nameByTitle],
      expression.rule.pattern = none := by
    simp [retitle, nameByTitle, allSubexpressions, Expression.subexpressions, Expression.rule]
  have hleft : (evaluate [retitle, nameByTitle] (titled "A")).subject = titled "B" := rfl
  have hsteps : (evaluate [retitle, nameByTitle] (titled "A")).steps =
      [.matched 0 retitle "A" "B", .matched 0 nameByTitle "B" "B"] := rfl
  have hagain : (evaluate [retitle, nameByTitle] (titled "B")).steps =
      [.matched 0 retitle "B" "B", .matched 0 nameByTitle "B" "B"] := rfl
  have huncrossed : Uncrossed [.group, .name]
      (evaluate [retitle, nameByTitle] (titled "A")).steps
      (evaluate [retitle, nameByTitle] (titled "B")).steps := by
    rw [hsteps, hagain]
    intro level expression value result value' result' hmem htarget hsource
    rcases List.mem_cons.1 hmem with hfirst | hlast
    · cases hfirst
      exact absurd htarget (by decide)
    · cases List.mem_singleton.1 hlast
      rfl
  have hkept : ∀ field ∈ [Field.group, .name],
      (titled "B").field field = (titled "A").field field := by
    decide
  have hsecond := (evaluate_again_of_plain hplain (titled "A")).2 [.group, .name] (by decide)
    (by decide)
  rw [hleft] at hsecond
  exact ⟨by decide, rfl, hleft, huncrossed, hsecond hkept huncrossed⟩

/-- Writing back can change the group. A title that becomes the name before it is rewritten gives
the group the old title first, and the new one when the histogram is evaluated again. -/
theorem writeBack_moves_group :
    ¬ ∀ (expressions : List Expression) (histogram : Histogram),
      (∀ expression ∈ allSubexpressions expressions, expression.rule.pattern = none) →
      let first := evaluate expressions histogram
      let second := evaluate expressions first.subject
      ∀ group group', first.outcome = .accepted group → second.outcome = .accepted group' →
        group = group' := by
  intro hidempotent
  have hplain : ∀ expression ∈ allSubexpressions [nameByTitle, retitle],
      expression.rule.pattern = none := by
    simp [retitle, nameByTitle, allSubexpressions, Expression.subexpressions, Expression.rule]
  have hleft : (evaluate [nameByTitle, retitle] (titled "A")).subject = titled "B" := rfl
  have hsame := hidempotent [nameByTitle, retitle] (titled "A") hplain "A" "B"
  rw [hleft] at hsame
  exact absurd (hsame rfl rfl) (by decide)

end HistEdit
