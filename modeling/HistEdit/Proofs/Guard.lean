import HistEdit.Proofs.Laziness

/-!
Guards. An expression that edits nothing only reads: where it matches, it can be left out of a list
without a trace in the outcome and the metadata, whatever it calls. What it may do is to touch the
group before a later expression does; that can be seen when the name is written in between.
-/

namespace HistEdit

/-- A rule that edits nothing. What it reads stays where it is. -/
structure Rule.IsGuard (rule : Rule) : Prop where
  target : rule.flags.target = rule.flags.source
  substitution : rule.substitution = none
  add : rule.flags.add = .none

theorem Rule.IsGuard.apply {rule : Rule} (h : rule.IsGuard) {value rewritten : String}
    (hrule : rule.apply value = some rewritten) : rewritten = value := by
  unfold Rule.apply at hrule
  simp only [h.substitution] at hrule
  split at hrule
  · exact (Option.some.inj hrule).symm
  · split at hrule
    · exact absurd hrule (by simp)
    · exact (Option.some.inj hrule).symm

section

variable {σ ν : Type} [Subject σ] {view : σ → ν}

/-- A rule that matches: the version it reads is there, and it does not fail on it. -/
def Rule.MatchesIn (rule : Rule) (state : State σ) : Prop :=
  ∃ value, state.source rule.flags = .ok value ∧ (rule.apply value).isSome

theorem State.settle_of_isGuard (state : State σ) {rule : Rule} (h : rule.IsGuard)
    (value : String) : state.settle rule.flags value value = state.history := by
  simp [settle, result, prior, h.target, h.add, AddMode.join]

/-- A guard that matches touches the field it reads, and nothing more. -/
theorem Expression.attempt_of_isGuard (expression : Expression) (h : expression.rule.IsGuard)
    {state : State σ} (hmatch : expression.rule.MatchesIn state) (level : Nat) :
    ∃ steps, expression.attempt level state =
      (⟨steps, state.touch expression.rule.flags.source, none⟩, true) := by
  obtain ⟨value, hread, hsome⟩ := hmatch
  obtain ⟨rewritten, hrule⟩ := Option.isSome_iff_exists.1 hsome
  obtain rfl := h.apply hrule
  simp only [attempt_eq, hread, hrule, State.settle_of_isGuard _ h]
  exact ⟨_, rfl⟩

/-- With its effect, a matching guard looks like a mere touch. -/
theorem Expression.run_of_isGuard (hview : Subject.IsMetadata view) {rule : Rule}
    (h : rule.IsGuard) {state : State σ} (hmatch : rule.MatchesIn state) (effect : Effect)
    (level : Nat) :
    ((Expression.leaf rule effect).run level state).Alike view
      { state := state.touch rule.flags.source } := by
  obtain ⟨steps, hattempt⟩ := (Expression.leaf rule effect).attempt_of_isGuard h hmatch level
  simp only [Expression.run, hattempt, if_true]
  exact effect.perform_alike hview ⟨rfl, rfl⟩

/-- Touching one field is touching it early. Only a group that has no version yet gets one that a
later touch may not give it. -/
theorem History.exists_primed_touch {history : History} (h : history.Named)
    (native : Field → String) (field : Field) :
    ∃ early, Primed native early (history.touch native field) history ∧
      ∀ text ∈ early, field = .group ∧ history.versions .group = [] ∧
        text = (history.latest native .name).2 := by
  have hnamed := h.touch native field
  have hother (other : Field) (hother : other ≠ .group) :
      (history.touch native field).versions other = history.versions other ∨
        history.versions other = [] ∧
          (history.touch native field).versions other = [native other] :=
    zeroth_of_ne_group native history hother ▸ versions_touch native field other
  by_cases hearly : field = .group ∧ history.versions .group = []
  · obtain ⟨rfl, hnil⟩ := hearly
    refine ⟨some (history.zeroth native .group), ⟨hother, .inr ⟨hnil, ?_⟩, hnamed⟩, ?_⟩
    · exact versions_touch_of_nil native hnil
    · intro text htext
      exact ⟨rfl, hnil, (Option.some.inj htext).symm⟩
  · refine ⟨none, ⟨hother, .inl ?_, hnamed⟩, ?_⟩
    · by_cases hfield : field = .group
      · rw [hfield, touch_of_ne_nil native fun hnil => hearly ⟨hfield, hnil⟩]
      · exact versions_touch_of_ne native hfield (Ne.symm hfield)
    · intro text htext
      exact absurd htext (by simp)

/-- A guard between two lists spares the group unless it is the first to touch it, and the second
list then first touches it behind a change of the latest name. -/
def Rule.SparesGroup (rule : Rule) (first second : List Expression) (subject : σ) : Prop :=
  let before := (runAll 0 { subject } first).state
  let after := (runAll 0 { subject } (first ++ second)).state
  rule.flags.source = .group → before.history.versions .group = [] →
    ∀ zero, (after.history.versions .group).head? = some zero →
      zero = (before.history.latest (Subject.native before.subject) .name).2

theorem named_runAll (hview : Subject.IsMetadata view) (expressions : List Expression)
    (subject : σ) : (runAll 0 { subject } expressions).state.history.Named := by
  obtain ⟨-, operations, hhistory, -⟩ :=
    (Run.operates_law hview).runAll expressions 0 { subject }
  rw [hhistory]
  exact History.Named.operate (fun h => absurd rfl h) _ operations

theorem evaluate_guard_alike (hview : Subject.IsMetadata view) (first second : List Expression)
    {rule : Rule} (effect : Effect) (subject : σ) (hguard : rule.IsGuard)
    (hmatch : (runAll 0 { subject } first).stop = none →
      rule.MatchesIn (runAll 0 { subject } first).state)
    (hgroup : rule.SparesGroup first second subject) :
    let guarded := evaluate (first ++ [.leaf rule effect] ++ second) subject
    let plain := evaluate (first ++ second) subject
    guarded.outcome = plain.outcome ∧ view guarded.subject = view plain.subject := by
  have hnamed := named_runAll hview first subject
  unfold Rule.SparesGroup at hgroup
  simp only [evaluate_eq_evaluateFrom, evaluateFrom, List.append_assoc, List.singleton_append,
    runAll_append, runAll] at hgroup ⊢
  generalize runAll 0 { subject } first = before at hmatch hgroup hnamed ⊢
  cases hstop : before.stop with
  | some stop => simp only [Run.andThen_of_stop hstop, and_self]
  | none =>
      rw [Run.andThen_of_none hstop] at hgroup
      let touched := before.state.touch rule.flags.source
      have hguarded : (before.andThen fun state =>
          ((Expression.leaf rule effect).run 0 state).andThen
            fun state => runAll 0 state second).Alike view (runAll 0 touched second) := by
        have hrun := Expression.run_of_isGuard hview hguard (hmatch hstop) effect 0
        rw [Run.andThen_of_none hstop]
        exact hrun.andThen fun state other h => runAll_alike_of_alike hview second h 0
      have hplain : (before.andThen fun state => runAll 0 state second).Alike view
          (runAll 0 before.state second) := by
        rw [Run.andThen_of_none hstop]
        exact ⟨⟨rfl, rfl⟩, rfl⟩
      -- the touch may come early for what follows, but it gives the group the same name
      obtain ⟨early, hprimed, hearly⟩ := History.exists_primed_touch hnamed
        (Subject.native before.state.subject) rule.flags.source
      have hstart : touched.Primed early before.state := ⟨rfl, hprimed⟩
      have hfinish : (runAll 0 touched second).finish = (runAll 0 before.state second).finish := by
        refine (runAll_primed hview second 0 hstart).finish ?_
        intro text htext zero hzero
        obtain ⟨hsource, hnil, rfl⟩ := hearly text htext
        exact hgroup hsource hnil zero hzero
      obtain ⟨houtcome, hsubject⟩ := hguarded.finish hview
      obtain ⟨houtcome', hsubject'⟩ := hplain.finish hview
      rw [hfinish] at houtcome hsubject
      exact ⟨houtcome.trans houtcome'.symm, hsubject.trans hsubject'.symm⟩

end

/-- A guard that matches can be left out: with it and without, evaluating a list comes out the same
and leaves a histogram the same metadata, unless the guard is the first to touch the group and the
expressions behind it first touch the group when the latest name is another one. -/
theorem evaluate_guard (first second : List Expression) {rule : Rule} (effect : Effect)
    (histogram : Histogram) (hguard : rule.IsGuard)
    (hmatch : (runAll 0 { subject := histogram } first).stop = none →
      rule.MatchesIn (runAll 0 { subject := histogram } first).state)
    (hgroup : rule.SparesGroup first second histogram) :
    let guarded := evaluate (first ++ [.leaf rule effect] ++ second) histogram
    let plain := evaluate (first ++ second) histogram
    guarded.outcome = plain.outcome ∧ guarded.subject.metadata = plain.subject.metadata :=
  evaluate_guard_alike Histogram.isMetadata first second effect histogram hguard hmatch hgroup

/-- A bare call in front of a new name: the group is that name although the call touched it. -/
theorem evaluate_guard_norm :
    let histogram : Histogram := { name := "h" }
    let rule : Rule := ⟨{}, none, none⟩
    let call : Effect := .histogram ⟨"norm", "", .normalize 1.0⟩
    let renamed : Expression := .leaf ⟨{ source := .name, target := .name }, none, some "pt"⟩ .none
    [.leaf rule call, renamed].map Expression.text = ["g norm", "n//pt/"] ∧
    rule.IsGuard ∧ rule.MatchesIn (runAll 0 { subject := histogram } []).state ∧
    rule.SparesGroup [] [renamed] histogram ∧
    (evaluate ([] ++ [.leaf rule call] ++ [renamed]) histogram).outcome =
      (evaluate ([] ++ [renamed]) histogram).outcome ∧
    (evaluate ([] ++ [renamed]) histogram).outcome = .accepted "pt" := by
  intro histogram rule call renamed
  have hguard : rule.IsGuard := ⟨rfl, rfl, rfl⟩
  have hmatch : rule.MatchesIn (runAll 0 { subject := histogram } []).state := ⟨"h", rfl, rfl⟩
  have hgroup : rule.SparesGroup [] [renamed] histogram := by
    intro _ _ zero hzero
    change none = some zero at hzero
    cases hzero
  have hsame := evaluate_guard [] [renamed] call histogram hguard (fun _ => hmatch) hgroup
  exact ⟨by decide, hguard, hmatch, hgroup, hsame.1, rfl⟩

/-- A guard is not transparent in general. The call `norm` touches the group, which then keeps the
name `h`; without the call, the copy of the group to the title finds the new name `pt`. -/
theorem guard_freezes_group :
    ¬ ∀ (first second : List Expression) (rule : Rule) (effect : Effect) (histogram : Histogram),
      rule.IsGuard → (effect = .none ∨ ∃ call, effect = .histogram call) →
      ((runAll 0 { subject := histogram } first).stop = none →
        rule.MatchesIn (runAll 0 { subject := histogram } first).state) →
      let guarded := evaluate (first ++ [.leaf rule effect] ++ second) histogram
      let plain := evaluate (first ++ second) histogram
      guarded.outcome = plain.outcome ∧ guarded.subject.metadata = plain.subject.metadata := by
  intro htransparent
  have hsame := htransparent []
    [.leaf ⟨{ source := .name, target := .name }, none, some "pt"⟩ .none,
      .leaf ⟨{ source := .group, target := .title }, none, none⟩ .none]
    ⟨{}, none, none⟩ (.histogram ⟨"norm", "", .normalize 1.0⟩) { name := "h" } ⟨rfl, rfl, rfl⟩
    (.inr ⟨_, rfl⟩) (fun _ => ⟨"h", rfl, rfl⟩)
  have htitle := congrArg Histogram.title hsame.2
  exact absurd htitle (by decide)

end HistEdit
