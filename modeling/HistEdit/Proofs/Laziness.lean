import HistEdit.Proofs.Run

/-!
When fields take their version 0. A history may have fields that were touched before the other one
touches them. Of the fields but the group this cannot be seen: their version 0 is the native text
at any time, so that both histories read, join and append alike. The group takes its version 0
from the latest name, so both do alike only as long as the late one takes the same name.
-/

namespace HistEdit

namespace History

variable {native : Field → String} {early : Option String}

/-- A history that is the plain one, but for fields that were touched early and not written. A
group that was touched early has the version 0 `early`. -/
structure Primed (native : Field → String) (early : Option String) (primed plain : History) :
    Prop where
  field : ∀ field, field ≠ .group →
    primed.versions field = plain.versions field ∨
      plain.versions field = [] ∧ primed.versions field = [native field]
  group : primed.versions .group = plain.versions .group ∨
    plain.versions .group = [] ∧ primed.versions .group = early.toList
  named : primed.Named

/-- Version 0 of the group is the early one, if there are both. -/
def GroupFrom (early : Option String) (history : History) : Prop :=
  ∀ text ∈ early, ∀ zero ∈ (history.versions .group).head?, zero = text

theorem GroupFrom.of_isPrefix {earlier later : History} (h : later.GroupFrom early)
    (hgrows : earlier.IsPrefix later) : earlier.GroupFrom early := by
  intro text htext zero hzero
  obtain ⟨behind, hversions⟩ := hgrows .group
  refine h text htext zero ?_
  rw [← hversions, List.head?_append, Option.mem_def.1 hzero]
  rfl

theorem zeroth_of_ne_group (native : Field → String) (history : History) {field : Field}
    (h : field ≠ .group) : history.zeroth native field = native field := by
  cases field with
  | group => exact absurd rfl h
  | _ => rfl

theorem set_eq_self {history : History} {field : Field} {versions : List String}
    (h : history.versions field = versions) : history.set field versions = history := by
  obtain ⟨all⟩ := history
  simp only [set, History.mk.injEq]
  funext other
  by_cases hother : other = field
  · rw [if_pos hother, hother]
    exact h.symm
  · exact if_neg hother

theorem Primed.set {primed plain : History} (h : Primed native early primed plain)
    {field : Field} {versions : List String} (hnamed : (primed.set field versions).Named) :
    Primed native early (primed.set field versions) (plain.set field versions) where
  field other hother := by
    by_cases hfield : other = field
    · subst hfield
      simp
    · simpa [hfield] using h.field other hother
  group := by
    by_cases hfield : .group = field
    · subst hfield
      simp
    · simpa [hfield] using h.group
  named := hnamed

theorem Primed.touch_of_ne_group {primed plain : History}
    (h : Primed native early primed plain) {field : Field} (hfield : field ≠ .group) :
    Primed native early (primed.touch native field) (plain.touch native field) ∧
      (primed.touch native field).versions field = (plain.touch native field).versions field := by
  have hsame : (primed.touch native field).versions field =
      (plain.touch native field).versions field := by
    by_cases hplain : plain.versions field = []
    · rw [versions_touch_of_nil native hplain, zeroth_of_ne_group native plain hfield]
      by_cases hprimed : primed.versions field = []
      · rw [versions_touch_of_nil native hprimed, zeroth_of_ne_group native primed hfield]
      · rw [touch_of_ne_nil native hprimed]
        rcases h.field field hfield with heq | ⟨-, heq⟩
        · exact absurd (heq.trans hplain) hprimed
        · exact heq
    · rcases h.field field hfield with heq | ⟨hnil, -⟩
      · rw [touch_of_ne_nil native hplain, touch_of_ne_nil native (heq ▸ hplain), heq]
      · exact absurd hnil hplain
  refine ⟨⟨?_, ?_, h.named.touch native field⟩, hsame⟩
  · intro other hother
    by_cases hself : other = field
    · exact .inl (hself ▸ hsame)
    · rw [versions_touch_of_ne native hfield hself, versions_touch_of_ne native hfield hself]
      exact h.field other hother
  · rw [versions_touch_of_ne native hfield hfield.symm,
      versions_touch_of_ne native hfield hfield.symm]
    exact h.group

theorem Primed.exists_early {primed plain : History} (h : Primed native early primed plain)
    (hprimed : primed.versions .group ≠ []) (hplain : plain.versions .group = []) :
    ∃ text, early = some text ∧ primed.versions .group = [text] := by
  rcases h.group with heq | ⟨-, heq⟩
  · exact absurd (heq.trans hplain) hprimed
  · cases early with
    | none => exact absurd heq hprimed
    | some text => exact ⟨text, rfl, heq⟩

/-- Touching a field in both histories brings them together there. -/
theorem Primed.touch {primed plain : History} (h : Primed native early primed plain)
    {field : Field} (hgroup : (plain.touch native field).GroupFrom early) :
    Primed native early (primed.touch native field) (plain.touch native field) ∧
      (primed.touch native field).versions field = (plain.touch native field).versions field := by
  by_cases hfield : field = .group
  · subst hfield
    obtain ⟨hname, hlatest⟩ := h.touch_of_ne_group (show Field.name ≠ .group by decide)
    have hnamed := h.named.touch native .group
    by_cases hplain : plain.versions .group = []
    · have htouch := touch_group_of_nil native hplain
      rw [htouch] at hgroup ⊢
      by_cases hprimed : primed.versions .group = []
      · -- both histories take the latest name now
        have hzeroth : primed.zeroth native .group = plain.zeroth native .group := by
          simp only [zeroth, latest, last, hlatest]
        rw [touch_group_of_nil native hprimed, hzeroth] at hnamed ⊢
        exact ⟨hname.set hnamed, by simp⟩
      · -- the plain history takes the name that the other one took early
        rw [touch_of_ne_nil native hprimed] at hnamed ⊢
        rw [touch_of_ne_nil native (hnamed hprimed)] at hname
        obtain ⟨text, rfl, hversions⟩ := h.exists_early hprimed hplain
        have hzeroth : plain.zeroth native .group = text := hgroup text rfl _ (by simp)
        have hself : primed.set .group [text] = primed := set_eq_self hversions
        have hset := hname.set (hself.symm ▸ hnamed : (primed.set .group [text]).Named)
        rw [hself] at hset
        rw [hzeroth]
        exact ⟨hset, by simp [hversions]⟩
    · rcases h.group with heq | ⟨hnil, -⟩
      · rw [touch_of_ne_nil native hplain, touch_of_ne_nil native (heq ▸ hplain)]
        exact ⟨h, heq⟩
      · exact absurd hnil hplain
  · exact h.touch_of_ne_group hfield

theorem isPrefix_touch_push (history : History) (native : Field → String) (field : Field)
    (version : String) :
    (history.touch native field).IsPrefix (history.push native field version) := by
  intro other
  have hpush := versions_apply native history (.push field version) other
  exact hpush ▸ List.prefix_append _ _

/-- Histories that read alike have the same version at every index. -/
theorem Primed.read {primed plain : History} (h : Primed native early primed plain)
    {field : Field} (hgroup : (plain.touch native field).GroupFrom early) (index : Int) :
    (primed.read native field index).2 = (plain.read native field index).2 := by
  obtain ⟨-, hversions⟩ := h.touch hgroup
  simp only [History.read, hversions]
  split <;> rfl

theorem Primed.latest {primed plain : History} (h : Primed native early primed plain)
    {field : Field} (hgroup : (plain.touch native field).GroupFrom early) :
    (primed.latest native field).2 = (plain.latest native field).2 := by
  obtain ⟨-, hversions⟩ := h.touch hgroup
  simp only [History.latest, last, hversions]

theorem Primed.push {primed plain : History} (h : Primed native early primed plain)
    {field : Field} {version : String}
    (hgroup : (plain.push native field version).GroupFrom early) :
    Primed native early (primed.push native field version) (plain.push native field version) := by
  obtain ⟨htouch, hversions⟩ :=
    h.touch (hgroup.of_isPrefix (isPrefix_touch_push plain native field version))
  have hnamed : (primed.push native field version).Named :=
    h.named.apply native (.push field version)
  simp only [History.push, hversions] at hnamed ⊢
  exact htouch.set hnamed

/-- A version 0 that was taken early is not a written one. -/
theorem Primed.written? {primed plain : History} (h : Primed native early primed plain)
    (field : Field) : primed.written? field = plain.written? field := by
  have htail : (primed.versions field).tail = (plain.versions field).tail := by
    by_cases hfield : field = .group
    · subst hfield
      rcases h.group with heq | ⟨hnil, heq⟩
      · rw [heq]
      · rw [hnil, heq]
        cases early <;> rfl
    · rcases h.field field hfield with heq | ⟨hnil, heq⟩
      · rw [heq]
      · rw [hnil, heq]
        rfl
  rw [written?_eq, written?_eq, htail]

end History

section

variable {σ ν : Type} [Subject σ] {view : σ → ν} {early : Option String}

theorem State.isPrefix_settle (state : State σ) (flags : Flags) (value rewritten : String) :
    (state.prior flags).1.IsPrefix (state.settle flags value rewritten) := by
  unfold settle
  split
  · exact History.isPrefix_apply _ _ (.push flags.target (state.result flags rewritten))
  · exact .refl _

/-- The same subject under a primed history and under the plain one. -/
structure State.Primed (early : Option String) (primed plain : State σ) : Prop where
  subject : primed.subject = plain.subject
  history : History.Primed (Subject.native plain.subject) early primed.history plain.history

namespace State.Primed

variable {primed plain : State σ}

theorem native (h : primed.Primed early plain) :
    Subject.native primed.subject = Subject.native plain.subject := by
  rw [h.subject]

theorem source (h : primed.Primed early plain) {flags : Flags}
    (hgroup : (plain.touch flags.source).history.GroupFrom early) :
    primed.source flags = plain.source flags := by
  unfold State.source
  rw [h.native]
  exact h.history.read hgroup _

theorem touch (h : primed.Primed early plain) {field : Field}
    (hgroup : (plain.touch field).history.GroupFrom early) :
    (primed.touch field).Primed early (plain.touch field) where
  subject := h.subject
  history := by
    unfold State.touch
    rw [h.native]
    exact (h.history.touch hgroup).1

theorem prior (h : primed.Primed early plain) {flags : Flags}
    (hgroup : (plain.prior flags).1.GroupFrom early) :
    History.Primed (Subject.native plain.subject) early (primed.prior flags).1
        (plain.prior flags).1 ∧
      (primed.prior flags).2 = (plain.prior flags).2 := by
  revert hgroup
  unfold State.prior
  rw [h.native]
  cases flags.add with
  | none => exact fun _ => ⟨h.history, rfl⟩
  | prepend => exact fun hgroup => ⟨(h.history.touch hgroup).1, h.history.latest hgroup⟩
  | append => exact fun hgroup => ⟨(h.history.touch hgroup).1, h.history.latest hgroup⟩

theorem settle (h : primed.Primed early plain) {flags : Flags} {value rewritten : String}
    (hgroup : (plain.settle flags value rewritten).GroupFrom early) :
    History.Primed (Subject.native plain.subject) early (primed.settle flags value rewritten)
        (plain.settle flags value rewritten) ∧
      primed.result flags rewritten = plain.result flags rewritten := by
  obtain ⟨hprior, hlatest⟩ :=
    h.prior (hgroup.of_isPrefix (plain.isPrefix_settle flags value rewritten))
  have hresult : primed.result flags rewritten = plain.result flags rewritten := by
    simp only [State.result, hlatest]
  refine ⟨?_, hresult⟩
  unfold State.settle at hgroup ⊢
  rw [hresult, h.native]
  split
  · rename_i hchanged
    rw [if_pos hchanged] at hgroup
    exact hprior.push hgroup
  · exact hprior

end State.Primed

/-- Two runs that report alike, stop alike and end in the same subject under a primed and a plain
history, unless the plain one takes a group that differs from the early one. -/
def Run.Primed (early : Option String) (primed plain : Run σ) : Prop :=
  plain.state.history.GroupFrom early →
    primed.state.Primed early plain.state ∧ primed.steps = plain.steps ∧ primed.stop = plain.stop

theorem Run.Primed.andThen {primed plain : Run σ} (h : primed.Primed early plain)
    {next : State σ → Run σ}
    (hgrows : ∀ state : State σ, state.history.IsPrefix (next state).state.history)
    (hnext : ∀ {state other : State σ}, state.Primed early other →
      (next state).Primed early (next other)) :
    (primed.andThen next).Primed early (plain.andThen next) := by
  intro hgroup
  obtain ⟨hstate, hsteps, hstop⟩ := h (hgroup.of_isPrefix (plain.isPrefix_andThen hgrows))
  cases hcase : plain.stop with
  | some stop =>
      rw [andThen_of_stop hcase, andThen_of_stop (hstop.trans hcase)]
      exact ⟨hstate, hsteps, hstop⟩
  | none =>
      rw [andThen_of_none hcase] at hgroup ⊢
      rw [andThen_of_none (hstop.trans hcase)]
      obtain ⟨hlater, hsteps', hstop'⟩ := hnext hstate hgroup
      exact ⟨hlater, by rw [hsteps, hsteps'], hstop'⟩

/-- An effect does not look at versions. -/
theorem Effect.perform_primed (hview : Subject.IsMetadata view) (effect : Effect)
    {primed plain : State σ} (h : primed.Primed early plain) :
    (effect.perform primed).Primed early (effect.perform plain) := by
  intro _
  obtain ⟨history, subject⟩ := primed
  obtain ⟨history', subject'⟩ := plain
  obtain ⟨hsubject, hhistory⟩ := h
  simp only at hsubject hhistory
  subst hsubject
  cases effect with
  | none => exact ⟨⟨rfl, hhistory⟩, rfl, rfl⟩
  | histogram call =>
      have hnative : Subject.native (Subject.onHistogram call.action subject) =
          Subject.native subject := hview.native (hview.onHistogram call.action subject)
      exact ⟨⟨rfl, hnative ▸ hhistory⟩, rfl, rfl⟩
  | canvas call =>
      simp only [Effect.perform]
      cases hcanvas : Subject.onCanvas? call.action subject with
      | none => exact ⟨⟨rfl, hhistory⟩, rfl, rfl⟩
      | some changed =>
          have hnative : Subject.native changed = Subject.native subject :=
            hview.native (hview.onCanvas call.action hcanvas)
          exact ⟨⟨rfl, hnative ▸ hhistory⟩, rfl, rfl⟩

/-- An attempt goes on from its first touch. -/
theorem Expression.isPrefix_attempt (expression : Expression) (level : Nat) (state : State σ) :
    (state.touch expression.rule.flags.source).history.IsPrefix
      (expression.attempt level state).1.state.history := by
  simp only [attempt_eq]
  cases state.source expression.rule.flags with
  | error error => exact .refl _
  | ok value =>
      simp only
      cases expression.rule.apply value with
      | none => exact .refl _
      | some rewritten =>
          refine .trans ?_ (State.isPrefix_settle _ _ value rewritten)
          obtain ⟨operations, hprior, -⟩ :=
            (state.touch expression.rule.flags.source).prior_operates expression.rule.flags
          rw [hprior]
          exact History.isPrefix_operate _ _ operations

theorem Expression.attempt_primed (expression : Expression) (level : Nat)
    {primed plain : State σ} (h : primed.Primed early plain)
    (hgroup : (expression.attempt level plain).1.state.history.GroupFrom early) :
    (expression.attempt level primed).1.Primed early (expression.attempt level plain).1 ∧
      (expression.attempt level primed).2 = (expression.attempt level plain).2 := by
  have htouched := hgroup.of_isPrefix (expression.isPrefix_attempt level plain)
  have htouch := h.touch htouched
  revert hgroup
  simp only [attempt_eq, h.source htouched]
  cases plain.source expression.rule.flags with
  | error error => exact fun _ => ⟨fun _ => ⟨htouch, rfl, rfl⟩, rfl⟩
  | ok value =>
      simp only
      cases expression.rule.apply value with
      | none => exact fun _ => ⟨fun _ => ⟨htouch, rfl, rfl⟩, rfl⟩
      | some rewritten =>
          intro hgroup
          obtain ⟨hsettle, hresult⟩ := htouch.settle hgroup
          exact ⟨fun _ => ⟨⟨h.subject, hsettle⟩, by simp only [hresult], rfl⟩, rfl⟩

/-- What follows a match follows it under both histories or under none. -/
theorem Expression.continue_primed (expression : Expression) (level : Nat)
    {primed plain : State σ} (h : primed.Primed early plain) {next : State σ → Run σ}
    (hgrows : ∀ state : State σ, state.history.IsPrefix (next state).state.history)
    (hnext : ∀ {state other : State σ}, state.Primed early other →
      (next state).Primed early (next other)) :
    (if (expression.attempt level primed).2 then
        (expression.attempt level primed).1.andThen next
      else (expression.attempt level primed).1).Primed early
      (if (expression.attempt level plain).2 then
        (expression.attempt level plain).1.andThen next
      else (expression.attempt level plain).1) := by
  intro hgroup
  have hattempted : (expression.attempt level plain).1.state.history.GroupFrom early := by
    split at hgroup
    · exact hgroup.of_isPrefix ((expression.attempt level plain).1.isPrefix_andThen hgrows)
    · exact hgroup
  obtain ⟨hrun, hmatch⟩ := expression.attempt_primed level h hattempted
  rw [hmatch]
  split
  · rename_i hcase
    rw [if_pos hcase] at hgroup
    exact hrun.andThen hgrows hnext hgroup
  · exact hrun hattempted

mutual

/-- Running an expression keeps a primed history and the plain one together, at any depth. -/
theorem Expression.run_primed (hview : Subject.IsMetadata view) (expression : Expression)
    (level : Nat) {primed plain : State σ} (h : primed.Primed early plain) :
    (expression.run level primed).Primed early (expression.run level plain) := by
  cases expression with
  | leaf rule effect =>
      simp only [Expression.run]
      refine Expression.continue_primed _ level h ?_ ?_
      · intro state
        exact ((Run.operates_law hview).perform effect state).isPrefix
      · intro state other h
        exact effect.perform_primed hview h
  | block rule children =>
      simp only [Expression.run]
      refine Expression.continue_primed _ level h ?_ ?_
      · intro state
        exact ((Run.operates_law hview).runAll children (level + 1) state).isPrefix
      · intro state other h
        exact runAll_primed hview children (level + 1) h

theorem runAll_primed (hview : Subject.IsMetadata view) (expressions : List Expression)
    (level : Nat) {primed plain : State σ} (h : primed.Primed early plain) :
    (runAll level primed expressions).Primed early (runAll level plain expressions) := by
  cases expressions with
  | nil => exact fun _ => ⟨h, rfl, rfl⟩
  | cons expression rest =>
      simp only [runAll]
      refine (Expression.run_primed hview expression level h).andThen ?_ ?_
      · intro state
        exact ((Run.operates_law hview).runAll rest level state).isPrefix
      · intro state other h
        exact runAll_primed hview rest level h

end

theorem State.Primed.writeBack {primed plain : State σ} (h : primed.Primed early plain) :
    primed.writeBack = plain.writeBack := by
  simp only [State.writeBack, h.history.written?, h.subject]

theorem State.Primed.group {primed plain : State σ} (h : primed.Primed early plain) :
    primed.group = plain.group := by
  simp only [State.group, h.history.written?, h.subject]

/-- Runs that stay together make the same evaluation. -/
theorem Run.Primed.finish {primed plain : Run σ} (h : primed.Primed early plain)
    (hgroup : plain.state.history.GroupFrom early) : primed.finish = plain.finish := by
  obtain ⟨hstate, hsteps, hstop⟩ := h hgroup
  unfold Run.finish
  rw [hsteps, hstop, hstate.writeBack, hstate.group, hstate.subject]

end

/-- The history in which every field but the group has its native text as version 0. -/
def History.eager (native : Field → String) : History where
  versions
    | .group => []
    | field => [native field]

theorem History.primed_eager (native : Field → String) :
    Primed native none (eager native) {} where
  field field hfield := by
    cases field with
    | group => exact absurd rfl hfield
    | _ => exact .inr ⟨rfl, rfl⟩
  group := .inl rfl
  named h := absurd rfl h

theorem evaluateFrom_eager_eq {σ ν : Type} [Subject σ] {view : σ → ν}
    (hview : Subject.IsMetadata view) (expressions : List Expression) (subject : σ) :
    evaluateFrom (.eager (Subject.native subject)) expressions subject =
      evaluate expressions subject := by
  have hstart : State.Primed none ⟨.eager (Subject.native subject), subject⟩ ⟨{}, subject⟩ :=
    ⟨rfl, History.primed_eager (Subject.native subject)⟩
  refine (runAll_primed hview expressions 0 hstart).finish ?_
  intro text htext
  exact absurd htext (by simp)

/-- When a field takes its version 0 cannot be seen, the group apart: an evaluation reports the
same, comes out the same and leaves the same subject when every other field has its native text
from the start. -/
theorem evaluate_lazy (expressions : List Expression) :
    (∀ histogram : Histogram,
      evaluateFrom (.eager (Subject.native histogram)) expressions histogram =
        evaluate expressions histogram) ∧
    (∀ group : GroupCanvas,
      evaluateFrom (.eager (Subject.native group)) expressions group =
        evaluate expressions group) :=
  ⟨evaluateFrom_eager_eq Histogram.isMetadata expressions,
    evaluateFrom_eager_eq GroupCanvas.isMetadata expressions⟩

end HistEdit
