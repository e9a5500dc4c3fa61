import HistEdit.Proofs.Laziness
import HistEdit.Proofs.Turns
import HistEdit.Proofs.WriteBack

/-!
What a match leaves behind. The latest version of a field is what index -1 reads; touching fields
does not change it, and an append makes it the appended text. A matched step joins what its rule
made to the latest version of the destination, and its result is the latest version afterwards.
Only a result that is the very text that was read from the destination is not appended; when an
older version was read, the latest one stays.
-/

namespace HistEdit

namespace History

variable {history : History} (native : Field → String)

theorem latest_of_nil {field : Field} (h : history.versions field = []) :
    (history.latest native field).2 = history.zeroth native field := by
  simp [latest, last, versions_touch_of_nil native h]

theorem latest_of_ne_nil {field : Field} (h : history.versions field ≠ []) :
    (history.latest native field).2 = history.last field := by
  simp [latest, touch_of_ne_nil native h]

/-- A first touch takes the version that was the latest before, so the latest version of every field
stays. -/
theorem latest_touch (field other : Field) :
    ((history.touch native field).latest native other).2 = (history.latest native other).2 := by
  have hsame {other : Field}
      (hzeroth : (history.touch native field).zeroth native other =
        history.zeroth native other) :
      ((history.touch native field).latest native other).2 =
        (history.latest native other).2 := by
    have hversions := history.versions_touch native field other
    by_cases hnil : history.versions other = []
    · rw [latest_of_nil native hnil]
      by_cases htouched : (history.touch native field).versions other = []
      · rw [latest_of_nil native htouched, hzeroth]
      · rw [latest_of_ne_nil native htouched]
        rcases hversions with heq | ⟨-, heq⟩
        · exact absurd (heq.trans hnil) htouched
        · simp [last, heq]
    · rcases hversions with heq | ⟨hempty, -⟩
      · rw [latest_of_ne_nil native hnil, latest_of_ne_nil native (heq ▸ hnil), last, heq, last]
      · exact absurd hempty hnil
  have hname := @hsame .name rfl
  cases other with
  | group => exact hsame hname
  | _ => exact hsame rfl

theorem latest_push (field : Field) (version : String) :
    ((history.push native field version).latest native field).2 = version := by
  obtain ⟨zero, later, hpushed⟩ := versions_push_self history native field version
  have hne : (history.push native field version).versions field ≠ [] := by simp [hpushed]
  rw [latest_of_ne_nil native hne, last, hpushed, ← List.cons_append, List.getLast?_concat]
  rfl

/-- Index -1 reads the latest version. -/
theorem read_latest (field : Field) :
    (history.read native field (-1)).2 = .ok (history.latest native field).2 := by
  have htouched := versions_touch_ne_nil history native field
  have hlength := List.length_pos_iff.2 htouched
  have hlow : -((history.touch native field).versions field).length ≤ (-1 : Int) := by omega
  obtain ⟨version, hversion, hread⟩ := read_of_mem hlow (by omega)
  have hplace : place (-1) ((history.touch native field).versions field).length =
      ((history.touch native field).versions field).length - 1 := by
    rw [place, if_neg (by omega)]
    omega
  rw [hplace, ← List.getLast?_eq_getElem?] at hversion
  rw [hread, latest, last, hversion]
  rfl

/-- A field that has a version keeps all its versions as long as none is appended. -/
theorem versions_operate_of_pushes {field : Field} (h : history.versions field ≠ [])
    {operations : List Operation} (hpushes : pushes field operations = []) :
    (history.operate native operations).versions field = history.versions field := by
  have htail := tail_versions_operate native history operations field
  rw [hpushes, List.append_nil] at htail
  obtain ⟨zero, later, hversions⟩ := List.exists_cons_of_ne_nil h
  obtain ⟨behind, hprefix⟩ := isPrefix_operate native history operations field
  rw [hversions, List.cons_append] at hprefix
  rw [hversions, List.tail_cons] at htail
  rw [← hprefix, List.tail_cons] at htail
  rw [hversions, ← hprefix, htail]

/-- The latest version is the written one, or the native text when none was written. -/
theorem getD_written? (operations : List Operation) {field : Field} (hfield : field ≠ .group) :
    ((operate native {} operations).written? field).getD (native field) =
      ((operate native {} operations).latest native field).2 := by
  rw [written?_eq]
  cases hversions : (operate native {} operations).versions field with
  | nil => rw [latest_of_nil native hversions, zeroth_of_ne_group native _ hfield]; rfl
  | cons zero later =>
      rw [latest_of_ne_nil native (by simp [hversions]), last, hversions]
      have hzero : zero = native field := by
        have hhead : ((operate native {} operations).versions field).head? = some zero := by
          simp [hversions]
        rcases head?_versions_operate hhead with hnone | ⟨earlier, -, -, -, -, -, hzero⟩
        · exact absurd hnone (by simp)
        · rw [hzero, zeroth_of_ne_group native _ hfield]
      cases later with
      | nil => simpa using hzero.symm
      | cons version later =>
          have hlast := List.getLast?_eq_some_getLast (List.cons_ne_nil version later)
          rw [List.tail_cons, List.getLast?_cons_cons, hlast]
          rfl

end History

section

variable {σ : Type} [Subject σ]

/-- The text that the latest version of a field has, or would have if it were read. -/
def State.latest (state : State σ) (field : Field) : String :=
  (state.history.latest (Subject.native state.subject) field).2

theorem State.latest_touch (state : State σ) (field other : Field) :
    (state.touch field).latest other = state.latest other :=
  History.latest_touch _ field other

theorem State.latest_prior (state : State σ) (flags : Flags) (field : Field) :
    State.latest { state with history := (state.prior flags).1 } field = state.latest field := by
  unfold prior
  split
  · rfl
  · exact state.latest_touch flags.target field
  · exact state.latest_touch flags.target field

/-- A result is joined to the latest version of its destination. -/
theorem State.result_eq (state : State σ) (flags : Flags) (rewritten : String) :
    state.result flags rewritten = flags.add.join (state.latest flags.target) rewritten := by
  unfold result prior
  cases flags.add <;> rfl

/-- The latest version of the destination behind a match. -/
theorem State.latest_settle (state : State σ) (flags : Flags) (value rewritten : String) :
    State.latest { state with history := state.settle flags value rewritten } flags.target =
      if flags.target = flags.source ∧ state.result flags rewritten = value then
        state.latest flags.target
      else state.result flags rewritten := by
  unfold settle
  by_cases hsame : flags.target = flags.source ∧ state.result flags rewritten = value
  · rw [if_pos hsame, if_neg (by simp [hsame.1, hsame.2])]
    exact state.latest_prior flags flags.target
  · rw [if_neg hsame, if_pos (Decidable.not_and_iff_not_or_not.1 hsame)]
    exact History.latest_push _ flags.target _

/-- An attempt that reports a match read the value, and settled what the rule made of it. -/
theorem Expression.attempt_of_matched {expression : Expression} {level : Nat} {state : State σ}
    {value result : String}
    (h : (expression.attempt level state).1.steps = [.matched level expression value result]) :
    let flags := expression.rule.flags
    let touched := state.touch flags.source
    ∃ rewritten, state.source flags = .ok value ∧ expression.rule.apply value = some rewritten ∧
      result = touched.result flags rewritten ∧
      expression.attempt level state =
        (⟨[.matched level expression value result],
          { state with history := touched.settle flags value rewritten }, none⟩, true) := by
  intro flags touched
  have hattempted := expression.attempted level state
  generalize expression.attempt level state = attempt at h hattempted ⊢
  cases hattempted with
  | failed error => exact absurd h (by simp)
  | unmatched other => exact absurd h (by simp)
  | matched other rewritten hread hrule =>
      simp only [List.cons.injEq, Step.matched.injEq, and_true, true_and] at h
      obtain ⟨rfl, rfl⟩ := h
      exact ⟨rewritten, hread, hrule, rfl, rfl⟩

/-- Behind a match, the run goes on with its effect and the turns that follow. -/
theorem playAll_of_match {expression : Expression} {level : Nat} {state : State σ}
    (h : (expression.attempt level state).2 = true) (turns : List Turn) :
    ∃ tail : Run σ,
      (∀ {relates : State σ → Run σ → Prop}, Run.Law relates →
        relates (expression.attempt level state).1.state tail) ∧
      playAll state (⟨level, expression⟩ :: turns) =
        ⟨(expression.attempt level state).1.steps ++ tail.steps, tail.state, tail.stop⟩ := by
  have hstop := Expression.stop_of_attempt h
  let left := (expression.attempt level state).1.state
  cases expression with
  | leaf rule effect =>
      refine ⟨(effect.perform left).andThen fun state => playAll state turns, ?_, ?_⟩
      · intro relates law
        exact law.step (law.perform effect left) (law.playAll turns)
      · simp only [playAll, Turn.play, h, if_true, Run.andThen_assoc]
        exact Run.andThen_of_none hstop _
  | block rule children =>
      refine ⟨playAll left turns, ?_, ?_⟩
      · intro relates law
        exact law.playAll turns left
      · simp only [playAll, Turn.play]
        exact Run.andThen_of_none hstop _

/-- What holds of every match that an evaluation reports. It is what happens at a turn of the run:
the expression finds the state that the turns before it lead to, reads the value, and joins what its
rule makes of it to the latest version of the destination. This result is the latest version right
behind the step, before an effect or a block; only when it is the very text that was read from the
destination, the latest version stays as it was. Until the next write to the field, index -1 reads
this version, and when there is no further write, it is what the subject shows in the end, unless
the subject has no place for the field. -/
def MatchesHold (expressions : List Expression) (subject : σ) : Prop :=
  ∀ before level expression value result after,
    (evaluate expressions subject).steps =
      before ++ .matched level expression value result :: after →
    let flags := expression.rule.flags
    ∃ earlier later rewritten,
      turnsAll 0 { subject } expressions = earlier ++ ⟨level, expression⟩ :: later ∧
      let found := playAll { subject } earlier
      let left := (expression.attempt level found.state).1.state
      let prior := found.state.latest flags.target
      let held := if flags.target = flags.source ∧ result = value then prior else result
      found.steps = before ∧ found.stop = none ∧
      found.state.source flags = .ok value ∧ expression.rule.apply value = some rewritten ∧
      result = flags.add.join prior rewritten ∧
      left.latest flags.target = held ∧
      (∀ middle rest between, later = middle ++ rest →
        let there := playAll { subject } (earlier ++ ⟨level, expression⟩ :: middle)
        there.steps = before ++ .matched level expression value result :: between →
        writes flags.target between = [] →
        (there.state.history.read (Subject.native there.state.subject) flags.target (-1)).2 =
          .ok held) ∧
      (writes flags.target after = [] → flags.target ∈ writableFields →
        (∃ group, (evaluate expressions subject).outcome = .accepted group) →
        Subject.native (evaluate expressions subject).subject flags.target = held ∨
          ∀ text, Subject.assign subject flags.target text = subject)

end

section

variable {σ ν : Type} [Subject σ] {view : σ → ν}

theorem Run.Operates.latest_of_writes (hview : Subject.IsMetadata view) {state : State σ}
    {run : Run σ} (h : Run.Operates view state run) {field : Field}
    (htouched : state.history.versions field ≠ []) (hwrites : writes field run.steps = []) :
    run.state.latest field = state.latest field := by
  obtain ⟨hsubject, operations, hhistory, hpushes⟩ := h
  have hversions := History.versions_operate_of_pushes (Subject.native state.subject) htouched
    ((hpushes field).trans hwrites)
  rw [← hhistory] at hversions
  rw [State.latest, State.latest, hview.native hsubject, History.latest_of_ne_nil _ htouched,
    History.latest_of_ne_nil _ (hversions ▸ htouched), History.last, hversions, History.last]

/-- A match leaves its destination touched. -/
theorem State.versions_settle_ne_nil (state : State σ) (flags : Flags) (value rewritten : String) :
    ((state.touch flags.source).settle flags value rewritten).versions flags.target ≠ [] := by
  unfold settle
  split
  · obtain ⟨zero, later, hpushed⟩ := History.versions_push_self
      ((state.touch flags.source).prior flags).1
      (Subject.native (state.touch flags.source).subject) flags.target
      ((state.touch flags.source).result flags rewritten)
    simp [hpushed]
  · rename_i hsame
    have htarget : flags.target = flags.source := by
      by_cases h : flags.target = flags.source
      · exact h
      · exact absurd (.inl h) hsame
    obtain ⟨operations, hprior, -⟩ := (state.touch flags.source).prior_operates flags
    rw [hprior, htarget]
    intro hnil
    exact History.versions_touch_ne_nil state.history (Subject.native state.subject) flags.source
      (List.prefix_nil.1 (hnil ▸ History.isPrefix_operate _ _ operations flags.source))

theorem Run.finish_of_accepted {run : Run σ} {group : String}
    (h : run.finish.outcome = .accepted group) :
    run.stop = none ∧ run.finish.subject = run.state.writeBack := by
  unfold finish at h ⊢
  split at h
  · rename_i hstop
    exact ⟨hstop, rfl⟩
  · exact absurd h (by simp)
  · exact absurd h (by simp)

/-- The destination behind a reported match is touched. It holds the result, or still what it held
when the result is the very text that was read from it. -/
theorem Expression.target_of_matched {expression : Expression} {level : Nat} {state : State σ}
    {value result : String}
    (h : (expression.attempt level state).1.steps = [.matched level expression value result]) :
    let flags := expression.rule.flags
    let left := (expression.attempt level state).1.state
    left.history.versions flags.target ≠ [] ∧
      left.latest flags.target =
        if flags.target = flags.source ∧ result = value then state.latest flags.target
        else result := by
  intro flags left
  obtain ⟨rewritten, -, -, hresult, hattempted⟩ := Expression.attempt_of_matched h
  have hleft : left = { state with
      history := (state.touch flags.source).settle flags value rewritten } := by
    simp only [left, hattempted, flags]
  have hsettle := (state.touch flags.source).latest_settle flags value rewritten
  rw [state.latest_touch, ← hresult] at hsettle
  rw [hleft]
  exact ⟨state.versions_settle_ne_nil flags value rewritten, hsettle⟩

section

variable (hview : Subject.IsMetadata view) (expressions : List Expression) (subject : σ)
  (hplace : ∀ state : State σ, view state.subject = view subject →
    (∀ field ∈ writableFields, Subject.native state.writeBack field =
      (state.history.written? field).getD (Subject.native state.subject field)) ∨
    ∀ field text, Subject.assign subject field text = subject)

include hview hplace

/-- An accepted subject shows the latest version of each field that it has a place for. -/
theorem native_of_accepted {group : String}
    (haccepted : (evaluate expressions subject).outcome = .accepted group) {field : Field}
    (hfield : field ∈ writableFields) :
    Subject.native (evaluate expressions subject).subject field =
        (runAll 0 { subject } expressions).state.latest field ∨
      ∀ text, Subject.assign subject field text = subject := by
  obtain ⟨hsubject, operations, hhistory, -⟩ :=
    (Run.operates_law hview).runAll expressions 0 { subject }
  have hevaluation : evaluate expressions subject = (runAll 0 { subject } expressions).finish := rfl
  rw [hevaluation] at haccepted ⊢
  rw [(Run.finish_of_accepted haccepted).2]
  rcases hplace _ hsubject with hwritten | hnone
  · have hgroup : field ≠ .group := by
      rintro rfl
      exact absurd hfield (by decide)
    refine .inl ((hwritten _ hfield).trans ?_)
    rw [State.latest, hview.native hsubject, hhistory]
    exact History.getD_written? _ operations hgroup
  · exact .inr (hnone field)

theorem matchesHold : MatchesHold expressions subject := by
  intro before level expression value result after hsteps flags
  have hevaluation : evaluate expressions subject = (runAll 0 { subject } expressions).finish := rfl
  have hrun := runAll_eq_playAll expressions 0 { subject }
  rw [hevaluation, Run.steps_finish, hrun] at hsteps
  obtain ⟨earlier, later, hturns, hstop, hbefore, hattempt⟩ := exists_turn_of_step hsteps rfl
  obtain ⟨rewritten, hread, hrule, hresult, hattempted⟩ := Expression.attempt_of_matched hattempt
  refine ⟨earlier, later, rewritten, hturns, ?_⟩
  intro found left prior held
  have hprior : (found.state.touch flags.source).latest flags.target = prior :=
    found.state.latest_touch flags.source flags.target
  have hmatched : (expression.attempt level found.state).1.steps =
      [.matched level expression value result] := by rw [hattempted]
  obtain ⟨htouched, hlatest⟩ := Expression.target_of_matched hmatched
  -- whatever turns follow, the run goes on from the state behind the step
  have hreached (middle : List Turn) : ∃ tail : Run σ, Run.Operates view left tail ∧
      playAll { subject } (earlier ++ ⟨level, expression⟩ :: middle) =
        ⟨before ++ .matched level expression value result :: tail.steps, tail.state,
          tail.stop⟩ := by
    obtain ⟨tail, hlaw, hplay⟩ := playAll_of_match (by rw [hattempted]) middle
    refine ⟨tail, hlaw (Run.operates_law hview), ?_⟩
    rw [playAll_append, Run.andThen_of_none hstop, hplay, hattempt, hbefore]
    rfl
  refine ⟨hbefore, hstop, hread, hrule, ?_, hlatest, ?_, ?_⟩
  · rw [hresult, State.result_eq, hprior]
  · intro middle rest between _ there hthere hbetween
    obtain ⟨tail, htail, hplay⟩ := hreached middle
    have hsame : there = _ := hplay
    rw [hsame] at hthere
    obtain rfl : tail.steps = between := by simpa using hthere
    rw [hsame, History.read_latest]
    exact congrArg _ ((htail.latest_of_writes hview htouched hbetween).trans hlatest)
  · intro hafter hfield ⟨group, haccepted⟩
    obtain ⟨tail, htail, hplay⟩ := hreached later
    rw [← hturns, ← hrun] at hplay
    rw [← hrun, hplay] at hsteps
    obtain rfl : tail.steps = after := by simpa using hsteps
    have hend : (runAll 0 { subject } expressions).state.latest flags.target = held := by
      rw [hplay]
      exact (htail.latest_of_writes hview htouched hafter).trans hlatest
    rw [← hend]
    exact native_of_accepted hview expressions subject hplace haccepted hfield

end

end

theorem State.field_writeBack (state : State Histogram) {field : Field}
    (h : field ∈ writableFields) :
    state.writeBack.field field =
      (state.history.written? field).getD (state.subject.field field) := by
  rw [State.writeBack_histogram]
  cases field with
  | group | name | path | origin => exact absurd h (by decide)
  | title | xLabel | yLabel | zLabel => rfl
  | legend =>
      simp only [Histogram.field]
      cases state.history.written? .legend <;> rfl

/-- What is written to a group is written to its first histogram. -/
theorem State.writeBack_group (history : History) (key : String) (canvas : Canvas)
    (lead : Histogram) (rest : List Histogram) :
    State.writeBack ⟨history, (⟨key, canvas, lead :: rest⟩ : GroupCanvas)⟩ =
      ⟨key, canvas, State.writeBack ⟨history, lead⟩ :: rest⟩ := by
  unfold writeBack
  induction writableFields generalizing lead with
  | nil => rfl
  | cons field fields ih =>
      simp only [List.foldl_cons]
      cases history.written? field with
      | none => exact ih lead
      | some version => exact ih (lead.setField field version)

theorem GroupCanvas.native_writeBack {state : State GroupCanvas} {group : GroupCanvas}
    (h : state.subject.metadata = group.metadata) :
    (∀ field ∈ writableFields, Subject.native state.writeBack field =
      (state.history.written? field).getD (Subject.native state.subject field)) ∨
    ∀ field text, Subject.assign group field text = group := by
  obtain ⟨history, key, canvas, histograms⟩ := state
  obtain ⟨key', canvas', histograms'⟩ := group
  simp only [metadata, GroupCanvas.mk.injEq] at h
  obtain ⟨-, -, hhistograms⟩ := h
  cases histograms with
  | nil =>
      obtain rfl := List.map_eq_nil_iff.1 hhistograms.symm
      exact .inr fun _ _ => rfl
  | cons lead rest =>
      refine .inl fun field hfield => ?_
      have hlead := State.field_writeBack ⟨history, lead⟩ hfield
      rw [State.writeBack_group]
      cases field with
      | group | name | path | origin => exact absurd hfield (by decide)
      | _ => exact hlead

/-- A match says what its destination holds. The result that it reports is the latest version of the
destination behind it, unless it is the very text that was read from the destination; then the
latest version stays. -/
theorem evaluate_matched (expressions : List Expression) :
    (∀ histogram : Histogram, MatchesHold expressions histogram) ∧
    (∀ group : GroupCanvas, MatchesHold expressions group) := by
  refine ⟨?_, ?_⟩
  · intro histogram
    exact matchesHold Histogram.isMetadata expressions histogram fun state _ =>
      .inl fun field hfield => state.field_writeBack hfield
  · intro group
    exact matchesHold GroupCanvas.isMetadata expressions group fun state hsubject =>
      GroupCanvas.native_writeBack hsubject

/-- An older version is read and the result put in front of the latest one. -/
theorem evaluate_matched_prepend :
    let histogram : Histogram := { name := "h", title := "old" }
    let assigned : Expression := .leaf ⟨{ source := .title, target := .title }, none, some "new"⟩
      .none
    let prepended : Expression :=
      .leaf ⟨{ add := .prepend, source := .title, target := .title, fromIndex := 0 }, none,
        some "a "⟩ .none
    [assigned, prepended].map Expression.text = ["t//new/", "t0+//a /"] ∧
    (evaluate [assigned, prepended] histogram).steps =
      [.matched 0 assigned "old" "new"] ++ .matched 0 prepended "old" "a new" :: [] ∧
    (evaluate [assigned, prepended] histogram).outcome = .accepted "h" ∧
    (evaluate [assigned, prepended] histogram).subject.title = "a new" := by
  intro histogram assigned prepended
  have hsteps : (evaluate [assigned, prepended] histogram).steps =
      [.matched 0 assigned "old" "new"] ++ .matched 0 prepended "old" "a new" :: [] := rfl
  have haccepted : (evaluate [assigned, prepended] histogram).outcome = .accepted "h" := rfl
  obtain ⟨earlier, later, rewritten, -, -, -, -, -, -, -, -, hfinal⟩ :=
    (evaluate_matched [assigned, prepended]).1 histogram _ _ _ _ _ _ hsteps
  refine ⟨by decide +kernel, hsteps, haccepted, ?_⟩
  have hend := hfinal rfl (by decide) ⟨"h", haccepted⟩
  generalize (evaluate [assigned, prepended] histogram).subject = subject at hend ⊢
  rcases hend with htitle | hnone
  · exact htitle
  · exact absurd (congrArg Histogram.title (hnone "a new")) (by decide)

/-- The reported result is not always the latest version behind a match. Where version 0 of the
title is read and left as it is, the latest title stays `new`. -/
theorem matched_result_not_latest :
    ¬ ∀ (expressions : List Expression) (histogram : Histogram) before level expression value
        result after,
      (evaluate expressions histogram).steps =
        before ++ .matched level expression value result :: after →
      ∃ earlier later,
        turnsAll 0 { subject := histogram } expressions =
          earlier ++ ⟨level, expression⟩ :: later ∧
        (playAll { subject := histogram } earlier).steps = before ∧
        (expression.attempt level (playAll { subject := histogram } earlier).state).1.state.latest
          expression.rule.flags.target = result := by
  intro hlatest
  let assigned : Expression :=
    .leaf ⟨{ source := .title, target := .title }, none, some "new"⟩ .none
  let older : Expression :=
    .leaf ⟨{ source := .title, target := .title, fromIndex := 0 }, none, none⟩ .none
  obtain ⟨earlier, later, hturns, hbefore, hresult⟩ := hlatest [assigned, older]
    { name := "h", title := "old" } [.matched 0 assigned "old" "new"] 0 older "old" "old" []
    rfl
  rcases earlier with _ | ⟨turn, _ | ⟨second, turns⟩⟩
  · exact absurd hbefore (by simp [playAll])
  · obtain rfl : (⟨0, assigned⟩ : Turn) = turn := (List.cons.inj hturns).1
    have hnew : (older.attempt 0
        (playAll ({ subject := { name := "h", title := "old" } } : State Histogram)
          [⟨0, assigned⟩]).state).1.state.latest .title = "new" := rfl
    exact absurd (hnew.symm.trans hresult) (by decide)
  · -- only the two expressions of the list have a turn
    have hlength := congrArg List.length hturns
    rw [show (turnsAll 0 _ [assigned, older]).length = 2 from rfl] at hlength
    simp only [List.length_append, List.length_cons] at hlength
    omega

end HistEdit
