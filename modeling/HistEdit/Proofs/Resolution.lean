import HistEdit.Pattern.Machine
import HistEdit.Proofs.Reading
import HistEdit.Proofs.Registration
import HistEdit.Proofs.Turns

/-!
The two ways to look up calls. No function on canvases has the name of a function on histograms, so
where canvases are edited, whatever could be read without them is read as before; and what is read
there is read without them up to the first call of a function on canvases, which is unknown.
-/

namespace HistEdit

def Expression.effect : Expression → Effect
  | .leaf _ effect => effect
  | .block _ _ => .none

def Effect.call? : Effect → Option (String × String)
  | .none => Option.none
  | .histogram call => some (call.name, call.args)
  | .canvas call => some (call.name, call.args)

def Effect.onCanvas : Effect → Bool
  | .canvas _ => true
  | .none | .histogram _ => false

/-- The calls in some expressions, at every depth and in the order in which they are read. -/
def callsOf (expressions : List Expression) : List (String × String) :=
  (allSubexpressions expressions).filterMap fun expression => expression.effect.call?

/-- No expression, at whatever depth, has an effect on canvases. -/
def NoCanvas (expressions : List Expression) : Prop :=
  ∀ expression ∈ allSubexpressions expressions, expression.effect.onCanvas = false

@[simp] theorem callsOf_nil : callsOf [] = [] := rfl

theorem callsOf_leaf (rule : Rule) (effect : Effect) (later : List Expression) :
    callsOf (.leaf rule effect :: later) = effect.call?.toList ++ callsOf later := by
  simp only [callsOf, allSubexpressions, Expression.subexpressions, List.filterMap_append]
  cases hcall : effect.call? <;> simp [Expression.effect, hcall]

theorem callsOf_block (rule : Rule) (children later : List Expression) :
    callsOf (.block rule children :: later) = callsOf children ++ callsOf later := by
  simp [callsOf, allSubexpressions, Expression.subexpressions, Expression.effect, Effect.call?]

@[simp] theorem noCanvas_nil : NoCanvas [] := by
  simp [NoCanvas, allSubexpressions]

theorem noCanvas_leaf {rule : Rule} {effect : Effect} {later : List Expression} :
    NoCanvas (.leaf rule effect :: later) ↔ effect.onCanvas = false ∧ NoCanvas later := by
  simp [NoCanvas, allSubexpressions, Expression.subexpressions, Expression.effect]

theorem noCanvas_block {rule : Rule} {children later : List Expression} :
    NoCanvas (.block rule children :: later) ↔ NoCanvas children ∧ NoCanvas later := by
  have hblock : (Expression.block rule children).effect.onCanvas = false := rfl
  simp only [NoCanvas, allSubexpressions, Expression.subexpressions, List.forall_mem_append,
    List.forall_mem_singleton, hblock, and_true]

def Functions.Disjoint (functions : Functions) : Prop :=
  ∀ name, functions.canvas.contains name = true → functions.histogram.find? name = none

theorem Functions.builtin_disjoint : Functions.builtin.Disjoint := by
  have hnames : ∀ name ∈ builtin.canvas.entries.map FunctionEntry.name,
      (builtin.histogram.find? name).isNone = true := by decide +kernel
  intro name hname
  exact Option.isNone_iff_eq_none.1 (hnames name (Registry.contains_iff.1 hname))

namespace Expression

variable {functions : Functions} {name args : String} {effect : Effect}

/-- A call that is made where there are no canvases is a call of a function on histograms, and it is
made alike where there are. -/
theorem resolve_of_histogram (h : resolve functions .histogram name args = .ok effect) :
    resolve functions .histogramThenCanvas name args = .ok effect ∧ effect.onCanvas = false := by
  unfold resolve at h ⊢
  split at h
  · obtain rfl := Except.ok.inj h
    exact ⟨rfl, rfl⟩
  · exact absurd h (by simp)

/-- A call that is made where there are canvases means a function on canvases exactly when it names
one, and otherwise it is made alike where there are none. -/
theorem resolve_of_canvas (hdisjoint : functions.Disjoint)
    (h : resolve functions .histogramThenCanvas name args = .ok effect) :
    effect.call? = some (name, args) ∧ effect.onCanvas = functions.canvas.contains name ∧
      resolve functions .histogram name args =
        if functions.canvas.contains name then .error (.unknownFunction name args)
        else .ok effect := by
  unfold resolve at h ⊢
  cases hmake : functions.histogram.make name args with
  | ok call =>
      rw [hmake] at h
      obtain rfl := Except.ok.inj h
      obtain ⟨hname, hargs, hfound⟩ := Registry.make_eq_ok hmake
      have hother : functions.canvas.contains name = false := by
        by_contra hcanvas
        exact hfound (hdisjoint name (by simpa using hcanvas))
      simp [Effect.call?, Effect.onCanvas, hname, hargs, hother]
  | error error =>
      rw [hmake] at h
      by_cases hcanvas : functions.canvas.contains name = true
      · simp only [hcanvas, and_self, if_true] at h
        obtain ⟨call, hcall, rfl⟩ := map_eq_ok_iff.1 h
        obtain ⟨hname, hargs, -⟩ := Registry.make_eq_ok hcall
        rw [Registry.make_of_find?_eq_none (hdisjoint name hcanvas)] at hmake
        simp [Effect.call?, Effect.onCanvas, hname, hargs, hcanvas, Except.error.inj hmake]
      · simp [hcanvas] at h

variable {cs : List Char} {expressions : List Expression}

/-- What is read without canvases is read alike with them, and has no effect on them. -/
theorem Reads.histogramThenCanvas [PatternEngine] (h : Reads functions .histogram cs expressions) :
    Reads functions .histogramThenCanvas cs expressions ∧ NoCanvas expressions := by
  induction h with
  | done hnext => exact ⟨.done hnext, noCanvas_nil⟩
  | nothing hnext hbody hlater ih => exact ⟨.nothing hnext hbody ih.1, noCanvas_leaf.2 ⟨rfl, ih.2⟩⟩
  | call hnext hbody heffect hlater ih =>
      obtain ⟨hmade, hcanvas⟩ := resolve_of_histogram heffect
      exact ⟨.call hnext hbody hmade ih.1, noCanvas_leaf.2 ⟨hcanvas, ih.2⟩⟩
  | block hnext hbody hchildren hlater ihChildren ih =>
      exact ⟨.block hnext hbody ihChildren.1 ih.1, noCanvas_block.2 ⟨ihChildren.2, ih.2⟩⟩

def firstCanvas? (functions : Functions) (expressions : List Expression) :
    Option (String × String) :=
  (callsOf expressions).find? fun call => functions.canvas.contains call.1

/-- What is read with canvases is read alike without them, unless it calls a function on them; then
the first such call is unknown. -/
theorem Reads.readList_histogram [PatternEngine] (hdisjoint : functions.Disjoint)
    (h : Reads functions .histogramThenCanvas cs expressions) :
    readList functions .histogram cs =
      match firstCanvas? functions expressions with
      | none => .ok expressions
      | some (name, args) => .error (.unknownFunction name args) := by
  induction h with
  | done hnext =>
      rw [readList_eq, hnext]
      rfl
  | nothing hnext hbody hlater ih =>
      rw [readList_eq, hnext]
      simp only [ofSegment, hbody, ih, firstCanvas?, callsOf_leaf, Effect.call?,
        Option.toList_none, List.nil_append]
      cases (callsOf _).find? _ <;> rfl
  | call hnext hbody heffect hlater ih =>
      obtain ⟨hcall, -, hhistogram⟩ := resolve_of_canvas hdisjoint heffect
      rw [readList_eq, hnext]
      simp only [ofSegment, hbody, hhistogram, ih, firstCanvas?, callsOf_leaf, hcall,
        Option.toList_some, List.singleton_append, List.find?_cons]
      cases functions.canvas.contains _ with
      | true => rfl
      | false => cases (callsOf _).find? _ <;> rfl
  | @block cs inner segment children later hnext hbody hchildren hlater ihChildren ih =>
      rw [readList_eq, hnext]
      simp only [ofSegment, hbody, ihChildren, ih, firstCanvas?, callsOf_block,
        List.find?_append]
      -- an unknown call inside the block comes before those behind it
      cases List.find? _ (callsOf children) with
      | some call => rfl
      | none => cases List.find? _ (callsOf later) <;> rfl

/-- Without an effect on canvases there is no call of a function on them. -/
theorem Reads.firstCanvas?_eq_none [PatternEngine] (hdisjoint : functions.Disjoint)
    (h : Reads functions .histogramThenCanvas cs expressions) (hnone : NoCanvas expressions) :
    firstCanvas? functions expressions = none := by
  induction h with
  | done hnext => rfl
  | nothing hnext hbody hlater ih =>
      rw [firstCanvas?, callsOf_leaf]
      exact ih (noCanvas_leaf.1 hnone).2
  | call hnext hbody heffect hlater ih =>
      obtain ⟨hleaf, hrest⟩ := noCanvas_leaf.1 hnone
      obtain ⟨hcall, hcanvas, -⟩ := resolve_of_canvas hdisjoint heffect
      have hlater := ih hrest
      simp only [firstCanvas?] at hlater
      simp [firstCanvas?, callsOf_leaf, hcall, ← hcanvas, hleaf, hlater]
  | block hnext hbody hchildren hlater ihChildren ih =>
      obtain ⟨hinside, hrest⟩ := noCanvas_block.1 hnone
      have hchildren := ihChildren hinside
      have hlater := ih hrest
      simp only [firstCanvas?] at hchildren hlater
      simp [firstCanvas?, callsOf_block, List.find?_append, hchildren, hlater]

end Expression

section Notes

variable {σ : Type} [Subject σ]

/-- A missing canvas is noted only at a turn of an expression that acts on canvases. -/
theorem Turn.effect_of_noCanvas {turn : Turn} {state : State σ} {call : Call CanvasAction}
    (h : .noCanvas call ∈ (turn.play state).steps) : turn.expression.effect = .canvas call := by
  obtain ⟨level, expression⟩ := turn
  have hattempt : Step.noCanvas call ∉ (expression.attempt level state).1.steps := by
    intro hmem
    exact absurd (Expression.turn?_of_mem_attempt hmem).2 (by simp [Step.turn?])
  cases expression with
  | block rule children => exact absurd h hattempt
  | leaf rule effect =>
      simp only [play] at h
      split at h
      · rename_i hmatch
        rw [Run.andThen_of_none (Expression.stop_of_attempt hmatch), List.mem_append] at h
        have hnote := h.resolve_left hattempt
        cases effect with
        | none => exact absurd hnote List.not_mem_nil
        | histogram other => exact absurd hnote List.not_mem_nil
        | canvas other =>
            simp only [Effect.perform] at hnote
            split at hnote
            · exact absurd hnote List.not_mem_nil
            · obtain ⟨⟩ := List.mem_singleton.1 hnote
              rfl
      · exact absurd h hattempt

theorem effect_of_noCanvas {turns : List Turn} {state : State σ} {call : Call CanvasAction}
    (h : .noCanvas call ∈ (playAll state turns).steps) :
    ∃ turn ∈ turns, turn.expression.effect = .canvas call := by
  induction turns generalizing state with
  | nil => exact absurd h List.not_mem_nil
  | cons turn turns ih =>
      simp only [playAll] at h
      cases hstop : (turn.play state).stop with
      | some stop =>
          rw [Run.andThen_of_stop hstop] at h
          exact ⟨turn, List.mem_cons_self, Turn.effect_of_noCanvas h⟩
      | none =>
          rw [Run.andThen_of_none hstop, List.mem_append] at h
          rcases h with hfirst | hlater
          · exact ⟨turn, List.mem_cons_self, Turn.effect_of_noCanvas hfirst⟩
          · obtain ⟨other, hmem, heffect⟩ := ih hlater
            exact ⟨other, List.mem_cons_of_mem _ hmem, heffect⟩

/-- Expressions without effects on canvases never miss one. -/
theorem noCanvas_not_mem_steps {expressions : List Expression} (h : NoCanvas expressions)
    (subject : σ) (call : Call CanvasAction) :
    .noCanvas call ∉ (evaluate expressions subject).steps := by
  intro hmem
  rw [evaluate_eq_evaluateFrom, evaluateFrom, Run.steps_finish, runAll_eq_playAll] at hmem
  obtain ⟨turn, hturn, heffect⟩ := effect_of_noCanvas hmem
  have hnone := h _ (mem_allSubexpressions_of_mem_turnsAll expressions hturn)
  rw [heffect] at hnone
  exact absurd hnone (by simp [Effect.onCanvas])

end Notes

namespace Expression

/-- Reading with canvases conservatively extends reading without them. What is read without them is
read alike with them, has no effect on canvases at any depth, and so never misses a canvas on a
histogram. What is read with them and has no such effect is read alike without them; and where
reading without them fails nevertheless, it is for the first call that names a function on
canvases. -/
theorem readList_conservative [PatternEngine] (cs : List Char) :
    (∀ expressions, readList .builtin .histogram cs = .ok expressions →
      readList .builtin .histogramThenCanvas cs = .ok expressions ∧ NoCanvas expressions ∧
        ∀ (histogram : Histogram) (call : Call CanvasAction),
          .noCanvas call ∉ (evaluate expressions histogram).steps) ∧
    (∀ expressions, readList .builtin .histogramThenCanvas cs = .ok expressions →
      (NoCanvas expressions → readList .builtin .histogram cs = .ok expressions) ∧
        ∀ error, readList .builtin .histogram cs = .error error →
          ∃ name args, error = .unknownFunction name args ∧
            (callsOf expressions).find? (fun call => Functions.builtin.canvas.contains call.1) =
              some (name, args)) := by
  refine ⟨?_, ?_⟩
  · intro expressions h
    obtain ⟨hreads, hnone⟩ := (reads_of_readList h).histogramThenCanvas
    exact ⟨readList_of_reads hreads, hnone, noCanvas_not_mem_steps hnone⟩
  · intro expressions h
    have hreads := reads_of_readList h
    have hhistogram := hreads.readList_histogram Functions.builtin_disjoint
    refine ⟨?_, ?_⟩
    · intro hnone
      rw [hhistogram, hreads.firstCanvas?_eq_none Functions.builtin_disjoint hnone]
    · intro error herror
      rw [hhistogram] at herror
      cases hfirst : firstCanvas? Functions.builtin expressions with
      | none => exact absurd herror (by simp [hfirst])
      | some call =>
          rw [hfirst] at herror
          exact ⟨call.1, call.2, (Except.error.inj herror).symm, hfirst⟩

/-- A function on canvases behind one on histograms, both inside a block. -/
theorem readList_conservative_block :
    ∃ expressions, readList .builtin .histogramThenCanvas "t \x7b norm; log x \x7d; grid y".toList =
        .ok expressions ∧
      readList .builtin .histogram "t \x7b norm; log x \x7d; grid y".toList =
        .error (.unknownFunction "log" "x") := by
  obtain ⟨expressions, hread, hcalls⟩ := exists_ok_of_toOption
    (readList .builtin .histogramThenCanvas "t \x7b norm; log x \x7d; grid y".toList)
    (fun expressions => (callsOf expressions).find?
      fun call => Functions.builtin.canvas.contains call.1)
    (b := some ("log", "x")) (by decide +kernel)
  refine ⟨expressions, hread, ?_⟩
  have hfails : (readList .builtin .histogram
      "t \x7b norm; log x \x7d; grid y".toList).isOk = false := by decide +kernel
  cases herror : readList .builtin .histogram "t \x7b norm; log x \x7d; grid y".toList with
  | ok found => exact absurd (herror ▸ hfails) (by simp [Except.isOk, Except.toBool])
  | error error =>
      obtain ⟨name, args, rfl, hfirst⟩ :=
        ((readList_conservative _).2 expressions hread).2 error herror
      rw [hcalls] at hfirst
      obtain ⟨rfl, rfl⟩ := Prod.mk.inj (Option.some.inj hfirst)
      rfl

end Expression

end HistEdit
