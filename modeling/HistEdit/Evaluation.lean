import HistEdit.Expression.Substitution
import HistEdit.History
import HistEdit.Subject

/-!
Running expressions on a subject. Expressions run in order, and a block runs when its expression
matched. A select flag on an expression that does not match rejects the subject, and a version
index without a version is an error; either ends the run at once. The fields that were written go
back to the subject only when it is accepted, while actions take effect as they come.
-/

namespace HistEdit

inductive Step where
  | matched (level : Nat) (expression : Expression) (value result : String)
  | unmatched (level : Nat) (expression : Expression) (value : String)
  | noCanvas (call : Call CanvasAction)

/-- What ends a run before its last expression. -/
inductive Stop where
  | rejected
  | failed (error : EditError)

structure State (σ : Type) where
  history : History := {}
  subject : σ

/-- A run under way: what was reported, where things stand, and what ended it, if anything did. -/
structure Run (σ : Type) where
  steps : List Step := []
  state : State σ
  stop : Option Stop := none

def Run.andThen {σ : Type} (run : Run σ) (next : State σ → Run σ) : Run σ :=
  match run.stop with
  | some _ => run
  | none =>
    let later := next run.state
    { later with steps := run.steps ++ later.steps }

/-- A result joined to the latest version of its destination. -/
def AddMode.join : AddMode → (prior result : String) → String
  | .none, _, result => result
  | .prepend, prior, result => result ++ prior
  | .append, prior, result => prior ++ result

section

variable {σ : Type} [Subject σ]

/-- The latest version of a field that an add mode has to join to, and the history afterwards. A
result that replaces the destination does not touch it. -/
def State.prior (state : State σ) (flags : Flags) : History × String :=
  match flags.add with
  | .none => (state.history, "")
  | .prepend | .append => state.history.latest (Subject.native state.subject) flags.target

/-- Runs the rule of an expression. A match appends a version to the destination, unless it leaves
the field that it read as it was. -/
def Expression.attempt (expression : Expression) (level : Nat) (state : State σ) :
    Run σ × Bool :=
  let flags := expression.rule.flags
  let native := Subject.native state.subject
  match state.history.read native flags.source flags.fromIndex.toInt with
  | (history, .error error) => (⟨[], { state with history }, some (.failed error)⟩, false)
  | (history, .ok value) =>
    let state := { state with history }
    match expression.rule.apply value with
    | none =>
      (⟨[.unmatched level expression value], state,
        if flags.select then some .rejected else none⟩, false)
    | some rewritten =>
      let (history, prior) := state.prior flags
      let result := flags.add.join prior rewritten
      let history :=
        if flags.target ≠ flags.source ∨ result ≠ value then
          history.push native flags.target result
        else history
      (⟨[.matched level expression value result], { state with history }, none⟩, true)

def Effect.perform (effect : Effect) (state : State σ) : Run σ :=
  match effect with
  | .none => { state }
  | .histogram call =>
    { state := { state with subject := Subject.onHistogram call.action state.subject } }
  | .canvas call =>
    match Subject.onCanvas? call.action state.subject with
    | .some subject => { state := { state with subject } }
    | .none => { steps := [.noCanvas call], state }

mutual

def Expression.run (level : Nat) (state : State σ) : Expression → Run σ
  | .leaf rule effect =>
    let (run, isMatch) := (Expression.leaf rule effect).attempt level state
    if isMatch then run.andThen effect.perform else run
  | .block rule children =>
    let (run, isMatch) := (Expression.block rule children).attempt level state
    if isMatch then run.andThen fun state => runAll (level + 1) state children else run

def runAll (level : Nat) (state : State σ) : List Expression → Run σ
  | [] => { state }
  | expression :: rest =>
    (expression.run level state).andThen fun state => runAll level state rest

end

inductive Outcome where
  | accepted (group : String)
  | rejected
  | failed (error : EditError)

structure Evaluation (σ : Type) where
  steps : List Step
  subject : σ
  outcome : Outcome

/-- The fields that go back to the subject, in this order. -/
def writableFields : List Field := [.title, .xLabel, .yLabel, .zLabel, .legend]

def State.writeBack (state : State σ) : σ :=
  writableFields.foldl (fun subject field =>
    match state.history.written? field with
    | some version => Subject.assign subject field version
    | none => subject) state.subject

/-- The group of a subject: the one written last, else the name written last, else its native
name. -/
def State.group (state : State σ) : String :=
  ((state.history.written? .group).orElse fun _ => state.history.written? .name).getD
    (Subject.native state.subject .name)

def evaluate (expressions : List Expression) (subject : σ) : Evaluation σ :=
  let run := runAll 0 { subject } expressions
  match run.stop with
  | none => ⟨run.steps, run.state.writeBack, .accepted run.state.group⟩
  | some .rejected => ⟨run.steps, run.state.subject, .rejected⟩
  | some (.failed error) => ⟨run.steps, run.state.subject, .failed error⟩

end

end HistEdit
