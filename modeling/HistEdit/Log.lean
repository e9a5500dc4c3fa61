import HistEdit.Configuration
import HistEdit.Document.Load
import HistEdit.Evaluation

/-!
Logs. What happens on the way to a result is kept as a list of events beside the result, also when
that is an error. A log shows the events that its filter lets through, each on a line of its own.
-/

namespace HistEdit

inductive Event where
  | parsed (expression : Expression)
  | configured (path : String) (configuration : Configuration)
  | reading (path : String)
  | loaded (path : String) (format : DocumentFormat)
  | evaluated (step : Step)
  | rejected (histogram : String)
  | groupRejected (key : String)
  | finished (files selected groups : Nat)

structure Logged (α : Type) where
  events : List Event := []
  result : Except EditError α

namespace Logged

def ok {α : Type} (value : α) : Logged α := { result := .ok value }

/-- Goes on with a value; an error ends the log. -/
def andThen {α β : Type} (first : Logged α) (next : α → Logged β) : Logged β :=
  match first.result with
  | .error error => ⟨first.events, .error error⟩
  | .ok value =>
    let later := next value
    ⟨first.events ++ later.events, later.result⟩

instance : Monad Logged where
  pure := ok
  bind := andThen

def ofExcept {α : Type} (result : Except EditError α) : Logged α := { result }

def tell (event : Event) : Logged Unit := ⟨[event], .ok ()⟩

@[simp] theorem result_andThen {α β : Type} (first : Logged α) (next : α → Logged β) :
    (first.andThen next).result = first.result.bind fun value => (next value).result := by
  unfold andThen
  cases first.result <;> rfl

end Logged

/-- How urgent an event is, the most urgent first. -/
inductive Severity where
  | error
  | warning
  | info
  | debug
  | trace
  deriving DecidableEq

namespace Severity

/-- The place in the order, from 1. -/
def rank : Severity → Nat
  | .error => 1
  | .warning => 2
  | .info => 3
  | .debug => 4
  | .trace => 5

def label : Severity → String
  | .error => "ERROR"
  | .warning => "WARN"
  | .info => "INFO"
  | .debug => "DEBUG"
  | .trace => "TRACE"

end Severity

/-- One line of a log: how urgent it is, which part of the program it comes from, a message, and
what the message is about. -/
structure LogLine where
  severity : Severity
  origin : String
  message : String
  fields : List (String × String) := []

def LogLine.text (line : LogLine) : String :=
  line.severity.label ++ " " ++ line.message ++
    String.join (line.fields.map fun (name, value) => " " ++ name ++ "=" ++ value)

/-- The lines of a step. An expression with the print flag has a line of its own. -/
def Step.logLines : Step → List LogLine
  | .matched level expression value result =>
    let text := expression.text
    ⟨.debug, "hed::apply", "matched",
      [ ("level", toString level), ("expression", text), ("value", value), ("result", result) ]⟩ ::
    if expression.rule.flags.print then
      [ ⟨.info, "hed::print", "matched",
          [("expression", text), ("input", value), ("output", result)]⟩ ]
    else []
  | .unmatched level expression value =>
    let text := expression.text
    ⟨.debug, "hed::apply", "not matched",
      [("level", toString level), ("expression", text), ("value", value)]⟩ ::
    if expression.rule.flags.print then
      [⟨.info, "hed::print", "not matched", [("expression", text), ("input", value)]⟩]
    else []
  | .noCanvas call =>
    [ ⟨.warning, "hed::target", "canvas function has no canvas to act on",
        [("function", call.text)]⟩ ]

def Event.logLines : Event → List LogLine
  | .parsed expression =>
    [⟨.debug, "hed::expr::parse", "parsed expression", [("expression", expression.text)]⟩]
  | .configured path configuration =>
    [ ⟨.debug, "hed::config", "loaded configuration",
        [("path", path), ("config", configuration.describe)]⟩ ]
  | .reading path => [⟨.info, "hed::cli::group", "reading input", [("input", path)]⟩]
  | .loaded path format =>
    [ ⟨.debug, "hed::document", "loaded document",
        [("path", path), ("format", format.label)]⟩ ]
  | .evaluated step => step.logLines
  | .rejected name => [⟨.debug, "hed::cli::group", "rejected", [("histogram", name)]⟩]
  | .groupRejected key =>
    [⟨.debug, "hed::cli::group", "group rejected by canvas expressions", [("group", key)]⟩]
  | .finished files selected groups =>
    [ ⟨.info, "hed::cli::group", "grouping finished",
        [ ("files", toString files), ("selected", toString selected),
          ("groups", toString groups) ]⟩ ]

end HistEdit
