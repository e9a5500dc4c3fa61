import HistEdit.Expression
import HistEdit.Function.Builtin
import HistEdit.Report

/-!
Expressions and tables of functions as trees of plain data.
-/

namespace HistEdit

open Data (Value)

def Effect.kind : Effect → String
  | .none => "none"
  | .histogram _ => "histogram_function"
  | .canvas _ => "canvas_function"

def Expression.kind : Expression → String
  | .leaf _ effect => effect.kind
  | .block .. => "exprs"

def Effect.report (effect : Effect) : Value :=
  let call (name args : String) : List (String × Value) :=
    [("name", .text name), ("args", .text args)]
  .table <| ("kind", .text effect.kind) ::
    match effect with
    | .none => []
    | .histogram made => call made.name made.args
    | .canvas made => call made.name made.args

def Expression.reportWith (expression : Expression) (payload : Value) : Value :=
  let rule := expression.rule
  .table <|
    [("normalized", .text expression.text), ("flags", rule.flags.report)] ++
    Report.optional "regex" .text (rule.pattern.map Pattern.source) ++
    Report.optional "substitution" .text rule.substitution ++ [("payload", payload)]

mutual

def Expression.report : Expression → Value
  | .leaf rule effect => (Expression.leaf rule effect).reportWith effect.report
  | .block rule children =>
    (Expression.block rule children).reportWith
      (.table [("kind", .text "exprs"), ("children", .list (reportAll children))])

def reportAll : List Expression → List Value
  | [] => []
  | expression :: rest => expression.report :: reportAll rest

end

def Registry.report {α : Type} (target : String) (registry : Registry α) : Value :=
  .table
    [ ("target", .text target), ("delimiter", .text (String.singleton registry.delimiter)),
      ("functions", .list (registry.signatures.map fun (name, signature) =>
        .table [("name", .text name), ("signature", .text signature)])) ]

def Functions.report (functions : Functions) (canvas : Bool) : Value :=
  if canvas then functions.canvas.report "canvas" else functions.histogram.report "histogram"

end HistEdit
