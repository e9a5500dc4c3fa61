import HistEdit.Flags
import HistEdit.Function.Action
import HistEdit.Function.Registry
import HistEdit.Pattern

/-!
Expressions. A rule says which field is matched and edited; when it matches, an effect takes place
or a block of further expressions runs. The text of an expression is its normal form.
-/

namespace HistEdit

/-- What an expression matches and what it makes of it. Without a pattern it matches everything, and
without a substitution it keeps what it read. -/
structure Rule where
  flags : Flags
  pattern : Option Pattern := none
  substitution : Option String := none

/-- What a matched expression without a block does besides rewriting. -/
inductive Effect where
  | none
  | histogram (call : Call HistogramAction)
  | canvas (call : Call CanvasAction)

/-- An expression: a rule with an effect, or with a block. -/
inductive Expression where
  | leaf (rule : Rule) (effect : Effect)
  | block (rule : Rule) (children : List Expression)

def Expression.rule : Expression → Rule
  | .leaf rule _ => rule
  | .block rule _ => rule

/-- Flags and clause in normal form; the delimiter is always a slash. -/
def Rule.text (rule : Rule) : String :=
  rule.flags.encode ++
    (if rule.pattern.isSome || rule.substitution.isSome then
      "/" ++ (rule.pattern.map Pattern.source).getD "" ++ "/" ++
        (match rule.substitution with
        | some template => template ++ "/"
        | none => "")
    else "")

def Effect.text : Effect → String
  | .none => ""
  | .histogram call => " " ++ call.text
  | .canvas call => " " ++ call.text

mutual

def Expression.text : Expression → String
  | .leaf rule effect => rule.text ++ effect.text
  | .block rule children => rule.text ++ " \x7b" ++ blockText children ++ " \x7d"

/-- The expressions of a block, each with a blank before it and a semicolon between them. -/
def blockText : List Expression → String
  | [] => ""
  | child :: [] => " " ++ child.text
  | child :: next :: children => " " ++ child.text ++ ";" ++ blockText (next :: children)

end

end HistEdit
