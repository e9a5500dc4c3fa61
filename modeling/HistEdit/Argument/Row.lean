import HistEdit.Argument.Type

/-!
Binding tokens to the elements of a row. The `i`-th token belongs to the `i`-th element; an empty
token leaves what the element already holds, which is an error for elements that are required.
-/

namespace HistEdit

/-- The types of a row of arguments, from the first to the last. -/
inductive Row : Type → Type 1 where
  | nil : Row Unit
  | cons {α ρ : Type} (type : ArgType α) (rest : Row ρ) : Row (α × ρ)

structure RawArgs where
  text : String
  delimiter : Char

def RawArgs.tokens (args : RawArgs) : List String :=
  Argument.tokens args.delimiter args.text

namespace Row

def arity {ρ : Type} : Row ρ → Nat
  | .nil => 0
  | .cons _ rest => rest.arity + 1

def missing {ρ : Type} : Row ρ → ρ
  | .nil => ()
  | .cons type rest => (type.missing, rest.missing)

/-- Folds each token into the element at its place; empty tokens change nothing. -/
def assign {ρ : Type} : Row ρ → ρ → List String → Except ArgError ρ
  | .nil, values, _ => .ok values
  | .cons _ _, values, [] => .ok values
  | .cons type rest, (value, values), token :: tokens => do
    let value ← if token.isEmpty then .ok value else type.accumulate value token
    let values ← rest.assign values tokens
    return (value, values)

/-- Binds tokens where the last `optionals` elements fall back to `defaults`. Their number is
checked first, then that the required ones are not empty, then each one in turn. -/
def bindTokens {ρ : Type} (row : Row ρ) (optionals : Nat) (defaults : ρ) (tokens : List String) :
    Except ArgError ρ :=
  let required := row.arity - optionals
  if tokens.length < required then .error (.tooFew required tokens.length)
  else if row.arity < tokens.length then .error (.tooMany row.arity tokens.length)
  else
    match (tokens.take required).findIdx? String.isEmpty with
    | some index => .error (.empty (index + 1))
    | none => row.assign defaults tokens

/-- Binds argument text where the last `optionals` elements fall back to `defaults`. -/
def bindWith {ρ : Type} (row : Row ρ) (optionals : Nat) (defaults : ρ) (args : RawArgs) :
    Except ArgError ρ :=
  row.bindTokens optionals defaults args.tokens

/-- Binds argument text where every element is required. -/
def bind {ρ : Type} (row : Row ρ) (args : RawArgs) : Except ArgError ρ :=
  row.bindWith 0 row.missing args

end Row

end HistEdit
