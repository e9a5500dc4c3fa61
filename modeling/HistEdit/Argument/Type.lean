import HistEdit.Argument.Error
import HistEdit.Argument.Tokens
import HistEdit.Number.Read

/-!
Types of arguments. A type says how a token becomes a value, how a further token is folded into a
value that is already there, and which value stands for a missing token. Scalars and pairs are
replaced by a further token; lists grow.
-/

namespace HistEdit

/-- How texts become values of `α`. -/
structure ArgType (α : Type) where
  describe : String
  read : String → Except ArgError α
  accumulate : α → String → Except ArgError α
  missing : α

namespace ArgType

/-- A type whose values are replaced by a further token. -/
def scalar {α : Type} (describe : String) (missing : α) (read? : String → Option α) : ArgType α :=
  let read (text : String) : Except ArgError α :=
    match read? text with
    | some value => .ok value
    | none => .error (.convert text describe)
  { describe, read, accumulate := fun _ => read, missing }

/-- Yes and no in five spellings each but one, in either case. -/
def readBool (text : String) : Option Bool :=
  let word := String.ofList (text.toList.map Char.toLower)
  if ["1", "true", "yes", "on", "y"].contains word then some true
  else if ["0", "false", "no", "off"].contains word then some false
  else none

def bool : ArgType Bool := scalar "bool" false readBool

def text : ArgType String := scalar "string" "" some

def char : ArgType Char :=
  scalar "char" (Char.ofNat 0) fun text =>
    match text.toList with
    | [c] => some c
    | _ => none

/-- A whole number in a range, with blanks around it. -/
def whole (describe : String) (least most : Int) : ArgType Int :=
  scalar describe 0 fun text => Number.readWhole least most (Text.trim text.toList)

def int16 : ArgType Int16 :=
  scalar "i16" 0 fun text =>
    (Number.readWhole (-32768) 32767 (Text.trim text.toList)).map Int16.ofInt

/-- Floating-point numbers of 32 bits, with blanks around them. -/
def single : ArgType Float32 :=
  scalar "f32" 0 fun text => Number.readSingle (Text.trim text.toList)

/-- Floating-point numbers of 64 bits, with blanks around them. -/
def double : ArgType Float :=
  scalar "f64" 0 fun text => Number.readDouble (Text.trim text.toList)

def optional {α : Type} (type : ArgType α) : ArgType (Option α) :=
  let read (text : String) := (type.read text).map some
  { describe := type.describe, read, accumulate := fun _ => read, missing := none }

def list {α : Type} (type : ArgType α) : ArgType (List α) where
  describe := "list of " ++ type.describe
  read text := (type.read text).map fun value => [value]
  accumulate values text := (type.read text).map fun value => values ++ [value]
  missing := []

/-- Two values with a colon between them. Without a colon the second one is missing; the second one
reads everything after the first colon, so that pairs nested to the right are longer tuples. -/
def pair {α β : Type} (first : ArgType α) (second : ArgType β) : ArgType (α × β) :=
  let read (text : String) : Except ArgError (α × β) :=
    match Text.splitOnce ':' text.toList with
    | none => do
      let a ← first.read text
      return (a, second.missing)
    | some (head, tail) => do
      let a ← first.read (String.ofList head)
      let b ← second.read (String.ofList tail)
      return (a, b)
  { describe := first.describe ++ ":" ++ second.describe
    read
    accumulate := fun _ => read
    missing := (first.missing, second.missing) }

/-- Folds the tokens that are not empty into the missing value. -/
def readList {α : Type} (type : ArgType α) (delimiter : Char) (text : String) :
    Except ArgError α :=
  ((Argument.tokens delimiter text).filter fun token => !token.isEmpty).foldlM
    type.accumulate type.missing

end ArgType

end HistEdit
