import HistEdit.Argument.Row
import HistEdit.Error

/-!
Tables of functions. A function has a name, a signature for the reader, and a rule that turns
argument text into an action. A table keeps its functions in ascending byte order of their names
and cuts all argument text at one delimiter.
-/

namespace HistEdit

structure FunctionEntry (α : Type) where
  name : String
  signature : String
  factory : RawArgs → Except ArgError α

/-- A call whose arguments were accepted: the text it was made from, and its action. -/
structure Call (α : Type) where
  name : String
  args : String
  action : α

def Call.text {α : Type} (call : Call α) : String :=
  if call.args.isEmpty then call.name else call.name ++ " " ++ call.args

/-- A table of functions in ascending order of their names. -/
structure Registry (α : Type) where
  delimiter : Char
  entries : List (FunctionEntry α)

namespace Registry

variable {α : Type}

/-- Puts a function in front of the first one whose name is not smaller. -/
def insertEntry (entry : FunctionEntry α) : List (FunctionEntry α) → List (FunctionEntry α)
  | [] => [entry]
  | other :: rest =>
    if Text.le entry.name other.name then entry :: other :: rest
    else other :: insertEntry entry rest

def ofEntries (delimiter : Char) (entries : List (FunctionEntry α)) : Registry α :=
  ⟨delimiter, entries.foldr insertEntry []⟩

/-- The first name that an earlier one equals. -/
def firstRepeat? (seen : List String) : List String → Option String
  | [] => none
  | name :: names =>
    if seen.contains name then some name else firstRepeat? (name :: seen) names

/-- The table of some functions, whose names must differ. -/
def build (delimiter : Char) (entries : List (FunctionEntry α)) :
    Except EditError (Registry α) :=
  match firstRepeat? [] (entries.map FunctionEntry.name) with
  | some name => .error (.repeatedFunction name)
  | none => .ok (ofEntries delimiter entries)

def find? (registry : Registry α) (name : String) : Option (FunctionEntry α) :=
  registry.entries.find? fun entry => entry.name == name

def contains (registry : Registry α) (name : String) : Bool :=
  (registry.find? name).isSome

def signatures (registry : Registry α) : List (String × String) :=
  registry.entries.map fun entry => (entry.name, entry.signature)

def make (registry : Registry α) (name args : String) : Except EditError (Call α) :=
  match registry.find? name with
  | none => .error (.unknownFunction name args)
  | some entry =>
    match entry.factory ⟨args, registry.delimiter⟩ with
    | .ok action => .ok ⟨name, args, action⟩
    | .error cause => .error (.badArguments name args cause)

end Registry

end HistEdit
