import HistEdit.Grouping

/-!
Command lines. A command has options, with a value of their own or without, and operands. A value
stands behind its option, joined to it or as the next argument, unless that argument is itself an
option. Two dashes alone end the options. The verbosity option may stand in front of the command
or behind it.
-/

namespace HistEdit

inductive Command where
  | group (request : GroupRequest)
  | parse (canvas : Bool) (exprs : List String)
  | functions (canvas : Bool)

structure Invocation where
  verbosity : Nat
  command : Command

inductive UsageError where
  | help
  | version
  | helpWithoutCommand
  | missingCommand
  | unknownCommand
  | unknownArgument
  | missingOperand
  | invalidValue
  | surplusValue
  | repeatedOption
  deriving DecidableEq

inductive Slot where
  | verbosity
  | help
  | version
  | expr
  | canvasExpr
  | output
  | sort
  | colors
  | config
  | canvas
  | operand
  deriving DecidableEq

/-- The exit code; help and version are no failures. -/
def UsageError.exitCode : UsageError → Nat
  | .help | .version => 0
  | _ => 2

def UsageError.message : UsageError → String
  | .help | .helpWithoutCommand =>
    "Usage: hed [OPTIONS] <COMMAND>\n\nCommands: group, parse, functions, help"
  | .version => "hed 0.1.0"
  | .missingCommand => "error: a command is required"
  | .unknownCommand => "error: unrecognized command"
  | .unknownArgument => "error: unexpected argument"
  | .missingOperand => "error: required arguments were not provided"
  | .invalidValue => "error: a value is required"
  | .surplusValue => "error: unexpected value"
  | .repeatedOption => "error: an argument cannot be used multiple times"

namespace Slot

def takesValue : Slot → Bool
  | .expr | .canvasExpr | .output | .colors | .config => true
  | _ => false

def isRepeatable : Slot → Bool
  | .verbosity | .expr | .canvasExpr | .operand => true
  | _ => false

end Slot

/-- An option by its names. -/
structure OptionNames where
  slot : Slot
  short : Option Char := none
  long : String

/-- The arguments that a command knows. Values of the slots in `paths` must not be empty. -/
structure Arguments where
  options : List OptionNames
  hasOperands : Bool := false
  paths : List Slot := []

namespace Arguments

def common : List OptionNames :=
  [⟨.verbosity, some 'v', "verbosity"⟩, ⟨.help, some 'h', "help"⟩]

def outer : Arguments := { options := common ++ [⟨.version, some 'V', "version"⟩] }

def group : Arguments where
  options := common ++
    [ ⟨.expr, some 'e', "expr"⟩, ⟨.canvasExpr, some 'g', "canvas-expr"⟩,
      ⟨.output, some 'o', "output"⟩, ⟨.sort, none, "sort"⟩, ⟨.colors, none, "colors"⟩,
      ⟨.config, none, "config"⟩ ]
  hasOperands := true
  paths := [.output, .config, .operand]

def parse : Arguments where
  options := common ++ [⟨.canvas, some 'g', "canvas"⟩]
  hasOperands := true

def functions : Arguments where
  options := common ++ [⟨.canvas, none, "canvas"⟩]

def long? (arguments : Arguments) (name : String) : Option Slot :=
  (arguments.options.find? fun names => names.long == name).map OptionNames.slot

def short? (arguments : Arguments) (c : Char) : Option Slot :=
  (arguments.options.find? fun names => names.short == some c).map OptionNames.slot

end Arguments

/-- Arguments read so far: those that are settled, in order, and the one whose values still come. -/
structure Given where
  settled : List (Slot × String) := []
  pending : Option (Slot × List String) := none

namespace Given

def values (given : Given) (slot : Slot) : List String :=
  (given.settled.filter fun entry => entry.1 == slot).map Prod.snd

def isGiven (given : Given) (slot : Slot) : Bool :=
  given.settled.any fun entry => entry.1 == slot

/-- Settles an argument. An option that may not be repeated must be new. -/
def accept (arguments : Arguments) (given : Given) (slot : Slot) (values : List String) :
    Except UsageError Given :=
  if !slot.isRepeatable && given.isGiven slot then .error .repeatedOption
  else if arguments.paths.contains slot && values.any String.isEmpty then .error .invalidValue
  else .ok { given with settled := given.settled ++ values.map fun value => (slot, value) }

/-- Settles the argument whose values still come; an option must have got its value. -/
def settle (arguments : Arguments) (given : Given) : Except UsageError Given :=
  match given.pending with
  | none => .ok given
  | some (_, []) => .error .invalidValue
  | some (slot, values) => { given with pending := none }.accept arguments slot values

/-- Takes an option, with the value that is joined to it, if any. -/
def option (arguments : Arguments) (given : Given) (slot : Slot) (value : Option String) :
    Except UsageError Given := do
  let given ← given.settle arguments
  if slot.takesValue then
    match value with
    | some value => given.accept arguments slot [value]
    | none => .ok { given with pending := some (slot, []) }
  else if slot = .help then .error .help
  else if slot = .version then .error .version
  else given.accept arguments slot [""]

def long (arguments : Arguments) (given : Given) (name : String) (value : Option String) :
    Except UsageError Given :=
  match arguments.long? name with
  | none => .error .unknownArgument
  | some slot =>
    if value.isSome && !slot.takesValue then .error .surplusValue
    else given.option arguments slot value

/-- Takes options by their short names, which stand behind one dash together. What follows an
option with a value is that value; an equals sign may stand between them. -/
def shorts (arguments : Arguments) (given : Given) : List Char → Except UsageError Given
  | [] => .ok given
  | c :: cs =>
    match arguments.short? c with
    | none => .error .unknownArgument
    | some slot =>
      if slot.takesValue then
        given.option arguments slot <|
          match cs with
          | [] => none
          | '=' :: value => some (String.ofList value)
          | value => some (String.ofList value)
      else do
        let given ← given.option arguments slot none
        given.shorts arguments cs

/-- Takes a value: of the option that waits for it, or an operand. -/
def value (arguments : Arguments) (given : Given) (isOperand : Bool) (text : String) :
    Except UsageError Given :=
  match given.pending, isOperand with
  | some (slot, []), false => .ok { given with pending := some (slot, [text]) }
  | some (.operand, values), _ =>
    .ok { given with pending := some (.operand, values ++ [text]) }
  | _, _ =>
    if arguments.hasOperands then do
      let given ← given.settle arguments
      .ok { given with pending := some (.operand, [text]) }
    else .error .unknownArgument

end Given

inductive Argument.Form where
  | endOfOptions
  | long (name : String) (value : Option String)
  | shorts (names : List Char)
  | plain
  deriving DecidableEq

def Argument.form (text : String) : Argument.Form :=
  match text.toList with
  | ['-', '-'] => .endOfOptions
  | '-' :: '-' :: cs =>
    let name := cs.takeWhile (· != '=')
    .long (String.ofList name)
      (match cs.dropWhile (· != '=') with
      | [] => none
      | _ :: value => some (String.ofList value))
  | '-' :: c :: cs => .shorts (c :: cs)
  | _ => .plain

namespace Given

def takeAll (arguments : Arguments) (given : Given) : List String → Except UsageError Given
  | [] => given.settle arguments
  | text :: texts =>
    match Argument.form text with
    | .endOfOptions => do
      let given ← texts.foldlM (fun given text => given.value arguments true text) given
      given.settle arguments
    | .long name value => do
      let given ← given.long arguments name value
      given.takeAll arguments texts
    | .shorts names => do
      let given ← given.shorts arguments names
      given.takeAll arguments texts
    | .plain => do
      let given ← given.value arguments false text
      given.takeAll arguments texts

/-- How often the verbosity option was given, up to 255. -/
def verbosity (given : Given) : Nat :=
  min (given.values .verbosity).length 255

end Given

namespace Command

def names : List String := ["group", "parse", "functions"]

/-- A command by its name and arguments, with the verbosity given there. -/
def read (name : String) (texts : List String) : Except UsageError Invocation := do
  if name = "group" then
    let given ← Given.takeAll .group {} texts
    let inputs := given.values .operand
    if inputs.isEmpty then throw .missingOperand
    return ⟨given.verbosity, .group {
      exprs := given.values .expr
      canvasExprs := given.values .canvasExpr
      output := (given.values .output).head?
      sort := given.isGiven .sort
      colors := (given.values .colors).head?
      config := (given.values .config).head?
      inputs }⟩
  else if name = "parse" then
    let given ← Given.takeAll .parse {} texts
    let exprs := given.values .operand
    if exprs.isEmpty then throw .missingOperand
    return ⟨given.verbosity, .parse (given.isGiven .canvas) exprs⟩
  else
    let given ← Given.takeAll .functions {} texts
    return ⟨given.verbosity, .functions (given.isGiven .canvas)⟩

def help (texts : List String) : UsageError :=
  match texts with
  | [] => .help
  | [name] => if name = "help" ∨ names.contains name then .help else .unknownCommand
  | _ => .unknownCommand

end Command

def Given.withoutCommand (given : Given) : UsageError :=
  if given.settled.isEmpty then .helpWithoutCommand else .missingCommand

/-- Reads a command line up to its command. A verbosity behind the command replaces one in front. -/
def Invocation.readFrom (given : Given) : List String → Except UsageError Invocation
  | [] => .error given.withoutCommand
  | text :: texts =>
    if text = "help" then .error (Command.help texts)
    else if Command.names.contains text then do
      let invocation ← Command.read text texts
      .ok { invocation with
        verbosity := if invocation.verbosity = 0 then given.verbosity else invocation.verbosity }
    else
      match Argument.form text with
      | .endOfOptions =>
        match texts with
        | [] => .error given.withoutCommand
        | name :: _ =>
          .error (if name = "help" ∨ Command.names.contains name then .unknownArgument
            else .unknownCommand)
      | .long name value => do
        let given ← given.long .outer name value
        readFrom given texts
      | .shorts names => do
        let given ← given.shorts .outer names
        readFrom given texts
      | .plain => .error .unknownCommand

def Invocation.read (texts : List String) : Except UsageError Invocation :=
  Invocation.readFrom {} texts

end HistEdit
