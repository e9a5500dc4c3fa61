import HistEdit.Data.JsonReader

/-!
Nodes of YAML and what they mean. A scalar without quotes can mean null, a truth value, a number
or its text; every other scalar means its text. A node with a tag of its own has no meaning here.
-/

namespace HistEdit.Data.Yaml

/-- A node with its tag. A scalar is plain when it was written without quotes. -/
inductive Node where
  | scalar (tag : Option String) (plain : Bool) (text : String)
  | list (tag : Option String) (items : List Node)
  | table (tag : Option String) (entries : List (Node × Node))

namespace Node

def empty : Node := .scalar none true ""

def isEmpty : Node → Bool
  | .scalar _ plain text => plain && text.isEmpty
  | _ => false

def setTag (tag : Option String) : Node → Node
  | .scalar _ plain text => .scalar tag plain text
  | .list _ items => .list tag items
  | .table _ entries => .table tag entries

end Node

def isNull (text : String) : Bool :=
  ["null", "Null", "NULL", "~"].contains text

def bool? (text : String) : Option Bool :=
  if ["true", "True", "TRUE"].contains text then some true
  else if ["false", "False", "FALSE"].contains text then some false
  else none

/-- Digits with a superfluous zero in front; such a scalar is text. -/
def hasLeadingZero (cs : List Char) : Bool :=
  match cs with
  | '0' :: d :: rest => (d :: rest).all Char.isDigit
  | _ => false

def basedValue? (base : Nat) (digits : List Char) : Option Nat :=
  if digits.isEmpty then none
  else digits.foldlM (fun value c => do
    let digit ← (JsonReader.hexDigit? c).filter (· < base)
    some (base * value + digit)) 0

/-- The value of digits after the prefix that names their base, if there is one. -/
def magnitude? (cs : List Char) : Option Nat :=
  match cs with
  | '0' :: 'x' :: digits => basedValue? 16 digits
  | '0' :: 'o' :: digits => basedValue? 8 digits
  | '0' :: 'b' :: digits => basedValue? 2 digits
  | digits => if hasLeadingZero digits then none else basedValue? 10 digits

def whole? : List Char → Option Int
  | '+' :: cs => (magnitude? cs).map Int.ofNat
  | '-' :: cs => (magnitude? cs).map fun value => -(value : Int)
  | cs => (magnitude? cs).map Int.ofNat

/-- A number that is not whole. A decimal number that overflows is text. -/
def double? (text : String) : Option Float :=
  let (sign, cs) := match text.toList with
    | '+' :: rest => ([], rest)
    | '-' :: rest => (['-'], rest)
    | rest => ([], rest)
  if [".inf", ".Inf", ".INF"].contains (String.ofList cs) then
    Number.readDouble (sign ++ ['i', 'n', 'f'])
  else if [".nan", ".NaN", ".NAN"].contains text then Number.readDouble ['n', 'a', 'n']
  else if hasLeadingZero cs || cs.head? == some '+' || cs.head? == some '-' then none
  else (Number.readDouble (sign ++ cs)).filter Float.isFinite

/-- The meaning of a scalar without quotes. Whole numbers that have 128 bits but not 64 have none.
-/
def resolve? (text : String) : Option Value :=
  if text.isEmpty || isNull text then some .null
  else
    match bool? text with
    | some value => some (.bool value)
    | none =>
      let double : Value :=
        match double? text with
        | some value => .double value
        | none => .text text
      match whole? text.toList with
      | some value =>
        if -Nat.pow 2 63 ≤ value ∧ value < Nat.pow 2 64 then some (.int value)
        else if -Nat.pow 2 127 ≤ value ∧ value < Nat.pow 2 128 then none
        else some double
      | none => some double

def tagged? (tag text : String) : Option Value :=
  let expect (accepts : Value → Bool) : Option Value := (resolve? text).filter accepts
  if tag = "!!null" then expect fun value => value matches .null
  else if tag = "!!bool" then expect fun value => value matches .bool _
  else if tag = "!!int" then expect fun value => value matches .int _
  else if tag = "!!float" then (double? text).map .double
  else if tag.startsWith "!!" then some (.text text)
  else none

def hasMeaning : Option String → Bool
  | some tag => tag.startsWith "!!"
  | none => true

def keyText? : Value → Option String
  | .text text => some text
  | .int value => if 0 ≤ value then some (toString value) else none
  | _ => none

mutual

def Node.value? : Node → Option Value
  | .scalar none plain text => if plain then resolve? text else some (.text text)
  | .scalar (some tag) _ text => tagged? tag text
  | .list tag items => if hasMeaning tag then (itemValues? items).map .list else none
  | .table tag entries => if hasMeaning tag then (entryValues? entries).map .table else none

def itemValues? : List Node → Option (List Value)
  | [] => some []
  | item :: items => do
    let value ← item.value?
    let values ← itemValues? items
    some (value :: values)

def entryValue? : Node × Node → Option (String × Value)
  | (key, node) => do
    let key ← keyText? (← key.value?)
    let value ← node.value?
    some (key, value)

def entryValues? : List (Node × Node) → Option (List (String × Value))
  | [] => some []
  | entry :: entries => do
    let value ← entryValue? entry
    let values ← entryValues? entries
    some (value :: values)

end

end HistEdit.Data.Yaml
