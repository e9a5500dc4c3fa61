import HistEdit.Field
import HistEdit.Number.Read
import HistEdit.Text.Bytes

/-!
Flag runs. A run opens with the letters `s`, `i`, `m`, `p` and match indices, then names a source
field with an optional version index and a destination field; a `+` joins the result to the
destination instead of replacing it. Reading goes token by token from the left and stops at the
first token that cannot follow; printing writes the shortest run with the same meaning.
-/

namespace HistEdit

inductive AddMode where
  | none
  | prepend
  | append
  deriving DecidableEq, Repr, Inhabited

def AddMode.label : AddMode → String
  | .none => "none"
  | .prepend => "prepend"
  | .append => "append"

/-- What a flag run says about its expression. A negative `fromIndex` counts versions from the
latest one; `matchIndex` picks matches for the substitution. -/
structure Flags where
  select : Bool := false
  invert : Bool := false
  matchOnly : Bool := false
  print : Bool := false
  add : AddMode := .none
  source : Field := .group
  target : Field := .group
  fromIndex : Int8 := -1
  matchIndex : Int8 := 0
  deriving DecidableEq, Inhabited

inductive FlagError where
  | misplaced (letter : Char)
  | tooManyFields
  | addBeforeField
  | repeatedAdd
  | indexAfterAdd
  | indexAfterSecondField
  | invalidNumber (literal : String)
  | indexOutOfBound (index : Int)
  | unrecognized (letter : Char)
  deriving DecidableEq

def FlagError.message : FlagError → String
  | .misplaced letter => s!"'{letter}' must precede field letters and '+'"
  | .tooManyFields => "too many field flags"
  | .addBeforeField => "'+' before any field letter"
  | .repeatedAdd => "repeated '+'"
  | .indexAfterAdd => "index directly after '+'"
  | .indexAfterSecondField => "index after second field letter"
  | .invalidNumber literal => s!"'{literal}' is not a number"
  | .indexOutOfBound index => s!"index {index} out of bound"
  | .unrecognized letter => s!"unrecognized flag '{letter}'"

namespace Flags

/-- The smallest pieces of a run: a maximal block of digits and `-`, or one character. -/
inductive Token where
  | index (literal : List Char)
  | mark (c : Char)
  deriving DecidableEq

def isIndexChar (c : Char) : Bool :=
  c.isDigit || c == '-'

def tokens : List Char → List Token
  | [] => []
  | c :: cs =>
    if isIndexChar c then
      match tokens cs with
      | .index literal :: rest => .index (c :: literal) :: rest
      | rest => .index [c] :: rest
    else .mark c :: tokens cs

/-- An optional `-` and decimal digits that fit in 64 bits. -/
def readIndex (literal : List Char) : Option Int :=
  Number.readWhole (-Nat.pow 2 63) (Nat.pow 2 63 - 1) literal

/-- A run read so far: its flags, the fields named, and whether a `+` came last. -/
structure Partial where
  flags : Flags := {}
  first : Option Field := none
  second : Option Field := none
  afterAdd : Bool := false

/-- Reads one more token, or says why it cannot stand here. -/
def Partial.step (read : Partial) : Token → Except FlagError Partial
  | .mark c =>
    match Field.ofLetter? c with
    | some field =>
      match read.first, read.second with
      | none, _ => .ok { read with first := some field, afterAdd := false }
      | some _, none => .ok { read with second := some field, afterAdd := false }
      | some _, some _ => .error .tooManyFields
    | none =>
      if c = 's' ∨ c = 'i' ∨ c = 'm' ∨ c = 'p' then
        if read.first.isSome ∨ read.flags.add ≠ .none then .error (.misplaced c)
        else
          let flags := read.flags
          .ok { read with
            flags :=
              if c = 's' then { flags with select := true }
              else if c = 'i' then { flags with invert := true }
              else if c = 'm' then { flags with matchOnly := true }
              else { flags with print := true } }
      else if c = '+' then
        if read.flags.add ≠ .none then .error .repeatedAdd
        else
          match read.first, read.second with
          | none, _ => .error .addBeforeField
          | some _, none =>
            .ok { read with flags := { read.flags with add := .prepend }, afterAdd := true }
          | some _, some _ =>
            .ok { read with flags := { read.flags with add := .append }, afterAdd := true }
      else .error (.unrecognized (Text.leadByte c))
  | .index literal =>
    if read.afterAdd then .error .indexAfterAdd
    else if read.second.isSome then .error .indexAfterSecondField
    else
      match readIndex literal with
      | none => .error (.invalidNumber (String.ofList literal))
      | some value =>
        if -128 ≤ value ∧ value ≤ 127 then
          match read.first with
          | none => .ok { read with flags := { read.flags with matchIndex := Int8.ofInt value } }
          | some _ => .ok { read with flags := { read.flags with fromIndex := Int8.ofInt value } }
        else .error (.indexOutOfBound value)

/-- The flags of a complete run: without a field letter it is about the group, and without a second
one the destination is the source. -/
def Partial.finish (read : Partial) : Flags :=
  let source := read.first.getD .group
  { read.flags with source, target := read.second.getD source }

def decode (run : List Char) : Except FlagError Flags :=
  ((tokens run).foldlM Partial.step {}).map Partial.finish

def indexText (index : Int8) : String :=
  toString index.toInt

/-- The run that `decode` reads back as `flags`; indices with their default value are left out. -/
def encode (flags : Flags) : String :=
  (if flags.select then "s" else "") ++ (if flags.invert then "i" else "") ++
    (if flags.matchOnly then "m" else "") ++ (if flags.print then "p" else "") ++
    (if flags.matchIndex ≠ 0 then indexText flags.matchIndex else "") ++
    String.singleton flags.source.letter ++
    (if flags.fromIndex ≠ -1 then indexText flags.fromIndex else "") ++
    (if flags.add = .prepend then "+" else "") ++
    (if flags.target ≠ flags.source ∨ flags.add = .append then
      String.singleton flags.target.letter else "") ++
    (if flags.add = .append then "+" else "")

end Flags

end HistEdit
