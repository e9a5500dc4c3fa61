import HistEdit.Expression.Reader
import HistEdit.Text.Slice

/-!
Reading with a cursor. The reader scans the bytes of a text, where every character of the grammar
is one byte, and cuts the text at the positions that it finds. A byte or a part of the text that
does not exist is a fault of its own, and so is a block that is deeper, or a list that is longer,
than the steps that were allowed.
-/

namespace HistEdit.Cursor

inductive Fault where
  | invalid (error : EditError)
  | outOfBounds
  | outOfSteps

/-- Something that has to exist. -/
def present {α : Type} : Option α → Except Fault α
  | some value => .ok value
  | none => .error .outOfBounds

/-- A result that may tell what is wrong with the text. -/
def valid {α : Type} (result : Except EditError α) : Except Fault α :=
  result.mapError .invalid

/-- How many bytes stand before the first `mark` that is not escaped; `backslashes` of them stand
directly before the bytes. -/
def findUnescaped (mark : UInt8) : (backslashes : Nat) → List UInt8 → Option Nat
  | _, [] => none
  | backslashes, byte :: bytes =>
    if Char.ofUInt8 byte = '\\' then (findUnescaped mark (backslashes + 1) bytes).map (· + 1)
    else if byte = mark ∧ backslashes % 2 = 0 then some 0
    else (findUnescaped mark 0 bytes).map (· + 1)

/-- The position of the next byte that equals the one at `opening` and is not escaped. There has to
be a byte at `opening`. -/
def nextUnescaped (bytes : List UInt8) (opening : Nat) : Option (Option Nat) :=
  match bytes[opening]? with
  | none => none
  | some mark =>
    some ((findUnescaped mark 0 (bytes.drop (opening + 1))).map (opening + 1 + ·))

/-- The position of the last mark of a clause whose middle mark is at `close`; none where the clause
has no substitution. -/
def substitutionEnd (bytes : List UInt8) (close : Nat) : Option (Option Nat) :=
  match bytes[Text.skip Clause.isBlank bytes (close + 1)]? with
  | none => some none
  | some byte =>
    if Char.ofUInt8 byte = '\x7b' ∨ Clause.isSeparator (.ofUInt8 byte) then some none
    else do
      match ← nextUnescaped bytes close with
      | none => return none
      | some stop =>
        let template ← Text.sliceBytes? bytes (close + 1) stop
        if template.any fun byte => Clause.isSeparator (.ofUInt8 byte) then return none
        else return some stop

/-- How many bytes stand before the brace that closes the first one, when `depth` are open before
the bytes. A brace that closes none takes the count below zero. -/
def findBrace : (depth : Nat) → List UInt8 → Option (Option Nat)
  | _, [] => some none
  | depth, byte :: bytes =>
    if Char.ofUInt8 byte = '\x7b' then (findBrace (depth + 1) bytes).map (Option.map (· + 1))
    else if Char.ofUInt8 byte = '\x7d' then
      match depth with
      | 0 => none
      | 1 => some (some 0)
      | depth + 2 => (findBrace (depth + 1) bytes).map (Option.map (· + 1))
    else (findBrace depth bytes).map (Option.map (· + 1))

/-- The position of the brace that closes the one at `opening`. -/
def matchingBrace (bytes : List UInt8) (opening : Nat) : Option (Option Nat) :=
  (findBrace 0 (bytes.drop opening)).map (Option.map (opening + ·))

def decodeFrom (run : List Char) (read : Flags.Partial) (position : Nat) :
    Except Fault (Except FlagError Flags.Partial) :=
  match hbyte : (Text.bytes run)[position]? with
  | none => .ok (.ok read)
  | some byte =>
    have := (List.getElem?_eq_some_iff.1 hbyte).1
    let c := Char.ofUInt8 byte
    if Flags.isIndexChar c then
      let stop := Text.skip Flags.isIndexChar (Text.bytes run) (position + 1)
      match Text.slice? run position stop with
      | none => .error .outOfBounds
      | some literal =>
        match read.step (.index literal) with
        | .error cause => .ok (.error cause)
        | .ok read => decodeFrom run read stop
    else if c.toNat < 128 then
      match read.step (.mark c) with
      | .error cause => .ok (.error cause)
      | .ok read => decodeFrom run read (position + 1)
    else .ok (.error (.unrecognized c))
termination_by (Text.bytes run).length - position
decreasing_by
  all_goals
    have hstop := Text.le_skip Flags.isIndexChar (Text.bytes run) (position + 1)
    omega

def decode (run : List Char) : Except Fault (Except FlagError Flags) :=
  (decodeFrom run {} 0).map fun read => read.map Flags.Partial.finish

def flagsAt (text : List Char) (start : Nat) : Except Fault (Flags × Nat) := do
  let bytes := Text.bytes text
  let stop := Text.skip Clause.isRunChar bytes start
  let run ← present (Text.slice? text start stop)
  match ← decode run with
  | .ok flags => return (flags, stop)
  | .error cause =>
    if bytes[stop]?.any fun byte =>
        Clause.isDelimiter (.ofUInt8 byte) || Char.ofUInt8 byte == '\x7b' then
      throw (.invalid (.invalidFlags (String.ofList run) cause))
    else return ({}, start)

/-- The pattern and the substitution at a position of the expression that begins at `start`, and the
position behind them. -/
def clauseAt [PatternEngine] (text : List Char) (start position : Nat) :
    Except Fault ((Option Pattern × Option String) × Nat) := do
  let bytes := Text.bytes text
  match bytes[position]? with
  | none => return ((none, none), position)
  | some byte =>
    let mark := Char.ofUInt8 byte
    if Clause.isDelimiter mark then
      match ← present (nextUnescaped bytes position) with
      | none =>
        let expression ← present (Text.dropBytes start text)
        throw (.invalid (.unterminated mark (String.ofList expression)))
      | some close =>
        let source ← present (Text.slice? text (position + 1) close)
        let pattern ← valid (Segment.readPattern source)
        match ← present (substitutionEnd bytes close) with
        | none => return ((pattern, none), close + 1)
        | some stop =>
          let template ← present (Text.slice? text (close + 1) stop)
          return ((pattern, some (String.ofList (Clause.unescape mark template))), stop + 1)
    else return ((none, none), position)

def bodyAt (text : List Char) (start position : Nat) : Except Fault (Segment.Body × Nat) := do
  let bytes := Text.bytes text
  match bytes[position]? with
  | none => return (.nothing, position)
  | some byte =>
    if Clause.isSeparator (.ofUInt8 byte) then return (.nothing, position)
    else if Char.ofUInt8 byte = '\x7b' then
      match ← present (matchingBrace bytes position) with
      | none =>
        let expression ← present (Text.dropBytes start text)
        throw (.invalid (.unmatchedBrace (String.ofList expression)))
      | some close =>
        let inner ← present (Text.slice? text (position + 1) close)
        return (.block (Text.trimEndWhere Segment.isGap inner), close + 1)
    else
      let stop := Text.skip (fun c => !Clause.isSeparator c) bytes position
      let call ← present (Text.slice? text position stop)
      let (name, args) := Segment.readCall call
      return (.call name args, stop)

/-- The rule of the first expression from a position on, what follows the rule, and the position
behind both; none when only blanks and separators are left. -/
def segmentFrom [PatternEngine] (text : List Char) (position : Nat) :
    Except Fault (Option (Rule × Segment.Body) × Nat) := do
  let bytes := Text.bytes text
  let start := Text.skip Segment.isGap bytes position
  if bytes.length ≤ start then return (none, start)
  let (flags, afterFlags) ← flagsAt text start
  let ((pattern, substitution), afterClause) ← clauseAt text start afterFlags
  let (body, behind) ← bodyAt text start (Text.skip Clause.isBlank bytes afterClause)
  return (some (⟨flags, pattern, substitution⟩, body), behind)

section

variable [PatternEngine] (functions : Functions) (resolution : Resolution)

/-- The expression of a rule and what follows it; `readInner` reads the text of a block. -/
def expressionOf (readInner : List Char → Except Fault (List Expression)) (rule : Rule) :
    Segment.Body → Except Fault Expression
  | .nothing => .ok (.leaf rule .none)
  | .call name args =>
    (valid (Expression.resolve functions resolution name args)).map (.leaf rule)
  | .block inner => (readInner inner).map (.block rule)

def nextFrom (readInner : List Char → Except Fault (List Expression)) (text : List Char)
    (position : Nat) : Except Fault (Option Expression × Nat) := do
  match ← segmentFrom text position with
  | (none, stop) => return (none, stop)
  | (some (rule, body), behind) =>
    let expression ← expressionOf functions resolution readInner rule body
    return (some expression, behind)

/-- All expressions from a position on. Each expression takes a step, and the text of a block is
read with the steps that are left. -/
def listFrom : (steps : Nat) → List Char → Nat → Except Fault (List Expression)
  | 0, _, _ => .error .outOfSteps
  | steps + 1, text, position => do
    match ← nextFrom functions resolution (fun inner => listFrom steps inner 0) text position with
    | (none, _) => return []
    | (some expression, behind) =>
      let later ← listFrom steps text behind
      return expression :: later

/-- Reads one expression at a cursor: what comes of it, and where the cursor is then. An error
leaves the cursor where it was. -/
def parse (steps : Nat) (text : List Char) (cursor : Nat) :
    Except Fault (Option Expression) × Nat :=
  match nextFrom functions resolution (fun inner => listFrom functions resolution steps inner 0)
    text cursor with
  | .ok (expression, behind) => (.ok expression, behind)
  | .error fault => (.error fault, cursor)

def parseList (steps : Nat) (text : List Char) : Except Fault (List Expression) :=
  listFrom functions resolution steps text 0

end

end HistEdit.Cursor
