import HistEdit.Data.Toml.Scalar
import HistEdit.Data.Yaml.Node

/-!
Scalars of YAML. A scalar may run over several lines; a single line break inside it is then a
blank, and each further one a line break. Scalars in blocks keep or fold their line breaks as
their header says.
-/

namespace HistEdit.Data.Yaml

/-- A place in a text: what follows, the column and the line, whether a key may begin here, and the
nodes that were given names. -/
structure Place where
  rest : List Char
  column : Nat := 0
  line : Nat := 0
  keyAllowed : Bool := true
  anchors : List (String × Node) := []

abbrev Reader := StateT Place Option

def isBlank (c : Char) : Bool :=
  c == ' ' || c == '\t'

/-- Whether a text ends or goes on with a blank or a line break. -/
def isBroken : List Char → Bool
  | [] => true
  | c :: _ => isBlank c || c == '\n'

def isFlowMark (c : Char) : Bool :=
  c == ',' || c == '[' || c == ']' || c == '\x7b' || c == '\x7d'

/-- Three dashes or points in the first column begin or end a document. -/
def isMarker : List Char → Bool
  | '-' :: '-' :: '-' :: rest => isBroken rest
  | '.' :: '.' :: '.' :: rest => isBroken rest
  | _ => false

namespace Place

def atEnd (place : Place) : Bool :=
  place.rest.isEmpty || (place.column == 0 && isMarker place.rest)

def passAll (place : Place) : List Char → Place
  | [] => place
  | c :: cs =>
    let next := { place with rest := place.rest.drop 1 }
    if c = '\n' then passAll { next with column := 0, line := place.line + 1 } cs
    else passAll { next with column := place.column + 1 } cs

def pass (place : Place) (count : Nat) : Place :=
  place.passAll (place.rest.take count)

def moveTo (place : Place) (rest : List Char) : Place :=
  place.pass (place.rest.length - rest.length)

end Place

/-- The characters that stand for a run of line breaks inside a scalar. -/
def fold : Nat → List Char
  | 0 => []
  | 1 => [' ']
  | count + 2 => List.replicate (count + 1) '\n'

/-- The characters of a plain scalar on one line; `gap` tells whether a blank stands before. Nothing
for a colon that runs into a mark within brackets. -/
def plainLine (flow gap : Bool) : List Char → Option (List Char)
  | [] => some []
  | c :: cs =>
    if c = '\n' ∨ (c = '#' ∧ gap) ∨ (c = ':' ∧ isBroken cs) ∨ (flow ∧ isFlowMark c) then some []
    else if flow ∧ c = ':' ∧ cs.head?.any (fun d => isFlowMark d || d == '?') then none
    else (plainLine flow (isBlank c) cs).map (c :: ·)

def trimBlanks (cs : List Char) : List Char :=
  (cs.reverse.dropWhile isBlank).reverse

/-- Skips the blanks and line breaks after a line of a plain scalar and counts the line breaks. A
tab must not stand where the indentation of a block is expected. -/
def plainGap (indent : Nat) : Nat → Nat → List Char → Option (Nat × Nat × List Char)
  | breaks, column, [] => some (breaks, column, [])
  | breaks, column, c :: cs =>
    if c = '\n' then plainGap indent (breaks + 1) 0 cs
    else if c = '\t' ∧ 0 < breaks ∧ column < indent then none
    else if isBlank c then plainGap indent breaks (column + 1) cs
    else some (breaks, column, c :: cs)

/-- The lines of a plain scalar. A further line must stand at least at the indentation of the block,
unless the scalar is within brackets. -/
def plainLines (flow : Bool) (indent : Nat) : Nat → Bool → Reader (List Char)
  | 0, _ => failure
  | fuel + 1, gap => do
    let place ← get
    let line ← plainLine flow gap place.rest
    let text := trimBlanks line
    if text.isEmpty then return []
    let start := place.pass text.length
    let (breaks, column, rest) ← plainGap (if flow then 0 else indent) 0 start.column start.rest
    let next := start.moveTo rest
    set { next with keyAllowed := 0 < breaks }
    if breaks = 0 ∨ next.atEnd ∨ (!flow && column < indent) then return text
    else
      let more ← plainLines flow indent fuel true
      if more.isEmpty then return text else return text ++ fold breaks ++ more

def plainScalar (flow : Bool) (indent : Nat) : Reader Node := do
  let text ← plainLines flow indent ((← get).rest.length + 1) false
  if text.isEmpty then failure else return .scalar none true (String.ofList text)

def escape? : List Char → Option (Char × List Char)
  | '0' :: rest => some (Char.ofNat 0, rest)
  | 'a' :: rest => some (Char.ofNat 7, rest)
  | 'b' :: rest => some (Char.ofNat 8, rest)
  | 't' :: rest => some ('\t', rest)
  | '\t' :: rest => some ('\t', rest)
  | 'n' :: rest => some ('\n', rest)
  | 'v' :: rest => some (Char.ofNat 11, rest)
  | 'f' :: rest => some (Char.ofNat 12, rest)
  | 'r' :: rest => some ('\r', rest)
  | 'e' :: rest => some (Char.ofNat 27, rest)
  | ' ' :: rest => some (' ', rest)
  | '"' :: rest => some ('"', rest)
  | '/' :: rest => some ('/', rest)
  | '\\' :: rest => some ('\\', rest)
  | 'N' :: rest => some (Char.ofNat 0x85, rest)
  | '_' :: rest => some (Char.ofNat 0xA0, rest)
  | 'L' :: rest => some (Char.ofNat 0x2028, rest)
  | 'P' :: rest => some (Char.ofNat 0x2029, rest)
  | 'x' :: rest => Toml.hexChar? 2 rest
  | 'u' :: rest => Toml.hexChar? 4 rest
  | 'U' :: rest => Toml.hexChar? 8 rest
  | _ => none

/-- Skips blanks and line breaks and counts the line breaks. A line must not begin with a marker. -/
def quotedGap : Nat → List Char → Option (Nat × List Char)
  | breaks, [] => some (breaks, [])
  | breaks, c :: cs =>
    if c = '\n' then if isMarker cs then none else quotedGap (breaks + 1) cs
    else if isBlank c then quotedGap breaks cs
    else some (breaks, c :: cs)

def quotedBody (quote : Char) : Nat → List Char → List Char → Option (List Char × List Char)
  | 0, _, _ => none
  | fuel + 1, read, cs =>
    match cs with
    | [] => none
    | c :: rest =>
      if c = quote then
        match quote, rest with
        | '\'', '\'' :: rest => quotedBody quote fuel ('\'' :: read) rest
        | _, _ => some (read.reverse, rest)
      else if c = '\\' ∧ quote = '"' then
        match rest with
        | '\n' :: rest => do
          if isMarker rest then none
          let (breaks, rest) ← quotedGap 0 rest
          quotedBody quote fuel (List.replicate breaks '\n' ++ read) rest
        | _ => do
          let (c, rest) ← escape? rest
          quotedBody quote fuel (c :: read) rest
      else if isBlank c ∨ c = '\n' then do
        let (breaks, after) ← quotedGap 0 cs
        if breaks = 0 then quotedBody quote fuel (c :: read) rest
        else quotedBody quote fuel ((fold breaks).reverse ++ read) after
      else quotedBody quote fuel (c :: read) rest

def quotedScalar : Reader Node := do
  let place ← get
  match place.rest with
  | quote :: rest =>
    let (text, rest) ← quotedBody quote (rest.length + 1) [] rest
    set { place.moveTo rest with keyAllowed := false }
    return .scalar none false (String.ofList text)
  | [] => failure

/-- What becomes of the line breaks at the end of a block scalar. -/
inductive Chomping where
  | strip
  | clip
  | keep
  deriving DecidableEq

/-- The header of a block scalar after its mark: chomping, indentation, and the text behind it. -/
def blockHeader? (cs : List Char) : Option (Chomping × Option Nat × List Char) := do
  let chomping? (cs : List Char) : Option (Chomping × List Char) :=
    match cs with
    | '+' :: rest => some (.keep, rest)
    | '-' :: rest => some (.strip, rest)
    | _ => none
  let indent? (cs : List Char) : Option Nat × List Char :=
    match cs with
    | d :: rest => if '1' ≤ d ∧ d ≤ '9' then (some (d.toNat - '0'.toNat), rest) else (none, cs)
    | [] => (none, [])
  let (chomping, indent, rest) :=
    match chomping? cs with
    | some (chomping, rest) => (chomping, indent? rest)
    | none =>
      let (indent, rest) := indent? cs
      match chomping? rest with
      | some (chomping, rest) => (chomping, indent, rest)
      | none => (.clip, indent, rest)
  let rest := match rest.dropWhile isBlank with
    | '#' :: rest => rest.dropWhile (· != '\n')
    | rest => rest
  match rest with
  | [] => some (chomping, indent, [])
  | '\n' :: rest => some (chomping, indent, rest)
  | _ => none

/-- Skips the lines of a block scalar that hold nothing but its indentation. Gives their number, the
widest indentation, and the text from the indentation of the first other line, with its column. -/
def blankLines (indent : Option Nat) :
    Nat → Nat → Nat → List Char → Option (Nat × Nat × Nat × List Char)
  | breaks, widest, column, [] => some (breaks, max widest column, column, [])
  | breaks, widest, column, c :: cs =>
    let inside := indent.all (column < ·)
    if c = ' ' ∧ inside then blankLines indent breaks widest (column + 1) cs
    else if c = '\t' ∧ inside then none
    else if c = '\n' then blankLines indent (breaks + 1) (max widest column) 0 cs
    else some (breaks, max widest column, column, c :: cs)

/-- The lines of a block scalar from the first character of one; `pending` is the line break
before it, if there is one, and `breaks` counts the empty lines behind that. -/
def blockLines (literal : Bool) (indent : Nat) (chomping : Chomping) :
    Nat → Bool → Bool → Nat → Nat → List Char → Option (List Char × List Char)
  | 0, _, _, _, _, _ => none
  | fuel + 1, pending, wasIndented, breaks, column, cs =>
    let line := cs.takeWhile (· != '\n')
    let ending (kept : Bool) : List Char := if kept then ['\n'] else []
    if column ≠ indent ∨ cs.isEmpty then
      some (match chomping with
        | .strip => []
        | .clip => ending pending
        | .keep => ending pending ++ List.replicate breaks '\n', cs)
    else
      let isIndented := line.head?.any isBlank
      let joint :=
        if !literal && pending && !wasIndented && !isIndented then
          if breaks = 0 then [' '] else []
        else ending pending
      match cs.dropWhile (· != '\n') with
      | [] => do
        let (more, rest) ← blockLines literal indent chomping fuel false isIndented 0 0 []
        some (joint ++ List.replicate breaks '\n' ++ line ++ more, rest)
      | _ :: rest => do
        let (next, _, column, rest) ← blankLines (some indent) 0 0 0 rest
        let (more, rest) ← blockLines literal indent chomping fuel true isIndented next column rest
        some (joint ++ List.replicate breaks '\n' ++ line ++ more, rest)

/-- A scalar in a block below its mark. `outer` is the least indentation of its lines; an
indentation in the header counts from the column before it. -/
def blockScalar (outer : Nat) : Reader Node := do
  let place ← get
  match place.rest with
  | mark :: rest =>
    let (chomping, given, rest) ← blockHeader? rest
    let given := given.map (· + (outer - 1))
    let (breaks, widest, column, body) ← blankLines given 0 0 0 rest
    let indent := given.getD (max widest (max outer 1))
    let (text, rest) ←
      blockLines (mark == '|') indent chomping (body.length + 1) false false breaks column body
    set { place.moveTo rest with keyAllowed := true }
    return .scalar none false (String.ofList text)
  | [] => failure

end HistEdit.Data.Yaml
