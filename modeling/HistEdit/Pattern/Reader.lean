import HistEdit.Pattern.Tree
import HistEdit.Text.Unicode.Script

/-!
Reading patterns. A pattern is made of characters, escapes, sets in brackets, groups, choices and
repetitions; modes in parentheses hold to the end of their group. Patterns nested too deeply are
refused, as is every text that is not well formed. There are no back references and no look-around.
-/

namespace HistEdit.Pattern

structure Mode where
  ignoreCase : Bool := false
  multiLine : Bool := false
  dotAll : Bool := false
  swapGreed : Bool := false
  wide : Bool := true
  crlf : Bool := false
  extended : Bool := false

/-- A reading under way: what is left, the mode, and the groups opened so far. -/
structure ReadState where
  rest : List Char
  mode : Mode := {}
  groups : Nat := 0
  names : List (String × Nat) := []

/-- A piece of pattern with the depth of its nesting. Directives that set modes cannot be
repeated. -/
structure Item where
  tree : Tree
  depth : Nat := 0
  directive : Bool := false

/-- How deep a pattern may be nested. -/
def maxNesting : Nat := 250

namespace Reader

inductive Escape where
  | char (c : Char)
  | set (set : CharSet)
  | look (look : Look)

def skipComment : List Char → List Char
  | [] => []
  | c :: cs => if c = '\n' then cs else skipComment cs

def skipExtended : Nat → List Char → List Char
  | 0, cs => cs
  | fuel + 1, cs =>
    match cs.dropWhile Text.isSpace with
    | '#' :: rest => skipExtended fuel (skipComment rest)
    | rest => rest

/-- In the extended mode white space and comments do not count. -/
def skipBlank (mode : Mode) (cs : List Char) : List Char :=
  if mode.extended then skipExtended (cs.length + 1) cs else cs

def isMeta (c : Char) : Bool :=
  "\\.+*?()|[]\x7b\x7d^$#&-~".toList.contains c

def isEscapable (c : Char) : Bool :=
  c.toNat < 128 && !c.isAlphanum && c != '<' && c != '>'

def hexValue? (digits : List Char) : Option Char :=
  let isHex (c : Char) : Bool :=
    c.isDigit || ('a' ≤ c && c ≤ 'f') || ('A' ≤ c && c ≤ 'F')
  if digits.isEmpty || !digits.all isHex then none
  else
    let n := Text.Unicode.hexValue (digits.map Char.toLower)
    if n < 0xD800 ∨ (0xE000 ≤ n ∧ n ≤ 0x10FFFF) then some (Char.ofNat n) else none

/-- The set of a perl class. Outside Unicode its complement is refused. -/
def classSet? (mode : Mode) (letter : Char) : Option CharSet :=
  let set : CharSet :=
    match letter.toLower, mode.wide with
    | 'd', true => .digit
    | 's', true => .space
    | 'w', true => .word
    | 'd', false => .range '0' '9'
    | 's', false => .ofList [' ', '\t', '\n', '\r', Char.ofNat 11, Char.ofNat 12]
    | _, _ =>
      .union (.range '0' '9') (.union (.range 'A' 'Z') (.union (.range 'a' 'z') (.single '_')))
  if letter.isUpper then
    if mode.wide then some (.complement set) else none
  else some set

def category? (name : String) : Option CharSet :=
  if name = "any" then some (.complement .empty)
  else if name = "assigned" then some (.ofTables Text.Unicode.assigned)
  else if name = "cn" ∨ name = "unassigned" then
    some (.complement (.ofTables Text.Unicode.assigned))
  else if name = "c" ∨ name = "other" then some (.complement (.ofTables Text.Unicode.visible))
  else if name = "ascii" then some (.range (Char.ofNat 0) (Char.ofNat 127))
  else
    (Text.Unicode.categories.find? fun entry => entry.1.contains name).map fun entry =>
      .ofTables entry.2

def script? (name : String) : Option CharSet :=
  (Text.Unicode.scripts.find? fun entry => entry.1.contains name).map fun entry => .table entry.2

/-- The set of a property, which goes before a category and a script of the same name. -/
def property? (name : String) : Option CharSet :=
  let plain :=
    if ["cf", "sc", "lc"].contains name then none
    else Text.Unicode.properties.find? fun entry => entry.1.contains name
  match plain with
  | some entry => some (.table entry.2)
  | none => category? name <|> script? name

def splitUnequal : List Char → Option (List Char × List Char)
  | '!' :: '=' :: rest => some ([], rest)
  | c :: rest => (splitUnequal rest).map fun (head, tail) => (c :: head, tail)
  | [] => none

def unicodeClass? (body : List Char) : Option CharSet :=
  let valued (name value : List Char) : Option CharSet :=
    let value := Text.Unicode.looseName value
    let property := Text.Unicode.looseName name
    if property = "gc" ∨ property = "generalcategory" then category? value
    else if ["sc", "script", "scx", "scriptextensions"].contains property then script? value
    else none
  match splitUnequal body with
  | some (name, value) => (valued name value).map .complement
  | none =>
    match Text.splitOnce ':' body with
    | some (name, value) => valued name value
    | none =>
      match Text.splitOnce '=' body with
      | some (name, value) => valued name value
      | none => property? (Text.Unicode.looseName body)

/-- Adds the case variants of a set when case does not count, and then takes the complement if the
set is negated. Outside Unicode a set must stay within ASCII. -/
def finishSet? (mode : Mode) (negated : Bool) (set : CharSet) : Option CharSet :=
  let set := if mode.ignoreCase then .folded mode.wide set else set
  let set := if negated then .complement set else set
  if mode.wide || set.isAscii then some set else none

def readUnicodeClass (mode : Mode) (negated : Bool) (cs : List Char) :
    Option (CharSet × List Char) :=
  if !mode.wide then none
  else
    match skipBlank mode cs with
    | '\x7b' :: rest => do
      let (body, rest) ← Text.splitOnce '\x7d' rest
      let body := if mode.extended then body.filter fun c => !Text.isSpace c else body
      let set ← unicodeClass? body
      let set ← finishSet? mode negated set
      pure (set, rest)
    | '\\' :: _ => none
    | c :: rest => do
      let set ← property? (Text.Unicode.looseName [c])
      let set ← finishSet? mode negated set
      pure (set, skipBlank mode rest)
    | [] => none

def takeDigits (mode : Mode) : Nat → List Char → Option (List Char × List Char)
  | 0, cs => some ([], cs)
  | n + 1, cs =>
    match skipBlank mode cs with
    | [] => none
    | c :: rest => (takeDigits mode n rest).map fun (digits, rest) => (c :: digits, rest)

/-- A character by its number after `x`, `u` or `U`: so many digits, or any number in braces. Two
digits name a byte outside Unicode, and no byte above ASCII is a text. -/
def readHex (mode : Mode) (count : Nat) (cs : List Char) : Option (Char × List Char) :=
  match skipBlank mode cs with
  | '\x7b' :: rest => do
    let (digits, rest) ← Text.splitOnce '\x7d' rest
    let digits := if mode.extended then digits.filter fun c => !Text.isSpace c else digits
    let c ← hexValue? digits
    pure (c, skipBlank mode rest)
  | rest => do
    let (digits, rest) ← takeDigits mode count rest
    let c ← hexValue? digits
    if count = 2 ∧ !mode.wide ∧ 128 ≤ c.toNat then none else pure (c, skipBlank mode rest)

/-- What may follow the `\b` of a word edge in braces. A brace that no letter follows is left
alone. -/
def readWordEdge (mode : Mode) (cs : List Char) : Option (Look × List Char) :=
  let isNameChar (c : Char) : Bool := c.isAlpha || c == '-'
  match cs with
  | '\x7b' :: rest =>
    let body := skipBlank mode rest
    match body with
    | [] => none
    | c :: _ =>
      if !isNameChar c then some (.wordEdge mode.wide, cs)
      else
        let body := if mode.extended then body.filter fun c => !Text.isSpace c else body
        match body.dropWhile isNameChar with
        | '\x7d' :: _ =>
          let rest := (rest.dropWhile fun c => c != '\x7d').drop 1
          match String.ofList (body.takeWhile isNameChar) with
          | "start" => some (.wordStart mode.wide, rest)
          | "end" => some (.wordEnd mode.wide, rest)
          | "start-half" => some (.wordStartHalf mode.wide, rest)
          | "end-half" => some (.wordEndHalf mode.wide, rest)
          | _ => none
        | _ => none
  | _ => some (.wordEdge mode.wide, cs)

def readEscape (mode : Mode) : List Char → Option (Escape × List Char)
  | [] => none
  | c :: rest =>
    if c = 'x' then (readHex mode 2 rest).map fun (c, rest) => (.char c, rest)
    else if c = 'u' then (readHex mode 4 rest).map fun (c, rest) => (.char c, rest)
    else if c = 'U' then (readHex mode 8 rest).map fun (c, rest) => (.char c, rest)
    else if c = 'p' ∨ c = 'P' then
      (readUnicodeClass mode (c = 'P') rest).map fun (set, rest) => (.set set, rest)
    else if ['d', 's', 'w', 'D', 'S', 'W'].contains c then
      (classSet? mode c).map fun set => (.set set, rest)
    else if isMeta c || isEscapable c then some (.char c, rest)
    else
      match c with
      | 'a' => some (.char (Char.ofNat 7), rest)
      | 'f' => some (.char (Char.ofNat 12), rest)
      | 't' => some (.char '\t', rest)
      | 'n' => some (.char '\n', rest)
      | 'r' => some (.char '\r', rest)
      | 'v' => some (.char (Char.ofNat 11), rest)
      | 'A' => some (.look .textStart, rest)
      | 'z' => some (.look .textEnd, rest)
      | 'b' => (readWordEdge mode rest).map fun (look, rest) => (.look look, rest)
      | 'B' => some (.look (.notWordEdge mode.wide), rest)
      | '<' => some (.look (.wordStart mode.wide), rest)
      | '>' => some (.look (.wordEnd mode.wide), rest)
      | _ => none

def asciiClass? : String → Option CharSet
  | "alnum" => some (.union (.range '0' '9') (.union (.range 'A' 'Z') (.range 'a' 'z')))
  | "alpha" => some (.union (.range 'A' 'Z') (.range 'a' 'z'))
  | "ascii" => some (.range (Char.ofNat 0) (Char.ofNat 127))
  | "blank" => some (.ofList ['\t', ' '])
  | "cntrl" => some (.union (.range (Char.ofNat 0) (Char.ofNat 31)) (.single (Char.ofNat 127)))
  | "digit" => some (.range '0' '9')
  | "graph" => some (.range '!' '~')
  | "lower" => some (.range 'a' 'z')
  | "print" => some (.range ' ' '~')
  | "punct" =>
    some (.union (.range '!' '/') (.union (.range ':' '@') (.union (.range '[' (Char.ofNat 96))
      (.range '\x7b' '~'))))
  | "space" => some (.ofList [' ', '\t', '\n', '\r', Char.ofNat 11, Char.ofNat 12])
  | "upper" => some (.range 'A' 'Z')
  | "word" =>
    some (.union (.range '0' '9') (.union (.range 'A' 'Z') (.union (.range 'a' 'z') (.single '_'))))
  | "xdigit" => some (.union (.range '0' '9') (.union (.range 'A' 'F') (.range 'a' 'f')))
  | _ => none

/-- An ASCII class after its opening bracket, such as `:alpha:]`, if there is one, and whether it is
negated. -/
def readAsciiClass? : List Char → Option (Bool × CharSet × List Char)
  | ':' :: rest =>
    let (negated, rest) := match rest with
      | '^' :: rest => (true, rest)
      | _ => (false, rest)
    match rest.dropWhile (· != ':') with
    | ':' :: ']' :: after =>
      (asciiClass? (String.ofList (rest.takeWhile (· != ':')))).map fun set => (negated, set, after)
    | _ => none
  | _ => none

inductive SetOp where
  | inter
  | diff
  | symmDiff

def SetOp.apply : SetOp → CharSet → CharSet → CharSet
  | .inter => .inter
  | .diff => .diff
  | .symmDiff => .symmDiff

/-- What stands to the left of the set being read, joined with it. -/
def joinLeft (mode : Mode) (left : Option (SetOp × CharSet)) (right : CharSet) : CharSet :=
  match left with
  | none => right
  | some (op, left) =>
    if mode.ignoreCase then op.apply (.folded mode.wide left) (.folded mode.wide right)
    else op.apply left right

/-- Hyphens at the beginning of a set, and a bracket that comes first, stand for themselves. -/
def readSetStart (mode : Mode) : Nat → CharSet → Bool → List Char → CharSet × List Char
  | 0, set, _, cs => (set, cs)
  | fuel + 1, set, first, cs =>
    match skipBlank mode cs with
    | '-' :: rest => readSetStart mode fuel (.union set (.single '-')) false rest
    | ']' :: rest =>
      if first then (.union set (.single ']'), skipBlank mode rest) else (set, ']' :: rest)
    | rest => (set, rest)

def readMember (mode : Mode) : List Char → Option (Escape × List Char)
  | [] => none
  | '\\' :: rest => readEscape mode rest
  | c :: rest => some (.char c, rest)

/-- A member of a set, or a range of characters. A hyphen before a bracket or another hyphen makes
no range. -/
def readRange (mode : Mode) (cs : List Char) : Option (CharSet × List Char) := do
  let (first, rest) ← readMember mode cs
  let rest := skipBlank mode rest
  let plain : Option (CharSet × List Char) :=
    match first with
    | .char c => if mode.wide || c.toNat < 128 then some (.single c, rest) else none
    | .set set => some (set, rest)
    | .look _ => none
  match rest with
  | [] => none
  | '-' :: after =>
    let after := skipBlank mode after
    match after with
    | ']' :: _ | '-' :: _ => plain
    | _ =>
      let (second, rest) ← readMember mode after
      match first, second with
      | .char low, .char high =>
        if low ≤ high ∧ (mode.wide ∨ high.toNat < 128) then some (.range low high, rest) else none
      | _, _ => none
  | _ => plain

mutual

/-- A set after its opening bracket. Gives the set, the depth of its nesting and the rest. -/
def readSet (mode : Mode) : Nat → List Char → Option (CharSet × Nat × List Char)
  | 0, _ => none
  | fuel + 1, cs =>
    let (negated, cs) := match skipBlank mode cs with
      | '^' :: rest => (true, rest)
      | rest => (false, rest)
    let (start, cs) := readSetStart mode (cs.length + 1) .empty true cs
    do
      let (set, depth, rest) ← readMembers mode fuel none start 0 cs
      let set ← finishSet? mode negated set
      pure (set, depth + 1, rest)

/-- The members of a set up to its closing bracket, joined with what stands to their left. -/
def readMembers (mode : Mode) :
    Nat → Option (SetOp × CharSet) → CharSet → Nat → List Char → Option (CharSet × Nat × List Char)
  | 0, _, _, _, _ => none
  | fuel + 1, left, set, depth, cs =>
    let next (op : SetOp) (rest : List Char) :=
      readMembers mode fuel (some (op, joinLeft mode left set)) .empty (depth + 1) rest
    match skipBlank mode cs with
    | [] => none
    | ']' :: rest => some (joinLeft mode left set, depth, rest)
    | '[' :: rest =>
      match readAsciiClass? rest with
      | some (negated, inner, rest) => do
        let inner ← finishSet? mode negated inner
        readMembers mode fuel left (.union set inner) depth rest
      | none => do
        let (inner, innerDepth, rest) ← readSet mode fuel rest
        readMembers mode fuel left (.union set inner) (max depth innerDepth) rest
    | '&' :: '&' :: rest => next .inter rest
    | '-' :: '-' :: rest => next .diff rest
    | '~' :: '~' :: rest => next .symmDiff rest
    | rest => do
      let (inner, rest) ← readRange mode rest
      readMembers mode fuel left (.union set inner) depth rest

end

def Mode.set? (mode : Mode) (on : Bool) : Char → Option Mode
  | 'i' => some { mode with ignoreCase := on }
  | 'm' => some { mode with multiLine := on }
  | 's' => some { mode with dotAll := on }
  | 'U' => some { mode with swapGreed := on }
  | 'u' => some { mode with wide := on }
  | 'R' => some { mode with crlf := on }
  | 'x' => some { mode with extended := on }
  | _ => none

/-- Mode letters up to a closing parenthesis or a colon; those after a hyphen are turned off.
Gives the mode, what the letters were, and the rest with its closing mark. -/
def readModes (mode : Mode) (seen : List Char) : List Char → Option (Mode × List Char × List Char)
  | [] => none
  | c :: cs =>
    if c = ':' ∨ c = ')' then
      if seen.head? = some '-' then none else some (mode, seen, c :: cs)
    else if seen.contains c then none
    else if c = '-' then readModes mode (c :: seen) cs
    else do
      let mode ← Mode.set? mode (!seen.contains '-') c
      readModes mode (c :: seen) cs

/-- A character of a group's name: a letter or an underscore, and behind the first character also a
digit, a dot or a bracket. -/
def isNameChar (first : Bool) (c : Char) : Bool :=
  if c.toNat < 128 then
    c == '_' || c.isAlpha ||
      (!first && (c == '.' || c == '[' || c == ']' || c.isDigit))
  else
    Text.Unicode.alphabetic.contains c.toNat ||
      (!first &&
        [Text.Unicode.decimalNumber, Text.Unicode.letterNumber, Text.Unicode.otherNumber].any
          fun ranges => ranges.contains c.toNat)

def readName (cs : List Char) : Option (String × List Char) := do
  let (name, rest) ← Text.splitOnce '>' cs
  match name with
  | [] => none
  | c :: more =>
    if isNameChar true c && more.all (isNameChar false) then some (String.ofList name, rest)
    else none

def dot? (mode : Mode) : Option CharSet :=
  if !mode.wide then none
  else if mode.dotAll then some (.complement .empty)
  else if mode.crlf then some (.complement (.ofList ['\n', '\r']))
  else some (.complement (.single '\n'))

def literal (mode : Mode) (c : Char) : Tree :=
  if mode.ignoreCase then .chars (.folded mode.wide (.single c)) else .chars (.single c)

def readCount (mode : Mode) (cs : List Char) : Option Nat × List Char :=
  let cs := cs.dropWhile Text.isSpace
  let digits := cs.takeWhile Char.isDigit
  let rest := (skipBlank mode (cs.dropWhile Char.isDigit)).dropWhile Text.isSpace
  let number := digits.foldl (fun value c => 10 * value + (c.toNat - '0'.toNat)) 0
  (if digits.isEmpty || Nat.pow 2 32 ≤ number then none else some number, skipBlank mode rest)

def readBounds (mode : Mode) (cs : List Char) : Option (Nat × Option Nat × List Char) :=
  match readCount mode (skipBlank mode cs) with
  | (some least, ',' :: rest) =>
    match skipBlank mode rest with
    | '\x7d' :: rest => some (least, none, rest)
    | rest =>
      match readCount mode rest with
      | (some most, '\x7d' :: rest) => if least ≤ most then some (least, some most, rest) else none
      | _ => none
  | (some least, '\x7d' :: rest) => some (least, some least, rest)
  | _ => none

/-- Repeats the last item read; there must be one, and it must not be a directive. -/
def repeatLast (mode : Mode) (least : Nat) (most : Option Nat) (lazy : Bool) :
    List Item → Option (List Item)
  | [] => none
  | item :: items =>
    if item.directive then none
    else
      let greedy := lazy == mode.swapGreed
      some ({ tree := item.tree.rounds least most greedy, depth := item.depth + 1 } :: items)

def readLazy : List Char → Bool × List Char
  | '?' :: rest => (true, rest)
  | rest => (false, rest)

/-- The items of a concatenation, of which the last was read last. -/
def joinItems (items : List Item) : Item :=
  match items.reverse with
  | [] => { tree := .empty }
  | [item] => { item with directive := false }
  | items =>
    { tree := .concat (items.map Item.tree), depth := (items.map Item.depth).foldl max 0 + 1 }

/-- The branches of a choice, of which the last was read last. -/
def joinBranches (branches : List Item) : Item :=
  match branches.reverse with
  | [] => { tree := .empty }
  | [item] => item
  | items =>
    { tree := .choice (items.map Item.tree), depth := (items.map Item.depth).foldl max 0 + 1 }

mutual

/-- A choice up to a closing parenthesis or the end. -/
def readChoice : Nat → List Item → ReadState → Option (Item × ReadState)
  | 0, _, _ => none
  | fuel + 1, branches, state => do
    let (item, state) ← readItems fuel [] state
    match state.rest with
    | '|' :: rest => readChoice fuel (item :: branches) { state with rest }
    | _ => pure (joinBranches (item :: branches), state)

def readItems : Nat → List Item → ReadState → Option (Item × ReadState)
  | 0, _, _ => none
  | fuel + 1, items, state => do
    let mode := state.mode
    let again (items : List Item) (rest : List Char) := readItems fuel items { state with rest }
    match skipBlank mode state.rest with
    | [] => pure (joinItems items, { state with rest := [] })
    | '|' :: rest => pure (joinItems items, { state with rest := '|' :: rest })
    | ')' :: rest => pure (joinItems items, { state with rest := ')' :: rest })
    | '?' :: rest =>
      let (lazy, rest) := readLazy rest
      again (← repeatLast mode 0 (some 1) lazy items) rest
    | '*' :: rest =>
      let (lazy, rest) := readLazy rest
      again (← repeatLast mode 0 none lazy items) rest
    | '+' :: rest =>
      let (lazy, rest) := readLazy rest
      again (← repeatLast mode 1 none lazy items) rest
    | '\x7b' :: rest =>
      let (least, most, rest) ← readBounds mode rest
      let (lazy, rest) := readLazy (skipBlank mode rest)
      again (← repeatLast mode least most lazy items) rest
    | '[' :: rest =>
      let (set, depth, rest) ← readSet mode (rest.length + 1) rest
      again ({ tree := .chars set, depth } :: items) rest
    | '(' :: rest =>
      let (item, state) ← readGroup fuel { state with rest }
      readItems fuel (item :: items) state
    | '.' :: rest =>
      let set ← dot? mode
      again ({ tree := .chars set } :: items) rest
    | '^' :: rest =>
      again ({ tree := .look (if mode.multiLine then .lineStart mode.crlf else .textStart) } ::
        items) rest
    | '$' :: rest =>
      again ({ tree := .look (if mode.multiLine then .lineEnd mode.crlf else .textEnd) } ::
        items) rest
    | '\\' :: rest =>
      let (escape, rest) ← readEscape mode rest
      match escape with
      | .char c => again ({ tree := literal mode c } :: items) rest
      | .set set => again ({ tree := .chars set } :: items) rest
      | .look look => again ({ tree := .look look } :: items) rest
    | c :: rest => again ({ tree := literal mode c } :: items) rest

/-- A group or a directive after its opening parenthesis. The mode of a group ends with it. -/
def readGroup : Nat → ReadState → Option (Item × ReadState)
  | 0, _ => none
  | fuel + 1, state => do
    let outer := state.mode
    let close (index : Option Nat) (state : ReadState) : Option (Item × ReadState) := do
      let (item, state) ← readChoice fuel [] state
      match state.rest with
      | ')' :: rest =>
        let tree := match index with
          | some index => .group index item.tree
          | none => item.tree
        pure ({ tree, depth := item.depth + 1 }, { state with rest, mode := outer })
      | _ => none
    let named (rest : List Char) : Option (Item × ReadState) := do
      let (name, rest) ← readName rest
      if state.names.any fun entry => entry.1 == name then none
      else
        let index := state.groups + 1
        close (some index)
          { state with rest, groups := index, names := state.names ++ [(name, index)] }
    match skipBlank outer state.rest with
    | '?' :: 'P' :: '<' :: rest => named rest
    | '?' :: '<' :: rest => named rest
    | '?' :: rest =>
      let (mode, seen, rest) ← readModes outer [] rest
      match rest with
      | ')' :: rest =>
        if seen.isEmpty then none
        else pure ({ tree := .empty, directive := true }, { state with rest, mode })
      | _ :: rest => close none { state with rest, mode }
      | [] => none
    | rest =>
      let index := state.groups + 1
      close (some index) { state with rest, groups := index }

end

end Reader

structure Reading where
  tree : Tree
  groups : Nat
  names : List (String × Nat)

def read? (cs : List Char) : Option Reading := do
  let (item, state) ← Reader.readChoice (4 * cs.length + 4) [] { rest := cs }
  if state.rest.isEmpty && item.depth ≤ maxNesting then
    some { tree := item.tree, groups := state.groups, names := state.names }
  else none

end HistEdit.Pattern
