import HistEdit.Data.Yaml.Scalar

/-!
Reading YAML. In blocks the column of an item or key says where it belongs; within brackets only
marks count. A key stands on one line with the colon behind it.
-/

namespace HistEdit.Data

namespace Yaml

/-- How many lists and tables may stand inside one another. -/
def maxDepth : Nat := 128

/-- Skips blanks, comments and line breaks. In a block a line break lets a key begin, and where
one may begin a tab is no blank. -/
def skipGapFrom (flow : Bool) : Bool → Bool → List Char → Bool × List Char
  | allowed, _, [] => (allowed, [])
  | allowed, inComment, c :: cs =>
    if c = '\n' then skipGapFrom flow (allowed || !flow) false cs
    else if inComment then skipGapFrom flow allowed true cs
    else if c = ' ' ∨ (c = '\t' ∧ (flow ∨ !allowed)) then skipGapFrom flow allowed false cs
    else if c = '#' then skipGapFrom flow allowed true cs
    else (allowed, c :: cs)

def skipGap (flow : Bool) : Reader Unit := do
  let place ← get
  let (allowed, rest) := skipGapFrom flow place.keyAllowed false place.rest
  set { place.moveTo rest with keyAllowed := allowed }

def pass (count : Nat) (keyAllowed : Bool) : Reader Unit :=
  modify fun place => { place.pass count with keyAllowed }

def atMark (mark : Char) : Reader Bool := do
  match (← get).rest with
  | c :: rest => return c == mark && isBroken rest
  | [] => return false

def atChar (c : Char) : Reader Bool := do
  return (← get).rest.head? == some c

def name : Reader String := do
  let found := (← get).rest.takeWhile fun c => !(isBlank c || c == '\n' || isFlowMark c)
  pass found.length false
  return String.ofList found

def properties : Reader (Option String × Option String) := do
  let tag : Reader (Option String) := do
    if ← atChar '!' then
      let text ← name
      skipBlanksHere
      return some text
    else return none
  let anchor : Reader (Option String) := do
    if ← atChar '&' then
      pass 1 false
      let text ← name
      if text.isEmpty then failure
      skipBlanksHere
      return some text
    else return none
  let first ← tag
  let mark ← anchor
  match first with
  | some text => return (some text, mark)
  | none => return (← tag, mark)
where
  /-- Skips blanks inside a line. -/
  skipBlanksHere : Reader Unit := do
    pass ((← get).rest.takeWhile isBlank).length false

def remember (anchor : Option String) (node : Node) : Reader Node := do
  match anchor with
  | some text =>
    modify fun place => { place with anchors := (text, node) :: place.anchors }
    return node
  | none => return node

def namedNode : Reader Node := do
  pass 1 false
  let text ← name
  match (← get).anchors.lookup text with
  | some node => return node
  | none => failure

def startsPlain (flow : Bool) : List Char → Bool
  | [] => false
  | c :: rest =>
    if c = '-' then !(rest.head?.any isBlank)
    else if c = '?' ∨ c = ':' then !flow && !isBroken rest
    else !(isBlank c || c == '\n' || isFlowMark c || "#&*!|>'\"%@`".toList.contains c)

def colon (flow : Bool) (start : Place) : Reader Unit := do
  let blanks := ((← get).rest.takeWhile isBlank).length
  pass blanks false
  let place ← get
  if place.line ≠ start.line ∨ 1024 < start.rest.length - place.rest.length then failure
  match place.rest with
  | ':' :: rest => if flow || isBroken rest then pass 1 false else failure
  | _ => failure

mutual

/-- A node within brackets; nothing where a mark or a colon follows. -/
def flowNode : Nat → Nat → Reader Node
  | 0, _ => failure
  | fuel + 1, depth => do
    let (tag, anchor) ← properties
    skipGap true
    let node ← flowContent fuel depth
    remember anchor (if tag.isSome then node.setTag tag else node)

def flowContent : Nat → Nat → Reader Node
  | 0, _ => failure
  | fuel + 1, depth => do
    match (← get).rest with
    | '*' :: _ => namedNode
    | '"' :: _ => quotedScalar
    | '\'' :: _ => quotedScalar
    | '[' :: _ => flowList fuel depth
    | '\x7b' :: _ => flowTable fuel depth
    | rest => if startsPlain true rest then plainScalar true 0 else return .empty

def flowList : Nat → Nat → Reader Node
  | 0, _ => failure
  | fuel + 1, depth => do
    if depth = 0 then failure
    pass 1 true
    let items ← flowItems fuel (depth - 1)
    pass 1 false
    return .list none items

/-- The items of a list up to its closing bracket. An item may be a key with its value. -/
def flowItems : Nat → Nat → Reader (List Node)
  | 0, _ => failure
  | fuel + 1, depth => do
    skipGap true
    if ← atChar ']' then return []
    if ← atChar ',' then failure
    let start ← get
    let node ← flowNode fuel depth
    skipGap true
    let item ←
      if ← atChar ':' then do
        colon true start
        skipGap true
        let value ← flowNode fuel depth
        skipGap true
        pure (Node.table none [(node, value)])
      else pure node
    if ← atChar ']' then return [item]
    if ← atChar ',' then
      pass 1 true
      return item :: (← flowItems fuel depth)
    failure

def flowTable : Nat → Nat → Reader Node
  | 0, _ => failure
  | fuel + 1, depth => do
    if depth = 0 then failure
    pass 1 true
    let entries ← flowEntries fuel (depth - 1)
    pass 1 false
    return .table none entries

def flowEntries : Nat → Nat → Reader (List (Node × Node))
  | 0, _ => failure
  | fuel + 1, depth => do
    skipGap true
    if ← atChar '\x7d' then return []
    if ← atChar ',' then failure
    let start ← get
    let key ← flowNode fuel depth
    skipGap true
    let value ←
      if ← atChar ':' then do
        colon true start
        skipGap true
        let value ← flowNode fuel depth
        skipGap true
        pure value
      else pure Node.empty
    if ← atChar '\x7d' then return [(key, value)]
    if ← atChar ',' then
      pass 1 true
      return (key, value) :: (← flowEntries fuel depth)
    failure

end

def blockKey (fuel depth : Nat) : Reader Node := do
  let start ← get
  let (tag, anchor) ← properties
  let node ←
    match (← get).rest with
    | '*' :: _ => namedNode
    | '"' :: _ => quotedScalar
    | '\'' :: _ => quotedScalar
    | '[' :: _ => flowList fuel depth
    | '\x7b' :: _ => flowTable fuel depth
    | rest =>
      if startsPlain false rest then do
        let text := trimBlanks (← plainLine false false rest)
        pass text.length false
        pure (Node.scalar none true (String.ofList text))
      else if tag.isSome ∨ anchor.isSome then pure Node.empty
      else failure
  colon false start
  remember anchor (if tag.isSome then node.setTag tag else node)

def atKey (fuel depth : Nat) : Reader Bool := do
  let place ← get
  return ((blockKey fuel depth).run place).isSome

mutual

/-- A node below the indentation `outer - 1` of a block; nothing when what follows does not belong
to it. Where `besides` is set, a list may also stand at that indentation. -/
def blockNode : Nat → Nat → Nat → Bool → Reader Node
  | 0, _, _, _ => failure
  | fuel + 1, depth, outer, besides => do
    skipGap false
    let place ← get
    if place.atEnd then return .empty
    if place.column < outer then
      if besides && place.column + 1 == outer && place.keyAllowed && (← atMark '-') then
        return .list none (← besideItems fuel depth place.column)
      return .empty
    if ← atMark '-' then
      if !place.keyAllowed || depth = 0 then failure
      return .list none (← blockItems fuel (depth - 1) place.column)
    if place.keyAllowed then
      if (← atMark '?') || (← atKey fuel depth) then
        if depth = 0 then failure
        return .table none (← blockEntries fuel (depth - 1) place.column)
    blockContent fuel depth outer besides

/-- A node of a block that is neither a list nor a table with its marks here. -/
def blockContent : Nat → Nat → Nat → Bool → Reader Node
  | 0, _, _, _ => failure
  | fuel + 1, depth, outer, besides => do
    match (← get).rest with
    | '*' :: _ => namedNode
    | '"' :: _ => quotedScalar
    | '\'' :: _ => quotedScalar
    | '[' :: _ => flowList fuel depth
    | '\x7b' :: _ => flowTable fuel depth
    | '|' :: _ => blockScalar outer
    | '>' :: _ => blockScalar outer
    | rest =>
      if rest.head? = some '!' ∨ rest.head? = some '&' then
        let (tag, anchor) ← properties
        let node ← blockNode fuel depth outer besides
        remember anchor (if tag.isSome then node.setTag tag else node)
      else if startsPlain false rest then plainScalar false outer
      else failure

def blockItems : Nat → Nat → Nat → Reader (List Node)
  | 0, _, _ => failure
  | fuel + 1, depth, column => do
    pass 1 true
    let item ← blockNode fuel depth (column + 1) false
    skipGap false
    let place ← get
    if place.atEnd || place.column < column then return [item]
    if place.column == column && place.keyAllowed && (← atMark '-') then
      return item :: (← blockItems fuel depth column)
    failure

/-- The items of a list whose dashes stand in the column of the keys around it. -/
def besideItems : Nat → Nat → Nat → Reader (List Node)
  | 0, _, _ => failure
  | fuel + 1, depth, column => do
    if depth = 0 then failure
    pass 1 true
    let item ← blockNode fuel (depth - 1) (column + 1) false
    skipGap false
    let place ← get
    if !place.atEnd && place.column == column && place.keyAllowed && (← atMark '-') then
      return item :: (← besideItems fuel depth column)
    return [item]

def blockEntries : Nat → Nat → Nat → Reader (List (Node × Node))
  | 0, _, _ => failure
  | fuel + 1, depth, column => do
    let key ←
      if ← atMark '?' then do
        pass 1 true
        let key ← blockNode fuel depth (column + 1) true
        skipGap false
        pure key
      else blockKey fuel depth
    let place ← get
    let hasValue :=
      place.column == column && place.rest.head? == some ':' && isBroken (place.rest.drop 1)
    if hasValue then pass 1 true
    let value ← blockNode fuel depth (column + 1) true
    skipGap false
    let place ← get
    if place.atEnd || place.column < column then return [(key, value)]
    if place.column == column && place.keyAllowed then
      return (key, value) :: (← blockEntries fuel depth column)
    failure

end

/-- The directives in front of a document, which must open with three dashes after any. -/
def directives : Nat → Reader Unit
  | 0 => failure
  | fuel + 1 => do
    skipGap false
    let place ← get
    if place.column = 0 ∧ place.rest.head? = some '%' then
      set (place.moveTo (place.rest.dropWhile (· != '\n')))
      directives fuel
      skipGap false
      if !(isMarker (← get).rest) then failure

def document : Reader Node := do
  let start ← get
  let fuel := 8 * start.rest.length + 8
  directives fuel
  let place ← get
  if place.column == 0 && isMarker place.rest && place.rest.head? == some '-' then pass 3 false
  let node ← blockNode fuel maxDepth 0 false
  skipGap false
  let place ← get
  if place.column == 0 && isMarker place.rest && place.rest.head? == some '.' then
    pass 3 true
    skipGap false
  if (← get).rest.isEmpty then return node else failure

def isAllowed (c : Char) : Bool :=
  c == '\t' || c == '\n' || (' ' ≤ c && c.toNat < 0x7F) || c.toNat == 0x85 ||
    (0xA0 ≤ c.toNat && c.toNat < 0xFFFE && c.toNat != 0xFEFF) || 0x10000 ≤ c.toNat

def breakLines : List Char → List Char
  | [] => []
  | '\r' :: '\n' :: cs => '\n' :: breakLines cs
  | c :: cs => (if c = '\r' ∨ c.toNat = 0x85 then '\n' else c) :: breakLines cs

end Yaml

/-- The root of a YAML text; a byte order mark in front of it does not count. -/
def readYaml (text : String) : Option Yaml.Node :=
  let cs := match text.toList with
    | '\uFEFF' :: rest => rest
    | cs => cs
  let cs := Yaml.breakLines cs
  if cs.all Yaml.isAllowed then (Yaml.document.run { rest := cs }).map Prod.fst else none

end HistEdit.Data
