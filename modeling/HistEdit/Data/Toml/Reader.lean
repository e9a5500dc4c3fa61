import HistEdit.Data.Toml.Scalar
import HistEdit.Data.Toml.Table

/-!
Reading TOML. A text is a sequence of statements, one on a line: a header that opens a table, a
header that opens one more table of an array, or a key with its value. Values are scalars, lists
that may run over several lines, and tables on one line.
-/

namespace HistEdit.Data

namespace Toml

/-- How many lists and tables may stand inside one another in a value, and how many keys in a
path. -/
def maxDepth : Nat := 79

def isKeyChar (c : Char) : Bool :=
  c.isAlphanum || c == '_' || c == '-'

def key? (cs : List Char) : Option (String × List Char) :=
  match cs with
  | '"' :: rest => basicBody (rest.length + 1) [] rest
  | '\'' :: rest => literalBody rest
  | _ =>
    let found := cs.takeWhile isKeyChar
    if found.isEmpty then none else some (String.ofList found, cs.dropWhile isKeyChar)

/-- Keys with points between them: those before the last one, and the last one. -/
def path? : Nat → List Char → Option (List String × String × List Char)
  | 0, _ => none
  | limit + 1, cs => do
    let (key, rest) ← key? (skipBlanks cs)
    match skipBlanks rest with
    | '.' :: rest =>
      let (keys, last, rest) ← path? limit rest
      some (key :: keys, last, rest)
    | rest => some ([], key, rest)

def lineEnd? (cs : List Char) : Option (List Char) :=
  match skipComment (skipBlanks cs) with
  | [] => some []
  | rest => newline? rest

def skipGaps : Nat → List Char → List Char
  | 0, cs => cs
  | fuel + 1, cs =>
    match skipLines cs with
    | '#' :: rest =>
      match lineEnd? ('#' :: rest) with
      | some rest => skipGaps fuel rest
      | none => '#' :: rest
    | rest => rest

mutual

def value? : Nat → Nat → List Char → Option (Value × List Char)
  | 0, _, _ => none
  | fuel + 1, depth, cs =>
    match cs with
    | '[' :: rest => if depth = 0 then none else items? fuel (depth - 1) [] rest
    | '\x7b' :: rest =>
      if depth = 0 then none
      else
        match skipBlanks rest with
        | '\x7d' :: rest => some (.table [], rest)
        | rest => pairs? fuel (depth - 1) [] rest
    | _ => scalar? cs

/-- The items of a list up to its closing bracket; a comma may stand behind the last one. -/
def items? : Nat → Nat → List Value → List Char → Option (Value × List Char)
  | 0, _, _, _ => none
  | fuel + 1, depth, read, cs =>
    match skipGaps fuel cs with
    | ']' :: rest => some (.list read.reverse, rest)
    | rest => do
      let (item, rest) ← value? fuel depth rest
      match skipGaps fuel rest with
      | ',' :: rest => items? fuel depth (item :: read) rest
      | ']' :: rest => some (.list (item :: read).reverse, rest)
      | _ => none

def pairs? : Nat → Nat → Entries → List Char → Option (Value × List Char)
  | 0, _, _, _ => none
  | fuel + 1, depth, entries, cs => do
    let (path, key, rest) ← path? maxDepth cs
    match rest with
    | '=' :: rest =>
      let (value, rest) ← value? fuel depth (skipBlanks rest)
      let entries ← entries.assign [] path key value
      match skipBlanks rest with
      | ',' :: rest => pairs? fuel depth entries rest
      | '\x7d' :: rest => some (.table (finishEntries entries), rest)
      | _ => none
    | _ => none

end

/-- What the statements read so far have filled, and the table that the last header opened. -/
structure Filling where
  entries : Entries := []
  place : List String := []

def statement? (filling : Filling) (cs : List Char) : Option (Filling × List Char) := do
  match cs with
  | '[' :: '[' :: rest =>
    let (path, key, rest) ← path? maxDepth rest
    match rest with
    | ']' :: ']' :: rest =>
      let entries ← filling.entries.openArrayTable path key
      let rest ← lineEnd? rest
      some (⟨entries, path ++ [key]⟩, rest)
    | _ => none
  | '[' :: rest =>
    let (path, key, rest) ← path? maxDepth rest
    match rest with
    | ']' :: rest =>
      let entries ← filling.entries.openTable path key
      let rest ← lineEnd? rest
      some (⟨entries, path ++ [key]⟩, rest)
    | _ => none
  | _ =>
    let (path, key, rest) ← path? maxDepth cs
    match rest with
    | '=' :: rest =>
      let (value, rest) ← value? (2 * rest.length + 2) maxDepth (skipBlanks rest)
      let entries ← filling.entries.assign filling.place path key value
      let rest ← lineEnd? rest
      some ({ filling with entries }, rest)
    | _ => none

def statements? : Nat → Filling → List Char → Option Filling
  | 0, _, _ => none
  | fuel + 1, filling, cs =>
    match skipGaps cs.length cs with
    | [] => some filling
    | rest => do
      let (filling, rest) ← statement? filling rest
      statements? fuel filling rest

end Toml

/-- The tree of a TOML text; a byte order mark in front of it does not count. -/
def readToml (text : String) : Option Value := do
  let cs := match text.toList with
    | '\uFEFF' :: rest => rest
    | cs => cs
  let filling ← Toml.statements? (cs.length + 1) {} cs
  some (.table (Toml.finishEntries filling.entries))

end HistEdit.Data
