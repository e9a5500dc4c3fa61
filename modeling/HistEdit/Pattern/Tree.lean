import HistEdit.Pattern.CharSet

/-!
Patterns as trees. Matching goes through a tree from left to right: a set takes one character, a
look takes none and asks about the place, a repetition prefers more or fewer rounds, and a group
remembers what it took.
-/

namespace HistEdit.Pattern

/-- A question about a place in a text. Lines end at a line feed, or with `crlf` also at a carriage
return but never between the two. -/
inductive Look where
  | textStart
  | textEnd
  | lineStart (crlf : Bool)
  | lineEnd (crlf : Bool)
  | wordEdge (wide : Bool)
  | notWordEdge (wide : Bool)
  | wordStart (wide : Bool)
  | wordEnd (wide : Bool)
  | wordStartHalf (wide : Bool)
  | wordEndHalf (wide : Bool)
  deriving DecidableEq

/-- Whether a place between two characters, if there are any, is as asked. -/
def Look.holds (look : Look) (before after : Option Char) : Bool :=
  let isWord (wide : Bool) (c : Option Char) : Bool :=
    c.any (if wide then isWordChar else isAsciiWordChar)
  match look with
  | .textStart => before.isNone
  | .textEnd => after.isNone
  | .lineStart false => before.isNone || before == some '\n'
  | .lineEnd false => after.isNone || after == some '\n'
  | .lineStart true =>
    before.isNone || before == some '\n' || (before == some '\r' && after != some '\n')
  | .lineEnd true =>
    after.isNone || after == some '\r' || (after == some '\n' && before != some '\r')
  | .wordEdge wide => isWord wide before != isWord wide after
  | .notWordEdge wide => isWord wide before == isWord wide after
  | .wordStart wide => !isWord wide before && isWord wide after
  | .wordEnd wide => isWord wide before && !isWord wide after
  | .wordStartHalf wide => !isWord wide before
  | .wordEndHalf wide => !isWord wide after

/-- A pattern. A repetition without a greatest number of rounds goes on as long as it can. -/
inductive Tree where
  | empty
  | chars (set : CharSet)
  | look (look : Look)
  | seq (first second : Tree)
  | alt (first second : Tree)
  | iterate (body : Tree) (least : Nat) (most : Option Nat) (greedy : Bool)
  | group (index : Nat) (body : Tree)

namespace Tree

def minBytes : Tree → Nat
  | .empty | .look _ => 0
  | .chars _ => 1
  | .seq a b => a.minBytes + b.minBytes
  | .alt a b => min a.minBytes b.minBytes
  | .iterate body least _ _ => least * body.minBytes
  | .group _ body => body.minBytes

def isAlwaysEmpty : Tree → Bool
  | .empty | .look _ => true
  | .chars _ => false
  | .seq a b | .alt a b => a.isAlwaysEmpty && b.isAlwaysEmpty
  | .iterate body _ most _ => most == some 0 || body.isAlwaysEmpty
  | .group _ body => body.isAlwaysEmpty

/-- A repetition. A body that takes nothing is tried at most once, no rounds are the empty pattern,
and one round is the body itself. -/
def rounds (body : Tree) (least : Nat) (most : Option Nat) (greedy : Bool) : Tree :=
  let (least, most) :=
    if body.isAlwaysEmpty then (min least 1, some (min (most.getD 1) 1)) else (least, most)
  if least = 0 ∧ most = some 0 then .empty
  else if least = 1 ∧ most = some 1 then body
  else .iterate body least most greedy

def concat : List Tree → Tree
  | [] => .empty
  | [tree] => tree
  | tree :: trees => .seq tree (concat trees)

/-- Patterns of which the first that leads to a match counts. -/
def choice : List Tree → Tree
  | [] => .empty
  | [tree] => tree
  | tree :: trees => .alt tree (choice trees)

/-- How much room a pattern takes in a matching machine that reads bytes. -/
def weight : Tree → Nat
  | .empty | .look _ => 1
  | .chars set => set.weight
  | .seq a b => a.weight + b.weight
  | .alt a b => a.weight + b.weight + 2
  | .iterate body least most _ => (body.weight + 1) * max 1 (most.getD least) + 2
  | .group _ body => body.weight + 2

end Tree

end HistEdit.Pattern
