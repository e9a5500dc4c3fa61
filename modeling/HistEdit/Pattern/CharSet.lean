import HistEdit.Text.Space
import HistEdit.Text.Unicode.CaseOrbit
import HistEdit.Text.Unicode.Category
import HistEdit.Text.Unicode.Property

/-!
Sets of characters as a pattern writes them: ranges and tables, put together by union,
intersection, difference and complement. Folding a set adds every character that differs from a
member only by case.
-/

namespace HistEdit.Pattern

open Text (Unicode.Ranges)

/-- A character of a word: a letter, a mark, a decimal digit, connecting punctuation or a joiner. -/
def isWordChar (c : Char) : Bool :=
  if c.toNat < 128 then c.isAlphanum || c == '_'
  else
    [Text.Unicode.alphabetic, Text.Unicode.nonspacingMark, Text.Unicode.spacingMark,
      Text.Unicode.enclosingMark, Text.Unicode.decimalNumber, Text.Unicode.connectorPunctuation,
      Text.Unicode.joinControl].any fun ranges => ranges.contains c.toNat

def isAsciiWordChar (c : Char) : Bool :=
  c.isAlphanum || c == '_'

def isDecimalDigit (c : Char) : Bool :=
  if c.toNat < 128 then c.isDigit else Text.Unicode.decimalNumber.contains c.toNat

/-- The characters that differ from a character only by case, in all of Unicode or in ASCII alone.
-/
def caseVariants (wide : Bool) (c : Char) : List Char :=
  if wide then Text.Unicode.foldOrbit c
  else if c.isUpper then [c, c.toLower]
  else if c.isLower then [c.toUpper, c]
  else [c]

inductive CharSet where
  | empty
  | range (low high : Char)
  | table (ranges : Unicode.Ranges)
  | word
  | digit
  | space
  | union (a b : CharSet)
  | inter (a b : CharSet)
  | diff (a b : CharSet)
  | symmDiff (a b : CharSet)
  | complement (a : CharSet)
  | folded (wide : Bool) (a : CharSet)

namespace CharSet

def contains : CharSet → Char → Bool
  | .empty, _ => false
  | .range low high, c => low ≤ c && c ≤ high
  | .table ranges, c => ranges.contains c.toNat
  | .word, c => isWordChar c
  | .digit, c => isDecimalDigit c
  | .space, c => Text.isSpace c
  | .union a b, c => a.contains c || b.contains c
  | .inter a b, c => a.contains c && b.contains c
  | .diff a b, c => a.contains c && !b.contains c
  | .symmDiff a b, c => a.contains c != b.contains c
  | .complement a, c => !a.contains c
  | .folded wide a, c => (caseVariants wide c).any a.contains

def single (c : Char) : CharSet := .range c c

def ofList (cs : List Char) : CharSet :=
  cs.foldr (fun c set => .union (single c) set) .empty

def ofTables (tables : List Unicode.Ranges) : CharSet :=
  tables.foldr (fun ranges set => .union (.table ranges) set) .empty

/-- Whether every member is ASCII, as far as the way the set is written tells. -/
def isAscii : CharSet → Bool
  | .empty => true
  | .range _ high => high.toNat < 128
  | .table _ | .word | .digit | .space | .complement _ => false
  | .union a b | .symmDiff a b => a.isAscii && b.isAscii
  | .inter a b => a.isAscii || b.isAscii
  | .diff a _ => a.isAscii
  | .folded wide a => !wide && a.isAscii

/-- How much room a set takes in a matching machine that reads bytes. -/
def weight : CharSet → Nat
  | .empty => 1
  | .range low high => if low = high then low.utf8Size else high.utf8Size * high.utf8Size
  | .table ranges => 2 * ranges.pairs.size
  | .word => 1500
  | .digit => 150
  | .space => 12
  | .union a b | .inter a b | .diff a b | .symmDiff a b => a.weight + b.weight
  | .complement a => a.weight + 12
  | .folded _ a => 2 * a.weight

end CharSet

end HistEdit.Pattern
