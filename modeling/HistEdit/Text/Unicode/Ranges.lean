/-!
Sets of characters as ascending ranges of their numbers. Tables are written in hexadecimal: a
range is its first and last number with a hyphen between them, or one number.
-/

namespace HistEdit.Text.Unicode

def hexValue (digits : List Char) : Nat :=
  digits.foldl (fun value c =>
    16 * value + (if c.isDigit then c.toNat - '0'.toNat else c.toNat - 'a'.toNat + 10)) 0

/-- The numbers of each entry of a table. Entries are separated by blanks or written in different
strings, and the numbers of an entry by hyphens. -/
def decodeNumbers (lines : List String) : List (List Nat) :=
  lines.flatMap fun line =>
    (line.splitOn " ").map fun entry => (entry.splitOn "-").map fun digits => hexValue digits.toList

/-- Ascending ranges of numbers, both ends included. -/
structure Ranges where
  pairs : Array (Nat × Nat)

def Ranges.decode (lines : List String) : Ranges :=
  ⟨((decodeNumbers lines).map fun numbers => (numbers.headD 0, numbers.getLastD 0)).toArray⟩

/-- Position of the last item from `low` on and before `high` whose key is at most `n`, or `low`
when there is none; the items are in ascending order of their keys. -/
def lastAtMost {α : Type} (items : Array α) (key : α → Nat) (n low high : Nat) : Nat :=
  if high ≤ low + 1 then low
  else
    let middle := (low + high) / 2
    match items[middle]? with
    | some item =>
      if key item ≤ n then lastAtMost items key n middle high
      else lastAtMost items key n low middle
    | none => low
termination_by high - low

/-- The item with a key among items in ascending order of their keys. -/
def findBy {α : Type} (items : Array α) (key : α → Nat) (n : Nat) : Option α :=
  items[lastAtMost items key n 0 items.size]?.filter fun item => key item == n

def Ranges.contains (ranges : Ranges) (n : Nat) : Bool :=
  match ranges.pairs[lastAtMost ranges.pairs Prod.fst n 0 ranges.pairs.size]? with
  | some (low, high) => low ≤ n && n ≤ high
  | none => false

/-- A name without case, blanks, hyphens, underscores and characters outside ASCII, and without a
leading `is`. -/
def looseName (name : List Char) : String :=
  let plain := name.filter fun c => c ≠ ' ' ∧ c ≠ '-' ∧ c ≠ '_' ∧ c.toNat < 128
  match plain.map Char.toLower with
  | ['i', 's', 'c'] => "isc"
  | 'i' :: 's' :: rest => String.ofList rest
  | letters => String.ofList letters

end HistEdit.Text.Unicode
