import HistEdit.Data.Value
import HistEdit.Number.Read

/-!
Reading JSON. A text is one value with blanks around it, nested at most 127 levels deep. A number
without fraction and exponent that fits in 64 bits is whole. Any other number is scaled: its
leading digits, as many as fit in 64 bits, become a double, which is then multiplied or divided by
a power of ten, so that there are two roundings and an overflow is an error.
-/

namespace HistEdit.Data.JsonReader

/-- How many lists and tables may stand inside one another. -/
def maxDepth : Nat := 127

def isBlank (c : Char) : Bool :=
  c == ' ' || c == '\t' || c == '\n' || c == '\r'

def skipBlanks (cs : List Char) : List Char :=
  cs.dropWhile isBlank

def hexDigit? (c : Char) : Option Nat :=
  if '0' ≤ c ∧ c ≤ '9' then some (c.toNat - '0'.toNat)
  else if 'a' ≤ c ∧ c ≤ 'f' then some (c.toNat - 'a'.toNat + 10)
  else if 'A' ≤ c ∧ c ≤ 'F' then some (c.toNat - 'A'.toNat + 10)
  else none

def hexUnit? : List Char → Option (Nat × List Char)
  | a :: b :: c :: d :: rest => do
    let a ← hexDigit? a
    let b ← hexDigit? b
    let c ← hexDigit? c
    let d ← hexDigit? d
    pure (((a * 16 + b) * 16 + c) * 16 + d, rest)
  | _ => none

/-- The character of an escape after `\u`; a high surrogate must be followed by a low one. -/
def unicodeEscape? (cs : List Char) : Option (Char × List Char) := do
  let (unit, rest) ← hexUnit? cs
  if unit < 0xD800 ∨ 0xE000 ≤ unit then pure (Char.ofNat unit, rest)
  else if 0xDC00 ≤ unit then none
  else
    match rest with
    | '\\' :: 'u' :: rest =>
      let (low, rest) ← hexUnit? rest
      if 0xDC00 ≤ low ∧ low < 0xE000 then
        pure (Char.ofNat (0x10000 + (unit - 0xD800) * 0x400 + (low - 0xDC00)), rest)
      else none
    | _ => none

def stringBody : Nat → List Char → List Char → Option (String × List Char)
  | 0, _, _ => none
  | fuel + 1, read, cs =>
    match cs with
    | '"' :: rest => some (String.ofList read.reverse, rest)
    | '\\' :: 'u' :: rest => do
      let (c, rest) ← unicodeEscape? rest
      stringBody fuel (c :: read) rest
    | '\\' :: c :: rest => do
      let escaped ←
        match c with
        | '"' => some '"'
        | '\\' => some '\\'
        | '/' => some '/'
        | 'b' => some (Char.ofNat 8)
        | 'f' => some (Char.ofNat 12)
        | 'n' => some '\n'
        | 'r' => some '\r'
        | 't' => some '\t'
        | _ => none
      stringBody fuel (escaped :: read) rest
    | c :: rest => if c.toNat < 32 ∨ c = '\\' then none else stringBody fuel (c :: read) rest
    | [] => none

/-- Takes digits into a 64-bit significand. Gives the significand, the digits taken and those left
over from the first that does not fit. -/
def significand : Nat → List Char → Nat × Nat × List Char
  | value, [] => (value, 0, [])
  | value, c :: cs =>
    let next := 10 * value + (c.toNat - '0'.toNat)
    if next < Nat.pow 2 64 then
      let (final, taken, rest) := significand next cs
      (final, taken + 1, rest)
    else (value, 0, c :: cs)

def powerOfTen (n : Nat) : Float :=
  Float.ofBits (UInt64.ofNat (Number.Decimal.toBits .double ⟨1, n⟩))

/-- A significand times a power of ten in double arithmetic, dividing in steps of `10 ^ 308`. -/
def scaleDown : Nat → Float → Nat → Float
  | 0, value, _ => value
  | steps + 1, value, n =>
    if n ≤ 308 then value / powerOfTen n
    else if value == 0 then value
    else scaleDown steps (value / powerOfTen 308) (n - 308)

/-- A significand scaled by a power of ten; nothing when it overflows. -/
def scale? (value : Nat) (exponent : Int) : Option Float :=
  let start := (UInt64.ofNat value).toFloat
  if exponent < 0 then some (scaleDown 4 start (-exponent).toNat)
  else if exponent ≤ 308 then
    let scaled := start * powerOfTen exponent.toNat
    if scaled.isInf then none else some scaled
  else if start == 0 then some start
  else none

def exponent? : List Char → Option (Option Int × List Char)
  | c :: cs =>
    if c = 'e' ∨ c = 'E' then
      let (negative, cs) := Number.takeSign cs
      let digits := cs.takeWhile Char.isDigit
      if digits.isEmpty then none
      else
        let value : Int := Number.digitsValue digits
        some (some (if negative then -value else value), cs.dropWhile Char.isDigit)
    else some (none, c :: cs)
  | [] => some (none, [])

/-- Scales the digits of a number; an exponent of more than 31 bits decides alone. -/
def scaledNumber (negative : Bool) (whole fraction : List Char) (exponent : Int) : Option Value :=
  let (wholeValue, _, wholeLeft) := significand 0 whole
  let (value, taken) :=
    if wholeLeft.isEmpty then
      let (value, taken, _) := significand wholeValue fraction
      (value, (taken : Int))
    else
      match fraction with
      | [] => (wholeValue, -(wholeLeft.length : Int))
      | _ =>
        let (value, taken, _) := significand wholeValue fraction
        (value, (taken : Int) - wholeLeft.length)
  let signed (x : Float) : Value := .double (if negative then -x else x)
  if exponent.natAbs < Nat.pow 2 31 then (scale? value (exponent - taken)).map signed
  else if exponent < 0 ∨ value = 0 then some (signed 0)
  else none

/-- A number: no sign but `-`, no superfluous zero, digits on both sides of a point. -/
def number? (cs : List Char) : Option (Value × List Char) := do
  let (negative, cs) := match cs with
    | '-' :: rest => (true, rest)
    | _ => (false, cs)
  let whole := cs.takeWhile Char.isDigit
  let rest := cs.dropWhile Char.isDigit
  if whole.isEmpty || (whole.head? == some '0' && whole.length > 1) then none
  else
    let (fraction, rest) ←
      match rest with
      | '.' :: rest =>
        let fraction := rest.takeWhile Char.isDigit
        if fraction.isEmpty then none else some (some fraction, rest.dropWhile Char.isDigit)
      | _ => some (none, rest)
    let (exponent, rest) ← exponent? rest
    match fraction, exponent with
    | none, none =>
      let value := Number.digitsValue whole
      if negative ∧ 0 < value ∧ value ≤ Nat.pow 2 63 then pure (.int (-(value : Int)), rest)
      else if ¬negative ∧ value < Nat.pow 2 64 then pure (.int value, rest)
      else if value < Nat.pow 2 64 then pure (.double (-(UInt64.ofNat value).toFloat), rest)
      else
        let value ← scaledNumber negative whole [] 0
        pure (value, rest)
    | _, _ =>
      let value ← scaledNumber negative whole (fraction.getD []) (exponent.getD 0)
      pure (value, rest)

mutual

def value? : Nat → Nat → List Char → Option (Value × List Char)
  | 0, _, _ => none
  | fuel + 1, depth, cs =>
    match skipBlanks cs with
    | '"' :: rest =>
      (stringBody (rest.length + 1) [] rest).map fun (text, rest) => (.text text, rest)
    | '[' :: rest =>
      if depth = 0 then none
      else
        match skipBlanks rest with
        | ']' :: rest => some (.list [], rest)
        | rest => do
          let (items, rest) ← items? fuel (depth - 1) rest
          pure (.list items, rest)
    | '\x7b' :: rest =>
      if depth = 0 then none
      else
        match skipBlanks rest with
        | '\x7d' :: rest => some (.table [], rest)
        | rest => do
          let (entries, rest) ← entries? fuel (depth - 1) rest
          pure (.table entries, rest)
    | 't' :: 'r' :: 'u' :: 'e' :: rest => some (.bool true, rest)
    | 'f' :: 'a' :: 'l' :: 's' :: 'e' :: rest => some (.bool false, rest)
    | 'n' :: 'u' :: 'l' :: 'l' :: rest => some (.null, rest)
    | rest => number? rest

def items? : Nat → Nat → List Char → Option (List Value × List Char)
  | 0, _, _ => none
  | fuel + 1, depth, cs => do
    let (item, rest) ← value? fuel depth cs
    match skipBlanks rest with
    | ',' :: rest =>
      let (items, rest) ← items? fuel depth rest
      pure (item :: items, rest)
    | ']' :: rest => pure ([item], rest)
    | _ => none

def entries? : Nat → Nat → List Char → Option (List (String × Value) × List Char)
  | 0, _, _ => none
  | fuel + 1, depth, cs => do
    match skipBlanks cs with
    | '"' :: rest =>
      let (key, rest) ← stringBody (rest.length + 1) [] rest
      match skipBlanks rest with
      | ':' :: rest =>
        let (value, rest) ← value? fuel depth rest
        match skipBlanks rest with
        | ',' :: rest =>
          let (entries, rest) ← entries? fuel depth rest
          pure ((key, value) :: entries, rest)
        | '\x7d' :: rest => pure ([(key, value)], rest)
        | _ => none
      | _ => none
    | _ => none

end

end JsonReader

def readJson (text : String) : Option Value := do
  let cs := text.toList
  let (value, rest) ← JsonReader.value? (2 * cs.length + 2) JsonReader.maxDepth cs
  if (JsonReader.skipBlanks rest).isEmpty then some value else none

end HistEdit.Data
