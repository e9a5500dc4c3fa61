import HistEdit.Number.Binary

/-!
Reading numbers from text. A whole number is a sign and decimal digits within a range. A
floating-point number has decimal digits with at most one point and an optional exponent, or is
one of the words for infinity and the undefined value; it is rounded once, to the nearest value of
its format.
-/

namespace HistEdit.Number

/-- A number as written, before it is rounded to a format. -/
inductive Written where
  | finite (negative : Bool) (number : Decimal)
  | infinite (negative : Bool)
  | undefined (negative : Bool)
  deriving DecidableEq

def digitsValue (digits : List Char) : Nat :=
  digits.foldl (fun value c => 10 * value + (c.toNat - '0'.toNat)) 0

def takeSign : List Char → Bool × List Char
  | '-' :: rest => (true, rest)
  | '+' :: rest => (false, rest)
  | cs => (false, cs)

/-- A sign and decimal digits whose value lies between `least` and `most`. A range without negative
numbers admits no minus sign. -/
def readWhole (least most : Int) (cs : List Char) : Option Int :=
  let (negative, digits) := takeSign cs
  if digits.isEmpty || !digits.all Char.isDigit || (negative && least == 0) then none
  else
    let value : Int := if negative then -(digitsValue digits) else digitsValue digits
    if least ≤ value ∧ value ≤ most then some value else none

/-- An exponent: a mark, a sign and at least one digit, up to the end of the text. -/
def readExponent : List Char → Option Int
  | [] => some 0
  | mark :: cs =>
    let (negative, digits) := takeSign cs
    if (mark = 'e' ∨ mark = 'E') ∧ !digits.isEmpty ∧ digits.all Char.isDigit then
      some (if negative then -(digitsValue digits) else digitsValue digits)
    else none

def readDecimal (cs : List Char) : Option Decimal :=
  let whole := cs.takeWhile Char.isDigit
  let (fraction, rest) := match cs.dropWhile Char.isDigit with
    | '.' :: rest => (rest.takeWhile Char.isDigit, rest.dropWhile Char.isDigit)
    | rest => ([], rest)
  if whole.isEmpty && fraction.isEmpty then none
  else (readExponent rest).map fun exponent =>
    ⟨digitsValue (whole ++ fraction), exponent - fraction.length⟩

/-- A floating-point number; words are read in either case. -/
def readWritten (cs : List Char) : Option Written :=
  let (negative, rest) := takeSign cs
  let word := String.ofList (rest.map Char.toLower)
  if word = "inf" ∨ word = "infinity" then some (.infinite negative)
  else if word = "nan" then some (.undefined negative)
  else (readDecimal rest).map (.finite negative)

/-- The bit pattern of a written number; the top bit carries the sign. -/
def Written.toBits (format : BinaryFormat) (signBit quietBit : Nat) : Written → Nat
  | .finite negative number => (if negative then signBit else 0) + number.toBits format
  | .infinite negative => (if negative then signBit else 0) + format.infinity
  | .undefined negative => (if negative then signBit else 0) + format.infinity + quietBit

def readDouble (cs : List Char) : Option Float :=
  (readWritten cs).map fun written =>
    Float.ofBits (UInt64.ofNat (written.toBits .double (Nat.pow 2 63) (Nat.pow 2 51)))

def readSingle (cs : List Char) : Option Float32 :=
  (readWritten cs).map fun written =>
    Float32.ofBits (UInt32.ofNat (written.toBits .single (Nat.pow 2 31) (Nat.pow 2 22)))

end HistEdit.Number
