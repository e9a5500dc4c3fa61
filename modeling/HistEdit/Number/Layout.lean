import HistEdit.Number.Shortest

/-!
Two written forms of floating-point numbers, both with the shortest digits that read back. Plain
text never has an exponent and writes whole numbers without a fraction. Reports are JSON: whole
numbers end in `.0`, very large and very small ones get an exponent, and what is not a finite
number is `null`.
-/

namespace HistEdit.Number

inductive Parts where
  | finite (negative : Bool) (number : Decimal)
  | infinite (negative : Bool)
  | undefined
  deriving DecidableEq

/-- The parts of a bit pattern with its sign bit on top. -/
def Parts.ofBits (format : BinaryFormat) (signBit bits : Nat) : Parts :=
  let negative := signBit ≤ bits
  let magnitude := bits % signBit
  if magnitude < format.infinity then .finite negative (shortest format magnitude)
  else if magnitude = format.infinity then .infinite negative
  else .undefined

def Parts.ofDouble (x : Float) : Parts :=
  .ofBits .double (Nat.pow 2 63) x.toBits.toNat

def Parts.ofSingle (x : Float32) : Parts :=
  .ofBits .single (Nat.pow 2 31) x.toBits.toNat

private def zeros (n : Nat) : String :=
  String.ofList (List.replicate n '0')

private def digitsText (number : Decimal) : String :=
  String.ofList (Nat.toDigits 10 number.digits)

/-- Digits in place, without an exponent; a whole number has no point. -/
def Decimal.positional (number : Decimal) : String :=
  let digits := digitsText number
  let point := (digits.length : Int) + number.exponent
  if 0 ≤ number.exponent then digits ++ zeros number.exponent.toNat
  else if 0 < point then
    String.ofList (digits.toList.take point.toNat) ++ "." ++
      String.ofList (digits.toList.drop point.toNat)
  else "0." ++ zeros (-point).toNat ++ digits

def Parts.text : Parts → String
  | .finite negative number => (if negative then "-" else "") ++ number.positional
  | .infinite negative => if negative then "-inf" else "inf"
  | .undefined => "NaN"

/-- Which numbers a report writes in place: those whose leading digit stands for a power of ten from
`least` up to `most`. -/
structure ReportLayout where
  least : Int
  most : Int

def ReportLayout.double : ReportLayout := ⟨-5, 15⟩

def ReportLayout.single : ReportLayout := ⟨-6, 12⟩

def Decimal.report (layout : ReportLayout) (number : Decimal) : String :=
  let digits := digitsText number
  let leading := (digits.length : Int) - 1 + number.exponent
  if number.digits = 0 then "0.0"
  else if layout.least ≤ leading ∧ leading ≤ layout.most then
    if 0 ≤ number.exponent then number.positional ++ ".0" else number.positional
  else
    let fraction := String.ofList (digits.toList.drop 1)
    String.ofList (digits.toList.take 1) ++ (if fraction.isEmpty then "" else "." ++ fraction) ++
      (if leading < 0 then "e-" else "e+") ++ toString leading.natAbs

def Parts.report (layout : ReportLayout) : Parts → String
  | .finite negative number => (if negative then "-" else "") ++ number.report layout
  | .infinite _ | .undefined => "null"

def doubleText (x : Float) : String := (Parts.ofDouble x).text

def singleText (x : Float32) : String := (Parts.ofSingle x).text

def doubleReport (x : Float) : String := (Parts.ofDouble x).report .double

def singleReport (x : Float32) : String := (Parts.ofSingle x).report .single

end HistEdit.Number
