/-!
Binary floating-point formats in exact arithmetic. A finite value of a format is a significand
times a power of two; `BinaryFormat.round` takes a positive fraction to the nearest such value,
ties to the even significand, and gives its bit pattern without the sign.
-/

namespace HistEdit.Number

/-- A binary format: bits of a full significand (the leading one included), the exponent of the
smallest positive value, and the bit pattern of infinity. -/
structure BinaryFormat where
  precision : Nat
  minExponent : Int
  infinity : Nat
  deriving DecidableEq

def BinaryFormat.double : BinaryFormat := ⟨53, -1074, 0x7FF0000000000000⟩

def BinaryFormat.single : BinaryFormat := ⟨24, -149, 0x7F800000⟩

/-- The quotient rounded to the nearest whole number, ties to even. -/
def roundDiv (num den : Nat) : Nat :=
  let quotient := num / den
  let rest := 2 * (num % den)
  if rest < den ∨ (rest = den ∧ quotient % 2 = 0) then quotient else quotient + 1

def powFraction (base : Nat) (exponent : Int) : Nat × Nat :=
  if 0 ≤ exponent then (base.pow exponent.toNat, 1) else (1, base.pow (-exponent).toNat)

namespace BinaryFormat

/-- The bit pattern of the value nearest to `num / den`, at most that of infinity. The significand
is rounded at the exponent that gives it full precision, or at the least exponent; a carry out of
the significand goes on into the exponent bits, which is the next value of the format. -/
def round (format : BinaryFormat) (num den : Nat) : Nat :=
  if num = 0 ∨ den = 0 then 0
  else
    let guess : Int := (num.log2 : Int) - den.log2 - (format.precision - 1)
    let scaled (e : Int) : Nat × Nat :=
      let (up, down) := powFraction 2 e
      (num * down, den * up)
    let tooBig := (scaled guess).1 < Nat.pow 2 (format.precision - 1) * (scaled guess).2
    let exponent := max format.minExponent (if tooBig then guess - 1 else guess)
    let significand := roundDiv (scaled exponent).1 (scaled exponent).2
    let bits :=
      (exponent - format.minExponent).toNat * Nat.pow 2 (format.precision - 1) + significand
    min bits format.infinity

/-- The significand and exponent of a finite bit pattern without sign. -/
def split (format : BinaryFormat) (bits : Nat) : Nat × Int :=
  let unit := Nat.pow 2 (format.precision - 1)
  let field := bits / unit
  if field = 0 then (bits, format.minExponent)
  else (bits % unit + unit, format.minExponent + (field - 1 : Nat))

end BinaryFormat

/-- A nonnegative decimal number: `digits * 10 ^ exponent`. -/
structure Decimal where
  digits : Nat
  exponent : Int
  deriving DecidableEq, Repr

/-- Number of decimal digits; zero has one. -/
def digitCount (n : Nat) : Nat :=
  (Nat.toDigits 10 n).length

/-- The bit pattern nearest to a decimal number. Numbers far outside every format's range are
decided by their magnitude alone. -/
def Decimal.toBits (format : BinaryFormat) (number : Decimal) : Nat :=
  let magnitude := number.exponent + digitCount number.digits
  if number.digits = 0 ∨ magnitude < -400 then 0
  else if magnitude > 400 then format.infinity
  else
    let (up, down) := powFraction 10 number.exponent
    format.round (number.digits * up) down

end HistEdit.Number
