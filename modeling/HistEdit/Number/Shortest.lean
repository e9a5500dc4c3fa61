import HistEdit.Number.Binary

/-!
The shortest decimal that reads back. The reals that round to a finite binary value form an
interval around it, with its ends when the significand is even. Going down from coarse powers of
ten, the first grid with a point in that interval gives the fewest digits, and of its points the
one nearest to the value is taken, the even one on a tie.
-/

namespace HistEdit.Number

/-- A value between the two ends of the interval of reals that round to it, as whole multiples of
`unit`; `closed` says whether the ends belong to it. -/
structure Rounding where
  low : Nat
  value : Nat
  high : Nat
  unit : Nat × Nat
  closed : Bool

/-- The rounding interval of a positive finite bit pattern, in quarters of the last place. -/
def Rounding.ofBits (format : BinaryFormat) (bits : Nat) : Rounding :=
  let (significand, exponent) := format.split bits
  let leading := significand = Nat.pow 2 (format.precision - 1) ∧ exponent ≠ format.minExponent
  { low := if leading then 4 * significand - 1 else 4 * significand - 2
    value := 4 * significand
    high := 4 * significand + 2
    unit := powFraction 2 (exponent - 2)
    closed := significand % 2 = 0 }

/-- The point of the grid `10 ^ exponent` that lies in the interval and nearest to the value. -/
def Rounding.pointOn? (r : Rounding) (exponent : Int) : Option Nat :=
  let (up, down) := powFraction 10 exponent
  let scale := r.unit.1 * down
  let step := r.unit.2 * up
  let inside (point : Nat) : Bool :=
    let place := point * step
    if r.closed then r.low * scale ≤ place && place ≤ r.high * scale
    else r.low * scale < place && place < r.high * scale
  let below := r.value * scale / step
  let above := below + 1
  match inside below, inside above with
  | true, true => some (roundDiv (r.value * scale) step)
  | true, false => some below
  | false, true => some above
  | false, false => none

/-- Looks for a grid with a point in the interval, at most `grids` powers of ten down. -/
def Rounding.search (r : Rounding) : Nat → Int → Decimal
  | 0, exponent => ⟨roundDiv (r.value * r.unit.1) r.unit.2, exponent⟩
  | grids + 1, exponent =>
    match r.pointOn? exponent with
    | some point => ⟨point, exponent⟩
    | none => r.search grids (exponent - 1)

/-- The shortest decimal that rounds to a finite bit pattern. -/
def shortest (format : BinaryFormat) (bits : Nat) : Decimal :=
  if bits = 0 then ⟨0, 0⟩
  else
    let (significand, exponent) := format.split bits
    let magnitude := ((significand.log2 : Int) + exponent) * 30103 / 100000
    (Rounding.ofBits format bits).search 24 (magnitude + 2)

end HistEdit.Number
