import HistEdit.Number.Read
import HistEdit.Text.Space
import Mathlib

/-!
The undefined value among floating-point numbers. It is neither above nor below any number, so a
check that refuses the bad comparison and one that asks for the good comparison differ on it and on
nothing else. A text reads as the undefined value exactly when it spells its word: finite numbers
are rounded to infinity at most, and the bits of an infinity are not those of the undefined value.
-/

namespace HistEdit.Number

open Float.Model (UnpackedFloat Format)
open Float.Model.UnpackedFloat (Sign unpack pack isNaNBits unpackExponent unpackMantissa
  unpackExponent_def unpackMantissa_def pack_unpack isNaNBits_packedNaN)

/-! ### Order -/

theorem compare_swap (a b : UnpackedFloat) : b.compare a = (a.compare b).map Ordering.swap := by
  have hfinite (e f : Int) (m n : Nat) :
      (compare f e).then (compare n m) = ((compare e f).then (compare m n)).swap := by
    rw [Ordering.swap_then, Std.OrientedOrd.eq_swap (a := f), Std.OrientedOrd.eq_swap (a := n)]
  have hsign (s t : Sign) : compare t s = (compare s t).swap := by
    cases s <;> cases t <;> rfl
  -- only two infinities and two finite numbers are compared by what they hold
  rcases a with s | _ | s | ⟨s, m, e⟩ <;> rcases b with t | _ | t | ⟨t, n, f⟩ <;>
    first
      | rfl
      | exact congrArg some (hsign s t)
      | (cases s <;> cases t <;>
          first
            | rfl
            | exact congrArg some (hfinite e f m n)
            | exact congrArg (some ∘ Ordering.swap) (hfinite e f m n))

theorem compare_eq_none_iff (a b : UnpackedFloat) :
    a.compare b = none ↔ a.isNaN = true ∨ b.isNaN = true := by
  fun_cases UnpackedFloat.compare a b <;> simp_all

/-- The good comparison is the negated bad one between numbers that are not undefined. -/
theorem unpacked_le_iff (a b : UnpackedFloat) :
    a.le b = true ↔ b.lt a = false ∧ a.isNaN = false ∧ b.isNaN = false := by
  have hnone := compare_eq_none_iff a b
  rw [UnpackedFloat.le, UnpackedFloat.lt, compare_swap a b]
  cases h : a.compare b with
  | none =>
      have hnan : a.isNaN = true ∨ b.isNaN = true := hnone.1 h
      rcases hnan with hnan | hnan <;> simp [hnan]
  | some order =>
      have hnan : a.isNaN = false ∧ b.isNaN = false := by
        simpa only [h, reduceCtorEq, false_iff, not_or, Bool.not_eq_true] using hnone
      cases order <;> simp [hnan, Ordering.swap]

theorem double_le_iff (x y : Float) :
    x ≤ y ↔ ¬ y < x ∧ x.isNaN = false ∧ y.isNaN = false := by
  have hle : x ≤ y ↔ x.toModel.unpack.le y.toModel.unpack = true := decide_eq_true_iff
  have hlt : y < x ↔ y.toModel.unpack.lt x.toModel.unpack = true := decide_eq_true_iff
  rw [hle, hlt, unpacked_le_iff, Bool.not_eq_true]
  rfl

theorem single_le_iff (x y : Float32) :
    x ≤ y ↔ ¬ y < x ∧ x.isNaN = false ∧ y.isNaN = false := by
  have hle : x ≤ y ↔ x.toModel.unpack.le y.toModel.unpack = true := decide_eq_true_iff
  have hlt : y < x ↔ y.toModel.unpack.lt x.toModel.unpack = true := decide_eq_true_iff
  rw [hle, hlt, unpacked_le_iff, Bool.not_eq_true]
  rfl

/-! ### Bits -/

theorem isNaNBits_iff {spec : Format} (b : BitVec spec.numBits) :
    isNaNBits b = true ↔
      b.toNat / 2 ^ spec.mantissaBitsWithoutImplicit % 2 ^ spec.exponentBits =
          2 ^ spec.exponentBits - 1 ∧
        b.toNat % 2 ^ spec.mantissaBitsWithoutImplicit ≠ 0 := by
  rw [isNaNBits, decide_eq_true_eq, unpackExponent_def, unpackMantissa_def,
    BitVec.neg_one_eq_allOnes, ne_eq, ← BitVec.toNat_inj, ← BitVec.toNat_inj]
  simp [Nat.shiftRight_eq_div_pow]

theorem isNaN_unpack {spec : Format} (b : BitVec spec.numBits) :
    (unpack spec b).isNaN = isNaNBits b := by
  unfold unpack isNaNBits
  by_cases hexponent : unpackExponent b = -1#_
  · by_cases hmantissa : unpackMantissa b = 0#_ <;>
      simp [hexponent, hmantissa, UnpackedFloat.isNaN]
  · simp only [hexponent, if_false, false_and, decide_false]
    split
    · split <;> rfl
    · rfl

/-- A bit pattern is stored in its one spelling of the undefined value, or as it is. -/
theorem isNaN_unpack_pack {spec : Format} (b : BitVec spec.numBits)
    (hspec : 2 ≤ spec.exponentBits) :
    (unpack spec (pack spec (unpack spec b))).isNaN = isNaNBits b := by
  rw [pack_unpack b hspec, isNaN_unpack]
  split
  · next h => rw [h, isNaNBits_packedNaN]
  · rfl

theorem isNaN_ofBits_double (bits : Nat) :
    (Float.ofBits (UInt64.ofNat bits)).isNaN = true ↔
      bits / 2 ^ 52 % 2 ^ 11 = 2 ^ 11 - 1 ∧ bits % 2 ^ 52 ≠ 0 := by
  have h : (Float.ofBits (UInt64.ofNat bits)).isNaN =
      @isNaNBits .binary64 (UInt64.ofNat bits).toBitVec :=
    isNaN_unpack_pack _ (by decide)
  rw [h, isNaNBits_iff]
  change bits % 2 ^ 64 / 2 ^ 52 % 2 ^ 11 = 2 ^ 11 - 1 ∧ bits % 2 ^ 64 % 2 ^ 52 ≠ 0 ↔ _
  omega

theorem isNaN_ofBits_single (bits : Nat) :
    (Float32.ofBits (UInt32.ofNat bits)).isNaN = true ↔
      bits / 2 ^ 23 % 2 ^ 8 = 2 ^ 8 - 1 ∧ bits % 2 ^ 23 ≠ 0 := by
  have h : (Float32.ofBits (UInt32.ofNat bits)).isNaN =
      @isNaNBits .binary32 (UInt32.ofNat bits).toBitVec :=
    isNaN_unpack_pack _ (by decide)
  rw [h, isNaNBits_iff]
  change bits % 2 ^ 32 / 2 ^ 23 % 2 ^ 8 = 2 ^ 8 - 1 ∧ bits % 2 ^ 32 % 2 ^ 23 ≠ 0 ↔ _
  omega

/-! ### Reading -/

def Written.isUndefined : Written → Bool
  | .undefined _ => true
  | .finite _ _ | .infinite _ => false

theorem BinaryFormat.round_le (format : BinaryFormat) (num den : Nat) :
    format.round num den ≤ format.infinity := by
  unfold BinaryFormat.round
  split
  · exact Nat.zero_le _
  · exact Nat.min_le_right _ _

theorem Decimal.toBits_le (format : BinaryFormat) (number : Decimal) :
    number.toBits format ≤ format.infinity := by
  unfold Decimal.toBits
  dsimp only
  split
  · exact Nat.zero_le _
  · split
    · exact Nat.le_refl _
    · exact format.round_le _ _

theorem Written.isNaN_double (written : Written) :
    (Float.ofBits (UInt64.ofNat (written.toBits .double (Nat.pow 2 63) (Nat.pow 2 51)))).isNaN =
      written.isUndefined := by
  rw [Bool.eq_iff_iff, isNaN_ofBits_double]
  cases written with
  | finite negative number =>
      have hle : number.toBits .double ≤ 2047 * 2 ^ 52 := number.toBits_le .double
      cases negative <;> simp [Written.toBits, Written.isUndefined] <;> omega
  | infinite negative => cases negative <;> decide
  | undefined negative => cases negative <;> decide

theorem Written.isNaN_single (written : Written) :
    (Float32.ofBits (UInt32.ofNat (written.toBits .single (Nat.pow 2 31) (Nat.pow 2 22)))).isNaN =
      written.isUndefined := by
  rw [Bool.eq_iff_iff, isNaN_ofBits_single]
  cases written with
  | finite negative number =>
      have hle : number.toBits .single ≤ 255 * 2 ^ 23 := number.toBits_le .single
      cases negative <;> simp [Written.toBits, Written.isUndefined] <;> omega
  | infinite negative => cases negative <;> decide
  | undefined negative => cases negative <;> decide

/-- The word for the undefined value in either case, with or without a sign, and with blanks around
it. -/
def SpellsUndefined (text : String) : Prop :=
  String.ofList ((takeSign (Text.trim text.toList)).2.map Char.toLower) = "nan"

instance (text : String) : Decidable (SpellsUndefined text) :=
  inferInstanceAs (Decidable (_ = _))

theorem isUndefined_of_readWritten {cs : List Char} {written : Written}
    (h : readWritten cs = some written) :
    written.isUndefined = true ↔ String.ofList ((takeSign cs).2.map Char.toLower) = "nan" := by
  unfold readWritten at h
  dsimp only at h
  split at h
  · next hword =>
      obtain rfl := Option.some.inj h
      rcases hword with hword | hword <;> simp [hword, Written.isUndefined]
  · split at h
    · next hword =>
        obtain rfl := Option.some.inj h
        simp [hword, Written.isUndefined]
    · next hword =>
        obtain ⟨number, -, rfl⟩ := Option.map_eq_some_iff.1 h
        simp [hword, Written.isUndefined]

theorem isNaN_of_readDouble {text : String} {value : Float}
    (h : readDouble (Text.trim text.toList) = some value) :
    value.isNaN = true ↔ SpellsUndefined text := by
  obtain ⟨written, hwritten, rfl⟩ := Option.map_eq_some_iff.1 h
  rw [written.isNaN_double, isUndefined_of_readWritten hwritten, SpellsUndefined]

theorem isNaN_of_readSingle {text : String} {value : Float32}
    (h : readSingle (Text.trim text.toList) = some value) :
    value.isNaN = true ↔ SpellsUndefined text := by
  obtain ⟨written, hwritten, rfl⟩ := Option.map_eq_some_iff.1 h
  rw [written.isNaN_single, isUndefined_of_readWritten hwritten, SpellsUndefined]

end HistEdit.Number
