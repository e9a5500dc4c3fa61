import HistEdit.Number.Read

/-!
Whole numbers in decimal text. Every number of a range is read back from its text.
-/

namespace HistEdit.Number

theorem digitsValue_toDigits (n : Nat) : digitsValue (Nat.toDigits 10 n) = n :=
  Nat.ofDigitChars_ten_toDigits

theorem all_isDigit_toDigits (n : Nat) : (Nat.toDigits 10 n).all Char.isDigit = true := by
  rw [List.all_eq_true]
  intro c hc
  exact Nat.isDigit_of_mem_toDigits (by decide) (by decide) hc

theorem takeSign_toDigits (n : Nat) :
    takeSign (Nat.toDigits 10 n) = (false, Nat.toDigits 10 n) := by
  have hall := all_isDigit_toDigits n
  cases hdigits : Nat.toDigits 10 n with
  | nil => exact absurd hdigits Nat.toDigits_ne_nil
  | cons c cs =>
      rw [hdigits, List.all_cons, Bool.and_eq_true] at hall
      unfold takeSign
      split
      · rename_i heq
        rw [List.cons.injEq] at heq
        rw [heq.1] at hall
        exact absurd hall.1 (by decide)
      · rename_i heq
        rw [List.cons.injEq] at heq
        rw [heq.1] at hall
        exact absurd hall.1 (by decide)
      · rfl

theorem toString_nonneg (n : Nat) : (toString (n : Int)).toList = Nat.toDigits 10 n := by
  rw [Int.toString_eq_repr, Int.repr_eq_if, if_pos (by omega), Int.toNat_natCast, Nat.toList_repr]

theorem toString_neg {n : Nat} (h : 0 < n) :
    (toString (-(n : Int))).toList = '-' :: Nat.toDigits 10 n := by
  rw [Int.toString_eq_repr, Int.repr_eq_if, if_neg (by omega), Int.neg_neg, Int.toNat_natCast,
    String.toList_append, Nat.toList_repr]
  rfl

theorem toString_int_ne_empty (i : Int) : toString i ≠ "" := by
  have hne (n : Nat) : Nat.toDigits 10 n ≠ [] := Nat.toDigits_ne_nil
  intro hempty
  have hnil : (toString i).toList = [] := by rw [hempty, String.toList_empty]
  rcases Int.lt_or_le i 0 with hi | hi
  · obtain ⟨n, rfl⟩ : ∃ n : Nat, i = -(n : Int) := ⟨i.natAbs, by omega⟩
    rw [toString_neg (by omega)] at hnil
    cases hnil
  · obtain ⟨n, rfl⟩ : ∃ n : Nat, i = (n : Int) := ⟨i.natAbs, by omega⟩
    rw [toString_nonneg] at hnil
    exact hne n hnil

/-- The text of a number holds digits and perhaps a minus sign. -/
theorem isDigit_of_mem_toString {i : Int} {c : Char} (h : c ∈ (toString i).toList) :
    c = '-' ∨ c.isDigit = true := by
  rcases Int.lt_or_le i 0 with hi | hi
  · obtain ⟨n, rfl⟩ : ∃ n : Nat, i = -(n : Int) := ⟨i.natAbs, by omega⟩
    rw [toString_neg (by omega), List.mem_cons] at h
    exact h.imp_right (List.all_eq_true.1 (all_isDigit_toDigits n) c)
  · obtain ⟨n, rfl⟩ : ∃ n : Nat, i = (n : Int) := ⟨i.natAbs, by omega⟩
    rw [toString_nonneg] at h
    exact .inr (List.all_eq_true.1 (all_isDigit_toDigits n) c h)

/-- A number within a range that has negative numbers is read back from its text. -/
theorem readWhole_toString {least most i : Int} (hneg : least < 0) (hleast : least ≤ i)
    (hmost : i ≤ most) : readWhole least most (toString i).toList = some i := by
  have hne (n : Nat) : (Nat.toDigits 10 n).isEmpty = false := by
    rw [List.isEmpty_eq_false_iff]
    exact Nat.toDigits_ne_nil
  rcases Int.lt_or_le i 0 with hi | hi
  · obtain ⟨n, rfl⟩ : ∃ n : Nat, i = -(n : Int) := ⟨i.natAbs, by omega⟩
    have hzero : (least == 0) = false := by
      rw [beq_eq_false_iff_ne]
      omega
    rw [toString_neg (by omega)]
    simp [readWhole, takeSign, hne, all_isDigit_toDigits, hzero, digitsValue_toDigits, hleast,
      hmost]
  · obtain ⟨n, rfl⟩ : ∃ n : Nat, i = (n : Int) := ⟨i.natAbs, by omega⟩
    rw [toString_nonneg]
    simp [readWhole, takeSign_toDigits, hne, all_isDigit_toDigits, digitsValue_toDigits, hleast,
      hmost]

end HistEdit.Number
