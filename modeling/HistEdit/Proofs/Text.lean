import HistEdit.Text.Space
import Mathlib.Data.List.DropRight
import Mathlib.Data.List.TakeWhile

/-!
Cutting texts at a character that ends a run, at their last character that counts, and at the
first occurrence of a character.
-/

namespace HistEdit.Text

variable {p : Char → Bool} {c d : Char} {cs before after : List Char}

theorem takeWhile_append_stop (hc : p c = false) (as bs : List Char) :
    (as ++ c :: bs).takeWhile p = as.takeWhile p := by
  induction as with
  | nil => simp [hc]
  | cons a as ih =>
      by_cases ha : p a = true
      · simp [List.takeWhile_cons_of_pos, ha, ih]
      · simp [ha]

theorem dropWhile_append_stop (hc : p c = false) (as bs : List Char) :
    (as ++ c :: bs).dropWhile p = as.dropWhile p ++ c :: bs := by
  induction as with
  | nil => simp [hc]
  | cons a as ih =>
      by_cases ha : p a = true
      · simp [List.dropWhile_cons_of_pos, ha, ih]
      · simp [ha]

/-- The run at the beginning of a text, where what follows it does not go on. -/
theorem takeWhile_run {run rest : List Char} (hrun : ∀ c ∈ run, p c = true)
    (hrest : ∀ c ∈ rest.head?, p c = false) : (run ++ rest).takeWhile p = run := by
  rw [List.takeWhile_append_of_pos hrun]
  cases rest with
  | nil => simp
  | cons c rest =>
      have hc : p c = false := hrest c (by simp)
      simp [hc]

theorem dropWhile_run {run rest : List Char} (hrun : ∀ c ∈ run, p c = true)
    (hrest : ∀ c ∈ rest.head?, p c = false) : (run ++ rest).dropWhile p = rest := by
  rw [List.dropWhile_append_of_pos hrun]
  cases rest with
  | nil => rfl
  | cons c rest =>
      have hc : p c = false := hrest c (by simp)
      simp [hc]

theorem trimEndWhere_eq_rdropWhile (p : Char → Bool) (cs : List Char) :
    trimEndWhere p cs = cs.rdropWhile p := rfl

theorem trimEnd_eq_trimEndWhere (cs : List Char) : trimEnd cs = trimEndWhere isSpace cs := rfl

theorem exists_trimEndWhere_append (p : Char → Bool) (cs : List Char) :
    ∃ cut, (∀ c ∈ cut, p c = true) ∧ cs = trimEndWhere p cs ++ cut := by
  refine ⟨cs.rtakeWhile p, fun c hc => List.mem_rtakeWhile_imp hc, ?_⟩
  exact (List.rdropWhile_append_rtakeWhile).symm

theorem trimEndWhere_append_of_all {cut : List Char} (h : ∀ c ∈ cut, p c = true)
    (cs : List Char) : trimEndWhere p (cs ++ cut) = trimEndWhere p cs := by
  induction cut using List.reverseRecOn with
  | nil => simp
  | append_singleton cut c ih =>
      have hc : p c = true := h c (by simp)
      have hcut : ∀ a ∈ cut, p a = true := fun a ha => h a (by simp [ha])
      rw [← List.append_assoc, trimEndWhere_eq_rdropWhile, List.rdropWhile_concat_pos _ _ _ hc]
      exact ih hcut

theorem trimEndWhere_eq_self (h : ∀ c ∈ cs.getLast?, p c = false) : trimEndWhere p cs = cs := by
  rw [trimEndWhere_eq_rdropWhile, List.rdropWhile_eq_self_iff]
  intro hne
  rw [h _ (List.getLast?_eq_getLast_of_ne_nil hne)]
  simp

theorem getLast?_trimEndWhere (p : Char → Bool) (cs : List Char) :
    ∀ c ∈ (trimEndWhere p cs).getLast?, p c = false := by
  intro c hc
  have hne : cs.rdropWhile p ≠ [] := by
    intro hnil
    rw [trimEndWhere_eq_rdropWhile, hnil] at hc
    simp at hc
  have hlast := List.rdropWhile_last_not p cs hne
  rw [trimEndWhere_eq_rdropWhile, List.getLast?_eq_getLast_of_ne_nil hne,
    Option.mem_some_iff] at hc
  rw [← hc]
  simpa using hlast

theorem splitOnce_eq_some_iff :
    splitOnce d cs = some (before, after) ↔ cs = before ++ d :: after ∧ d ∉ before := by
  induction cs generalizing before with
  | nil => simp [splitOnce]
  | cons c cs ih =>
      unfold splitOnce
      by_cases hc : c = d
      · subst hc
        cases before with
        | nil => simp
        | cons b before =>
            simp only [if_pos, Option.some.injEq, Prod.mk.injEq, reduceCtorEq, false_and,
              List.cons_append, List.cons.injEq, List.mem_cons, false_iff]
            rintro ⟨⟨rfl, -⟩, hnot⟩
            exact hnot (.inl rfl)
      · cases before with
        | nil => simp [hc]
        | cons b before =>
            simp only [if_neg hc, Option.map_eq_some_iff, Prod.exists, Prod.mk.injEq,
              List.cons_append, List.cons.injEq, List.mem_cons, not_or]
            constructor
            · rintro ⟨head, tail, hsplit, ⟨rfl, rfl⟩, rfl⟩
              obtain ⟨hcut, hnot⟩ := ih.1 hsplit
              exact ⟨⟨rfl, hcut⟩, fun h => hc h.symm, hnot⟩
            · rintro ⟨⟨rfl, hcut⟩, -, hnot⟩
              exact ⟨before, after, ih.2 ⟨hcut, hnot⟩, ⟨rfl, rfl⟩, rfl⟩

end HistEdit.Text
