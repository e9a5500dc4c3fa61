import HistEdit.Proofs.Scan
import Mathlib.Data.List.Infix

/-!
Writing a text as the substitution of a clause and reading it back. Before every mark goes a
backslash; reading takes these backslashes away and makes `$&` the whole match. The texts that
come back unchanged are exactly those that reading can give.
-/

namespace HistEdit.Clause

/-- A text with a backslash before every mark. -/
def escape (mark : Char) (cs : List Char) : List Char :=
  cs.flatMap fun c => if c = mark then ['\\', c] else [c]

/-- A text that a substitution between two marks can stand for: nothing in it ends the expression,
opens a block or is rewritten, and the backslashes before its marks and at its end come in pairs. -/
structure Storable (mark : Char) (cs : List Char) : Prop where
  noSeparator : ∀ c ∈ cs, isSeparator c = false
  noWholeMatch : ¬['$', '&'] <:+: cs
  noBlock : (cs.dropWhile isBlank).head? ≠ some '\x7b'
  evenBefore : ∀ before after, cs = before ++ mark :: after → Even (backslashes before)
  evenAtEnd : Even (backslashes cs)

theorem marksAre_false_iff (mark : Char) (cs : List Char) :
    MarksAre false mark false cs ↔
      ∀ before after, cs = before ++ mark :: after → Even (backslashes before) := by
  simp only [MarksAre, escapedAfter_iff_even]

/-- A text that can be written as a substitution between two marks, whether or not it is read back
as it was. -/
structure Writable (mark : Char) (cs : List Char) : Prop where
  noSeparator : ∀ c ∈ cs, isSeparator c = false
  noBlock : (cs.dropWhile isBlank).head? ≠ some '\x7b'
  evenBefore : ∀ before after, cs = before ++ mark :: after → Even (backslashes before)
  evenAtEnd : Even (backslashes cs)

theorem writable_iff (mark : Char) (cs : List Char) :
    Writable mark cs ↔
      (∀ c ∈ cs, isSeparator c = false) ∧ (cs.dropWhile isBlank).head? ≠ some '\x7b' ∧
        MarksAre false mark false cs ∧ Even (backslashes cs) := by
  rw [marksAre_false_iff]
  constructor
  · intro h
    exact ⟨h.noSeparator, h.noBlock, h.evenBefore, h.evenAtEnd⟩
  · rintro ⟨hseparator, hblock, hbefore, hend⟩
    exact ⟨hseparator, hblock, hbefore, hend⟩

theorem storable_iff_writable (mark : Char) (cs : List Char) :
    Storable mark cs ↔ Writable mark cs ∧ ¬['$', '&'] <:+: cs := by
  constructor
  · intro h
    exact ⟨⟨h.noSeparator, h.noBlock, h.evenBefore, h.evenAtEnd⟩, h.noWholeMatch⟩
  · rintro ⟨h, hwhole⟩
    exact ⟨h.noSeparator, hwhole, h.noBlock, h.evenBefore, h.evenAtEnd⟩

theorem Storable.writable {mark : Char} {cs : List Char} (h : Storable mark cs) :
    Writable mark cs :=
  ((storable_iff_writable mark cs).1 h).1

instance (mark : Char) (cs : List Char) : Decidable (Writable mark cs) :=
  have := List.decidableBAll (fun c => isSeparator c = false) cs
  decidable_of_iff _ (writable_iff mark cs).symm

instance (mark : Char) (cs : List Char) : Decidable (Storable mark cs) :=
  decidable_of_iff _ (storable_iff_writable mark cs).symm

section

variable {mark : Char}

@[simp] theorem escape_nil : escape mark [] = [] := rfl

theorem escape_cons (c : Char) (cs : List Char) :
    escape mark (c :: cs) = (if c = mark then ['\\', c] else [c]) ++ escape mark cs := rfl

theorem escape_of_not_mem {cs : List Char} (h : mark ∉ cs) : escape mark cs = cs := by
  induction cs with
  | nil => rfl
  | cons c cs ih =>
      simp only [List.mem_cons, not_or] at h
      have hc : ¬c = mark := fun heq => h.1 heq.symm
      simp [escape_cons, hc, ih h.2]

theorem mem_escape {c : Char} {cs : List Char} (h : c ∈ escape mark cs) : c = '\\' ∨ c ∈ cs := by
  simp only [escape, List.mem_flatMap] at h
  obtain ⟨a, ha, hc⟩ := h
  split at hc
  · simp only [List.mem_cons, List.not_mem_nil, or_false] at hc
    rcases hc with rfl | rfl
    · exact .inl rfl
    · exact .inr ha
  · simp only [List.mem_cons, List.not_mem_nil, or_false] at hc
    exact .inr (hc ▸ ha)

theorem escapedAfter_escape (hmark : mark ≠ '\\') (escaped : Bool) (cs : List Char) :
    escapedAfter escaped (escape mark cs) = escapedAfter escaped cs := by
  induction cs generalizing escaped with
  | nil => rfl
  | cons c cs ih =>
      by_cases hc : c = mark
      · simp [escape_cons, hc, hmark, ih]
      · simp [escape_cons, hc, ih]

theorem escape_noBlock {cs : List Char}
    (h : (cs.dropWhile isBlank).head? ≠ some '\x7b') :
    ((escape mark cs).dropWhile isBlank).head? ≠ some '\x7b' := by
  induction cs with
  | nil => simp
  | cons c cs ih =>
      by_cases hc : c = mark
      · have hblank : isBlank '\\' = false := by decide
        simp [escape_cons, hc, hblank]
      · by_cases hskip : isBlank c = true
        · have hrest := ih (by simpa [List.dropWhile_cons_of_pos, hskip] using h)
          simpa [escape_cons, hc, hskip] using hrest
        · have hne : c ≠ '\x7b' := by simpa [List.dropWhile_cons_of_neg, hskip] using h
          simpa [escape_cons, hc, hskip] using hne

/-- Where no mark is escaped, escaping reaches every one. -/
theorem marksAre_escape (hmark : mark ≠ '\\') {escaped : Bool} {cs : List Char}
    (h : MarksAre false mark escaped cs) : MarksAre true mark escaped (escape mark cs) := by
  induction cs generalizing escaped with
  | nil => exact marksAre_nil true mark escaped
  | cons c cs ih =>
      rw [marksAre_cons] at h
      by_cases hc : c = mark
      · have hstate : escaped = false := h.1 hc
        have hrest : MarksAre true mark false (escape mark cs) :=
          ih (by simpa [hc, hmark] using h.2)
        have hback : '\\' ≠ mark := fun heq => hmark heq.symm
        simp [escape_cons, hc, marksAre_cons, hmark, hback, hstate, hrest]
      · simpa [escape_cons, hc, marksAre_cons] using ih h.2

theorem unescape_mark (cs : List Char) :
    unescape mark ('\\' :: mark :: cs) = mark :: unescape mark cs := by
  simp [unescape]

/-- A character that begins neither an escaped mark nor `$&` stays. -/
theorem unescape_cons {c : Char} {cs : List Char} (hslash : c = '\\' → cs.head? ≠ some mark)
    (hdollar : c = '$' → cs.head? ≠ some '&') :
    unescape mark (c :: cs) = c :: unescape mark cs := by
  cases cs with
  | nil => simp [unescape]
  | cons d cs =>
      have hnotMark : ¬(c = '\\' ∧ d = mark) := by
        rintro ⟨hc, rfl⟩
        exact hslash hc rfl
      have hnotWhole : ¬(c = '$' ∧ d = '&') := by
        rintro ⟨hc, rfl⟩
        exact hdollar hc rfl
      simp [unescape, hnotMark, hnotWhole]

theorem head?_escape_ne_mark (hmark : mark ≠ '\\') (cs : List Char) :
    (escape mark cs).head? ≠ some mark := by
  cases cs with
  | nil => simp
  | cons c cs =>
      by_cases hc : c = mark
      · have hback : '\\' ≠ mark := fun heq => hmark heq.symm
        simp [escape_cons, hc, hback]
      · simp [escape_cons, hc]

/-- A text with every `$&` spelled as the group that is the whole match. -/
def spellWhole : List Char → List Char
  | [] => []
  | [c] => [c]
  | c :: d :: cs =>
    if c = '$' ∧ d = '&' then ['$', '\x7b', '0', '\x7d'] ++ spellWhole cs
    else c :: spellWhole (d :: cs)

theorem length_le_spellWhole (cs : List Char) : cs.length ≤ (spellWhole cs).length := by
  fun_induction spellWhole cs with
  | case1 => exact Nat.le_refl _
  | case2 c => exact Nat.le_refl _
  | case3 c d cs _ ih => simp only [List.length_cons, List.length_append, List.length_nil]; omega
  | case4 c d cs _ ih => simp only [List.length_cons] at ih ⊢; omega

/-- Spelling changes exactly the texts that hold `$&`, and makes them longer. -/
theorem spellWhole_eq_self_iff {cs : List Char} : spellWhole cs = cs ↔ ¬['$', '&'] <:+: cs := by
  fun_induction spellWhole cs with
  | case1 => simp
  | case2 c => simp [List.infix_cons_iff]
  | case3 c d cs hwhole ih =>
      have hlonger := length_le_spellWhole cs
      constructor
      · intro heq
        have hlength := congrArg List.length heq
        simp only [List.length_cons, List.length_append, List.length_nil] at hlength
        omega
      · intro hnone
        exact absurd ⟨[], cs, by simp [hwhole]⟩ hnone
  | case4 c d cs hwhole ih =>
      have hstart : ¬['$', '&'] <+: c :: d :: cs := by
        rintro ⟨rest, hrest⟩
        simp only [List.cons_append, List.cons.injEq] at hrest
        exact hwhole ⟨hrest.1.symm, hrest.2.1.symm⟩
      rw [List.infix_cons_iff, not_or, ← ih]
      simp [hstart]

/-- Reading takes exactly the written backslashes away, and spells `$&`. -/
theorem unescape_escape_eq_spellWhole (hmark : isDelimiter mark = true) (cs : List Char) :
    unescape mark (escape mark cs) = spellWhole cs := by
  have hslash := isDelimiter_ne_backslash hmark
  have hsplit {c : Char} (hc : ¬c = mark) (cs : List Char) :
      escape mark (c :: cs) = c :: escape mark cs := by
    simp [escape_cons, hc]
  have hstrip (cs : List Char) :
      unescape mark (escape mark (mark :: cs)) = mark :: unescape mark (escape mark cs) := by
    rw [← unescape_mark]
    simp [escape_cons]
  fun_induction spellWhole cs with
  | case1 => rfl
  | case2 c =>
      by_cases hc : c = mark
      · subst hc
        exact hstrip []
      · simp [hsplit hc, unescape]
  | case3 c d cs hwhole ih =>
      obtain ⟨rfl, rfl⟩ := hwhole
      have hdollar : '$' ≠ mark := by
        rcases isDelimiter_cases hmark with rfl | rfl | rfl | rfl <;> decide
      have hand : '&' ≠ mark := by
        rcases isDelimiter_cases hmark with rfl | rfl | rfl | rfl <;> decide
      simp [hsplit hdollar, hsplit hand, unescape, ih]
  | case4 c d cs hwhole ih =>
      by_cases hc : c = mark
      · rw [hc, hstrip, ih]
      · rw [hsplit hc, unescape_cons, ih]
        · intro _
          exact head?_escape_ne_mark hslash (d :: cs)
        · rintro rfl hhead
          apply hwhole
          refine ⟨rfl, ?_⟩
          by_cases hdm : d = mark
          · simp [escape_cons, hdm] at hhead
          · simpa [escape_cons, hdm] using hhead

theorem unescape_escape (hmark : isDelimiter mark = true) {cs : List Char}
    (h : ¬['$', '&'] <:+: cs) : unescape mark (escape mark cs) = cs := by
  rw [unescape_escape_eq_spellWhole hmark, spellWhole_eq_self_iff.2 h]

theorem mem_unescape {c : Char} {cs : List Char} (h : c ∈ unescape mark cs) :
    c ∈ cs ∨ c = '\x7b' ∨ c = '0' ∨ c = '\x7d' := by
  fun_induction unescape mark cs with
  | case1 => simp at h
  | case2 => exact .inl h
  | case3 a d cs hmark ih =>
      rcases List.mem_cons.1 h with hc | hrest
      · exact .inl (by simp [hc, hmark.2])
      · rcases ih hrest with hmem | hother
        · exact .inl (by simp [hmem])
        · exact .inr hother
  | case4 a d cs _ hwhole ih =>
      rcases List.mem_append.1 h with hc | hrest
      · simp only [List.mem_cons, List.not_mem_nil, or_false] at hc
        rcases hc with hc | hother
        · exact .inl (by simp [hc, hwhole.1])
        · exact .inr hother
      · rcases ih hrest with hmem | hother
        · exact .inl (by simp [hmem])
        · exact .inr hother
  | case5 a d cs _ _ ih =>
      rcases List.mem_cons.1 h with hc | hrest
      · exact .inl (by simp [hc])
      · rcases ih hrest with hmem | hother
        · exact .inl (List.mem_cons_of_mem a hmem)
        · exact .inr hother

/-- What is read begins with what was written, unless that is an escaped mark. -/
theorem head?_unescape (mark c : Char) (cs : List Char) :
    (unescape mark (c :: cs)).head? = some c ∨
      c = '\\' ∧ (unescape mark (c :: cs)).head? = some mark := by
  cases cs with
  | nil => simp [unescape]
  | cons d cs =>
      by_cases hmark : c = '\\' ∧ d = mark
      · exact .inr ⟨hmark.1, by simp [unescape, hmark]⟩
      · by_cases hwhole : c = '$' ∧ d = '&'
        · exact .inl (by simp [unescape, hwhole])
        · exact .inl (by simp [unescape, hmark, hwhole])

theorem mem_head?_unescape {c : Char} {cs : List Char} (h : c ∈ (unescape mark cs).head?) :
    c ∈ cs.head? ∨ c = mark := by
  cases cs with
  | nil => simp [unescape] at h
  | cons d cs =>
      rcases head?_unescape mark d cs with hhead | ⟨-, hhead⟩
      · exact .inl (by rwa [hhead] at h)
      · exact .inr (by simpa [hhead, eq_comm] using h)

/-- Nothing is rewritten before a character that ends neither an escaped mark nor `$&`. -/
theorem unescape_append_cons {d : Char} (hmark : d ≠ mark) (hand : d ≠ '&') (as bs : List Char) :
    unescape mark (as ++ d :: bs) = unescape mark as ++ unescape mark (d :: bs) := by
  fun_induction unescape mark as with
  | case1 => rfl
  | case2 c =>
      rw [List.cons_append, List.nil_append, unescape_cons] <;> simp [hmark, hand]
  | case3 c e cs hescaped ih => simp [unescape, hescaped, ih]
  | case4 c e cs hescaped hwhole ih => simp [unescape, hwhole, ih]
  | case5 c e cs hescaped hwhole ih => simpa [unescape, hescaped, hwhole] using ih

/-- A run without backslashes and dollar signs stays. -/
theorem unescape_append_of_plain {run : List Char} (hrun : ∀ c ∈ run, c ≠ '\\' ∧ c ≠ '$')
    (rest : List Char) : unescape mark (run ++ rest) = run ++ unescape mark rest := by
  induction run with
  | nil => rfl
  | cons c run ih =>
      obtain ⟨⟨hslash, hdollar⟩, hrun⟩ := List.forall_mem_cons.mp hrun
      rw [List.cons_append, unescape_cons (absurd · hslash) (absurd · hdollar), ih hrun]
      rfl

theorem mem_of_mem_unescape {c : Char} {cs : List Char} (hwhole : ¬['$', '&'] <:+: cs)
    (h : c ∈ unescape mark cs) : c ∈ cs := by
  fun_induction unescape mark cs with
  | case1 => exact h
  | case2 => exact h
  | case3 d e cs hescaped ih =>
      rw [List.infix_cons_iff, List.infix_cons_iff, not_or, not_or] at hwhole
      rcases List.mem_cons.1 h with hc | hrest
      · simp [hc, hescaped.2]
      · exact List.mem_cons_of_mem d (List.mem_cons_of_mem e (ih hwhole.2.2 hrest))
  | case4 d e cs _ heq _ => exact absurd ⟨[], cs, by simp [heq]⟩ hwhole
  | case5 d e cs _ _ ih =>
      rw [List.infix_cons_iff, not_or] at hwhole
      rcases List.mem_cons.1 h with hc | hrest
      · simp [hc]
      · exact List.mem_cons_of_mem d (ih hwhole.2 hrest)

/-- No mark is lost. -/
theorem mark_mem_unescape (hmark : isDelimiter mark = true) {cs : List Char} (h : mark ∈ cs) :
    mark ∈ unescape mark cs := by
  fun_induction unescape mark cs with
  | case1 => exact h
  | case2 => exact h
  | case3 => exact List.mem_cons_self
  | case4 c d cs _ hwhole ih =>
      obtain ⟨rfl, rfl⟩ := hwhole
      have hne : mark ≠ '$' ∧ mark ≠ '&' := by
        rcases isDelimiter_cases hmark with rfl | rfl | rfl | rfl <;> decide
      have hrest : mark ∈ cs := by simpa [hne] using h
      exact List.mem_append_right _ (ih hrest)
  | case5 c d cs _ _ ih =>
      rcases List.mem_cons.1 h with rfl | hrest
      · exact List.mem_cons_self
      · exact List.mem_cons_of_mem c (ih hrest)

/-- A text without escaped marks and `$&` is read as it stands. -/
theorem unescape_eq_self {cs : List Char} (hescaped : ¬['\\', mark] <:+: cs)
    (hwhole : ¬['$', '&'] <:+: cs) : unescape mark cs = cs := by
  fun_induction unescape mark cs with
  | case1 => rfl
  | case2 => rfl
  | case3 c d cs heq _ => exact absurd ⟨[], cs, by simp [heq]⟩ hescaped
  | case4 c d cs _ heq _ => exact absurd ⟨[], cs, by simp [heq]⟩ hwhole
  | case5 c d cs _ _ ih =>
      rw [List.infix_cons_iff, not_or] at hescaped hwhole
      rw [ih hescaped.2 hwhole.2]

theorem unescape_noWholeMatch (hmark : isDelimiter mark = true) (cs : List Char) :
    ¬['$', '&'] <:+: unescape mark cs := by
  have hdollar : mark ≠ '$' := by
    rcases isDelimiter_cases hmark with rfl | rfl | rfl | rfl <;> decide
  have hand : mark ≠ '&' := by
    rcases isDelimiter_cases hmark with rfl | rfl | rfl | rfl <;> decide
  fun_induction unescape mark cs with
  | case1 => simp
  | case2 c => simp [List.infix_cons_iff]
  | case3 c d cs _ ih => simp [List.infix_cons_iff, ih, hdollar.symm]
  | case4 c d cs _ _ ih => simp [List.infix_cons_iff, ih]
  | case5 c d cs _ hwhole ih =>
      rw [List.infix_cons_iff, not_or]
      refine ⟨?_, ih⟩
      rintro ⟨rest, hgrows⟩
      simp only [List.cons_append, List.nil_append, List.cons.injEq] at hgrows
      obtain ⟨hc, hrest⟩ := hgrows
      have hhead : (unescape mark (d :: cs)).head? = some '&' := by simp [← hrest]
      rcases head?_unescape mark d cs with hd | ⟨-, hd⟩
      · rw [hd, Option.some.injEq] at hhead
        exact hwhole ⟨hc.symm, hhead⟩
      · rw [hd, Option.some.injEq] at hhead
        exact hand hhead

theorem unescape_noBlock (hmark : isDelimiter mark = true) {cs : List Char}
    (h : (cs.dropWhile isBlank).head? ≠ some '\x7b') :
    ((unescape mark cs).dropWhile isBlank).head? ≠ some '\x7b' := by
  obtain ⟨hblank, -, -, hbrace⟩ := isDelimiter_not_other hmark
  induction cs with
  | nil => simp [unescape]
  | cons c cs ih =>
      by_cases hc : isBlank c = true
      · have hstay : unescape mark (c :: cs) = c :: unescape mark cs := by
          apply unescape_cons
          · rintro rfl
            exact absurd hc (by decide)
          · rintro rfl
            exact absurd hc (by decide)
        rw [hstay, List.dropWhile_cons_of_pos hc]
        exact ih (by simpa [List.dropWhile_cons_of_pos, hc] using h)
      · have hne : c ≠ '\x7b' := by simpa [List.dropWhile_cons_of_neg, hc] using h
        cases htext : unescape mark (c :: cs) with
        | nil => simp
        | cons a rest =>
            rcases head?_unescape mark c cs with hhead | ⟨-, hhead⟩
            · rw [htext, List.head?_cons, Option.some.injEq] at hhead
              subst hhead
              simpa [List.dropWhile_cons_of_neg, hc] using hne
            · rw [htext, List.head?_cons, Option.some.injEq] at hhead
              subst hhead
              simpa [hblank] using hbrace

theorem escapedAfter_unescape (hmark : isDelimiter mark = true) (escaped : Bool)
    (cs : List Char) : escapedAfter escaped (unescape mark cs) = escapedAfter escaped cs := by
  have hslash := isDelimiter_ne_backslash hmark
  fun_induction unescape mark cs generalizing escaped with
  | case1 => rfl
  | case2 => rfl
  | case3 c d cs hesc ih => simp [hesc, hslash, ih]
  | case4 c d cs _ hwhole ih => simp [hwhole, ih]
  | case5 c d cs _ _ ih => simp only [escapedAfter_cons, ih]

/-- Where every mark is escaped, reading leaves pairs of backslashes before the marks. The text may
begin with a mark only where none is escaped: the scan takes a mark together with the backslash
that escapes it. -/
theorem marksAre_unescape (hmark : isDelimiter mark = true) {escaped : Bool} {cs : List Char}
    (hhead : cs.head? = some mark → escaped = false) (h : MarksAre true mark escaped cs) :
    MarksAre false mark escaped (unescape mark cs) := by
  have hslash := isDelimiter_ne_backslash hmark
  have hback : '\\' ≠ mark := fun heq => hslash heq.symm
  fun_induction unescape mark cs generalizing escaped with
  | case1 => exact marksAre_nil false mark escaped
  | case2 c =>
      rw [marksAre_cons] at h ⊢
      exact ⟨fun hc => hhead (by simp [hc]), marksAre_nil false mark _⟩
  | case3 c d cs hesc ih =>
      obtain ⟨rfl, rfl⟩ := hesc
      simp only [marksAre_cons, if_true, hback, hslash, if_false, false_implies, true_and,
        true_implies] at h ⊢
      refine ⟨by simpa using h.1, ih (fun _ => rfl) h.2⟩
  | case4 c d cs _ hwhole ih =>
      obtain ⟨rfl, rfl⟩ := hwhole
      have hne : ∀ c ∈ ['$', '&', '\x7b', '0', '\x7d'], ¬c = mark := by
        rcases isDelimiter_cases hmark with rfl | rfl | rfl | rfl <;> simp
      simp only [List.forall_mem_cons] at hne
      have hrest : MarksAre true mark false cs := by
        simpa [marksAre_cons, hne.1, hne.2.1] using h
      simp [marksAre_cons, hne, ih (fun _ => rfl) hrest]
  | case5 c d cs hesc _ ih =>
      rw [marksAre_cons] at h ⊢
      refine ⟨fun hc => hhead (by simp [hc]), ih ?_ h.2⟩
      intro hd
      rw [List.head?_cons, Option.some.injEq] at hd
      have hc : ¬c = '\\' := fun hc => hesc ⟨hc, hd⟩
      simp [hc]

/-- The substitution that a clause is read as can always be written again. -/
theorem storable_unescape (hmark : isDelimiter mark = true) {cs : List Char}
    (hmasked : Masked mark cs) (heven : Even (backslashes cs))
    (hfree : ∀ c ∈ cs, isSeparator c = false)
    (hopen : (cs.dropWhile isBlank).head? ≠ some '\x7b') : Storable mark (unescape mark cs) where
  noSeparator := by
    intro c hc
    rcases mem_unescape hc with hmem | rfl | rfl | rfl
    · exact hfree c hmem
    · decide
    · decide
    · decide
  noWholeMatch := unescape_noWholeMatch hmark cs
  noBlock := unescape_noBlock hmark hopen
  evenBefore := by
    rw [masked_iff_marksAre] at hmasked
    rw [← marksAre_false_iff]
    exact marksAre_unescape hmark (fun _ => rfl) hmasked
  evenAtEnd := by
    rw [← escapedAfter_iff_even] at heven ⊢
    rw [escapedAfter_unescape hmark, heven]

/-- A text that can be written is cut out whole behind the middle mark of a clause. -/
theorem splitSubstitution_escape (hmark : isDelimiter mark = true) {cs : List Char}
    (h : Writable mark cs) (rest : List Char) :
    splitSubstitution mark (escape mark cs ++ mark :: rest) = some (escape mark cs, rest) := by
  have hslash := isDelimiter_ne_backslash hmark
  have hfree : ∀ c ∈ escape mark cs, isSeparator c = false := by
    intro c hc
    rcases mem_escape hc with rfl | hmem
    · decide
    · exact h.noSeparator c hmem
  have hmasked : Masked mark (escape mark cs) := by
    rw [masked_iff_marksAre]
    exact marksAre_escape hslash ((marksAre_false_iff mark cs).2 h.evenBefore)
  have heven : Even (backslashes (escape mark cs)) := by
    rw [← escapedAfter_iff_even, escapedAfter_escape hslash, escapedAfter_iff_even]
    exact h.evenAtEnd
  rw [splitSubstitution_eq_some_iff hmark]
  exact ⟨rfl, hmasked, heven, hfree, escape_noBlock h.noBlock⟩

/-- A text that can be stored with one mark can be stored with any that it does not hold. -/
theorem Storable.of_not_mem {other : Char} {cs : List Char} (h : Storable mark cs)
    (hother : other ∉ cs) : Storable other cs where
  noSeparator := h.noSeparator
  noWholeMatch := h.noWholeMatch
  noBlock := h.noBlock
  evenBefore := fun before after hcut => absurd (by simp [hcut]) hother
  evenAtEnd := h.evenAtEnd

/-- Reading a substitution changes nothing about its braces: `$&` gains a pair of them. -/
theorem depthAfter_unescape (hmark : isDelimiter mark = true) (depth : Nat) (cs : List Char) :
    depthAfter depth (unescape mark cs) = depthAfter depth cs := by
  have hstep (depth : Nat) : depthStep depth mark = some depth := by
    rcases isDelimiter_cases hmark with rfl | rfl | rfl | rfl <;> rfl
  fun_induction unescape mark cs generalizing depth with
  | case1 => rfl
  | case2 => rfl
  | case3 c d cs hesc ih =>
      obtain ⟨rfl, rfl⟩ := hesc
      have hback : depthStep depth '\\' = some depth := rfl
      simp [depthAfter_cons, hstep, hback, ih]
  | case4 c d cs _ hwhole ih =>
      obtain ⟨rfl, rfl⟩ := hwhole
      simp [depthAfter_cons, depthStep, ih]
  | case5 c d cs _ _ ih => simp only [depthAfter_cons, ih]

end

end HistEdit.Clause
