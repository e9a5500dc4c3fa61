import HistEdit.Clause
import HistEdit.Proofs.Text
import Mathlib.Algebra.Ring.Parity
import Mathlib.Data.List.Induction

/-!
What the scans of a clause find, said without the scans. A mark is escaped when an odd number of
backslashes stands directly before it; the cut at a mark takes the first one that is not, and the
cut at a brace takes the first place where every brace opened before it is closed again. From
these descriptions follows what a scan makes of a longer text.
-/

namespace HistEdit.Clause

/-- The number of backslashes that end a text. -/
def backslashes (cs : List Char) : Nat :=
  (cs.reverse.takeWhile (· == '\\')).length

/-- Every mark of a text is escaped. -/
def Masked (mark : Char) (cs : List Char) : Prop :=
  ∀ before after, cs = before ++ mark :: after → Odd (backslashes before)

/-- Whether a mark at the end of a text would be escaped, when `escaped` says so for its
beginning. -/
def escapedAfter (escaped : Bool) (cs : List Char) : Bool :=
  cs.foldl (fun escaped c => if c = '\\' then !escaped else false) escaped

/-- Every mark of a text is escaped when `state` is true, and none is when it is false; `escaped`
says whether a mark at the beginning would be. -/
def MarksAre (state : Bool) (mark : Char) (escaped : Bool) (cs : List Char) : Prop :=
  ∀ before after, cs = before ++ mark :: after → escapedAfter escaped before = state

@[simp] theorem escapedAfter_nil (escaped : Bool) : escapedAfter escaped [] = escaped := rfl

@[simp] theorem escapedAfter_cons (escaped : Bool) (c : Char) (cs : List Char) :
    escapedAfter escaped (c :: cs) =
      escapedAfter (if c = '\\' then !escaped else false) cs := rfl

theorem escapedAfter_append (escaped : Bool) (as bs : List Char) :
    escapedAfter escaped (as ++ bs) = escapedAfter (escapedAfter escaped as) bs := by
  simp [escapedAfter, List.foldl_append]

@[simp] theorem backslashes_nil : backslashes [] = 0 := rfl

theorem backslashes_concat (cs : List Char) (c : Char) :
    backslashes (cs ++ [c]) = if c = '\\' then backslashes cs + 1 else 0 := by
  unfold backslashes
  by_cases hc : c = '\\'
  · simp [hc]
  · simp [hc]

/-- The state that the scan carries is the parity of the backslashes behind it. -/
theorem escapedAfter_iff_odd (cs : List Char) :
    escapedAfter false cs = true ↔ Odd (backslashes cs) := by
  induction cs using List.reverseRecOn with
  | nil => simp
  | append_singleton cs c ih =>
      rw [escapedAfter_append, backslashes_concat]
      by_cases hc : c = '\\'
      · have hflip : escapedAfter false cs = false ↔ ¬Odd (backslashes cs) := by
          rw [← ih, Bool.not_eq_true]
        simp [hc, Nat.odd_add_one, hflip]
      · simp [hc]

theorem escapedAfter_iff_even (cs : List Char) :
    escapedAfter false cs = false ↔ Even (backslashes cs) := by
  rw [← Nat.not_odd_iff_even, ← escapedAfter_iff_odd, Bool.not_eq_true]

theorem masked_iff_marksAre (mark : Char) (cs : List Char) :
    Masked mark cs ↔ MarksAre true mark false cs := by
  simp only [Masked, MarksAre, escapedAfter_iff_odd]

theorem marksAre_nil (state : Bool) (mark : Char) (escaped : Bool) :
    MarksAre state mark escaped [] := by
  intro before after hcut
  simp at hcut

theorem marksAre_cons {state : Bool} {mark c : Char} {escaped : Bool} {cs : List Char} :
    MarksAre state mark escaped (c :: cs) ↔
      (c = mark → escaped = state) ∧
        MarksAre state mark (if c = '\\' then !escaped else false) cs := by
  constructor
  · intro h
    refine ⟨fun hc => h [] cs (by simp [hc]), ?_⟩
    intro before after hcut
    simpa using h (c :: before) after (by simp [hcut])
  · rintro ⟨hhead, htail⟩ before after hcut
    cases before with
    | nil =>
        simp only [List.nil_append, List.cons.injEq] at hcut
        exact hhead hcut.1
    | cons b before =>
        simp only [List.cons_append, List.cons.injEq] at hcut
        obtain ⟨rfl, htext⟩ := hcut
        simpa using htail before after htext

instance decidableMarksAre (state : Bool) (mark : Char) :
    (escaped : Bool) → (cs : List Char) → Decidable (MarksAre state mark escaped cs)
  | escaped, [] => .isTrue (marksAre_nil state mark escaped)
  | escaped, c :: cs =>
    have := decidableMarksAre state mark (if c = '\\' then !escaped else false) cs
    decidable_of_iff _ marksAre_cons.symm

instance (mark : Char) (cs : List Char) : Decidable (Masked mark cs) :=
  decidable_of_iff _ (masked_iff_marksAre mark cs).symm

theorem masked_of_not_mem {mark : Char} {cs : List Char} (h : mark ∉ cs) : Masked mark cs := by
  intro before after hcut
  exact absurd (by simp [hcut]) h

/-- A cut of a text that begins with a kept character is a cut of the text behind it. -/
private theorem map_cons_eq_some_iff {c b : Char} {cut : Option (List Char × List Char)}
    {before after : List Char} :
    cut.map (fun (before, after) => (c :: before, after)) = some (b :: before, after) ↔
      c = b ∧ cut = some (before, after) := by
  simp only [Option.map_eq_some_iff, Prod.exists, Prod.mk.injEq, List.cons.injEq]
  constructor
  · rintro ⟨rest, tail, hrest, ⟨rfl, rfl⟩, rfl⟩
    exact ⟨rfl, hrest⟩
  · rintro ⟨rfl, hrest⟩
    exact ⟨before, after, hrest, ⟨rfl, rfl⟩, rfl⟩

/-- One step of the cut, with backslashes and other characters treated alike. -/
theorem splitUnescaped_cons {mark : Char} (hmark : mark ≠ '\\') (escaped : Bool) (c : Char)
    (cs : List Char) :
    splitUnescaped mark escaped (c :: cs) =
      if c = mark ∧ escaped = false then some ([], cs)
      else (splitUnescaped mark (if c = '\\' then !escaped else false) cs).map
        fun (before, after) => (c :: before, after) := by
  rw [splitUnescaped]
  by_cases hslash : c = '\\'
  · have hne : '\\' ≠ mark := fun hc => hmark hc.symm
    simp [hslash, hne]
  · simp [hslash]

/-- The cut at a mark takes the first one that is not escaped. -/
theorem splitUnescaped_eq_some_iff {mark : Char} (hmark : mark ≠ '\\') {escaped : Bool}
    {cs before after : List Char} :
    splitUnescaped mark escaped cs = some (before, after) ↔
      cs = before ++ mark :: after ∧ MarksAre true mark escaped before ∧
        escapedAfter escaped before = false := by
  induction cs generalizing escaped before with
  | nil => simp [splitUnescaped]
  | cons c cs ih =>
      rw [splitUnescaped_cons hmark]
      cases before with
      | nil =>
          have hskip (next : Option (List Char × List Char)) :
              (next.map fun (before, after) => (c :: before, after)) ≠ some ([], after) := by
            simp
          by_cases hstop : c = mark ∧ escaped = false
          · simp [hstop, marksAre_nil]
          · simp only [if_neg hstop, hskip, List.nil_append, List.cons.injEq, false_iff,
              escapedAfter_nil]
            rintro ⟨⟨hc, -⟩, -, hstate⟩
            exact hstop ⟨hc, hstate⟩
      | cons b before =>
          rw [marksAre_cons]
          by_cases hstop : c = mark ∧ escaped = false
          · simp only [if_pos hstop, Option.some.injEq, Prod.mk.injEq, reduceCtorEq, false_and,
              List.cons_append, List.cons.injEq, false_iff]
            rintro ⟨⟨rfl, -⟩, ⟨hstay, -⟩, -⟩
            have := hstay hstop.1
            simp [hstop.2] at this
          · have hstay : c = mark → escaped = true := by
              intro hc
              by_contra hstate
              exact hstop ⟨hc, by simpa using hstate⟩
            rw [if_neg hstop, map_cons_eq_some_iff, ih]
            simp only [List.cons_append, List.cons.injEq, escapedAfter_cons]
            constructor
            · rintro ⟨rfl, hcut, hmasked, hend⟩
              exact ⟨⟨rfl, hcut⟩, ⟨hstay, hmasked⟩, hend⟩
            · rintro ⟨⟨rfl, hcut⟩, ⟨-, hmasked⟩, hend⟩
              exact ⟨rfl, hcut, hmasked, hend⟩

theorem isDelimiter_cases {c : Char} (h : isDelimiter c = true) :
    c = '/' ∨ c = '|' ∨ c = ':' ∨ c = ',' := by
  simpa [isDelimiter, or_assoc] using h

theorem isSeparator_cases {c : Char} (h : isSeparator c = true) :
    c = ';' ∨ c = '\n' ∨ c = '\r' := by
  simpa [isSeparator, or_assoc] using h

theorem isBlank_cases {c : Char} (h : isBlank c = true) : c = ' ' ∨ c = '\t' := by
  simpa [isBlank] using h

theorem isDelimiter_ne_backslash {c : Char} (h : isDelimiter c = true) : c ≠ '\\' := by
  rcases isDelimiter_cases h with rfl | rfl | rfl | rfl <;> decide

/-- The cut at the first mark that is not escaped, from the beginning of a text. -/
theorem splitUnescaped_start_eq_some_iff {mark : Char} (hmark : isDelimiter mark = true)
    {cs before after : List Char} :
    splitUnescaped mark false cs = some (before, after) ↔
      cs = before ++ mark :: after ∧ Masked mark before ∧ Even (backslashes before) := by
  rw [splitUnescaped_eq_some_iff (isDelimiter_ne_backslash hmark), masked_iff_marksAre,
    escapedAfter_iff_even]

/-- A character that delimits a clause has no other part in the text of an expression. -/
theorem isDelimiter_not_other {c : Char} (h : isDelimiter c = true) :
    isBlank c = false ∧ isSeparator c = false ∧ isRunChar c = false ∧ c ≠ '\x7b' := by
  rcases isDelimiter_cases h with rfl | rfl | rfl | rfl <;> decide

theorem isBlank_not_other {c : Char} (h : isBlank c = true) :
    isDelimiter c = false ∧ isRunChar c = false ∧ Text.isSpace c = true := by
  rcases isBlank_cases h with rfl | rfl <;> decide

theorem isSeparator_not_other {c : Char} (h : isSeparator c = true) :
    isBlank c = false ∧ isDelimiter c = false ∧ isRunChar c = false ∧ c ≠ '\x7b' := by
  rcases isSeparator_cases h with rfl | rfl | rfl <;> decide

theorem isRunChar_not_other {c : Char} (h : isRunChar c = true) :
    isBlank c = false ∧ isDelimiter c = false ∧ isSeparator c = false ∧ c ≠ '\x7b' := by
  simp only [isRunChar, Bool.not_eq_true', Bool.or_eq_false_iff, beq_eq_false_iff_ne] at h
  exact ⟨h.1.2, h.1.1.1, h.1.1.2, h.2⟩

/-- A substitution is the text up to the first mark that is not escaped, unless that text holds a
separator or begins like a block. -/
theorem splitSubstitution_eq_some_iff {mark : Char} (hmark : isDelimiter mark = true)
    {cs template rest : List Char} :
    splitSubstitution mark cs = some (template, rest) ↔
      cs = template ++ mark :: rest ∧ Masked mark template ∧ Even (backslashes template) ∧
        (∀ c ∈ template, isSeparator c = false) ∧
        (template.dropWhile isBlank).head? ≠ some '\x7b' := by
  obtain ⟨hblank, hseparator, -, hbrace⟩ := isDelimiter_not_other hmark
  unfold splitSubstitution
  constructor
  · intro h
    split at h
    · exact absurd h (by simp)
    · rename_i c tail hhead
      split at h
      · exact absurd h (by simp)
      · rename_i hstart
        split at h
        · rename_i found rest' hfound
          split at h
          · exact absurd h (by simp)
          · rename_i hfree
            simp only [Option.some.injEq, Prod.mk.injEq] at h
            obtain ⟨rfl, rfl⟩ := h
            obtain ⟨htext, hmasked, heven⟩ := (splitUnescaped_start_eq_some_iff hmark).1 hfound
            refine ⟨htext, hmasked, heven, by simpa using hfree, ?_⟩
            intro hopen
            rw [htext, Text.dropWhile_append_stop hblank] at hhead
            cases hdrop : found.dropWhile isBlank with
            | nil => simp [hdrop] at hopen
            | cons b bs =>
                rw [hdrop, List.cons_append, List.cons.injEq] at hhead
                rw [hdrop, List.head?_cons, Option.some.injEq] at hopen
                exact hstart (.inl (hhead.1.symm.trans hopen))
        · exact absurd h (by simp)
  · rintro ⟨htext, hmasked, heven, hfree, hopen⟩
    have hfound := (splitUnescaped_start_eq_some_iff hmark).2 ⟨htext, hmasked, heven⟩
    have hany : template.any isSeparator = false := by simpa using hfree
    have hdropped : cs.dropWhile isBlank = template.dropWhile isBlank ++ mark :: rest := by
      rw [htext, Text.dropWhile_append_stop hblank]
    cases hdrop : template.dropWhile isBlank with
    | nil => simp [hdropped, hdrop, hbrace, hseparator, hfound, hany]
    | cons b bs =>
        have hmem : b ∈ template := (List.dropWhile_sublist _).subset (by rw [hdrop]; simp)
        have hb : b ≠ '\x7b' := by simpa [hdrop] using hopen
        simp [hdropped, hdrop, hb, hfree b hmem, hfound, hany]

/-- A separator behind a text keeps the scan for a substitution inside that text. -/
theorem splitSubstitution_append_separator {mark c : Char} (hmark : isDelimiter mark = true)
    (hc : isSeparator c = true) (cs tail : List Char) :
    splitSubstitution mark (cs ++ c :: tail) =
      (splitSubstitution mark cs).map fun (template, rest) => (template, rest ++ c :: tail) := by
  apply Option.ext
  rintro ⟨template, rest⟩
  rw [splitSubstitution_eq_some_iff hmark]
  simp only [Option.map_eq_some_iff, Prod.exists, Prod.mk.injEq,
    splitSubstitution_eq_some_iff hmark]
  constructor
  · rintro ⟨htext, hmasked, heven, hfree, hopen⟩
    rcases List.append_eq_append_iff.1 htext with ⟨extra, htemplate, hrest⟩ | ⟨extra, hcs, hrest⟩
    · -- the template would reach over the separator
      cases extra with
      | nil =>
          simp only [List.nil_append, List.cons.injEq] at hrest
          rw [hrest.1, (isDelimiter_not_other hmark).2.1] at hc
          exact absurd hc (by simp)
      | cons e extra =>
          simp only [List.cons_append, List.cons.injEq] at hrest
          have := hfree c (by simp [htemplate, hrest.1])
          rw [hc] at this
          exact absurd this (by simp)
    · cases extra with
      | nil =>
          simp only [List.nil_append, List.cons.injEq] at hrest
          rw [← hrest.1, (isDelimiter_not_other hmark).2.1] at hc
          exact absurd hc (by simp)
      | cons e extra =>
          simp only [List.cons_append, List.cons.injEq] at hrest
          refine ⟨template, extra, ⟨?_, hmasked, heven, hfree, hopen⟩, rfl, hrest.2.symm⟩
          rw [hcs, hrest.1]
  · rintro ⟨template, rest', ⟨hcs, hmasked, heven, hfree, hopen⟩, rfl, rfl⟩
    exact ⟨by simp [hcs], hmasked, heven, hfree, hopen⟩

/-- How many braces are open behind a character; nothing when it closes a brace and none is
open. -/
def depthStep (depth : Nat) (c : Char) : Option Nat :=
  if c = '\x7b' then some (depth + 1)
  else if c = '\x7d' then
    match depth with
    | 0 => none
    | depth + 1 => some depth
  else some depth

/-- How many braces are open at the end of a text, when `depth` are open at its beginning; nothing
when a brace closes none. -/
def depthAfter (depth : Nat) (cs : List Char) : Option Nat :=
  cs.foldlM depthStep depth

@[simp] theorem depthAfter_nil (depth : Nat) : depthAfter depth [] = some depth := rfl

theorem depthAfter_cons (depth : Nat) (c : Char) (cs : List Char) :
    depthAfter depth (c :: cs) = (depthStep depth c).bind fun next => depthAfter next cs := by
  simp [depthAfter, List.foldlM_cons, Option.bind_eq_bind]

theorem depthAfter_append (depth : Nat) (as bs : List Char) :
    depthAfter depth (as ++ bs) = (depthAfter depth as).bind fun inner => depthAfter inner bs := by
  simp [depthAfter, List.foldlM_append, Option.bind_eq_bind]

theorem depthStep_eq_none_iff {depth : Nat} {c : Char} :
    depthStep depth c = none ↔ c = '\x7d' ∧ depth = 0 := by
  unfold depthStep
  by_cases hopen : c = '\x7b'
  · simp [hopen]
  · by_cases hclose : c = '\x7d'
    · cases depth with
      | zero => simp [hclose]
      | succ depth => simp [hclose]
    · simp [hopen, hclose]

theorem splitBrace_cons (depth : Nat) (c : Char) (cs : List Char) :
    splitBrace depth (c :: cs) =
      match depthStep depth c with
      | none => some ([], cs)
      | some next => (splitBrace next cs).map fun (before, after) => (c :: before, after) := by
  rw [splitBrace.eq_def]
  unfold depthStep
  by_cases hopen : c = '\x7b'
  · simp [hopen]
  · by_cases hclose : c = '\x7d'
    · cases depth with
      | zero => simp [hclose]
      | succ depth => simp [hclose]
    · simp [hopen, hclose]

/-- The cut at a brace takes the first place where every brace opened before it is closed. -/
theorem splitBrace_eq_some_iff {depth : Nat} {cs before after : List Char} :
    splitBrace depth cs = some (before, after) ↔
      cs = before ++ '\x7d' :: after ∧ depthAfter depth before = some 0 := by
  induction cs generalizing depth before with
  | nil => simp [splitBrace]
  | cons c cs ih =>
      rw [splitBrace_cons]
      cases hstep : depthStep depth c with
      | none =>
          obtain ⟨rfl, rfl⟩ := depthStep_eq_none_iff.1 hstep
          cases before with
          | nil => simp
          | cons b before =>
              simp only [Option.some.injEq, Prod.mk.injEq, reduceCtorEq, false_and,
                List.cons_append, List.cons.injEq, false_iff]
              rintro ⟨⟨rfl, -⟩, hdepth⟩
              rw [depthAfter_cons, hstep] at hdepth
              exact absurd hdepth (by simp)
      | some next =>
          cases before with
          | nil =>
              simp only [Option.map_eq_some_iff, Prod.mk.injEq, reduceCtorEq,
                false_and, and_false, exists_false, List.nil_append, List.cons.injEq,
                depthAfter_nil, Option.some.injEq, false_iff]
              rintro ⟨⟨hc, -⟩, hzero⟩
              rw [depthStep_eq_none_iff.2 ⟨hc, hzero⟩] at hstep
              exact absurd hstep (by simp)
          | cons b before =>
              simp only [map_cons_eq_some_iff, ih, List.cons_append, List.cons.injEq]
              constructor
              · rintro ⟨rfl, hcut, hdepth⟩
                exact ⟨⟨rfl, hcut⟩, by simpa [depthAfter_cons, hstep] using hdepth⟩
              · rintro ⟨⟨rfl, hcut⟩, hdepth⟩
                exact ⟨rfl, hcut, by simpa [depthAfter_cons, hstep] using hdepth⟩

end HistEdit.Clause
