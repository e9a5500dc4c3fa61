import HistEdit.Proofs.NormalText
import HistEdit.Proofs.Separator

/-!
Blanks and separators behind a text. They take part in nothing that is read: the expressions stay
the same, and so does an error, except that the text which it quotes may be longer by them.
-/

namespace HistEdit

/-- An error without the end of the text that it quotes to show where an expression fails. -/
def EditError.unquoted : EditError → EditError
  | .unterminated delimiter _ => .unterminated delimiter ""
  | .unmatchedBrace _ => .unmatchedBrace ""
  | error => error

theorem EditError.kind_unquoted (error : EditError) : error.unquoted.kind = error.kind := by
  cases error <;> rfl

/-- Two results that are the same but for the text that an error quotes. -/
def SameResult {α : Type} (a b : Except EditError α) : Prop :=
  a.mapError EditError.unquoted = b.mapError EditError.unquoted

namespace SameResult

variable {α β : Type} {a b : Except EditError α}

theorem refl (a : Except EditError α) : SameResult a a := rfl

theorem symm (h : SameResult a b) : SameResult b a := Eq.symm h

theorem error {other same : EditError} (h : other.unquoted = same.unquoted) :
    SameResult (α := α) (.error other) (.error same) :=
  congrArg Except.error h

theorem eq_ok (h : SameResult a b) {value : α} (hb : b = .ok value) : a = .ok value := by
  subst hb
  cases a with
  | error error => simp [SameResult, Except.mapError] at h
  | ok found => simpa [SameResult, Except.mapError] using h

theorem exists_error (h : SameResult a b) {error : EditError} (hb : b = .error error) :
    ∃ other, a = .error other ∧ other.unquoted = error.unquoted := by
  subst hb
  cases a with
  | error other => exact ⟨other, rfl, by simpa [SameResult, Except.mapError] using h⟩
  | ok found => simp [SameResult, Except.mapError] at h

theorem map (h : SameResult a b) (f : α → β) : SameResult (a.map f) (b.map f) := by
  cases hb : b with
  | ok value => rw [h.eq_ok hb]; rfl
  | error error =>
      obtain ⟨other, ha, hsame⟩ := h.exists_error hb
      rw [ha]
      exact .error hsame

end SameResult

end HistEdit

namespace HistEdit.Clause

theorem splitUnescaped_append_of_not_mem {mark : Char} (hmark : mark ≠ '\\') {tail : List Char}
    (htail : mark ∉ tail) (escaped : Bool) (cs : List Char) :
    splitUnescaped mark escaped (cs ++ tail) =
      (splitUnescaped mark escaped cs).map fun (before, after) => (before, after ++ tail) := by
  induction cs generalizing escaped with
  | nil =>
      rw [List.nil_append, splitUnescaped, Option.map_none, Option.eq_none_iff_forall_ne_some]
      rintro ⟨before, after⟩ hcut
      exact htail (splitUnescaped_eq hcut ▸ List.mem_append_right before List.mem_cons_self)
  | cons c cs ih =>
      rw [List.cons_append, splitUnescaped_cons hmark, splitUnescaped_cons hmark]
      split
      · rfl
      · rw [ih, Option.map_map, Option.map_map]
        rfl

theorem splitBrace_append_of_not_mem {tail : List Char} (htail : '\x7d' ∉ tail) (depth : Nat)
    (cs : List Char) :
    splitBrace depth (cs ++ tail) =
      (splitBrace depth cs).map fun (before, after) => (before, after ++ tail) := by
  induction cs generalizing depth with
  | nil =>
      rw [List.nil_append, splitBrace, Option.map_none, Option.eq_none_iff_forall_ne_some]
      rintro ⟨before, after⟩ hcut
      exact htail (splitBrace_eq hcut ▸ List.mem_append_right before List.mem_cons_self)
  | cons c cs ih =>
      rw [List.cons_append, splitBrace_cons, splitBrace_cons]
      cases depthStep depth c with
      | none => rfl
      | some next =>
          simp only [ih, Option.map_map]
          rfl

theorem not_mem_gap {mark : Char} (hmark : isDelimiter mark = true) {gap : List Char}
    (hgap : ∀ c ∈ gap, Segment.isGap c = true) : mark ∉ gap := by
  intro hmem
  rw [(Segment.isGap_not_other (hgap mark hmem)).1] at hmark
  exact absurd hmark (by simp)

/-- Behind its blanks a gap ends the expression at once. -/
theorem isSeparator_of_gap {gap : List Char} (hgap : ∀ c ∈ gap, Segment.isGap c = true) :
    ∀ c ∈ (gap.dropWhile isBlank).head?, isSeparator c = true := by
  intro c hc
  have hblank := List.head?_dropWhile_not isBlank gap
  rw [hc] at hblank
  have hmem : c ∈ gap := (List.dropWhile_sublist _).subset (List.mem_of_mem_head? hc)
  simpa [Segment.isGap, show isBlank c = false by simpa using hblank] using hgap c hmem

theorem splitSubstitution_append_gap {mark : Char} (hmark : isDelimiter mark = true)
    {gap : List Char} (hgap : ∀ c ∈ gap, Segment.isGap c = true) (cs : List Char) :
    splitSubstitution mark (cs ++ gap) =
      (splitSubstitution mark cs).map fun (template, rest) => (template, rest ++ gap) := by
  have hslash := isDelimiter_ne_backslash hmark
  have hends := isSeparator_of_gap hgap
  unfold splitSubstitution
  rw [List.dropWhile_append]
  cases cs.dropWhile isBlank with
  | nil =>
      rw [List.isEmpty_nil, if_pos rfl]
      cases hrest : gap.dropWhile isBlank with
      | nil => rfl
      | cons c rest =>
          have hseparator : isSeparator c = true := hends c (by simp [hrest])
          simp [hseparator]
  | cons c rest =>
      simp only [List.isEmpty_cons, Bool.false_eq_true, if_false, List.cons_append,
        splitUnescaped_append_of_not_mem hslash (not_mem_gap hmark hgap)]
      split
      · rfl
      · cases splitUnescaped mark false cs with
        | none => rfl
        | some cut =>
            simp only [Option.map_some]
            split <;> rfl

end HistEdit.Clause

namespace HistEdit.Segment

variable {gap : List Char}

theorem readClause_append_gap [PatternEngine] (hgap : ∀ c ∈ gap, isGap c = true)
    (start other cs : List Char) :
    SameResult (readClause other (cs ++ gap))
      ((readClause start cs).map fun (pattern, substitution, rest) =>
        (pattern, substitution, rest ++ gap)) := by
  cases cs with
  | nil =>
      cases gap with
      | nil => exact .refl _
      | cons c gap =>
          have hc := (isGap_not_other (hgap c (by simp))).1
          simp only [List.nil_append, readClause, hc]
          exact .refl _
  | cons mark cs =>
      simp only [List.cons_append, readClause]
      by_cases hmark : Clause.isDelimiter mark = true
      · rw [if_pos hmark, if_pos hmark, Clause.splitUnescaped_append_of_not_mem
          (Clause.isDelimiter_ne_backslash hmark) (Clause.not_mem_gap hmark hgap)]
        cases Clause.splitUnescaped mark false cs with
        | none => exact .error rfl
        | some cut =>
            obtain ⟨source, after⟩ := cut
            simp only [Option.map_some]
            cases readPattern source with
            | error error => exact .refl _
            | ok pattern =>
                simp only [Clause.splitSubstitution_append_gap hmark hgap]
                cases Clause.splitSubstitution mark after with
                | none => exact .refl _
                | some cut => exact .refl _
      · rw [if_neg hmark, if_neg hmark]
        exact .refl _

theorem readCall_append_blanks {blanks : List Char} (h : ∀ c ∈ blanks, Clause.isBlank c = true)
    (cs : List Char) : readCall (cs ++ blanks) = readCall cs := by
  have hspace : ∀ c ∈ blanks, Text.isSpace c = true :=
    fun c hc => (Clause.isBlank_not_other (h c hc)).2.2
  rw [← readCall_trimEnd, Text.trimEnd_eq_trimEndWhere, Text.trimEndWhere_append_of_all hspace,
    ← Text.trimEnd_eq_trimEndWhere, readCall_trimEnd]

/-- Up to its separator an expression takes blanks of the gap at most, and leaves the rest. -/
theorem exists_call_append_gap (hgap : ∀ c ∈ gap, isGap c = true) (cs : List Char) :
    ∃ blanks behind, (∀ c ∈ blanks, Clause.isBlank c = true) ∧ (∀ c ∈ behind, isGap c = true) ∧
      (cs ++ gap).takeWhile (fun c => !Clause.isSeparator c) =
        cs.takeWhile (fun c => !Clause.isSeparator c) ++ blanks ∧
      (cs ++ gap).dropWhile (fun c => !Clause.isSeparator c) =
        cs.dropWhile (fun c => !Clause.isSeparator c) ++ behind := by
  cases hrest : cs.dropWhile fun c => !Clause.isSeparator c with
  | nil =>
      have hall : ∀ c ∈ cs, (!Clause.isSeparator c) = true := List.dropWhile_eq_nil_iff.1 hrest
      refine ⟨gap.takeWhile fun c => !Clause.isSeparator c,
        gap.dropWhile fun c => !Clause.isSeparator c, ?_, ?_, ?_, ?_⟩
      · intro c hc
        have hkept := List.mem_takeWhile_imp hc
        simpa [isGap, show Clause.isSeparator c = false by simpa using hkept] using
          hgap c ((List.takeWhile_sublist _).subset hc)
      · exact fun c hc => hgap c ((List.dropWhile_sublist _).subset hc)
      · rw [List.takeWhile_append_of_pos hall, List.takeWhile_eq_self_iff.2 hall]
      · rw [List.dropWhile_append_of_pos hall, List.nil_append]
  | cons d rest =>
      have hstop : (!Clause.isSeparator d) = false := by
        have := List.head?_dropWhile_not (fun c => !Clause.isSeparator c) cs
        rw [hrest] at this
        simpa using this
      have htext := List.takeWhile_append_dropWhile (p := fun c => !Clause.isSeparator c) (l := cs)
      rw [hrest] at htext
      have hrun := fun c hc => List.mem_takeWhile_imp
        (p := fun c => !Clause.isSeparator c) (l := cs) (x := c) hc
      refine ⟨[], gap, by simp, hgap, ?_, ?_⟩
      · rw [List.append_nil]
        conv_lhs => rw [← htext, List.append_assoc]
        exact Text.takeWhile_run hrun (by simpa using hstop)
      · conv_lhs => rw [← htext, List.append_assoc]
        exact Text.dropWhile_run hrun (by simpa using hstop)

/-- A block ends where it ended, a call loses the blanks, and what stays behind is a gap. -/
theorem readBody_append_gap (hgap : ∀ c ∈ gap, isGap c = true) (start other cs : List Char) :
    ∃ behind, (∀ c ∈ behind, isGap c = true) ∧
      SameResult (readBody other ((cs ++ gap).dropWhile Clause.isBlank))
        ((readBody start (cs.dropWhile Clause.isBlank)).map fun (body, rest) =>
          (body, rest ++ behind)) := by
  rw [List.dropWhile_append]
  cases hdrop : cs.dropWhile Clause.isBlank with
  | nil =>
      have hbehind : ∀ c ∈ gap.dropWhile Clause.isBlank, isGap c = true :=
        fun c hc => hgap c ((List.dropWhile_sublist _).subset hc)
      refine ⟨gap.dropWhile Clause.isBlank, hbehind, ?_⟩
      rw [List.isEmpty_nil, if_pos rfl]
      have hends := Clause.isSeparator_of_gap hgap
      cases hrest : gap.dropWhile Clause.isBlank with
      | nil => exact .refl _
      | cons c rest =>
          have hseparator : Clause.isSeparator c = true := hends c (by simp [hrest])
          simp only [readBody, if_pos hseparator]
          exact .refl _
  | cons c text =>
      simp only [List.isEmpty_cons, Bool.false_eq_true, if_false, List.cons_append, readBody]
      by_cases hseparator : Clause.isSeparator c = true
      · simp only [if_pos hseparator]
        exact ⟨gap, hgap, .refl _⟩
      simp only [if_neg hseparator]
      by_cases hopen : c = '\x7b'
      · have hfree : '\x7d' ∉ gap := fun hmem => (isGap_not_other (hgap _ hmem)).2.2.2 rfl
        simp only [if_pos hopen, Clause.splitBrace_append_of_not_mem hfree]
        refine ⟨gap, hgap, ?_⟩
        cases Clause.splitBrace 0 text with
        | none => exact .error rfl
        | some cut => exact .refl _
      · simp only [if_neg hopen, ← List.cons_append]
        obtain ⟨blanks, behind, hblanks, hbehind, htake, hdrop⟩ :=
          exists_call_append_gap hgap (c :: text)
        refine ⟨behind, hbehind, ?_⟩
        rw [htake, hdrop, readCall_append_blanks hblanks]
        exact .refl _

theorem read_append_gap [PatternEngine] (hgap : ∀ c ∈ gap, isGap c = true) (start : List Char) :
    ∃ behind, (∀ c ∈ behind, isGap c = true) ∧
      SameResult (read (start ++ gap))
        ((read start).map fun segment => { segment with rest := segment.rest ++ behind }) := by
  have hhead : ∀ c ∈ gap.head?, isGap c = true := fun c hc => hgap c (List.mem_of_mem_head? hc)
  simp only [read, readFlags_append start hhead]
  cases readFlags start with
  | error error => exact ⟨gap, hgap, .refl _⟩
  | ok found =>
      obtain ⟨flags, afterFlags⟩ := found
      have hclause := readClause_append_gap hgap start (start ++ gap) afterFlags
      simp only [Except.map]
      cases hread : readClause start afterFlags with
      | error error =>
          rw [hread] at hclause
          obtain ⟨other, hother, hsame⟩ := hclause.exists_error rfl
          simp only [hother]
          exact ⟨gap, hgap, .error hsame⟩
      | ok found =>
          obtain ⟨pattern, substitution, afterClause⟩ := found
          rw [hread] at hclause
          obtain ⟨behind, hbehind, hbody⟩ :=
            readBody_append_gap hgap start (start ++ gap) afterClause
          refine ⟨behind, hbehind, ?_⟩
          simp only [hclause.eq_ok rfl]
          cases hread : readBody start (afterClause.dropWhile Clause.isBlank) with
          | error error =>
              rw [hread] at hbody
              obtain ⟨other, hother, hsame⟩ := hbody.exists_error rfl
              simp only [hother]
              exact .error hsame
          | ok found =>
              rw [hread] at hbody
              simp only [hbody.eq_ok rfl]
              exact .refl _

/-- A gap behind a text is found behind its first expression again, unless the expression takes a
part of it as blanks. -/
theorem next?_append_gap [PatternEngine] (hgap : ∀ c ∈ gap, isGap c = true) (cs : List Char) :
    ∃ behind, (∀ c ∈ behind, isGap c = true) ∧
      SameResult (next? (cs ++ gap))
        ((next? cs).map fun segment =>
          segment.map fun segment => { segment with rest := segment.rest ++ behind }) := by
  unfold next?
  rw [List.dropWhile_append]
  cases cs.dropWhile isGap with
  | nil =>
      rw [List.isEmpty_nil, if_pos rfl, List.dropWhile_eq_nil_iff.2 hgap]
      exact ⟨gap, hgap, .refl _⟩
  | cons c start =>
      obtain ⟨behind, hbehind, hread⟩ := read_append_gap hgap (c :: start)
      refine ⟨behind, hbehind, ?_⟩
      simp only [List.isEmpty_cons, Bool.false_eq_true, if_false, List.cons_append] at hread ⊢
      generalize read (c :: start) = first at hread ⊢
      cases first with
      | error error => exact hread.map some
      | ok segment => exact hread.map some

end HistEdit.Segment

namespace HistEdit.Expression

/-- Blanks and separators behind a text do not change what it reads as. -/
theorem readList_append_gap [PatternEngine] (functions : Functions) (resolution : Resolution)
    {gap : List Char} (hgap : ∀ c ∈ gap, Segment.isGap c = true) (cs : List Char) :
    SameResult (readList functions resolution (cs ++ gap)) (readList functions resolution cs) := by
  induction hlength : cs.length using Nat.strongRecOn generalizing cs gap with
  | ind length ih =>
      subst hlength
      obtain ⟨behind, hbehind, hnext⟩ := Segment.next?_append_gap hgap cs
      rw [readList_eq, readList_eq _ _ cs]
      cases hfirst : Segment.next? cs with
      | error error =>
          rw [hfirst] at hnext
          obtain ⟨other, hother, hsame⟩ := hnext.exists_error rfl
          rw [hother]
          exact .error hsame
      | ok first =>
          rw [hfirst] at hnext
          rw [hnext.eq_ok rfl]
          cases first with
          | none => exact .refl _
          | some segment =>
              simp only [Option.map_some, ofSegment_rest]
              cases ofSegment functions resolution segment with
              | error error => exact .refl _
              | ok expression =>
                  have hshorter := (Segment.next?_shorter hfirst).1
                  exact (ih _ hshorter hbehind segment.rest rfl).map _

/-- Nor does taking them away. -/
theorem readList_trimEndWhere_gap [PatternEngine] (functions : Functions) (resolution : Resolution)
    (cs : List Char) :
    SameResult (readList functions resolution (Text.trimEndWhere Segment.isGap cs))
      (readList functions resolution cs) := by
  obtain ⟨cut, hcut, htext⟩ := Text.exists_trimEndWhere_append Segment.isGap cs
  have hback := readList_append_gap functions resolution hcut (Text.trimEndWhere Segment.isGap cs)
  rw [← htext] at hback
  exact hback.symm

end HistEdit.Expression
