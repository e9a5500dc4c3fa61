import HistEdit.Pattern.Machine
import HistEdit.Proofs.Reading

/-!
Writing a rule as a clause and reading it back. The substitutions that can be written between two
marks are exactly those that reading can give.
-/

namespace HistEdit.Segment

/-- The character behind the flag run of the first expression of a text; it delimits the clause, if
there is one. -/
def delimiter? (cs : List Char) : Option Char :=
  ((cs.dropWhile isGap).dropWhile Clause.isRunChar).head?

variable [PatternEngine] {cs : List Char}

theorem next?_writable {run source : List Char} {flags : Flags} {pattern : Option Pattern}
    {mark : Char} (hmark : Clause.isDelimiter mark = true)
    (hflags : Flags.decode run = .ok flags) (hmasked : Clause.Masked mark source)
    (heven : Even (Clause.backslashes source)) (hpattern : readPattern source = .ok pattern)
    (hwritable : Clause.Writable mark cs) :
    next? (run ++ mark :: (source ++ mark :: (Clause.escape mark cs ++ [mark]))) =
      .ok (some ⟨⟨flags, pattern, some (String.ofList (Clause.spellWhole cs))⟩, .nothing, []⟩) := by
  obtain ⟨hblank, hseparator, hrunChar, -⟩ := Clause.isDelimiter_not_other hmark
  have hsub := Clause.splitSubstitution_escape hmark hwritable []
  have hform := ClauseForm.substitution hmark hmasked heven hpattern hsub
  rw [Clause.unescape_escape_eq_spellWhole hmark] at hform
  have hgap : isGap mark = false := by simp [isGap, hblank, hseparator]
  exact next?_run hflags (by simpa using hrunChar) (.inr ⟨mark, by simp, hgap⟩) hform
    (.nothing (by simp))

theorem next?_written {run source : List Char} {flags : Flags} {pattern : Option Pattern}
    {mark : Char} (hmark : Clause.isDelimiter mark = true)
    (hflags : Flags.decode run = .ok flags) (hmasked : Clause.Masked mark source)
    (heven : Even (Clause.backslashes source)) (hpattern : readPattern source = .ok pattern)
    (hstorable : Clause.Storable mark cs) :
    next? (run ++ mark :: (source ++ mark :: (Clause.escape mark cs ++ [mark]))) =
      .ok (some ⟨⟨flags, pattern, some (String.ofList cs)⟩, .nothing, []⟩) := by
  rw [next?_writable hmark hflags hmasked heven hpattern hstorable.writable,
    Clause.spellWhole_eq_self_iff.2 hstorable.noWholeMatch]

/-- A substitution that was read can be written again between the marks it stood between. -/
theorem storable_of_next? {segment : Segment} (h : next? cs = .ok (some segment))
    {template : String} (hsub : segment.rule.substitution = some template) :
    ∃ mark, delimiter? cs = some mark ∧ Clause.isDelimiter mark = true ∧
      Clause.Storable mark template.toList := by
  obtain ⟨afterFlags, afterClause, -, hflags, hclause, -⟩ := next?_eq_ok_some_iff.1 h
  rw [hsub] at hclause
  obtain ⟨mark, hhead, hmark, hstorable⟩ := hclause.storable
  refine ⟨mark, ?_, hmark, hstorable⟩
  rw [← hhead]
  simp only [readFlags] at hflags
  split at hflags
  · simp only [Except.ok.injEq, Prod.mk.injEq] at hflags
    rw [← hflags.2]
    rfl
  · split at hflags
    · exact absurd hflags (by simp)
    · -- a text that begins with a mark has an empty flag run
      simp only [Except.ok.injEq, Prod.mk.injEq] at hflags
      unfold delimiter?
      rw [hflags.2]
      cases afterFlags with
      | nil => simp at hhead
      | cons c after =>
          rw [List.head?_cons, Option.some.injEq] at hhead
          have hrun : Clause.isRunChar c = false := by
            rw [hhead]
            exact (Clause.isDelimiter_not_other hmark).2.2.1
          rw [List.dropWhile_cons_of_neg (by simp [hrun])]

end HistEdit.Segment

namespace HistEdit.Expression

/-- Writing and reading of clauses are inverse for each mark. A flag run, a pattern and a
substitution that can be stored are read back from their clause as they were, up to the end of the
text; and every substitution that is read from a clause with that mark can be stored. -/
theorem clause_inverse [PatternEngine] (functions : Functions) (resolution : Resolution)
    {mark : Char} (hmark : Clause.isDelimiter mark = true) :
    (∀ run flags, Flags.decode run = .ok flags →
      ∀ source, (source = [] ∨ (PatternEngine.compile? (String.ofList source)).isSome) →
        Clause.Masked mark source → Even (Clause.backslashes source) →
      ∀ template, Clause.Storable mark template →
        ∃ pattern : Option Pattern,
          pattern.map Pattern.source =
              (if source = [] then none else some (String.ofList source)) ∧
          next? functions resolution
              (run ++ mark :: (source ++ mark :: (Clause.escape mark template ++ [mark]))) =
            .ok (some (.leaf ⟨flags, pattern, some (String.ofList template)⟩ .none, [])) ∧
          readList functions resolution
              (run ++ mark :: (source ++ mark :: (Clause.escape mark template ++ [mark]))) =
            .ok [.leaf ⟨flags, pattern, some (String.ofList template)⟩ .none]) ∧
    (∀ text expression rest, next? functions resolution text = .ok (some (expression, rest)) →
      Segment.delimiter? text = some mark →
      ∀ template, expression.rule.substitution = some template →
        Clause.Storable mark template.toList) := by
  refine ⟨?_, ?_⟩
  · intro run flags hflags source hsource hmasked heven template hstorable
    obtain ⟨pattern, hpattern⟩ : ∃ pattern, Segment.readPattern source = .ok pattern := by
      rcases hsource with hempty | hvalid
      · exact ⟨none, Segment.readPattern_eq_ok_iff.2 (.inl ⟨hempty, rfl⟩)⟩
      · by_cases hempty : source = []
        · exact ⟨none, Segment.readPattern_eq_ok_iff.2 (.inl ⟨hempty, rfl⟩)⟩
        · obtain ⟨found, hfound⟩ := Option.isSome_iff_exists.1 hvalid
          exact ⟨some found, Segment.readPattern_eq_ok_iff.2 (.inr ⟨hempty, found, rfl, hfound⟩)⟩
    have hsegment := Segment.next?_written hmark hflags hmasked heven hpattern hstorable
    refine ⟨pattern, Segment.source_of_readPattern hpattern, ?_, ?_⟩
    · simp [next?, hsegment, ofSegment, Except.map]
    · have hend : readList functions resolution [] = .ok [] := by
        rw [readList_eq]
        rfl
      rw [readList_eq, hsegment]
      simp [ofSegment, hend, Except.map]
  · intro text expression rest hread hdelimiter template hsub
    unfold next? at hread
    split at hread
    · exact absurd hread (by simp)
    · exact absurd hread (by simp)
    · rename_i segment hsegment
      obtain ⟨found, hexpression, hfound⟩ := map_eq_ok_iff.1 hread
      simp only [Option.some.injEq, Prod.mk.injEq] at hfound
      rw [← hfound.1, rule_of_ofSegment hexpression] at hsub
      obtain ⟨other, hother, -, hstorable⟩ := Segment.storable_of_next? hsegment hsub
      rw [hdelimiter, Option.some.injEq] at hother
      exact hother ▸ hstorable

/-- A pattern with another delimiter in it, and a substitution that holds its own mark behind two
backslashes. -/
theorem clause_inverse_bar :
    Clause.isDelimiter '|' = true ∧ Flags.decode "sn+t".toList = .ok
        { select := true, add := .prepend, source := .name, target := .title } ∧
      (PatternEngine.compile? (String.ofList "^h/".toList)).isSome ∧
      Clause.Masked '|' "^h/".toList ∧ Even (Clause.backslashes "^h/".toList) ∧
      Clause.Storable '|' "a\\\\|$1\\x \x7b".toList ∧
      Clause.escape '|' "a\\\\|$1\\x \x7b".toList = "a\\\\\\|$1\\x \x7b".toList ∧
      Segment.delimiter? "sn+t|^h/|a\\\\\\|$1\\x \x7b|".toList = some '|' ∧
      ∃ pattern : Option Pattern, pattern.map Pattern.source = some "^h/" ∧
        readList .builtin .histogram "sn+t|^h/|a\\\\\\|$1\\x \x7b|".toList =
          .ok [.leaf ⟨{ select := true, add := .prepend, source := .name, target := .title },
            pattern, some "a\\\\|$1\\x \x7b"⟩ .none] := by
  have hflags : Flags.decode "sn+t".toList = .ok
      { select := true, add := .prepend, source := .name, target := .title } := by rfl
  have hvalid : (PatternEngine.compile? (String.ofList "^h/".toList)).isSome := by decide +kernel
  have hmasked : Clause.Masked '|' "^h/".toList := by decide
  have heven : Even (Clause.backslashes "^h/".toList) := by decide
  have hstorable : Clause.Storable '|' "a\\\\|$1\\x \x7b".toList := by decide
  have hinverse := clause_inverse .builtin .histogram
    (show Clause.isDelimiter '|' = true by decide)
  obtain ⟨pattern, hsource, hnext, hread⟩ := hinverse.1 _ _ hflags _ (.inr hvalid) hmasked heven
    _ hstorable
  exact ⟨by decide, hflags, hvalid, hmasked, heven, hinverse.2 _ _ _ hnext (by decide) _ rfl,
    by decide, by decide, pattern, hsource, hread⟩

end HistEdit.Expression
