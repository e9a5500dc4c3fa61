import HistEdit.Proofs.ClauseCoding
import HistEdit.Proofs.WriteBack

/-!
Plain assignments of titles, from their text to the histogram. Without a pattern the title becomes
the substitution as it is stored, whatever is in it. The stored text is the one that was written,
except that `$&` is spelled as a group there, although no match fills it in.
-/

namespace HistEdit

theorem History.set_set (history : History) (field : Field) (versions later : List String) :
    (history.set field versions).set field later = history.set field later := by
  simp only [set, mk.injEq]
  funext other
  split <;> rfl

/-- The expression that sets the title to a text. -/
def titleAssignment (text : String) : Expression :=
  .leaf ⟨{ source := .title, target := .title }, none, some text⟩ .none

/-- An assignment touches the title, and appends the text where the title is another one. -/
theorem attempt_titleAssignment (h : Histogram) (text : String) :
    (titleAssignment text).attempt 0 { subject := h } =
      (⟨[.matched 0 (titleAssignment text) h.title text],
        { history := ({} : History).set .title (h.title :: if text = h.title then [] else [text])
          subject := h }, none⟩, true) := by
  let touched : State Histogram := { history := ({} : History).set .title [h.title], subject := h }
  have hsettle : touched.settle { source := .title, target := .title } h.title text =
      ({} : History).set .title (h.title :: if text = h.title then [] else [text]) := by
    by_cases hsame : text = h.title
    · simp [State.settle, State.result, State.prior, AddMode.join, touched, hsame]
    · have hpush : touched.history.push (Subject.native h) .title text =
          ({} : History).set .title [h.title, text] :=
        History.set_set {} .title [h.title] [h.title, text]
      simpa [State.settle, State.result, State.prior, AddMode.join, hsame] using hpush
  rw [Expression.attempt_eq, ← hsettle]
  rfl

theorem evaluate_titleAssignment (h : Histogram) (text : String) :
    (evaluate [titleAssignment text] h).outcome = .accepted h.name ∧
      (evaluate [titleAssignment text] h).subject = { h with title := text } := by
  let history := ({} : History).set .title (h.title :: if text = h.title then [] else [text])
  have hrun : runAll 0 { subject := h } [titleAssignment text] =
      ⟨[.matched 0 (titleAssignment text) h.title text], { history, subject := h }, none⟩ := by
    have hattempt := attempt_titleAssignment h text
    simp only [titleAssignment] at hattempt
    simp only [runAll, titleAssignment, Expression.run, hattempt]
    rfl
  have htitle : (history.written? .title).getD h.title = text := by
    by_cases hsame : text = h.title <;> simp [history, History.written?, hsame]
  have hother (field : Field) (hfield : field ≠ .title) : history.written? field = none := by
    simp [history, History.written?, hfield]
  unfold evaluate
  rw [hrun]
  constructor
  · change Outcome.accepted (State.group { history, subject := h }) = _
    rw [State.group, hother .group (by decide), hother .name (by decide)]
    rfl
  · change State.writeBack { history, subject := h } = _
    rw [State.writeBack_histogram]
    simp only [htitle, hother .xLabel (by decide), hother .yLabel (by decide),
      hother .zLabel (by decide), hother .legend (by decide), Option.getD_none, Option.none_or]

namespace Expression

/-- An assignment is read as one expression, whose substitution is the written text with `$&`
spelled as a group. -/
theorem readList_titleAssignment [PatternEngine] (functions : Functions) (resolution : Resolution)
    {mark : Char} (hmark : Clause.isDelimiter mark = true) {cs : List Char}
    (hcs : Clause.Writable mark cs) :
    readList functions resolution ('t' :: mark :: mark :: (Clause.escape mark cs ++ [mark])) =
      .ok [titleAssignment (String.ofList (Clause.spellWhole cs))] := by
  have hflags : Flags.decode ['t'] = .ok { source := .title, target := .title } := rfl
  have hsegment := Segment.next?_writable hmark hflags (Clause.masked_of_not_mem (by simp))
    (by simp) (Segment.readPattern_eq_ok_iff.2 (.inl ⟨rfl, rfl⟩)) hcs
  have hend : readList functions resolution [] = .ok [] := by
    rw [readList_eq]
    rfl
  rw [List.singleton_append, List.nil_append] at hsegment
  rw [readList_eq, hsegment]
  simp [ofSegment, hend, Except.map, titleAssignment]

end Expression

/-- Assigning a text to the title of a histogram accepts it under its name and changes nothing but
the title. The title is the text, character for character, exactly when the text does not hold
`$&`; otherwise each `$&` in it is spelled as a group, to which no match belongs. -/
theorem evaluate_assignment [PatternEngine] (functions : Functions) (resolution : Resolution)
    {mark : Char} (hmark : Clause.isDelimiter mark = true) {cs : List Char}
    (hcs : Clause.Writable mark cs) (h : Histogram) :
    ∃ expressions,
      Expression.readList functions resolution
          ('t' :: mark :: mark :: (Clause.escape mark cs ++ [mark])) = .ok expressions ∧
        (evaluate expressions h).outcome = .accepted h.name ∧
        (evaluate expressions h).subject =
          { h with title := String.ofList (Clause.spellWhole cs) } ∧
        ((evaluate expressions h).subject.title = String.ofList cs ↔ ¬['$', '&'] <:+: cs) := by
  obtain ⟨haccepted, hsubject⟩ :=
    evaluate_titleAssignment h (String.ofList (Clause.spellWhole cs))
  refine ⟨_, Expression.readList_titleAssignment functions resolution hmark hcs, haccepted,
    hsubject, ?_⟩
  rw [hsubject, String.ofList_inj, Clause.spellWhole_eq_self_iff]

/-- A title with braces, dollar signs, an ampersand, and a mark behind two backslashes. -/
theorem evaluate_assignment_bar :
    let text := "\\\\|$1 $\x7bp\x7d $$ & \x7b".toList
    let h : Histogram := { name := "h", title := "old", legend := some "" }
    Clause.isDelimiter '|' = true ∧ Clause.Writable '|' text ∧ ¬['$', '&'] <:+: text ∧
      ∃ expressions,
        Expression.readList .builtin .histogram
            "t||\\\\\\|$1 $\x7bp\x7d $$ & \x7b|".toList = .ok expressions ∧
          (evaluate expressions h).outcome = .accepted "h" ∧
          (evaluate expressions h).subject = { h with title := String.ofList text } := by
  intro text h
  have hmark : Clause.isDelimiter '|' = true := by decide
  have hwritable : Clause.Writable '|' text := by decide
  have hwhole : ¬['$', '&'] <:+: text := by decide
  obtain ⟨expressions, hread, haccepted, hsubject, hliteral⟩ :=
    evaluate_assignment .builtin .histogram hmark hwritable h
  refine ⟨hmark, hwritable, hwhole, expressions, hread, haccepted, ?_⟩
  rw [hsubject] at hliteral ⊢
  rw [← hliteral.2 hwhole]

/-- A whole match in an assignment is spelled as a group, although there is no match. -/
theorem assignment_spells_wholeMatch :
    let h : Histogram := { name := "h" }
    Clause.Writable '/' "$&".toList ∧
      't' :: '/' :: '/' :: (Clause.escape '/' "$&".toList ++ ['/']) = "t//$&/".toList ∧
      ∃ expressions,
        Expression.readList .builtin .histogram "t//$&/".toList = .ok expressions ∧
          (evaluate expressions h).subject.title = "$\x7b0\x7d" ∧
          (evaluate expressions h).subject.title ≠ "$&" := by
  intro h
  have hwritable : Clause.Writable '/' "$&".toList := by decide
  have hread := Expression.readList_titleAssignment .builtin .histogram
    (show Clause.isDelimiter '/' = true by decide) hwritable
  have hspelled : String.ofList (Clause.spellWhole "$&".toList) = "$\x7b0\x7d" := by decide
  rw [hspelled] at hread
  have htitle : (evaluate [titleAssignment "$\x7b0\x7d"] h).subject.title = "$\x7b0\x7d" := by
    rw [(evaluate_titleAssignment h "$\x7b0\x7d").2]
  exact ⟨hwritable, by decide, _, hread, htitle, by rw [htitle]; decide⟩

end HistEdit
