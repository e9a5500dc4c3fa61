import HistEdit.Pattern.Machine
import HistEdit.Proofs.Reading

/-!
What a separator behind a text means for its reading. No part of an expression of the text in
front of it reaches over the separator, so a text that is read whole reads as before, and the
expressions behind the separator follow.
-/

namespace HistEdit.Segment

variable {c : Char} {start cs rest : List Char}

theorem isGap_not_other {c : Char} (h : isGap c = true) :
    Clause.isDelimiter c = false ∧ Clause.isRunChar c = false ∧ c ≠ '\x7b' ∧ c ≠ '\x7d' := by
  rcases Bool.or_eq_true_iff.1 h with hblank | hseparator
  · rcases Clause.isBlank_cases hblank with rfl | rfl <;> decide
  · rcases Clause.isSeparator_cases hseparator with rfl | rfl | rfl <;> decide

/-- A blank or a separator behind the text ends a flag run at the latest. -/
theorem readFlags_append (start : List Char) {tail : List Char}
    (htail : ∀ c ∈ tail.head?, isGap c = true) :
    readFlags (start ++ tail) =
      (readFlags start).map fun (flags, rest) => (flags, rest ++ tail) := by
  cases tail with
  | nil =>
      rw [List.append_nil]
      cases readFlags start <;> simp [Except.map]
  | cons c tail =>
      obtain ⟨hdelimiter, hrun, hbrace, -⟩ := isGap_not_other (htail c rfl)
      -- the character that decides between bad flags and a call is the one behind at most
      have hnext : ((start.dropWhile Clause.isRunChar ++ c :: tail).head?.any fun c =>
          Clause.isDelimiter c || c == '\x7b') =
          (start.dropWhile Clause.isRunChar).head?.any fun c =>
            Clause.isDelimiter c || c == '\x7b' := by
        cases start.dropWhile Clause.isRunChar with
        | nil => simp [hdelimiter, hbrace]
        | cons d ds => rfl
      simp only [readFlags, Text.takeWhile_append_stop hrun, Text.dropWhile_append_stop hrun, hnext]
      cases Flags.decode (start.takeWhile Clause.isRunChar) with
      | ok flags => rfl
      | error cause =>
          simp only
          split <;> rfl

/-- A clause stays as it is, and so does the absence of a substitution. -/
theorem ClauseForm.append_separator [PatternEngine] (hc : Clause.isSeparator c = true)
    (tail : List Char) {pattern : Option Pattern} {substitution : Option String}
    (h : ClauseForm cs pattern substitution rest) :
    ClauseForm (cs ++ c :: tail) pattern substitution (rest ++ c :: tail) := by
  cases h with
  | absent hhead =>
      refine .absent ?_
      cases cs with
      | nil => simpa using (Clause.isSeparator_not_other hc).2.1
      | cons d cs => simpa using hhead
  | pattern hmark hmasked heven hpattern hnone =>
      simp only [List.cons_append, List.append_assoc]
      refine .pattern hmark hmasked heven hpattern ?_
      rw [Clause.splitSubstitution_append_separator hmark hc, hnone, Option.map_none]
  | substitution hmark hmasked heven hpattern hsome =>
      simp only [List.cons_append, List.append_assoc]
      refine .substitution hmark hmasked heven hpattern ?_
      rw [← List.cons_append, ← List.append_assoc,
        Clause.splitSubstitution_append_separator hmark hc, hsome, Option.map_some]

theorem BodyForm.append_separator (hc : Clause.isSeparator c = true) (tail : List Char)
    {body : Body} (h : BodyForm cs body rest) :
    BodyForm (cs ++ c :: tail) body (rest ++ c :: tail) := by
  cases h with
  | nothing hhead =>
      refine .nothing ?_
      cases cs with
      | nil => simpa using hc
      | cons d cs => simpa using hhead
  | block hdepth =>
      simp only [List.cons_append, List.append_assoc]
      exact .block hdepth
  | call hne hopen hfree hrest =>
      rw [List.append_assoc]
      refine .call hne hopen hfree ?_
      cases rest with
      | nil => simpa using hc
      | cons d rest => simpa using hrest

/-- An expression that was read in front of a separator is read as before. -/
theorem next?_append_separator [PatternEngine] (hc : Clause.isSeparator c = true) (tail : List Char)
    {segment : Segment} (h : next? cs = .ok (some segment)) :
    next? (cs ++ c :: tail) = .ok (some { segment with rest := segment.rest ++ c :: tail }) := by
  obtain ⟨afterFlags, afterClause, hne, hflags, hclause, hbody⟩ := next?_eq_ok_some_iff.1 h
  have hstart : (cs ++ c :: tail).dropWhile isGap = cs.dropWhile isGap ++ c :: tail := by
    simp [List.dropWhile_append, hne]
  have hblank := (Clause.isSeparator_not_other hc).1
  have hend : ∀ d ∈ (c :: tail).head?, isGap d = true := by simp [isGap, hc]
  rw [next?_eq_ok_some_iff, hstart, readFlags_append _ hend, hflags]
  refine ⟨afterFlags ++ c :: tail, afterClause ++ c :: tail, by simp, rfl,
    hclause.append_separator hc tail, ?_⟩
  rw [Text.dropWhile_append_stop hblank]
  exact hbody.append_separator hc tail

/-- Behind blanks and separators alone, reading goes on with what follows them. -/
theorem next?_append_of_none [PatternEngine] (hc : Clause.isSeparator c = true) (tail : List Char)
    (h : next? cs = .ok none) : next? (cs ++ c :: tail) = next? tail := by
  have hgap : isGap c = true := by simp [isGap, hc]
  have hempty : cs.dropWhile isGap = [] := next?_eq_ok_none_iff.1 h
  unfold next?
  rw [List.dropWhile_append, hempty, List.isEmpty_nil, if_pos rfl,
    List.dropWhile_cons_of_pos hgap]

end HistEdit.Segment

namespace HistEdit.Expression

section

variable [PatternEngine] {functions : Functions} {resolution : Resolution}

theorem ofSegment_rest (functions : Functions) (resolution : Resolution) (segment : Segment)
    (rest : List Char) :
    ofSegment functions resolution { segment with rest } =
      ofSegment functions resolution segment := rfl

/-- One more expression in front of a separator. -/
private theorem readList_append_cons {c : Char} (hc : Clause.isSeparator c = true)
    {cs tail : List Char} {segment : Segment} {expression : Expression} {later : List Expression}
    (hnext : Segment.next? cs = .ok (some segment))
    (hexpression : ofSegment functions resolution segment = .ok expression)
    (hlater : readList functions resolution (segment.rest ++ c :: tail) =
      (readList functions resolution tail).map (later ++ ·)) :
    readList functions resolution (cs ++ c :: tail) =
      (readList functions resolution tail).map (expression :: later ++ ·) := by
  rw [readList_eq, Segment.next?_append_separator hc tail hnext]
  simp only [ofSegment_rest, hexpression, hlater]
  cases readList functions resolution tail with
  | error error => rfl
  | ok following => rfl

/-- A text that is read whole is read alike in front of a separator, and what follows the
separator is read as a text of its own. -/
theorem readList_append {c : Char} (hc : Clause.isSeparator c = true) {front : List Char}
    {expressions : List Expression} (h : readList functions resolution front = .ok expressions)
    (tail : List Char) :
    readList functions resolution (front ++ c :: tail) =
      (readList functions resolution tail).map (expressions ++ ·) := by
  induction reads_of_readList h with
  | done hnext =>
      rw [readList_eq, Segment.next?_append_of_none hc tail hnext, ← readList_eq]
      cases readList functions resolution tail with
      | error error => rfl
      | ok following => rfl
  | nothing hnext hbody hlater ih =>
      refine readList_append_cons hc hnext ?_ (ih (readList_of_reads hlater))
      simp only [ofSegment, hbody]
  | call hnext hbody heffect hlater ih =>
      refine readList_append_cons hc hnext ?_ (ih (readList_of_reads hlater))
      simp only [ofSegment, hbody, heffect, Except.map]
  | block hnext hbody hchildren hlater _ ih =>
      refine readList_append_cons hc hnext ?_ (ih (readList_of_reads hlater))
      simp only [ofSegment, hbody, readList_of_reads hchildren, Except.map]

/-- Texts with a separator between them are read like the same texts one by one, as long as no
text before the last fails. -/
theorem readAll_eq_readList {c : Char} (hc : Clause.isSeparator c = true) (texts : List String)
    (last : String)
    (h : ∀ text ∈ texts, ∃ expressions,
      readList functions resolution text.toList = .ok expressions) :
    readAll functions resolution (texts ++ [last]) =
      readList functions resolution
        ([c].intercalate ((texts ++ [last]).map String.toList)) := by
  induction texts with
  | nil =>
      simp only [List.nil_append, readAll, List.map_cons, List.map_nil]
      cases hlast : readList functions resolution last.toList with
      | error error => simp [hlast]
      | ok expressions => simp [hlast, Except.map]
  | cons text texts ih =>
      obtain ⟨expressions, htext⟩ := h text (by simp)
      have hrest := ih fun text htext => h text (by simp [htext])
      have hjoin : [c].intercalate (((text :: texts) ++ [last]).map String.toList) =
          text.toList ++ c :: [c].intercalate ((texts ++ [last]).map String.toList) := by
        cases texts with
        | nil => simp [List.intercalate]
        | cons next texts => simp [List.intercalate]
      rw [hjoin, readList_append hc htext, List.cons_append, readAll, htext, hrest]

/-- Reading is a homomorphism over separators: behind an accepted text, a separator and a further
text add exactly what the further text gives, be it expressions or an error. So several texts mean
the same as one that joins them. -/
theorem readList_separated (functions : Functions) (resolution : Resolution) {c : Char}
    (hc : Clause.isSeparator c = true) :
    (∀ front expressions, readList functions resolution front = .ok expressions →
      ∀ tail,
        (∀ following, readList functions resolution tail = .ok following →
          readList functions resolution (front ++ c :: tail) = .ok (expressions ++ following)) ∧
        (∀ error, readList functions resolution tail = .error error →
          readList functions resolution (front ++ c :: tail) = .error error)) ∧
    (∀ texts last, (∀ text ∈ texts, ∃ expressions,
        readList functions resolution text.toList = .ok expressions) →
      readAll functions resolution (texts ++ [last]) =
        readList functions resolution
          ([c].intercalate ((texts ++ [last]).map String.toList))) := by
  refine ⟨?_, fun texts last h => readAll_eq_readList hc texts last h⟩
  intro front expressions hfront tail
  have hjoined := readList_append hc hfront tail
  refine ⟨?_, ?_⟩
  · intro following htail
    rw [hjoined, htail]
    rfl
  · intro error htail
    rw [hjoined, htail]
    rfl

end

/-- A clause without substitution in front of one with a substitution: its closing mark is not the
middle mark of a longer clause. -/
theorem readList_separated_clauses :
    Clause.isSeparator ';' = true ∧
      ∃ expressions following,
        expressions.map Expression.text = ["n/h_;/ color 2"] ∧
        following.map Expression.text = ["t/a/b/"] ∧
        readList .builtin .histogram "n/h_;/ color 2".toList = .ok expressions ∧
        readList .builtin .histogram "t/a/b/".toList = .ok following ∧
        readList .builtin .histogram ("n/h_;/ color 2".toList ++ ';' :: "t/a/b/".toList) =
          .ok (expressions ++ following) := by
  obtain ⟨expressions, hfront, htexts⟩ := exists_ok_of_toOption
    (readList .builtin .histogram "n/h_;/ color 2".toList) (List.map Expression.text)
    (b := ["n/h_;/ color 2"]) (by decide +kernel)
  obtain ⟨following, htail, htailTexts⟩ := exists_ok_of_toOption
    (readList .builtin .histogram "t/a/b/".toList) (List.map Expression.text)
    (b := ["t/a/b/"]) (by decide +kernel)
  have hjoined := (readList_separated .builtin .histogram (c := ';') (by decide)).1 _ _ hfront
    "t/a/b/".toList
  exact ⟨by decide, expressions, following, htexts, htailTexts, hfront, htail,
    hjoined.1 following htail⟩

end HistEdit.Expression
