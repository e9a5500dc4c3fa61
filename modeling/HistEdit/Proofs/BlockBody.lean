import HistEdit.Proofs.Cursor
import HistEdit.Proofs.TrailingGap

/-!
Blocks. Behind flags and a clause a brace opens a block, which ends at the first brace where as many
braces are closed as were opened. The text between is read as a text of its own; no part of the
clause reaches into it, and nothing behind the last brace takes part in it.
-/

namespace HistEdit.Clause

/-- A text that closes the braces that it opens, and none before it is opened. -/
structure Balanced (cs : List Char) : Prop where
  closed : cs.count '\x7b' = cs.count '\x7d'
  nested : ∀ front, front <+: cs → front.count '\x7d' ≤ front.count '\x7b'

/-- The brace that begins a block is no part of what stands before it. -/
theorem brace_not_other : isBlank '\x7b' = false ∧ isDelimiter '\x7b' = false ∧
    isSeparator '\x7b' = false ∧ isRunChar '\x7b' = false := by
  decide

theorem forall_prefix_cons {P : List Char → Prop} {c : Char} {cs : List Char} (hnil : P []) :
    (∀ front, front <+: c :: cs → P front) ↔ ∀ front, front <+: cs → P (c :: front) := by
  simp only [List.prefix_cons_iff]
  constructor
  · exact fun h front hfront => h _ (.inr ⟨front, rfl, hfront⟩)
  · rintro h front (rfl | ⟨later, rfl, hlater⟩)
    · exact hnil
    · exact h later hlater

/-- The braces that a text leaves open, counted. -/
theorem depthAfter_eq_some_iff {depth left : Nat} {cs : List Char} :
    depthAfter depth cs = some left ↔
      depth + cs.count '\x7b' = left + cs.count '\x7d' ∧
        ∀ front, front <+: cs → front.count '\x7d' ≤ depth + front.count '\x7b' := by
  induction cs generalizing depth with
  | nil => simp
  | cons c cs ih =>
      rw [depthAfter_cons, forall_prefix_cons (by simp)]
      by_cases hopen : c = '\x7b'
      · have hstep : depthStep depth c = some (depth + 1) := by simp [depthStep, hopen]
        have hopened (front : List Char) : (c :: front).count '\x7b' = front.count '\x7b' + 1 := by
          simp [hopen]
        have hclosed (front : List Char) : (c :: front).count '\x7d' = front.count '\x7d' := by
          simp [hopen]
        simp only [hstep, Option.bind_some, ih, hopened, hclosed]
        exact and_congr (by omega) (forall₂_congr fun _ _ => by omega)
      by_cases hclose : c = '\x7d'
      · have hopened (front : List Char) : (c :: front).count '\x7b' = front.count '\x7b' := by
          simp [hclose]
        have hclosed (front : List Char) : (c :: front).count '\x7d' = front.count '\x7d' + 1 := by
          simp [hclose]
        cases depth with
        | zero =>
            -- the prefix that ends here closes one too many
            simp only [depthStep_eq_none_iff.2 ⟨hclose, rfl⟩, Option.bind_none, reduceCtorEq,
              false_iff]
            rintro ⟨-, hnested⟩
            exact absurd (hnested [] List.nil_prefix) (by simp [hclose])
        | succ depth =>
            have hstep : depthStep (depth + 1) c = some depth := by simp [depthStep, hclose]
            simp only [hstep, Option.bind_some, ih, hopened, hclosed]
            exact and_congr (by omega) (forall₂_congr fun _ _ => by omega)
      · have hstep : depthStep depth c = some depth := by simp [depthStep, hopen, hclose]
        simp [hstep, ih, hopen, hclose]

theorem balanced_iff_depthAfter {cs : List Char} : Balanced cs ↔ depthAfter 0 cs = some 0 := by
  simp only [depthAfter_eq_some_iff, Nat.zero_add]
  exact ⟨fun h => ⟨h.closed, h.nested⟩, fun ⟨hclosed, hnested⟩ => ⟨hclosed, hnested⟩⟩

end HistEdit.Clause

namespace HistEdit.Segment

variable {run clause blanks : List Char} {flags : Flags} {pattern : Option Pattern}
  {substitution : Option String}

/-- A clause that is a text of its own stays the same in front of a block: the brace keeps the
clause from having a substitution that it did not have. -/
theorem ClauseForm.before_block [PatternEngine] (hblanks : ∀ c ∈ blanks, Clause.isBlank c = true)
    (tail : List Char) (h : ClauseForm clause pattern substitution []) :
    ClauseForm (clause ++ (blanks ++ '\x7b' :: tail)) pattern substitution
      (blanks ++ '\x7b' :: tail) := by
  cases h with
  | absent hhead =>
      refine .absent ?_
      cases blanks with
      | nil => simp [Clause.brace_not_other]
      | cons c blanks => simpa using (Clause.isBlank_not_other (hblanks c (by simp))).1
  | pattern hmark hmasked heven hpattern hnone =>
      have hdrop : (blanks ++ '\x7b' :: tail).dropWhile Clause.isBlank = '\x7b' :: tail :=
        Text.dropWhile_run hblanks (by simp [Clause.brace_not_other])
      simp only [List.cons_append, List.append_assoc, List.nil_append]
      exact .pattern hmark hmasked heven hpattern (by simp [Clause.splitSubstitution, hdrop])
  | substitution hmark hmasked heven hpattern hsome =>
      obtain ⟨-, hcut⟩ := (Clause.splitSubstitution_eq_some_iff hmark).1 hsome
      simp only [List.cons_append, List.append_assoc, List.nil_append]
      exact .substitution hmark hmasked heven hpattern
        ((Clause.splitSubstitution_eq_some_iff hmark).2 ⟨rfl, hcut⟩)

theorem ClauseForm.isDelimiter_head [PatternEngine] {mark : Char}
    (h : ClauseForm (mark :: clause) pattern substitution []) :
    Clause.isDelimiter mark = true := by
  cases h with
  | pattern hmark _ _ _ _ => exact hmark
  | substitution hmark _ _ _ _ => exact hmark

theorem ClauseForm.head?_before_block [PatternEngine]
    (hblanks : ∀ c ∈ blanks, Clause.isBlank c = true) (tail : List Char)
    (h : ClauseForm clause pattern substitution []) :
    ∀ c ∈ (clause ++ (blanks ++ '\x7b' :: tail)).head?, Clause.isRunChar c = false := by
  cases clause with
  | nil =>
      cases blanks with
      | nil => simp [Clause.brace_not_other]
      | cons c blanks => simpa using (Clause.isBlank_not_other (hblanks c (by simp))).2.1
  | cons mark clause => simpa using (Clause.isDelimiter_not_other h.isDelimiter_head).2.2.1

/-- Blanks before a block are skipped with what stands before the expression, or else they stay
behind its head. -/
theorem exists_head_before_block [PatternEngine] (hflags : Flags.decode run = .ok flags)
    (hclause : ClauseForm clause pattern substitution [])
    (hblanks : ∀ c ∈ blanks, Clause.isBlank c = true) (tail : List Char) :
    ∃ kept, (∀ c ∈ kept, Clause.isBlank c = true) ∧
      (run ++ (clause ++ (blanks ++ '\x7b' :: tail))).dropWhile isGap =
        run ++ (clause ++ (kept ++ '\x7b' :: tail)) := by
  cases run with
  | cons c run =>
      have hc := isGap_of_isRunChar (Flags.isRunChar_of_decode hflags c (by simp))
      exact ⟨blanks, hblanks, by simp [hc]⟩
  | nil =>
      cases clause with
      | cons mark clause =>
          obtain ⟨hblank, hseparator, -⟩ := Clause.isDelimiter_not_other hclause.isDelimiter_head
          exact ⟨blanks, hblanks, by simp [isGap, hblank, hseparator]⟩
      | nil =>
          have hgap : ∀ c ∈ blanks, isGap c = true := fun c hc => by simp [isGap, hblanks c hc]
          exact ⟨[], by simp, Text.dropWhile_run hgap (by simp [isGap, Clause.brace_not_other])⟩

/-- Behind flags, a clause and blanks, an opening brace begins the block of the expression. -/
theorem next?_block [PatternEngine] (hflags : Flags.decode run = .ok flags)
    (hclause : ClauseForm clause pattern substitution [])
    (hblanks : ∀ c ∈ blanks, Clause.isBlank c = true) (tail : List Char) :
    next? (run ++ (clause ++ (blanks ++ '\x7b' :: tail))) =
      (readBody ((run ++ (clause ++ (blanks ++ '\x7b' :: tail))).dropWhile isGap)
        ('\x7b' :: tail)).map fun (body, rest) =>
          some ⟨⟨flags, pattern, substitution⟩, body, rest⟩ := by
  obtain ⟨kept, hkept, hstart⟩ := exists_head_before_block hflags hclause hblanks tail
  have hrun := readFlags_run hflags (hclause.head?_before_block hkept tail)
  have hdrop : (kept ++ '\x7b' :: tail).dropWhile Clause.isBlank = '\x7b' :: tail :=
    Text.dropWhile_run hkept (by simp [Clause.brace_not_other])
  obtain ⟨c, start, hcons⟩ : ∃ c start, run ++ (clause ++ (kept ++ '\x7b' :: tail)) = c :: start :=
    List.exists_cons_of_ne_nil (by simp)
  have hread : readClause (c :: start) (clause ++ (kept ++ '\x7b' :: tail)) =
      .ok (pattern, substitution, kept ++ '\x7b' :: tail) :=
    readClause_eq_ok_iff.2 (hclause.before_block hkept tail)
  rw [hcons] at hstart hrun
  simp only [next?, hstart, read, hrun, hread, hdrop]
  cases readBody (c :: start) ('\x7b' :: tail) <;> rfl

theorem readBody_block {body : List Char} (h : Clause.Balanced body) (start rest : List Char) :
    readBody start ('\x7b' :: (body ++ '\x7d' :: rest)) =
      .ok (.block (Text.trimEndWhere isGap body), rest) :=
  readBody_eq_ok_iff.2 (.block (Clause.balanced_iff_depthAfter.1 h))

theorem readBody_unmatched {tail : List Char}
    (h : ∀ body rest, tail = body ++ '\x7d' :: rest → ¬Clause.Balanced body) (start : List Char) :
    readBody start ('\x7b' :: tail) = .error (.unmatchedBrace (String.ofList start)) := by
  have hnone : Clause.splitBrace 0 tail = none := by
    rw [Option.eq_none_iff_forall_ne_some]
    rintro ⟨body, rest⟩ hcut
    obtain ⟨htail, hdepth⟩ := Clause.splitBrace_eq_some_iff.1 hcut
    exact h body rest htail (Clause.balanced_iff_depthAfter.2 hdepth)
  simp [readBody, Clause.brace_not_other, hnone]

end HistEdit.Segment

namespace HistEdit.Expression

variable (functions : Functions) (resolution : Resolution) {run clause blanks : List Char}
  {flags : Flags} {pattern : Option Pattern} {substitution : Option String}

/-- A block is read as its text, blanks and separators at its end included. -/
theorem next?_block [PatternEngine] (hflags : Flags.decode run = .ok flags)
    (hclause : Segment.ClauseForm clause pattern substitution [])
    (hblanks : ∀ c ∈ blanks, Clause.isBlank c = true) {body : List Char}
    (hbody : Clause.Balanced body) (rest : List Char) :
    SameResult
      (next? functions resolution
        (run ++ (clause ++ (blanks ++ '\x7b' :: (body ++ '\x7d' :: rest)))))
      ((readList functions resolution body).map fun children =>
        some (.block ⟨flags, pattern, substitution⟩ children, rest)) := by
  have hnext : Segment.next? (run ++ (clause ++ (blanks ++ '\x7b' :: (body ++ '\x7d' :: rest)))) =
      .ok (some ⟨⟨flags, pattern, substitution⟩, .block (Text.trimEndWhere Segment.isGap body),
        rest⟩) := by
    rw [Segment.next?_block hflags hclause hblanks, Segment.readBody_block hbody]
    rfl
  have hsame := (readList_trimEndWhere_gap functions resolution body).map fun children =>
    some (Expression.block ⟨flags, pattern, substitution⟩ children, rest)
  simp only [next?, hnext, ofSegment]
  generalize readList functions resolution (Text.trimEndWhere Segment.isGap body) = trimmed
    at hsame ⊢
  cases trimmed with
  | error error => exact hsame
  | ok children => exact hsame

theorem next?_unmatched [PatternEngine] (hflags : Flags.decode run = .ok flags)
    (hclause : Segment.ClauseForm clause pattern substitution [])
    (hblanks : ∀ c ∈ blanks, Clause.isBlank c = true) {tail : List Char}
    (htail : ∀ body rest, tail = body ++ '\x7d' :: rest → ¬Clause.Balanced body) :
    next? functions resolution (run ++ (clause ++ (blanks ++ '\x7b' :: tail))) =
      .error (.unmatchedBrace (String.ofList
        ((run ++ (clause ++ (blanks ++ '\x7b' :: tail))).dropWhile Segment.isGap))) := by
  rw [next?, Segment.next?_block hflags hclause hblanks, Segment.readBody_unmatched htail]
  rfl

end HistEdit.Expression

namespace HistEdit.Cursor

open Text

/-- A block is read as its body. Behind flags that decode, a clause that is read whole and any
blanks, the braces around a balanced text are a block of what the text reads as alone, and the
cursor stands behind the last of them, whatever follows. Where the text fails, so does the call, and
only the end of the text that the error quotes may be another one. Where no balanced text stands
between the first brace and another, the call fails for that reason. -/
theorem parse_block [PatternEngine] (functions : Functions) (resolution : Resolution)
    {run clause blanks : List Char} {flags : Flags} {pattern : Option Pattern}
    {substitution : Option String} (hflags : Flags.decode run = .ok flags)
    (hclause : Segment.readClause clause clause = .ok (pattern, substitution, []))
    (hblanks : ∀ c ∈ blanks, Clause.isBlank c = true) :
    (∀ body rest, Clause.Balanced body →
      let front := run ++ (clause ++ (blanks ++ '\x7b' :: (body ++ ['\x7d'])))
      ∀ steps, (front ++ rest).length ≤ steps →
        (∀ children, parseList functions resolution steps body = .ok children →
          parse functions resolution steps (front ++ rest) 0 =
            (.ok (some (.block ⟨flags, pattern, substitution⟩ children)), byteLength front)) ∧
        (∀ fault, parseList functions resolution steps body = .error fault →
          ∃ error other, fault = .invalid error ∧ other.unquoted = error.unquoted ∧
            other.kind = error.kind ∧
            parse functions resolution steps (front ++ rest) 0 = (.error (.invalid other), 0))) ∧
    (∀ tail, (∀ body rest, tail = body ++ '\x7d' :: rest → ¬Clause.Balanced body) →
      let text := run ++ (clause ++ (blanks ++ '\x7b' :: tail))
      ∀ steps, text.length ≤ steps →
        parse functions resolution steps text 0 =
          (.error (.invalid (.unmatchedBrace (String.ofList (text.dropWhile Segment.isGap)))),
            0)) := by
  have hform : Segment.ClauseForm clause pattern substitution [] :=
    Segment.readClause_eq_ok_iff.1 hclause
  refine ⟨?_, ?_⟩
  · intro body rest hbody front steps hsteps
    have htext : front ++ rest =
        run ++ (clause ++ (blanks ++ '\x7b' :: (body ++ '\x7d' :: rest))) := by simp [front]
    have hlength : body.length < steps := by
      simp only [front, List.length_append, List.length_cons, List.length_nil] at hsteps
      omega
    have hparse := parse_eq functions resolution (At.start (front ++ rest)) hsteps
    have hsame := Expression.next?_block functions resolution hflags hform hblanks hbody rest
    rw [← htext] at hsame
    rw [parseList_eq functions resolution hlength]
    cases hread : Expression.readList functions resolution body with
    | ok children =>
        rw [hread] at hsame
        rw [hsame.eq_ok rfl] at hparse
        obtain ⟨behind, ⟨before, hbefore, rfl⟩, hparse⟩ := hparse
        refine ⟨?_, by simp [valid, Except.mapError]⟩
        intro found hfound
        obtain rfl := Except.ok.inj hfound
        rw [hparse, List.append_cancel_right hbefore]
    | error error =>
        rw [hread] at hsame
        obtain ⟨other, hother, hunquoted⟩ := hsame.exists_error rfl
        rw [hother] at hparse
        refine ⟨by simp [valid, Except.mapError], ?_⟩
        intro fault hfault
        have hkind : other.kind = error.kind := by
          rw [← other.kind_unquoted, hunquoted, error.kind_unquoted]
        exact ⟨error, other, (Except.error.inj hfault).symm, hunquoted, hkind, hparse⟩
  · intro tail htail text steps hsteps
    have hparse := parse_eq functions resolution (At.start text) hsteps
    rwa [Expression.next?_unmatched functions resolution hflags hform hblanks htail] at hparse

/-- A clause without substitution in front of a block with marks of the same kind, with braces in
the pattern, and with blanks and separators before the last brace. -/
theorem parse_block_nested :
    let clause := "/h[0-9]\x7b2\x7d/".toList
    let body := " t//x/; /b/ \x7b norm; \x7d; \n ".toList
    let front := "n".toList ++ (clause ++ (" ".toList ++ '\x7b' :: (body ++ ['\x7d'])))
    ∃ flags pattern children,
      Flags.decode "n".toList = .ok flags ∧
      Segment.readClause clause clause = .ok (some pattern, none, []) ∧
      pattern.source = "h[0-9]\x7b2\x7d" ∧
      Clause.Balanced body ∧
      children.map Expression.text = ["t//x/", "g/b/ \x7b g norm \x7d"] ∧
      parse .builtin .histogram 60 (front ++ "; t/a/b/".toList) 0 =
        (.ok (some (.block ⟨flags, some pattern, none⟩ children)), 40) := by
  intro clause body front
  obtain ⟨flags, hflags, -⟩ := exists_ok_of_toOption (Flags.decode "n".toList) (fun _ => ())
    (b := ()) (by decide +kernel)
  obtain ⟨⟨found, substitution, behind⟩, hclause, hview⟩ := exists_ok_of_toOption
    (Segment.readClause clause clause)
    (fun read => (read.1.map Pattern.source, read.2))
    (b := (some "h[0-9]\x7b2\x7d", none, [])) (by decide +kernel)
  obtain ⟨hfound, rfl, rfl⟩ : found.map Pattern.source = some "h[0-9]\x7b2\x7d" ∧
      substitution = none ∧ behind = [] := by simpa using hview
  obtain ⟨pattern, rfl, hsource⟩ := Option.map_eq_some_iff.1 hfound
  have hbody : Clause.Balanced body := Clause.balanced_iff_depthAfter.2 (by decide)
  obtain ⟨children, hchildren, htexts⟩ := exists_ok_of_toOption
    (parseList .builtin .histogram 60 body) (List.map Expression.text)
    (b := ["t//x/", "g/b/ \x7b g norm \x7d"]) (by decide +kernel)
  have hblanks : ∀ c ∈ " ".toList, Clause.isBlank c = true := List.all_eq_true.1 (by decide)
  have hparse := (parse_block .builtin .histogram hflags hclause hblanks).1 body
    "; t/a/b/".toList hbody 60 (by decide)
  have hlength : byteLength front = 40 := by decide +kernel
  refine ⟨flags, pattern, children, hflags, hclause, hsource, hbody, htexts, ?_⟩
  rw [← hlength]
  exact hparse.1 children hchildren

end HistEdit.Cursor
