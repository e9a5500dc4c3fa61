import HistEdit.Expression.Reader
import HistEdit.Proofs.Escape
import HistEdit.Proofs.FlagRun
import HistEdit.Proofs.Result

/-!
The parts of one expression: what its reading says about the text in front, and how a text that is
put together from such parts is read.
-/

namespace HistEdit.Segment

theorem readPattern_eq_ok_iff [PatternEngine] {source : List Char} {pattern : Option Pattern} :
    readPattern source = .ok pattern ↔
      (source = [] ∧ pattern = none) ∨
        (source ≠ [] ∧ ∃ found, pattern = some found ∧
          PatternEngine.compile? (String.ofList source) = some found) := by
  unfold readPattern
  cases source with
  | nil => simp [eq_comm]
  | cons c cs =>
      cases hcompile : PatternEngine.compile? (String.ofList (c :: cs)) with
      | none => simp
      | some found => simp [eq_comm]

/-- The source of a pattern is the text that it was read from. -/
theorem source_of_readPattern [PatternEngine] {source : List Char} {pattern : Option Pattern}
    (h : readPattern source = .ok pattern) :
    pattern.map Pattern.source = if source = [] then none else some (String.ofList source) := by
  rcases readPattern_eq_ok_iff.1 h with ⟨hempty, rfl⟩ | ⟨hne, found, rfl, hcompile⟩
  · simp [hempty]
  · simp [hne, PatternEngine.source_of_compile? hcompile]

/-- A run that can be read is read whole in front of any character that ends it. -/
theorem readFlags_run {run rest : List Char} {flags : Flags} (h : Flags.decode run = .ok flags)
    (hrest : ∀ c ∈ rest.head?, Clause.isRunChar c = false) :
    readFlags (run ++ rest) = .ok (flags, rest) := by
  have hrun := Flags.isRunChar_of_decode h
  simp [readFlags, Text.takeWhile_run hrun hrest, Text.dropWhile_run hrun hrest, h]

/-- The clauses that can follow a flag run, with what they are read as and what follows them. -/
inductive ClauseForm [PatternEngine] :
    List Char → Option Pattern → Option String → List Char → Prop where
  | absent {cs : List Char} (hhead : ∀ c ∈ cs.head?, Clause.isDelimiter c = false) :
      ClauseForm cs none none cs
  | pattern {mark : Char} {source rest : List Char} {pattern : Option Pattern}
      (hmark : Clause.isDelimiter mark = true) (hmasked : Clause.Masked mark source)
      (heven : Even (Clause.backslashes source)) (hpattern : readPattern source = .ok pattern)
      (hnone : Clause.splitSubstitution mark rest = none) :
      ClauseForm (mark :: (source ++ mark :: rest)) pattern none rest
  | substitution {mark : Char} {source template rest : List Char} {pattern : Option Pattern}
      (hmark : Clause.isDelimiter mark = true) (hmasked : Clause.Masked mark source)
      (heven : Even (Clause.backslashes source)) (hpattern : readPattern source = .ok pattern)
      (hsome : Clause.splitSubstitution mark (template ++ mark :: rest) = some (template, rest)) :
      ClauseForm (mark :: (source ++ mark :: (template ++ mark :: rest))) pattern
        (some (String.ofList (Clause.unescape mark template))) rest

/-- The reading of a clause is the clause that stands there. -/
theorem readClause_eq_ok_iff [PatternEngine] {start cs rest : List Char} {pattern : Option Pattern}
    {substitution : Option String} :
    readClause start cs = .ok (pattern, substitution, rest) ↔
      ClauseForm cs pattern substitution rest := by
  constructor
  · intro h
    cases cs with
    | nil =>
        simp only [readClause, Except.ok.injEq, Prod.mk.injEq] at h
        obtain ⟨rfl, rfl, rfl⟩ := h
        exact .absent (by simp)
    | cons mark cs =>
        by_cases hmark : Clause.isDelimiter mark = true
        · simp only [readClause, if_pos hmark] at h
          split at h
          · cases h
          · rename_i source after hcut
            obtain ⟨rfl, hmasked, heven⟩ :=
              (Clause.splitUnescaped_start_eq_some_iff hmark).1 hcut
            split at h
            · cases h
            · rename_i found hpattern
              split at h <;> simp only [Except.ok.injEq, Prod.mk.injEq] at h <;>
                obtain ⟨rfl, rfl, rfl⟩ := h
              · rename_i template tail hsome
                obtain rfl := Clause.splitSubstitution_eq hsome
                exact .substitution hmark hmasked heven hpattern hsome
              · rename_i hnone
                exact .pattern hmark hmasked heven hpattern hnone
        · simp only [readClause, if_neg hmark, Except.ok.injEq, Prod.mk.injEq] at h
          obtain ⟨rfl, rfl, rfl⟩ := h
          exact .absent (by simpa using hmark)
  · intro h
    have hcut {mark : Char} {source after : List Char} (hmark : Clause.isDelimiter mark = true)
        (hmasked : Clause.Masked mark source) (heven : Even (Clause.backslashes source)) :
        Clause.splitUnescaped mark false (source ++ mark :: after) = some (source, after) :=
      (Clause.splitUnescaped_start_eq_some_iff hmark).2 ⟨rfl, hmasked, heven⟩
    cases h with
    | absent hhead =>
        cases cs with
        | nil => rfl
        | cons c cs =>
            have hc : Clause.isDelimiter c = false := hhead c (by simp)
            simp [readClause, hc]
    | pattern hmark hmasked heven hpattern hnone =>
        simp [readClause, hmark, hcut hmark hmasked heven, hpattern, hnone]
    | substitution hmark hmasked heven hpattern hsome =>
        simp [readClause, hmark, hcut hmark hmasked heven, hpattern, hsome]

/-- The substitution of a clause can be written between two of its marks. -/
theorem ClauseForm.storable [PatternEngine] {cs rest : List Char} {pattern : Option Pattern}
    {template : String} (h : ClauseForm cs pattern (some template) rest) :
    ∃ mark, cs.head? = some mark ∧ Clause.isDelimiter mark = true ∧
      Clause.Storable mark template.toList := by
  cases h with
  | @substitution mark source raw rest pattern hmark hmasked heven hpattern hsome =>
      obtain ⟨-, hraw, hrawEven, hfree, hopen⟩ :=
        (Clause.splitSubstitution_eq_some_iff hmark).1 hsome
      refine ⟨mark, by simp, hmark, ?_⟩
      rw [String.toList_ofList]
      exact Clause.storable_unescape hmark hraw hrawEven hfree hopen

/-- What can follow a rule, with what it is read as and what follows it. -/
inductive BodyForm : List Char → Body → List Char → Prop where
  | nothing {cs : List Char} (hhead : ∀ c ∈ cs.head?, Clause.isSeparator c = true) :
      BodyForm cs .nothing cs
  | block {inner rest : List Char} (hdepth : Clause.depthAfter 0 inner = some 0) :
      BodyForm ('\x7b' :: (inner ++ '\x7d' :: rest)) (.block (Text.trimEndWhere isGap inner)) rest
  | call {text rest : List Char} (hne : text ≠ []) (hopen : text.head? ≠ some '\x7b')
      (hfree : ∀ c ∈ text, Clause.isSeparator c = false)
      (hrest : ∀ c ∈ rest.head?, Clause.isSeparator c = true) :
      BodyForm (text ++ rest) (.call (readCall text).1 (readCall text).2) rest

/-- What stands in front of the first separator is a call, unless it begins a block. -/
theorem BodyForm.call_run {c : Char} {cs : List Char} (hseparator : Clause.isSeparator c = false)
    (hopen : c ≠ '\x7b') :
    let text := (c :: cs).takeWhile fun c => !Clause.isSeparator c
    BodyForm (c :: cs) (.call (readCall text).1 (readCall text).2)
      ((c :: cs).dropWhile fun c => !Clause.isSeparator c) := by
  intro text
  have hne : text ≠ [] := by simp [text, hseparator]
  have hhead : text.head? ≠ some '\x7b' := by simpa [text, hseparator] using hopen
  have hfree : ∀ d ∈ text, Clause.isSeparator d = false := fun d hd => by
    simpa using List.mem_takeWhile_imp hd
  have hrest : ∀ d ∈ ((c :: cs).dropWhile fun c => !Clause.isSeparator c).head?,
      Clause.isSeparator d = true := by
    intro d hd
    have hstop := List.head?_dropWhile_not (fun c => !Clause.isSeparator c) (c :: cs)
    rw [hd] at hstop
    simpa using hstop
  have hform := BodyForm.call hne hhead hfree hrest
  rwa [List.takeWhile_append_dropWhile] at hform

theorem readBody_eq_ok_iff {start cs rest : List Char} {body : Body} :
    readBody start cs = .ok (body, rest) ↔ BodyForm cs body rest := by
  constructor
  · intro h
    cases cs with
    | nil =>
        simp only [readBody, Except.ok.injEq, Prod.mk.injEq] at h
        obtain ⟨rfl, rfl⟩ := h
        exact .nothing (by simp)
    | cons c cs =>
        simp only [readBody] at h
        split at h
        · rename_i hseparator
          simp only [Except.ok.injEq, Prod.mk.injEq] at h
          obtain ⟨rfl, rfl⟩ := h
          exact .nothing (by simpa using hseparator)
        · rename_i hseparator
          split at h
          · rename_i hopen
            subst hopen
            split at h
            · exact absurd h (by simp)
            · rename_i inner after hcut
              simp only [Except.ok.injEq, Prod.mk.injEq] at h
              obtain ⟨rfl, rfl⟩ := h
              obtain ⟨rfl, hdepth⟩ := Clause.splitBrace_eq_some_iff.1 hcut
              exact .block hdepth
          · rename_i hopen
            simp only [Except.ok.injEq, Prod.mk.injEq] at h
            obtain ⟨rfl, rfl⟩ := h
            exact .call_run (by simpa using hseparator) hopen
  · intro h
    cases h with
    | nothing hhead =>
        cases cs with
        | nil => rfl
        | cons c cs => simp [readBody, hhead c (by simp)]
    | @block inner rest hdepth =>
        have hcut : Clause.splitBrace 0 (inner ++ '\x7d' :: rest) = some (inner, rest) :=
          Clause.splitBrace_eq_some_iff.2 ⟨rfl, hdepth⟩
        have hseparator : Clause.isSeparator '\x7b' = false := by decide
        simp only [readBody, hseparator, hcut, if_true, Bool.false_eq_true, if_false]
        rfl
    | @call text rest hne hopen hfree hrest =>
        have hall : ∀ c ∈ text, (!Clause.isSeparator c) = true := by simpa using hfree
        have hstop : ∀ c ∈ rest.head?, (!Clause.isSeparator c) = false := by simpa using hrest
        have htake := Text.takeWhile_run hall hstop
        have hdrop := Text.dropWhile_run hall hstop
        cases text with
        | nil => exact absurd rfl hne
        | cons c text =>
            have hc : ¬Clause.isSeparator c = true := by simp [hfree c (by simp)]
            have hbrace : ¬c = '\x7b' := by simpa using hopen
            rw [List.cons_append] at htake hdrop ⊢
            simp only [readBody, if_neg hc, if_neg hbrace, htake, hdrop]

/-- The parts of the expression that is read first. -/
theorem next?_eq_ok_some_iff [PatternEngine] {cs : List Char} {segment : Segment} :
    next? cs = .ok (some segment) ↔
      ∃ afterFlags afterClause, cs.dropWhile isGap ≠ [] ∧
        readFlags (cs.dropWhile isGap) = .ok (segment.rule.flags, afterFlags) ∧
        ClauseForm afterFlags segment.rule.pattern segment.rule.substitution afterClause ∧
        BodyForm (afterClause.dropWhile Clause.isBlank) segment.body segment.rest := by
  unfold next?
  constructor
  · intro h
    cases hstart : cs.dropWhile isGap with
    | nil => simp [hstart] at h
    | cons c start =>
        simp only [hstart, read] at h
        cases hflags : readFlags (c :: start) with
        | error error => simp [hflags, Except.map] at h
        | ok read =>
            obtain ⟨flags, afterFlags⟩ := read
            simp only [hflags] at h
            cases hclause : readClause (c :: start) afterFlags with
            | error error => simp [hclause, Except.map] at h
            | ok read =>
                obtain ⟨pattern, substitution, afterClause⟩ := read
                simp only [hclause] at h
                cases hbody : readBody (c :: start) (afterClause.dropWhile Clause.isBlank) with
                | error error => simp [hbody, Except.map] at h
                | ok read =>
                    obtain ⟨body, rest⟩ := read
                    simp only [hbody, Except.map, Except.ok.injEq, Option.some.injEq] at h
                    subst h
                    exact ⟨afterFlags, afterClause, by simp, rfl,
                      readClause_eq_ok_iff.1 hclause, readBody_eq_ok_iff.1 hbody⟩
  · rintro ⟨afterFlags, afterClause, hne, hflags, hclause, hbody⟩
    cases hstart : cs.dropWhile isGap with
    | nil => exact absurd hstart hne
    | cons c start =>
        rw [hstart] at hflags
        have hread : readClause (c :: start) afterFlags =
            .ok (segment.rule.pattern, segment.rule.substitution, afterClause) :=
          readClause_eq_ok_iff.2 hclause
        have hlast : readBody (c :: start) (afterClause.dropWhile Clause.isBlank) =
            .ok (segment.body, segment.rest) := readBody_eq_ok_iff.2 hbody
        simp [read, hflags, hread, hlast, Except.map]

theorem next?_eq_ok_none_iff [PatternEngine] {cs : List Char} :
    next? cs = .ok none ↔ cs.dropWhile isGap = [] := by
  unfold next?
  cases cs.dropWhile isGap with
  | nil => simp
  | cons c start => simp [map_eq_ok_iff]

theorem isGap_of_isRunChar {c : Char} (h : Clause.isRunChar c = true) : isGap c = false := by
  obtain ⟨hblank, -, hseparator, -⟩ := Clause.isRunChar_not_other h
  simp [isGap, hblank, hseparator]

/-- A text with a flag run at its beginning is read by its parts. The run may be empty where a
clause follows. -/
theorem next?_run [PatternEngine] {run after afterClause rest : List Char} {rule : Rule}
    {body : Body} (hflags : Flags.decode run = .ok rule.flags)
    (hafter : ∀ c ∈ after.head?, Clause.isRunChar c = false)
    (hstart : run ≠ [] ∨ ∃ c ∈ after.head?, isGap c = false)
    (hclause : ClauseForm after rule.pattern rule.substitution afterClause)
    (hbody : BodyForm (afterClause.dropWhile Clause.isBlank) body rest) :
    next? (run ++ after) = .ok (some ⟨rule, body, rest⟩) := by
  have hskip : (run ++ after).dropWhile isGap = run ++ after ∧ run ++ after ≠ [] := by
    cases run with
    | nil =>
        obtain ⟨c, hhead, hgap⟩ := hstart.resolve_left (by simp)
        cases after with
        | nil => simp at hhead
        | cons d after =>
            have hd : d = c := by simpa using hhead
            simp [hd, hgap]
    | cons c run =>
        have hgap : isGap c = false :=
          isGap_of_isRunChar (Flags.isRunChar_of_decode hflags c (by simp))
        simp [hgap]
  rw [next?_eq_ok_some_iff, hskip.1]
  exact ⟨after, afterClause, hskip.2, readFlags_run hflags hafter, hclause, hbody⟩

end HistEdit.Segment
