import HistEdit.Proofs.Braces
import HistEdit.Proofs.Separator

/-!
Reading a normal form gives back what it was made from. The normal form puts slashes around every
pattern and substitution, so a slash that another delimiter left alone must not be read as one of
these; apart from that, every text that can be read may be replaced by its normal form.
-/

namespace HistEdit

/-- A rule whose clause can stand between slashes. -/
structure Rule.Plain (rule : Rule) : Prop where
  pattern : ∀ pattern ∈ rule.pattern, Clause.Masked '/' pattern.source.toList
  substitution : ∀ template ∈ rule.substitution, '/' ∉ template.toList

/-- An expression whose clauses can stand between slashes, at every depth. Behind a pattern without
a substitution, the text of a call must not look like one. -/
inductive Expression.Plain : Expression → Prop where
  | leaf {rule : Rule} {effect : Effect} (hrule : rule.Plain)
      (hcall : rule.pattern.isSome → rule.substitution = none →
        Clause.Masked '/' effect.text.toList) :
      Plain (.leaf rule effect)
  | block {rule : Rule} {children : List Expression} (hrule : rule.Plain)
      (hchildren : ∀ child ∈ children, child.Plain) :
      Plain (.block rule children)

instance (rule : Rule) : Decidable rule.Plain :=
  decidable_of_iff ((∀ pattern ∈ rule.pattern, Clause.Masked '/' pattern.source.toList) ∧
      ∀ template ∈ rule.substitution, '/' ∉ template.toList)
    ⟨fun h => ⟨h.1, h.2⟩, fun h => ⟨h.pattern, h.substitution⟩⟩

namespace Expression

theorem plain_leaf_iff {rule : Rule} {effect : Effect} :
    (Expression.leaf rule effect).Plain ↔
      rule.Plain ∧ (rule.pattern.isSome → rule.substitution = none →
        Clause.Masked '/' effect.text.toList) := by
  constructor
  · rintro ⟨hrule, hcall⟩
    exact ⟨hrule, hcall⟩
  · rintro ⟨hrule, hcall⟩
    exact .leaf hrule hcall

theorem plain_block_iff {rule : Rule} {children : List Expression} :
    (Expression.block rule children).Plain ↔ rule.Plain ∧ ∀ child ∈ children, child.Plain := by
  constructor
  · rintro ⟨⟩
    rename_i hrule hchildren
    exact ⟨hrule, hchildren⟩
  · rintro ⟨hrule, hchildren⟩
    exact .block hrule hchildren

mutual

def decidePlain : (expression : Expression) → Decidable expression.Plain
  | .leaf _ _ => decidable_of_iff _ plain_leaf_iff.symm
  | .block _ children =>
    have := decidePlainAll children
    decidable_of_iff _ plain_block_iff.symm

def decidePlainAll : (expressions : List Expression) →
    Decidable (∀ expression ∈ expressions, expression.Plain)
  | [] => .isTrue fun _ hmem => absurd hmem List.not_mem_nil
  | expression :: rest =>
    have := decidePlain expression
    have := decidePlainAll rest
    decidable_of_iff _ List.forall_mem_cons.symm

end

instance : DecidablePred Expression.Plain := decidePlain

end Expression

/-- The normal form of a text: that of the expressions which it reads as. -/
def normalize [PatternEngine] (functions : Functions) (resolution : Resolution) (text : String) :
    Except EditError String :=
  (Expression.readList functions resolution text.toList).map listText

end HistEdit

namespace HistEdit.Segment

variable {cs rest : List Char}

/-- A text without a mark that ends it is no substitution. -/
theorem splitSubstitution_of_masked {mark : Char} (hmark : Clause.isDelimiter mark = true)
    (h : Clause.Masked mark cs) : Clause.splitSubstitution mark cs = none := by
  rw [Option.eq_none_iff_forall_ne_some]
  rintro ⟨template, rest⟩ hsome
  obtain ⟨htext, -, heven, -⟩ := (Clause.splitSubstitution_eq_some_iff hmark).1 hsome
  exact Nat.not_even_iff_odd.2 (h template rest htext) heven

variable [PatternEngine]

/-- The normal form of a clause is the same clause, in front of anything that is not taken for
more of it. -/
theorem ClauseForm.normal {pattern : Option Pattern} {substitution : Option String}
    (h : ClauseForm cs pattern substitution rest)
    (hpattern : ∀ found ∈ pattern, Clause.Masked '/' found.source.toList)
    (hsubstitution : ∀ template ∈ substitution, '/' ∉ template.toList) {after : List Char}
    (hhead : ∀ c ∈ after.head?, Clause.isDelimiter c = false)
    (hnone : pattern.isSome → substitution = none →
      Clause.splitSubstitution '/' after = none) :
    ClauseForm (clauseText pattern substitution ++ after) pattern substitution after := by
  have hslash : Clause.isDelimiter '/' = true := by decide
  have hmasked {source : List Char} (hread : readPattern source = .ok pattern) :
      Clause.Masked '/' source := by
    have hsource := sourceText_of_readPattern hread
    cases pattern with
    | none =>
        have hempty : source = [] := hsource.symm
        exact hempty ▸ Clause.masked_of_not_mem (by simp)
    | some found => exact hsource ▸ hpattern found rfl
  cases h with
  | absent hfirst => exact .absent hhead
  | @pattern mark source rest pattern hmark hother heven hread hfollow =>
      have hsource := sourceText_of_readPattern hread
      cases pattern with
      | none => exact .absent hhead
      | some found =>
          have hform := ClauseForm.pattern hslash (hmasked hread) heven hread (hnone rfl rfl)
          simpa [clauseText, hsource] using hform
  | @substitution mark source raw rest pattern hmark hother heven hread hsome =>
      have hsource := sourceText_of_readPattern hread
      obtain ⟨other, -, -, hstorable⟩ :=
        (ClauseForm.substitution hmark hother heven hread hsome).storable
      generalize String.ofList (Clause.unescape mark raw) = template at hstorable hsubstitution ⊢
      have hslashless : '/' ∉ template.toList := hsubstitution template rfl
      have hescape := Clause.escape_of_not_mem hslashless
      have hcut :=
        Clause.splitSubstitution_escape hslash (hstorable.of_not_mem hslashless).writable after
      have hread' := Clause.unescape_escape hslash hstorable.noWholeMatch
      rw [hescape] at hcut hread'
      have hform := ClauseForm.substitution hslash (hmasked hread) heven hread hcut
      rw [hread', String.ofList_toList] at hform
      simpa [clauseText, hsource] using hform

/-- A rule that was read is read again from its normal form, whatever body follows it now. -/
theorem next?_normal {segment : Segment} (h : next? cs = .ok (some segment))
    (hplain : segment.rule.Plain) (after : List Char) {body : Body}
    (hhead : ∀ c ∈ after.head?, Clause.isBlank c = true)
    (hnone : segment.rule.pattern.isSome → segment.rule.substitution = none →
      Clause.splitSubstitution '/' after = none)
    (hbody : BodyForm (after.dropWhile Clause.isBlank) body rest) :
    next? (segment.rule.text.toList ++ after) = .ok (some ⟨segment.rule, body, rest⟩) := by
  obtain ⟨afterFlags, afterClause, -, -, hclause, -⟩ := next?_eq_ok_some_iff.1 h
  have hform := hclause.normal hplain.pattern hplain.substitution
    (fun c hc => (Clause.isBlank_not_other (hhead c hc)).1) hnone
  rw [Rule.toList_text, List.append_assoc]
  -- a slash or the blank behind the rule ends the flags
  refine next?_run (Flags.decode_encode _) ?_ (.inl (Flags.encode_ne_nil _)) hform hbody
  intro c hc
  rcases clauseText_eq segment.rule.pattern segment.rule.substitution with
    hempty | ⟨inside, hclauseText⟩
  · rw [hempty, List.nil_append] at hc
    exact (Clause.isBlank_not_other (hhead c hc)).2.1
  · have hslash : c = '/' := by simpa [hclauseText, eq_comm] using hc
    rw [hslash]
    decide

theorem next?_normal_nothing {segment : Segment} (h : next? cs = .ok (some segment))
    (hplain : segment.rule.Plain) :
    next? segment.rule.text.toList = .ok (some ⟨segment.rule, .nothing, []⟩) := by
  have hread := next?_normal h hplain [] (by simp) (fun _ _ => rfl) (.nothing (by simp))
  rwa [List.append_nil] at hread

theorem next?_normal_call {segment : Segment} {name args : String}
    (h : next? cs = .ok (some segment)) (hbody : segment.body = .call name args)
    (hname : name ≠ "") (hplain : segment.rule.Plain)
    (hmasked : segment.rule.pattern.isSome → segment.rule.substitution = none →
      Clause.Masked '/' (' ' :: (callText name args).toList)) :
    next? (segment.rule.text.toList ++ ' ' :: (callText name args).toList) =
      .ok (some ⟨segment.rule, .call name args, []⟩) := by
  obtain ⟨hcall, hparts⟩ := isCall_of_next? h hbody hname
  have hskip : ([' '] ++ (callText name args).toList).dropWhile Clause.isBlank =
      (callText name args).toList :=
    Text.dropWhile_run (by simp [Clause.isBlank]) fun c hc => (hcall.head c hc).1
  have hform := BodyForm.of_isCall hcall
  rw [hparts, ← hskip] at hform
  refine next?_normal h hplain _ (by simp [Clause.isBlank]) (fun hpattern hsubstitution => ?_) hform
  exact splitSubstitution_of_masked (by decide) (hmasked hpattern hsubstitution)

end HistEdit.Segment

namespace HistEdit.Expression

open Segment (Closed)

variable {functions : Functions} {resolution : Resolution}

theorem closed_listText {expressions : List Expression}
    (hclosed : ∀ expression ∈ expressions, Closed expression.text.toList)
    (hne : expressions ≠ []) : Closed (listText expressions).toList := by
  induction expressions with
  | nil => exact absurd rfl hne
  | cons expression rest ih =>
      cases rest with
      | nil => exact hclosed expression (by simp)
      | cons next rest =>
          have hrest := ih (fun e he => hclosed e (by simp [he])) (by simp)
          rw [toList_listText_cons_cons]
          exact Closed.append _ (Closed.append [';', ' '] hrest)

theorem Reads.closed [PatternEngine] {cs : List Char} {expressions : List Expression}
    (h : Reads .builtin resolution cs expressions) :
    ∀ expression ∈ expressions, Closed expression.text.toList := by
  induction h with
  | done hnext => simp
  | @nothing cs segment later hnext hbody hlater ih =>
      rw [List.forall_mem_cons]
      refine ⟨?_, ih⟩
      simpa [Expression.text, Effect.text] using Segment.closed_rule segment.rule
  | @call cs segment name args effect later hnext hbody heffect hlater ih =>
      rw [List.forall_mem_cons]
      refine ⟨?_, ih⟩
      have hcall := (Segment.isCall_of_next? hnext hbody (name_ne_empty_of_resolve heffect)).1
      simpa [Expression.text, text_of_resolve heffect] using
        Closed.append segment.rule.text.toList (Closed.append [' '] hcall.closed)
  | @block cs inner segment children later hnext hbody hchildren hlater _ ih =>
      rw [List.forall_mem_cons]
      refine ⟨?_, ih⟩
      have hbrace : Closed ['\x7d'] := ⟨'\x7d', rfl, by decide⟩
      simpa [Expression.text] using
        Closed.append (segment.rule.text ++ " \x7b" ++ blockText children ++ " ").toList hbrace

theorem readList_gap [PatternEngine] {c : Char} (hc : Segment.isGap c = true) (cs : List Char) :
    readList functions resolution (c :: cs) = readList functions resolution cs := by
  have hnext : Segment.next? (c :: cs) = Segment.next? cs := by
    simp [Segment.next?, hc]
  rw [readList_eq, hnext, ← readList_eq]

/-- Expressions that are read from their normal forms are read from the joined text. -/
theorem readList_listText [PatternEngine] {expressions : List Expression}
    (h : ∀ expression ∈ expressions,
      readList functions resolution expression.text.toList = .ok [expression]) :
    readList functions resolution (listText expressions).toList = .ok expressions := by
  induction expressions with
  | nil => exact readList_of_reads (.done rfl)
  | cons expression rest ih =>
      cases rest with
      | nil => exact h expression (by simp)
      | cons next rest =>
          have hrest := ih fun e he => h e (by simp [he])
          rw [toList_listText_cons_cons, readList_append (by decide) (h expression (by simp)),
            readList_gap (by decide), hrest]
          rfl

/-- The body of a block in normal form is its expressions in normal form, between blanks. -/
theorem bodyForm_block [PatternEngine] {cs inner : List Char} {segment : Segment}
    {children : List Expression} (hnext : Segment.next? cs = .ok (some segment))
    (hbody : segment.body = .block inner) (hchildren : Reads .builtin resolution inner children) :
    Segment.BodyForm ('\x7b' :: ((blockText children).toList ++ [' ', '\x7d']))
      (.block (blockText children).toList) [] := by
  -- the children need not be balanced one by one, only all of them together
  have hinner : Clause.depthAfter 0 (listText children).toList = some 0 := by
    rw [← hchildren.sameDepth 0]
    exact Segment.depthAfter_of_block hnext hbody
  have hdepth : Clause.depthAfter 0 ((blockText children).toList ++ [' ']) = some 0 := by
    rw [toList_blockText]
    by_cases hempty : children = []
    · simp [hempty, Clause.depthAfter_cons, Clause.depthStep]
    · simp [hempty, Clause.depthAfter_cons, Clause.depthAfter_append, Clause.depthStep, hinner]
  have htrim : Text.trimEndWhere Segment.isGap ((blockText children).toList ++ [' ']) =
      (blockText children).toList := by
    rw [toList_blockText]
    by_cases hempty : children = []
    · rw [if_pos hempty]
      rfl
    · rw [if_neg hempty]
      have hclosed := closed_listText hchildren.closed hempty
      exact (Closed.append [' '] hclosed).trimEndWhere (by simp [Segment.isGap, Clause.isBlank])
  have hform := @Segment.BodyForm.block _ [] hdepth
  rw [htrim, List.append_assoc] at hform
  exact hform

theorem toList_text_block (rule : Rule) (children : List Expression) :
    (Expression.block rule children).text.toList =
      rule.text.toList ++ ' ' :: '\x7b' :: ((blockText children).toList ++ [' ', '\x7d']) := by
  simp [Expression.text]

/-- Every expression that was read is read again from its normal form. -/
theorem Reads.normal [PatternEngine] {cs : List Char} {expressions : List Expression}
    (h : Reads .builtin resolution cs expressions)
    (hplain : ∀ expression ∈ expressions, expression.Plain) :
    ∀ expression ∈ expressions,
      readList .builtin resolution expression.text.toList = .ok [expression] := by
  have hend : Reads .builtin resolution [] [] := .done rfl
  induction h with
  | done hnext => simp
  | @nothing cs segment later hnext hbody hlater ih =>
      rw [List.forall_mem_cons] at hplain ⊢
      refine ⟨?_, ih hplain.2⟩
      cases hplain.1 with
      | leaf hrule hcall =>
          have hreads := Reads.nothing (Segment.next?_normal_nothing hnext hrule) rfl hend
          simpa [Expression.text, Effect.text] using readList_of_reads hreads
  | @call cs segment name args effect later hnext hbody heffect hlater ih =>
      rw [List.forall_mem_cons] at hplain ⊢
      refine ⟨?_, ih hplain.2⟩
      have heffectText : effect.text.toList = ' ' :: (callText name args).toList := by
        simp [text_of_resolve heffect]
      cases hplain.1 with
      | leaf hrule hcall =>
          rw [heffectText] at hcall
          have hread := Segment.next?_normal_call hnext hbody (name_ne_empty_of_resolve heffect)
            hrule hcall
          have hreads := Reads.call hread rfl heffect hend
          simpa [Expression.text, heffectText] using readList_of_reads hreads
  | @block cs inner segment children later hnext hbody hchildren hlater ihChildren ih =>
      rw [List.forall_mem_cons] at hplain ⊢
      refine ⟨?_, ih hplain.2⟩
      cases hplain.1 with
      | block hrule hplainChildren =>
          have hinside : readList .builtin resolution (blockText children).toList =
              .ok children := by
            rw [toList_blockText]
            by_cases hempty : children = []
            · rw [if_pos hempty, hempty]
              exact readList_of_reads hend
            · rw [if_neg hempty, readList_gap (by decide)]
              exact readList_listText (ihChildren hplainChildren)
          have hread := Segment.next?_normal hnext hrule
            (' ' :: '\x7b' :: ((blockText children).toList ++ [' ', '\x7d']))
            (by simp [Clause.isBlank])
            (fun _ _ => by simp [Clause.splitSubstitution, Clause.isBlank])
            (bodyForm_block hnext hbody hchildren)
          have hreads := Reads.block hread rfl (reads_of_readList hinside) hend
          rw [toList_text_block]
          exact readList_of_reads hreads

/-- Normal forms are read back, and normalizing twice is normalizing once. Where no pattern holds
a slash that ends it, no substitution holds a slash, and no call behind a bare pattern holds a
slash that ends a substitution, the normal form of an accepted text is accepted and reads as the
same expressions. -/
theorem readList_normal [PatternEngine] (resolution : Resolution) {text : String}
    {expressions : List Expression} (h : readList .builtin resolution text.toList = .ok expressions)
    (hplain : ∀ expression ∈ expressions, expression.Plain) :
    readList .builtin resolution (listText expressions).toList = .ok expressions ∧
      normalize .builtin resolution text = .ok (listText expressions) ∧
      normalize .builtin resolution (listText expressions) = .ok (listText expressions) := by
  have hread := readList_listText ((reads_of_readList h).normal hplain)
  refine ⟨hread, ?_, ?_⟩
  · rw [normalize, h]
    rfl
  · rw [normalize, hread]
    rfl

/-- Clauses with other delimiters, a whole match, a block with a brace in a pattern that is closed
in a substitution, and a call behind a bare pattern. -/
theorem readList_normal_block :
    ∃ expressions,
      readList .builtin .histogram
          "s|h_(a+)|$&[$1]|\x7bt,\\\x7b,c\x7d,;;y draw e ; \x7d \n n:^x:color 2 ".toList =
        .ok expressions ∧
      (∀ expression ∈ expressions, expression.Plain) ∧
      listText expressions =
        "sg/h_(a+)/$\x7b0\x7d[$1]/ \x7b t/\\\x7b/c\x7d/; y draw e \x7d; n/^x/ color 2" ∧
      readList .builtin .histogram (listText expressions).toList = .ok expressions := by
  obtain ⟨expressions, hread, hview⟩ := exists_ok_of_toOption
    (readList .builtin .histogram
      "s|h_(a+)|$&[$1]|\x7bt,\\\x7b,c\x7d,;;y draw e ; \x7d \n n:^x:color 2 ".toList)
    (fun expressions => (listText expressions, decide (∀ e ∈ expressions, e.Plain)))
    (b := ("sg/h_(a+)/$\x7b0\x7d[$1]/ \x7b t/\\\x7b/c\x7d/; y draw e \x7d; n/^x/ color 2", true))
    (by decide +kernel)
  simp only [Prod.mk.injEq, decide_eq_true_eq] at hview
  exact ⟨expressions, hread, hview.2, hview.1, (readList_normal .histogram hread hview.2).1⟩

end HistEdit.Expression
