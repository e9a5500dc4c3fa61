import HistEdit.Proofs.NormalText

/-!
The braces of a text and of its normal form. Patterns, substitutions and arguments may hold braces
that are not closed where they are opened; a block ends where the braces of all its expressions
together are closed. Normal forms open and close the same braces as the texts that were read, so a
block ends at the same place.
-/

namespace HistEdit.Clause

/-- Two texts that leave the same number of braces open, whatever number is open before. -/
def SameDepth (as bs : List Char) : Prop :=
  ∀ depth, depthAfter depth as = depthAfter depth bs

variable {as bs cs ds : List Char}

theorem SameDepth.refl (as : List Char) : SameDepth as as := fun _ => rfl

theorem SameDepth.symm (h : SameDepth as bs) : SameDepth bs as := fun depth => (h depth).symm

theorem SameDepth.trans (h : SameDepth as bs) (h' : SameDepth bs cs) : SameDepth as cs :=
  fun depth => (h depth).trans (h' depth)

theorem SameDepth.append (h : SameDepth as bs) (h' : SameDepth cs ds) :
    SameDepth (as ++ cs) (bs ++ ds) := by
  intro depth
  rw [depthAfter_append, depthAfter_append, h depth]
  cases depthAfter depth bs with
  | none => rfl
  | some inner => exact h' inner

theorem SameDepth.cons (c : Char) (h : SameDepth as bs) : SameDepth (c :: as) (c :: bs) :=
  (SameDepth.refl [c]).append h

theorem SameDepth.drop_left (as bs : List Char) (h : ∀ c ∈ as, c ≠ '\x7b' ∧ c ≠ '\x7d') :
    SameDepth (as ++ bs) bs := by
  intro depth
  induction as with
  | nil => rfl
  | cons c as ih =>
      obtain ⟨hopen, hclose⟩ := h c (by simp)
      have hrest := ih fun a ha => h a (by simp [ha])
      simpa [depthAfter_cons, depthStep, hopen, hclose] using hrest

theorem SameDepth.drop_right (as bs : List Char) (h : ∀ c ∈ bs, c ≠ '\x7b' ∧ c ≠ '\x7d') :
    SameDepth (as ++ bs) as := by
  have hnil : SameDepth bs [] := by simpa using SameDepth.drop_left bs [] h
  simpa using (SameDepth.refl as).append hnil

theorem SameDepth.drop_cons {c : Char} (h : c ≠ '\x7b' ∧ c ≠ '\x7d') (as : List Char) :
    SameDepth (c :: as) as :=
  SameDepth.drop_left [c] as (by simpa using h)

/-- A property of characters that no brace has. -/
theorem not_brace {p : Char → Bool} (hopen : p '\x7b' = false) (hclose : p '\x7d' = false)
    {c : Char} (h : p c = true) : c ≠ '\x7b' ∧ c ≠ '\x7d' := by
  refine ⟨?_, ?_⟩
  · rintro rfl
    exact absurd h (by simp [hopen])
  · rintro rfl
    exact absurd h (by simp [hclose])

theorem SameDepth.dropWhile {p : Char → Bool} (hopen : p '\x7b' = false)
    (hclose : p '\x7d' = false) (as : List Char) : SameDepth as (as.dropWhile p) := by
  have hdrop := SameDepth.drop_left (as.takeWhile p) (as.dropWhile p)
    fun c hc => not_brace hopen hclose (List.mem_takeWhile_imp hc)
  rwa [List.takeWhile_append_dropWhile] at hdrop

theorem SameDepth.trimEndWhere {p : Char → Bool} (hopen : p '\x7b' = false)
    (hclose : p '\x7d' = false) (as : List Char) : SameDepth as (Text.trimEndWhere p as) := by
  obtain ⟨cut, hcut, htext⟩ := Text.exists_trimEndWhere_append p as
  have hdrop := SameDepth.drop_right (Text.trimEndWhere p as) cut
    fun c hc => not_brace hopen hclose (hcut c hc)
  rwa [← htext] at hdrop

theorem SameDepth.unescape {mark : Char} (hmark : isDelimiter mark = true) (as : List Char) :
    SameDepth (unescape mark as) as :=
  fun depth => depthAfter_unescape hmark depth as

theorem SameDepth.marks {mark : Char} (hmark : isDelimiter mark = true) (as bs : List Char) :
    SameDepth (mark :: (as ++ mark :: bs)) (as ++ bs) := by
  have hbrace := not_brace rfl rfl hmark
  exact (drop_cons hbrace _).trans ((refl as).append (drop_cons hbrace bs))

end HistEdit.Clause

namespace HistEdit.Segment

open Clause (SameDepth not_brace)

variable {start cs rest : List Char}

theorem sameDepth_encode (flags : Flags) (as : List Char) :
    SameDepth (flags.encode.toList ++ as) as :=
  SameDepth.drop_left flags.encode.toList as
    fun _ hc => not_brace rfl rfl (Flags.isFlagChar_encode flags _ hc)

theorem sameDepth_of_readFlags {flags : Flags} (h : readFlags start = .ok (flags, rest)) :
    SameDepth start (flags.encode.toList ++ rest) := by
  refine SameDepth.trans ?_ (sameDepth_encode flags rest).symm
  simp only [readFlags] at h
  split at h
  · rename_i decoded hdecode
    simp only [Except.ok.injEq, Prod.mk.injEq] at h
    have hdrop := SameDepth.drop_left (start.takeWhile Clause.isRunChar)
      (start.dropWhile Clause.isRunChar)
      fun _ hc => not_brace rfl rfl (Flags.isFlagChar_of_decode hdecode _ hc)
    rwa [List.takeWhile_append_dropWhile, h.2] at hdrop
  · split at h
    · exact absurd h (by simp)
    · simp only [Except.ok.injEq, Prod.mk.injEq] at h
      exact h.2 ▸ SameDepth.refl start

/-- The normal form of a clause counts like the clause: the delimiter is another one, and the
substitution is read. -/
theorem ClauseForm.sameDepth [PatternEngine] {pattern : Option Pattern}
    {substitution : Option String} (h : ClauseForm cs pattern substitution rest) :
    SameDepth cs (clauseText pattern substitution ++ rest) := by
  have hslash : Clause.isDelimiter '/' = true := by decide
  cases h with
  | absent hhead => exact SameDepth.refl cs
  | @pattern mark source rest pattern hmark hmasked heven hpattern hnone =>
      have hsource := sourceText_of_readPattern hpattern
      refine (SameDepth.marks hmark source rest).trans ?_
      cases pattern with
      | none =>
          have hempty : source = [] := hsource.symm
          subst hempty
          exact SameDepth.refl rest
      | some pattern =>
          simpa [clauseText, hsource] using (SameDepth.marks hslash source rest).symm
  | @substitution mark source template rest pattern hmark hmasked heven hpattern hsome =>
      have hsource := sourceText_of_readPattern hpattern
      have hmarks := SameDepth.drop_cons (not_brace rfl rfl hmark) rest
      have hslashes := SameDepth.drop_cons (not_brace rfl rfl hslash) rest
      have htemplate := (SameDepth.unescape hmark template).symm
      have hread : SameDepth (source ++ (template ++ mark :: rest))
          (source ++ (Clause.unescape mark template ++ '/' :: rest)) :=
        (SameDepth.refl source).append (htemplate.append (hmarks.trans hslashes.symm))
      refine ((SameDepth.marks hmark source _).trans hread).trans ?_
      simpa [clauseText, hsource] using (SameDepth.marks hslash source _).symm

def Body.text : Body → List Char
  | .nothing => []
  | .block inner => '\x7b' :: (inner ++ ['\x7d'])
  | .call name args => (callText name args).toList

theorem BodyForm.sameDepth {body : Body} (h : BodyForm cs body rest) :
    SameDepth cs (body.text ++ rest) := by
  cases h with
  | nothing hhead => exact SameDepth.refl cs
  | @block inner rest hdepth =>
      have htrim := SameDepth.trimEndWhere (p := isGap) rfl rfl inner
      simpa [Body.text] using (htrim.append (SameDepth.refl ('\x7d' :: rest))).cons '\x7b'
  | @call text rest hne hopen hfree hrest =>
      have htrim := SameDepth.trimEndWhere (p := Text.isSpace) rfl rfl text
      simp only [Body.text, callText_readCall]
      exact htrim.append (SameDepth.refl rest)

/-- The inside of a block closes every brace that it opens. -/
theorem depthAfter_of_block [PatternEngine] {segment : Segment} (h : next? cs = .ok (some segment))
    {inner : List Char} (hbody : segment.body = .block inner) :
    Clause.depthAfter 0 inner = some 0 := by
  obtain ⟨afterFlags, afterClause, -, -, -, hform⟩ := next?_eq_ok_some_iff.1 h
  rw [hbody] at hform
  generalize afterClause.dropWhile Clause.isBlank = cs at hform
  cases hform with
  | @block inner rest hdepth =>
      rw [← SameDepth.trimEndWhere (p := isGap) rfl rfl inner 0]
      exact hdepth

theorem sameDepth_of_next? [PatternEngine] {segment : Segment} (h : next? cs = .ok (some segment)) :
    SameDepth cs (segment.rule.text.toList ++ (segment.body.text ++ segment.rest)) := by
  obtain ⟨afterFlags, afterClause, -, hflags, hclause, hbody⟩ := next?_eq_ok_some_iff.1 h
  have hafterClause : SameDepth afterClause (segment.body.text ++ segment.rest) :=
    (SameDepth.dropWhile rfl rfl afterClause).trans hbody.sameDepth
  have hafterFlags : SameDepth afterFlags
      (clauseText segment.rule.pattern segment.rule.substitution ++
        (segment.body.text ++ segment.rest)) :=
    hclause.sameDepth.trans ((SameDepth.refl _).append hafterClause)
  rw [Rule.toList_text, List.append_assoc]
  exact (SameDepth.dropWhile rfl rfl cs).trans ((sameDepth_of_readFlags hflags).trans
    ((SameDepth.refl _).append hafterFlags))

end HistEdit.Segment

namespace HistEdit.Expression

open Clause (SameDepth not_brace)

theorem sameDepth_listText_cons (expression : Expression) (later : List Expression) :
    SameDepth (expression.text.toList ++ (listText later).toList)
      (listText (expression :: later)).toList := by
  cases later with
  | nil => simpa using SameDepth.refl expression.text.toList
  | cons next rest =>
      rw [toList_listText_cons_cons]
      refine (SameDepth.refl _).append (SameDepth.symm ?_)
      exact SameDepth.drop_left [';', ' '] _ (by simp)

theorem sameDepth_text_block (rule : Rule) (children : List Expression) :
    SameDepth (rule.text.toList ++ '\x7b' :: ((listText children).toList ++ ['\x7d']))
      (Expression.block rule children).text.toList := by
  have hblank (as : List Char) : SameDepth as (' ' :: as) :=
    (SameDepth.drop_cons (by decide) as).symm
  have hchildren : SameDepth (listText children).toList (blockText children).toList := by
    rw [toList_blockText]
    by_cases hempty : children = []
    · rw [if_pos hempty, hempty]
      exact SameDepth.refl []
    · rw [if_neg hempty]
      exact hblank _
  have hinside := (hchildren.append (hblank ['\x7d'])).cons '\x7b'
  simpa [Expression.text] using (SameDepth.refl rule.text.toList).append
    (hinside.trans (hblank _))

private theorem sameDepth_cons [PatternEngine] {cs : List Char} {segment : Segment}
    {expression : Expression} {later : List Expression}
    (hnext : Segment.next? cs = .ok (some segment))
    (hexpression : SameDepth (segment.rule.text.toList ++ segment.body.text) expression.text.toList)
    (hlater : SameDepth segment.rest (listText later).toList) :
    SameDepth cs (listText (expression :: later)).toList := by
  have hsegment := Segment.sameDepth_of_next? hnext
  rw [← List.append_assoc] at hsegment
  exact (hsegment.trans (hexpression.append hlater)).trans (sameDepth_listText_cons _ _)

/-- A text and the normal form of what it reads as open and close the same braces. -/
theorem Reads.sameDepth [PatternEngine] {functions : Functions} {resolution : Resolution}
    {cs : List Char} {expressions : List Expression}
    (h : Reads functions resolution cs expressions) :
    SameDepth cs (listText expressions).toList := by
  induction h with
  | @done cs hnext =>
      have hgap := SameDepth.dropWhile (p := Segment.isGap) rfl rfl cs
      rwa [Segment.next?_eq_ok_none_iff.1 hnext] at hgap
  | nothing hnext hbody hlater ih =>
      refine sameDepth_cons hnext ?_ ih
      simpa [hbody, Segment.Body.text, Expression.text, Effect.text] using SameDepth.refl _
  | @call cs segment name args effect later hnext hbody heffect hlater ih =>
      refine sameDepth_cons hnext ?_ ih
      have hblank := SameDepth.drop_cons (c := ' ') (by decide) (callText name args).toList
      simpa [hbody, Segment.Body.text, Expression.text, text_of_resolve heffect] using
        (SameDepth.refl segment.rule.text.toList).append hblank.symm
  | @block cs inner segment children later hnext hbody hchildren hlater ihChildren ih =>
      refine sameDepth_cons hnext (SameDepth.trans ?_ (sameDepth_text_block _ children)) ih
      rw [hbody, Segment.Body.text]
      exact (SameDepth.refl _).append ((ihChildren.append (SameDepth.refl ['\x7d'])).cons '\x7b')

end HistEdit.Expression
