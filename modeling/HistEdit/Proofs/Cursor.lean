import HistEdit.Grouping
import HistEdit.Pattern.Machine
import HistEdit.Proofs.ByteScan
import HistEdit.Proofs.Reading

/-!
Reading with a cursor is reading. The reader that scans bytes and cuts the text at the positions
it finds does, at every place between two characters, what the reader of characters does with the
rest of the text. So its cuts are all between characters, its cursor only moves on, and it ends.
-/

namespace HistEdit.Expression

variable [PatternEngine] {functions : Functions} {resolution : Resolution}

/-- One step of reading, in terms of the expression that comes first. -/
theorem readList_eq_next? (cs : List Char) :
    readList functions resolution cs =
      match next? functions resolution cs with
      | .error error => .error error
      | .ok none => .ok []
      | .ok (some (expression, later)) =>
        (readList functions resolution later).map (expression :: ·) := by
  rw [readList_eq, next?]
  cases Segment.next? cs with
  | error error => rfl
  | ok segment =>
      cases segment with
      | none => rfl
      | some segment =>
          simp only
          cases ofSegment functions resolution segment <;> rfl

theorem length_next? {cs later : List Char} {expression : Expression}
    (h : next? functions resolution cs = .ok (some (expression, later))) :
    later.length < cs.length := by
  unfold next? at h
  cases hnext : Segment.next? cs with
  | error error => simp [hnext] at h
  | ok segment =>
      cases segment with
      | none => simp [hnext] at h
      | some segment =>
          rw [hnext] at h
          obtain ⟨found, -, hpair⟩ := map_eq_ok_iff.1 h
          obtain ⟨-, rfl⟩ := Prod.mk.inj (Option.some.inj hpair)
          exact (Segment.next?_shorter hnext).1

theorem next?_eq_ok_none_iff {cs : List Char} :
    next? functions resolution cs = .ok none ↔ ∀ c ∈ cs, Segment.isGap c = true := by
  rw [← List.dropWhile_eq_nil_iff, ← Segment.next?_eq_ok_none_iff, next?]
  cases Segment.next? cs with
  | error error => simp
  | ok segment =>
      cases segment with
      | none => simp
      | some segment => simp [map_eq_ok_iff]

/-- The text in a block and the text behind it have no character in common. -/
theorem length_block {cs inner : List Char} {segment : Segment}
    (hnext : Segment.next? cs = .ok (some segment)) (hbody : segment.body = .block inner) :
    inner.length + segment.rest.length < cs.length := by
  obtain ⟨afterFlags, afterClause, -, hflags, hclause, hform⟩ :=
    Segment.next?_eq_ok_some_iff.1 hnext
  have hclause : Segment.readClause cs afterFlags =
      .ok (segment.rule.pattern, segment.rule.substitution, afterClause) :=
    Segment.readClause_eq_ok_iff.2 hclause
  have hsuffix : afterClause.dropWhile Clause.isBlank <:+ cs :=
    (List.dropWhile_suffix _).trans ((Segment.readClause_suffix hclause).trans
      ((Segment.readFlags_suffix hflags).trans (List.dropWhile_suffix _)))
  have hlength := hsuffix.length_le
  rw [hbody] at hform
  generalize afterClause.dropWhile Clause.isBlank = text at hform hlength
  cases hform with
  | @block raw rest hdepth =>
      obtain ⟨cut, -, hraw⟩ := Text.exists_trimEndWhere_append Segment.isGap raw
      have htrim := congrArg List.length hraw
      simp only [List.length_append, List.length_cons] at htrim hlength
      omega

/-- A text has no fewer characters than there are expressions in it, at all depths. -/
theorem length_allSubexpressions_le {cs : List Char} {expressions : List Expression}
    (h : Reads functions resolution cs expressions) :
    (allSubexpressions expressions).length ≤ cs.length := by
  induction h with
  | done hnext => exact Nat.zero_le _
  | nothing hnext hbody hlater ih =>
      have hshorter := (Segment.next?_shorter hnext).1
      simp only [allSubexpressions, subexpressions, List.length_append, List.length_singleton]
      omega
  | call hnext hbody heffect hlater ih =>
      have hshorter := (Segment.next?_shorter hnext).1
      simp only [allSubexpressions, subexpressions, List.length_append, List.length_singleton]
      omega
  | block hnext hbody hchildren hlater ihChildren ih =>
      have hshorter := length_block hnext hbody
      simp only [allSubexpressions, subexpressions, List.length_append, List.length_singleton]
      omega

end HistEdit.Expression

namespace HistEdit.Cursor

open Text

/-- What comes with a position agrees with what comes with the rest of the text, when the position
stands before that rest; an error of the text is the same on both sides. -/
inductive Agrees {α : Type} (text : List Char) :
    Except Fault (α × Nat) → Except EditError (α × List Char) → Prop where
  | invalid (error : EditError) : Agrees text (.error (.invalid error)) (.error error)
  | read (value : α) {position : Nat} {rest : List Char} (h : At text position rest) :
      Agrees text (.ok (value, position)) (.ok (value, rest))

section

variable {text first rest : List Char} {start position : Nat}

/-- The first byte at a position is in a class when the character there is. -/
theorem any_getElem? {p : Char → Bool} (hp : ByteClass p) (h : At text position rest) :
    ((bytes text)[position]?.any fun byte => p (.ofUInt8 byte)) = rest.head?.any p := by
  cases rest with
  | nil => simp [h.getElem?_nil]
  | cons c cs =>
      obtain ⟨byte, hbyte, hget, -⟩ := h.getElem?_cons
      simp [hget, hp c byte hbyte]

theorem flagsAt_agrees (h : At text position rest) :
    Agrees text (flagsAt text position) (Segment.readFlags rest) := by
  have hstop := h.skip byteClass_isRunChar
  have hends := any_getElem? (byteClass_isDelimiter.or byteClass_open) hstop
  unfold flagsAt Segment.readFlags
  simp only [h.slice?_skip byteClass_isRunChar, present, decode_eq, bind, Except.bind]
  cases Flags.decode (rest.takeWhile Clause.isRunChar) with
  | ok flags => exact .read flags hstop
  | error cause =>
      simp only [hends]
      split
      · exact .invalid _
      · exact .read _ h

theorem clauseAt_agrees [PatternEngine] (hstart : At text start first) (h : At text position rest) :
    Agrees text (clauseAt text start position)
      ((Segment.readClause first rest).map fun (pattern, substitution, behind) =>
        ((pattern, substitution), behind)) := by
  unfold clauseAt
  cases rest with
  | nil =>
      simp only [h.getElem?_nil]
      exact .read _ h
  | cons c cs =>
      obtain ⟨byte, hbyte, hget, -⟩ := h.getElem?_cons
      simp only [hget, byteClass_isDelimiter c byte hbyte, Segment.readClause]
      by_cases hmark : Clause.isDelimiter c = true
      · obtain ⟨⟨single, hsingle, -, hchar⟩, hafter⟩ := h.getElem?_ascii (isDelimiter_ascii hmark)
        obtain rfl : byte = single := Option.some.inj (hget.symm.trans hsingle)
        simp only [if_pos hmark, hchar, nextUnescaped_at h (isDelimiter_ascii hmark), present, bind,
          Except.bind]
        cases hcut : Clause.splitUnescaped c false cs with
        | none =>
            simp only [Option.map_none, hstart.dropBytes]
            exact .invalid _
        | some cut =>
            obtain ⟨source, behind⟩ := cut
            obtain rfl := Clause.splitUnescaped_eq hcut
            have hclose := hafter.add
            simp only [Option.map_some, hafter.slice? hclose,
              substitutionEnd_at hclose (isDelimiter_ascii hmark)]
            cases Segment.readPattern source with
            | error error => exact .invalid error
            | ok pattern =>
                have hbehind := (hclose.getElem?_ascii (isDelimiter_ascii hmark)).2
                simp only [valid, Except.mapError]
                cases hsub : Clause.splitSubstitution c behind with
                | none => exact .read _ hbehind
                | some cut =>
                    obtain ⟨template, last⟩ := cut
                    obtain rfl := Clause.splitSubstitution_eq hsub
                    have hlast := hbehind.add
                    simp only [Option.map_some, hbehind.slice? hlast]
                    exact .read _ (hlast.getElem?_ascii (isDelimiter_ascii hmark)).2
      · simp only [if_neg hmark]
        exact .read _ h

theorem bodyAt_agrees (hstart : At text start first) (h : At text position rest) :
    Agrees text (bodyAt text start position) (Segment.readBody first rest) := by
  unfold bodyAt
  cases rest with
  | nil =>
      simp only [h.getElem?_nil]
      exact .read _ h
  | cons c cs =>
      obtain ⟨byte, hbyte, hget, -⟩ := h.getElem?_cons
      have hopen : Char.ofUInt8 byte = '\x7b' ↔ c = '\x7b' := by
        simpa using byteClass_open c byte hbyte
      simp only [hget, byteClass_isSeparator c byte hbyte, hopen, Segment.readBody]
      by_cases hseparator : Clause.isSeparator c = true
      · simp only [if_pos hseparator]
        exact .read _ h
      · simp only [if_neg hseparator]
        by_cases hbrace : c = '\x7b'
        · subst hbrace
          obtain ⟨-, hafter⟩ := h.getElem?_ascii (by decide)
          simp only [if_true, matchingBrace_at h, present, bind, Except.bind]
          cases hcut : Clause.splitBrace 0 cs with
          | none =>
              simp only [Option.map_none, hstart.dropBytes]
              exact .invalid _
          | some cut =>
              obtain ⟨inner, behind⟩ := cut
              obtain rfl := Clause.splitBrace_eq hcut
              have hclose := hafter.add
              simp only [Option.map_some, hafter.slice? hclose]
              exact .read _ (hclose.getElem?_ascii (by decide)).2
        · have hcall := byteClass_isSeparator.not
          simp only [if_neg hbrace, h.slice?_skip hcall, present, bind, Except.bind]
          exact .read _ (h.skip hcall)

theorem segmentFrom_agrees [PatternEngine] (h : At text position rest) :
    Agrees text (segmentFrom text position)
      ((Segment.next? rest).map fun
        | none => (none, [])
        | some segment => (some (segment.rule, segment.body), segment.rest)) := by
  have hstart := h.skip byteClass_isGap
  unfold segmentFrom Segment.next?
  cases hfirst : rest.dropWhile Segment.isGap with
  | nil =>
      rw [hfirst] at hstart
      have hlength : (bytes text).length ≤ Text.skip Segment.isGap (bytes text) position := by
        rw [length_bytes, hstart.byteLength_eq]
        exact Nat.le_refl _
      simp only [if_pos hlength]
      exact .read _ hstart
  | cons c cs =>
      rw [hfirst] at hstart
      have hlength : ¬(bytes text).length ≤ Text.skip Segment.isGap (bytes text) position := by
        rw [length_bytes, hstart.byteLength_eq, byteLength_cons]
        have := c.utf8Size_pos
        omega
      simp only [if_neg hlength, Segment.read]
      have hflags := flagsAt_agrees hstart
      generalize flagsAt text _ = flags, Segment.readFlags (c :: cs) = flags' at hflags ⊢
      cases hflags with
      | invalid error => exact .invalid error
      | read flags hafterFlags =>
          rename_i afterFlags restFlags
          have hclause := clauseAt_agrees hstart hafterFlags
          simp only [bind, Except.bind]
          generalize clauseAt text _ afterFlags = clause,
            Segment.readClause (c :: cs) restFlags = clause' at hclause ⊢
          cases clause' with
          | error error =>
              cases hclause with
              | invalid error => exact .invalid error
          | ok found =>
              obtain ⟨pattern, substitution, restClause⟩ := found
              cases hclause with
              | read value hafterClause =>
                  rename_i afterClause
                  have hbody := bodyAt_agrees hstart (hafterClause.skip byteClass_isBlank)
                  simp only
                  generalize bodyAt text _ _ = body,
                    Segment.readBody (c :: cs) (restClause.dropWhile Clause.isBlank) = body'
                    at hbody ⊢
                  cases hbody with
                  | invalid error => exact .invalid error
                  | read body hbehind => exact .read _ hbehind

variable [PatternEngine] {functions : Functions} {resolution : Resolution}
  {readInner : List Char → Except Fault (List Expression)}

theorem expressionOf_eq {segment : Segment}
    (hinner : ∀ inner, segment.body = .block inner →
      readInner inner = valid (Expression.readList functions resolution inner)) :
    expressionOf functions resolution readInner segment.rule segment.body =
      valid (Expression.ofSegment functions resolution segment) := by
  unfold expressionOf Expression.ofSegment
  cases hbody : segment.body with
  | nothing => rfl
  | call name args =>
      simp only
      cases Expression.resolve functions resolution name args <;> rfl
  | block inner =>
      simp only [hinner inner hbody]
      cases Expression.readList functions resolution inner <;> rfl

/-- The reader with a cursor finds the expression that the reader of characters finds, and leaves
the cursor where the text behind it begins; what it does with blocks has to agree for the shorter
texts inside them. -/
theorem nextFrom_agrees (h : At text position rest)
    (hinner : ∀ inner, inner.length < rest.length →
      readInner inner = valid (Expression.readList functions resolution inner)) :
    Agrees text (nextFrom functions resolution readInner text position)
      ((Expression.next? functions resolution rest).map fun
        | none => (none, [])
        | some (expression, later) => (some expression, later)) := by
  have hsegment := segmentFrom_agrees h
  unfold nextFrom Expression.next?
  cases hnext : Segment.next? rest with
  | error error =>
      rw [hnext] at hsegment
      generalize segmentFrom text position = found at hsegment ⊢
      cases hsegment with
      | invalid error => exact .invalid error
  | ok segment =>
      rw [hnext] at hsegment
      generalize segmentFrom text position = found at hsegment ⊢
      cases segment with
      | none =>
          cases hsegment with
          | read value hstop => exact .read _ hstop
      | some segment =>
          cases hsegment with
          | read value hbehind =>
              have hshorter := (Segment.next?_shorter hnext).2
              simp only [bind, Except.bind,
                expressionOf_eq fun inner hbody => hinner inner (hshorter inner hbody)]
              cases Expression.ofSegment functions resolution segment with
              | error error => exact .invalid error
              | ok expression => exact .read _ hbehind

end

theorem valid_eq_ok_iff {α : Type} {result : Except EditError α} {value : α} :
    valid result = .ok value ↔ result = .ok value := by
  cases result with
  | error error => simp [valid, Except.mapError]
  | ok found => simp [valid, Except.mapError]

section

variable [PatternEngine] {functions : Functions} {resolution : Resolution}

/-- Reading with a cursor ends within as many steps as there are characters left, and reads what the
reader of characters reads. -/
theorem listFrom_eq {text rest : List Char} {position steps : Nat} (h : At text position rest)
    (hsteps : rest.length < steps) :
    listFrom functions resolution steps text position =
      valid (Expression.readList functions resolution rest) := by
  induction steps generalizing text rest position with
  | zero => omega
  | succ steps ih =>
      have hinner : ∀ inner : List Char, inner.length < rest.length →
          listFrom functions resolution steps inner 0 =
            valid (Expression.readList functions resolution inner) :=
        fun inner hlength => ih (At.start inner) (by omega)
      have hnext := nextFrom_agrees h hinner
      rw [listFrom, Expression.readList_eq_next?]
      generalize nextFrom functions resolution _ text position = found at hnext ⊢
      cases hfirst : Expression.next? functions resolution rest with
      | error error =>
          rw [hfirst] at hnext
          cases hnext with
          | invalid error => rfl
      | ok first =>
          rw [hfirst] at hnext
          cases first with
          | none =>
              cases hnext with
              | read value hstop => rfl
          | some first =>
              obtain ⟨expression, later⟩ := first
              have hshorter := Expression.length_next? hfirst
              cases hnext with
              | read value hlater =>
                  simp only [bind, Except.bind, ih hlater (by omega)]
                  cases Expression.readList functions resolution later <;> rfl

/-- One call of the reader, with steps for all that a block can hold, agrees with the reader of
characters. -/
theorem parse_eq (functions : Functions) (resolution : Resolution) {text rest : List Char}
    {cursor steps : Nat} (h : At text cursor rest) (hsteps : rest.length ≤ steps) :
    match Expression.next? functions resolution rest with
    | .error error =>
      parse functions resolution steps text cursor = (.error (.invalid error), cursor)
    | .ok none => parse functions resolution steps text cursor = (.ok none, byteLength text)
    | .ok (some (expression, later)) => ∃ behind, At text behind later ∧
        parse functions resolution steps text cursor = (.ok (some expression), behind) := by
  have hinner : ∀ inner : List Char, inner.length < rest.length →
      listFrom functions resolution steps inner 0 =
        valid (Expression.readList functions resolution inner) :=
    fun inner hlength => listFrom_eq (At.start inner) (by omega)
  have hnext := nextFrom_agrees h hinner
  unfold parse
  generalize nextFrom functions resolution _ text cursor = found at hnext ⊢
  cases hfirst : Expression.next? functions resolution rest with
  | error error =>
      rw [hfirst] at hnext
      cases hnext with
      | invalid error => rfl
  | ok first =>
      rw [hfirst] at hnext
      cases first with
      | none =>
          cases hnext with
          | read value hstop =>
              have hlength := hstop.byteLength_eq
              rw [byteLength_nil, Nat.add_zero] at hlength
              simp [hlength]
      | some first =>
          obtain ⟨expression, later⟩ := first
          cases hnext with
          | read value hlater => exact ⟨_, hlater, rfl⟩

/-- How one call of the reader leaves a cursor that stands before the rest of a text. Behind an
expression the cursor stands further on, between two characters, before the text that the reader of
characters leaves; at the end it stands behind blanks and separators only; and nothing but an error
of the text stops the reader, with the cursor where it was. -/
structure Moved (functions : Functions) (resolution : Resolution) (text rest : List Char)
    (cursor : Nat) (outcome : Except Fault (Option Expression) × Nat) : Prop where
  expression : ∀ expression, outcome.1 = .ok (some expression) →
    cursor < outcome.2 ∧ outcome.2 ≤ byteLength text ∧
      ∃ later, Text.dropBytes outcome.2 text = some later ∧
        Expression.next? functions resolution rest = .ok (some (expression, later))
  done : outcome.1 = .ok none →
    outcome.2 = byteLength text ∧ ∀ c ∈ rest, Segment.isGap c = true
  stopped : ∀ fault, outcome.1 = .error fault →
    outcome.2 = cursor ∧ ∃ error, fault = .invalid error
  reads : outcome.1 =
    valid ((Expression.next? functions resolution rest).map fun found => found.map Prod.fst)

theorem parse_moved (functions : Functions) (resolution : Resolution) {text rest : List Char}
    {cursor steps : Nat} (h : At text cursor rest) (hsteps : rest.length ≤ steps) :
    Moved functions resolution text rest cursor (parse functions resolution steps text cursor) := by
  have hparse := parse_eq functions resolution h hsteps
  cases hfirst : Expression.next? functions resolution rest with
  | error error =>
      simp only [hfirst] at hparse
      rw [hparse]
      exact ⟨by simp, by simp, fun fault hfault => ⟨rfl, error, (Except.error.inj hfault).symm⟩,
        by simp [hfirst, valid, Except.map, Except.mapError]⟩
  | ok first =>
      cases first with
      | none =>
          simp only [hfirst] at hparse
          rw [hparse]
          exact ⟨by simp, fun _ => ⟨rfl, Expression.next?_eq_ok_none_iff.1 hfirst⟩, by simp,
            by simp [hfirst, valid, Except.map, Except.mapError]⟩
      | some first =>
          obtain ⟨expression, later⟩ := first
          simp only [hfirst] at hparse
          obtain ⟨behind, hlater, hparse⟩ := hparse
          rw [hparse]
          have hshorter := Expression.length_next? hfirst
          have hcursor := h.byteLength_eq
          have hbehind := hlater.byteLength_eq
          obtain ⟨passed, rfl⟩ := List.suffix_of_suffix_length_le hlater.suffix h.suffix
            (Nat.le_of_lt hshorter)
          have hpassed := length_le_byteLength passed
          rw [byteLength_append] at hcursor
          rw [List.length_append] at hshorter
          refine ⟨?_, by simp, by simp, by simp [hfirst, valid, Except.map, Except.mapError]⟩
          intro found hfound
          obtain rfl : expression = found := by simpa using hfound
          exact ⟨by simp only; omega, by simp only; omega, later, hlater.dropBytes, hfirst⟩

/-- A call at a cursor is the call on the rest alone, moved by the cursor. -/
theorem parse_shift (functions : Functions) (resolution : Resolution) {text rest : List Char}
    {cursor steps : Nat} (h : At text cursor rest) (hsteps : rest.length ≤ steps) :
    parse functions resolution steps text cursor =
      ((parse functions resolution steps rest 0).1,
        cursor + (parse functions resolution steps rest 0).2) := by
  have hthere := parse_eq functions resolution h hsteps
  have halone := parse_eq functions resolution (At.start rest) hsteps
  have hbytes := h.byteLength_eq
  cases hfirst : Expression.next? functions resolution rest with
  | error error =>
      simp only [hfirst] at hthere halone
      simp only [hthere, halone, Nat.add_zero]
  | ok first =>
      cases first with
      | none =>
          simp only [hfirst] at hthere halone
          simp only [hthere, halone, hbytes]
      | some first =>
          simp only [hfirst] at hthere halone
          obtain ⟨behind, hbehind, hthere⟩ := hthere
          obtain ⟨passed, hpassed, halone⟩ := halone
          have hbehindBytes := hbehind.byteLength_eq
          have hpassedBytes := hpassed.byteLength_eq
          have hsum : behind = cursor + passed := by omega
          simp only [hthere, halone, hsum]

/-- Reading a whole text with a cursor ends, and is reading it by characters. -/
theorem parseList_eq (functions : Functions) (resolution : Resolution) {text : List Char}
    {steps : Nat} (hsteps : text.length < steps) :
    parseList functions resolution steps text =
      valid (Expression.readList functions resolution text) :=
  listFrom_eq (At.start text) hsteps

/-- The reader with a cursor is sound. From every place between two characters a call moves the
cursor as it should and never asks for a byte or a part of the text that does not exist; it does the
same on the rest of the text alone. Reading the whole text ends, the texts in its blocks included,
with what the reader of characters reads, and no more expressions, at all depths, than there are
bytes. -/
theorem parse_sound (functions : Functions) (resolution : Resolution) {text rest : List Char}
    {cursor steps : Nat} (hrest : Text.dropBytes cursor text = some rest)
    (hsteps : byteLength text < steps) :
    let outcome := parse functions resolution steps text cursor
    let alone := parse functions resolution steps rest 0
    Moved functions resolution text rest cursor outcome ∧
    outcome = (alone.1, cursor + alone.2) ∧
    parseList functions resolution steps text =
      valid (Expression.readList functions resolution text) ∧
    ∀ expressions, parseList functions resolution steps text = .ok expressions →
      (allSubexpressions expressions).length ≤ byteLength text := by
  intro outcome alone
  have hat := dropBytes_eq_some_iff.1 hrest
  have hlength := length_le_byteLength text
  have hwithin : rest.length ≤ steps := by
    have := hat.suffix.length_le
    omega
  have hlist := parseList_eq functions resolution (Nat.lt_of_le_of_lt hlength hsteps)
  refine ⟨parse_moved functions resolution hat hwithin,
    parse_shift functions resolution hat hwithin, hlist, ?_⟩
  intro expressions hread
  have hreads := Expression.reads_of_readList (valid_eq_ok_iff.1 (hlist.symm.trans hread))
  exact Nat.le_trans (Expression.length_allSubexpressions_le hreads) hlength

end

/-- A block behind characters of two bytes. The rest alone is read up to its end, so the cursor
moves to the end of the text. -/
theorem parse_sound_multibyte :
    let text := "n//é/; t \x7b //ø/ \x7d".toList
    let rest := "; t \x7b //ø/ \x7d".toList
    Text.dropBytes 6 text = some rest ∧ byteLength text < 20 ∧
      (parse .builtin .histogram 20 rest 0).2 = 13 ∧
      (parse .builtin .histogram 20 text 6).2 = byteLength text ∧
      ∀ expressions, parseList .builtin .histogram 20 text = .ok expressions →
        (allSubexpressions expressions).length ≤ 19 := by
  intro text rest
  have hrest : Text.dropBytes 6 text = some rest := by decide +kernel
  have hlength : byteLength text = 19 := by decide +kernel
  have hsteps : byteLength text < 20 := by omega
  have halone : (parse .builtin .histogram 20 rest 0).2 = 13 := by decide +kernel
  obtain ⟨-, hshift, -, hnodes⟩ := parse_sound .builtin .histogram hrest hsteps
  refine ⟨hrest, hsteps, halone, ?_, fun expressions hread => hlength ▸ hnodes expressions hread⟩
  rw [congrArg Prod.snd hshift, halone, hlength]

end HistEdit.Cursor
