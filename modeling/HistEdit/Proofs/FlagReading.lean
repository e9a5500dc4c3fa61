import HistEdit.Proofs.FlagGrammar

/-!
Reading of flag runs against their grammar. Reading accepts exactly the texts of runs and gives what
their parts say; any other text has a first piece that cannot follow the run before it, and that
piece decides the error.
-/

namespace HistEdit.Flags

/-- What the part before the first field letter says. Of several literals the last one counts. -/
def openingFlags (opening : List Opening) : Flags where
  select := decide (.select ∈ opening)
  invert := decide (.invert ∈ opening)
  matchOnly := decide (.matchOnly ∈ opening)
  print := decide (.print ∈ opening)
  matchIndex := ((opening.filterMap Opening.literal?).getLast?.map Literal.index).getD 0

/-- What a run says. Without a field letter it is about the group, without a second one the
destination is the source, and without a literal behind the first one it reads the latest
version. -/
def Form.flags (form : Form) : Flags where
  __ := openingFlags form.opening
  add := form.add
  source := form.first.getD .group
  target := form.second.getD (form.first.getD .group)
  fromIndex := ((form.part.bind FieldPart.index).map Literal.index).getD (-1)

def Form.reading (form : Form) : Partial where
  flags :=
    { openingFlags form.opening with
      add := form.add
      fromIndex := ((form.part.bind FieldPart.index).map Literal.index).getD (-1) }
  first := form.first
  second := form.second
  afterAdd := form.endsInAdd

theorem Form.finish_reading (form : Form) : form.reading.finish = form.flags := rfl

inductive Form.Refuses (form : Form) : Token → FlagError → Prop where
  | tooManyFields {field : Field} (hsecond : form.second.isSome = true) :
      Refuses form (.mark field.letter) .tooManyFields
  | misplaced {c : Char} (hc : c ∈ ['s', 'i', 'm', 'p']) (hfirst : form.first.isSome = true) :
      Refuses form (.mark c) (.misplaced c)
  | repeatedAdd (hadd : form.add ≠ .none) : Refuses form (.mark '+') .repeatedAdd
  | addBeforeField (hfirst : form.first = none) : Refuses form (.mark '+') .addBeforeField
  | indexAfterAdd {literal : List Char} (hadd : form.endsInAdd = true) :
      Refuses form (.index literal) .indexAfterAdd
  | indexAfterSecondField {literal : List Char} (hadd : form.endsInAdd = false)
      (hsecond : form.second.isSome = true) :
      Refuses form (.index literal) .indexAfterSecondField
  | invalidNumber {literal : List Char} (hadd : form.endsInAdd = false)
      (hsecond : form.second = none)
      (hliteral : ∀ numeral : Numeral, numeral.text = literal → ¬numeral.IsWord) :
      Refuses form (.index literal) (.invalidNumber (String.ofList literal))
  | indexOutOfBound {numeral : Numeral} (hadd : form.endsInAdd = false)
      (hsecond : form.second = none)
      (hword : numeral.IsWord)
      (hfits : ¬(-128 ≤ numeral.value ∧ numeral.value ≤ 127)) :
      Refuses form (.index numeral.text) (.indexOutOfBound numeral.value)
  | unrecognized {c : Char} (hfield : ∀ field : Field, field.letter ≠ c)
      (hc : c ∉ ['s', 'i', 'm', 'p', '+']) :
      Refuses form (.mark c) (.unrecognized (Text.leadByte c))

/-! ### Numbers -/

theorem Numeral.takeSign_text (numeral : Numeral) :
    Number.takeSign numeral.text = (numeral.negative, numeral.digits) := by
  obtain ⟨negative, digits, hne, hdigits⟩ := numeral
  cases negative with
  | true => rfl
  | false =>
      have hplain : ∀ c ∈ digits.head?, c ≠ '-' ∧ c ≠ '+' := by
        intro c hc
        have hdigit := hdigits c (List.mem_of_mem_head? hc)
        refine ⟨?_, ?_⟩
        · rintro rfl
          exact absurd hdigit (by decide)
        · rintro rfl
          exact absurd hdigit (by decide)
      simp only [text, Bool.false_eq_true, if_false]
      unfold Number.takeSign
      split
      · exact absurd rfl (hplain '-' (by simp)).1
      · exact absurd rfl (hplain '+' (by simp)).2
      · rfl

/-- A number is read where it fits into 64 bits. -/
theorem readIndex_text (numeral : Numeral) :
    readIndex numeral.text = if numeral.IsWord then some numeral.value else none := by
  have hempty : numeral.digits.isEmpty = false := by
    rw [List.isEmpty_eq_false_iff]
    exact numeral.nonempty
  have hdigits : numeral.digits.all Char.isDigit = true := List.all_eq_true.2 numeral.decimal
  have hleast : (-(Nat.pow 2 63 : Int) == 0) = false := by decide
  have hrange : (-(Nat.pow 2 63 : Int) ≤ numeral.value ∧ numeral.value ≤ Nat.pow 2 63 - 1) ↔
      numeral.IsWord := by
    have hpow : Nat.pow 2 63 = 9223372036854775808 := rfl
    unfold Numeral.IsWord
    omega
  simp only [readIndex, Number.readWhole, numeral.takeSign_text, hempty, hdigits, hleast,
    Bool.not_true, Bool.or_false, Bool.and_false, Bool.false_eq_true, if_false]
  exact if_congr hrange rfl rfl

/-- A block of digits and minus signs is read only when it spells a number. -/
theorem exists_numeral_of_readIndex {literal : List Char}
    (h : ∀ c ∈ literal, isIndexChar c = true) {value : Int}
    (hread : readIndex literal = some value) : ∃ numeral : Numeral, numeral.text = literal := by
  have hplus : ∀ rest, literal ≠ '+' :: rest := by
    rintro rest rfl
    exact absurd (h '+' (by simp)) (by decide)
  unfold readIndex Number.readWhole Number.takeSign at hread
  split at hread
  rename_i negative digits hsign
  split at hread
  · exact absurd hread (by simp)
  · rename_i hshape
    simp only [Bool.or_eq_true, not_or, List.isEmpty_iff, Bool.not_eq_true',
      Bool.not_eq_false, List.all_eq_true] at hshape
    refine ⟨⟨negative, digits, hshape.1.1, hshape.1.2⟩, ?_⟩
    split at hsign
    · obtain ⟨rfl, rfl⟩ := Prod.mk.inj hsign
      rfl
    · exact absurd rfl (hplus _)
    · obtain ⟨rfl, rfl⟩ := Prod.mk.inj hsign
      rfl

/-! ### One token more -/

theorem Literal.readIndex_text (literal : Literal) :
    readIndex literal.text = some literal.value := by
  have hfits := literal.fits
  have hword : literal.IsWord := ⟨by omega, by omega⟩
  rw [Flags.readIndex_text, if_pos hword]

theorem step_opening (opening : List Opening) (piece : Opening) :
    ({ flags := openingFlags opening } : Partial).step piece.token =
      .ok { flags := openingFlags (opening ++ [piece]) } := by
  cases piece with
  | index literal =>
      simp [Opening.token, Partial.step, literal.readIndex_text, literal.fits, openingFlags,
        Opening.literal?, Literal.index]
  | select => simp [Opening.token, Partial.step, Field.ofLetter?, openingFlags, Opening.literal?]
  | invert => simp [Opening.token, Partial.step, Field.ofLetter?, openingFlags, Opening.literal?]
  | matchOnly => simp [Opening.token, Partial.step, Field.ofLetter?, openingFlags, Opening.literal?]
  | print => simp [Opening.token, Partial.step, Field.ofLetter?, openingFlags, Opening.literal?]

theorem foldlM_opening (opening : List Opening) :
    (opening.map Opening.token).foldlM Partial.step {} =
      .ok { flags := openingFlags opening } := by
  induction opening using List.reverseRecOn with
  | nil => rfl
  | append_singleton opening piece ih =>
      simp [List.foldlM_append, ih, step_opening, bind, Except.bind, pure, Except.pure]

theorem foldlM_ending (flags : Flags) (source : Field) (ending : Ending) :
    ending.tokens.foldlM Partial.step
        { flags := { flags with add := .none }, first := some source } =
      .ok
        { flags := { flags with add := ending.add }
          first := some source
          second := ending.field?
          afterAdd := ending.endsInAdd } := by
  cases ending with
  | bare => rfl
  | prepend second =>
      cases second with
      | none => rfl
      | some second =>
          simp only [Ending.tokens, Option.map_some, Option.toList_some, List.foldlM_cons,
            Partial.step_plus, Partial.step_letter, bind, Except.bind]
          rfl
  | letter second append =>
      cases append with
      | false =>
          simp only [Ending.tokens, List.foldlM_cons, Partial.step_letter, bind, Except.bind]
          rfl
      | true =>
          simp only [Ending.tokens, List.foldlM_cons, Partial.step_letter, bind, Except.bind]
          rfl

/-- The tokens of a run are read as what the run says. -/
theorem Form.foldlM_tokens (form : Form) :
    form.tokens.foldlM Partial.step {} = .ok form.reading := by
  obtain ⟨opening, hapart, part⟩ := form
  have hopening := foldlM_opening opening
  rw [tokens, List.foldlM_append]
  simp only [hopening, bind, Except.bind]
  cases part with
  | none => rfl
  | some part =>
      obtain ⟨first, index, ending⟩ := part
      simp only [Option.map_some, Option.getD_some, FieldPart.tokens, List.foldlM_cons,
        List.foldlM_append, Partial.step_letter, bind, Except.bind]
      cases index with
      | none => exact foldlM_ending (openingFlags opening) first ending
      | some literal =>
          have hindex : ({ flags := openingFlags opening, first := some first } : Partial).step
              (.index literal.text) =
              .ok { flags := { openingFlags opening with fromIndex := literal.index }
                    first := some first } := by
            simp [Partial.step, literal.readIndex_text, literal.fits, Literal.index]
          simp only [Option.map_some, Option.toList_some, List.foldlM_cons, bind, Except.bind,
            hindex]
          exact foldlM_ending { openingFlags opening with fromIndex := literal.index } first ending

namespace Form

/-- A run with one token more, which reading goes on to. -/
structure Extends (form : Form) (token : Token) (longer : Form) : Prop where
  tokens : longer.tokens = form.tokens ++ [token]
  step : form.reading.step token = .ok longer.reading

theorem exists_extends_opening (form : Form) (piece : Opening) (hfirst : form.first = none)
    (hapart : ∀ last ∈ form.tokens.getLast?, last.Apart piece.token) :
    ∃ longer, form.Extends piece.token longer := by
  obtain ⟨opening, hopening, part⟩ := form
  obtain rfl : part = none := by simpa [first] using hfirst
  refine ⟨⟨opening ++ [piece], ?_, none⟩, by simp [tokens], ?_⟩
  · rw [List.map_append]
    refine hopening.append (.singleton _) ?_
    intro last hlast head hhead
    obtain rfl : piece.token = head := by simpa using hhead
    exact hapart last (by simpa [tokens] using hlast)
  · exact step_opening opening piece

theorem exists_extends_letter (form : Form) (field : Field) (hsecond : form.second = none) :
    ∃ longer, form.Extends (.mark field.letter) longer := by
  obtain ⟨opening, hopening, part⟩ := form
  cases part with
  | none =>
      refine ⟨⟨opening, hopening, some ⟨field, none, .bare⟩⟩, ?_, ?_⟩
      · simp [tokens, FieldPart.tokens, Ending.tokens]
      · rw [Partial.step_letter]
        rfl
  | some part =>
      obtain ⟨source, index, ending⟩ := part
      cases ending with
      | bare =>
          refine ⟨⟨opening, hopening, some ⟨source, index, .letter field false⟩⟩, ?_, ?_⟩
          · simp [tokens, FieldPart.tokens, Ending.tokens]
          · rw [Partial.step_letter]
            rfl
      | prepend second =>
          obtain rfl : second = none := hsecond
          refine ⟨⟨opening, hopening, some ⟨source, index, .prepend (some field)⟩⟩, ?_, ?_⟩
          · simp [tokens, FieldPart.tokens, Ending.tokens]
          · rw [Partial.step_letter]
            rfl
      | letter second append => exact absurd hsecond (by simp [Form.second, Ending.field?])

theorem exists_extends_plus (form : Form) (hfirst : form.first.isSome = true)
    (hadd : form.add = .none) : ∃ longer, form.Extends (.mark '+') longer := by
  obtain ⟨opening, hopening, part⟩ := form
  cases part with
  | none => exact absurd hfirst (by simp [first])
  | some part =>
      obtain ⟨source, index, ending⟩ := part
      cases ending with
      | bare =>
          refine ⟨⟨opening, hopening, some ⟨source, index, .prepend none⟩⟩, ?_, ?_⟩
          · simp [tokens, FieldPart.tokens, Ending.tokens]
          · rw [Partial.step_plus]
            rfl
      | prepend second => exact absurd hadd (by simp [add, Ending.add])
      | letter second append =>
          obtain rfl : append = false := by
            simpa [add, Ending.add] using hadd
          refine ⟨⟨opening, hopening, some ⟨source, index, .letter second true⟩⟩, ?_, ?_⟩
          · simp [tokens, FieldPart.tokens, Ending.tokens]
          · rw [Partial.step_plus]
            rfl

theorem exists_extends_index (form : Form) (literal : Literal) (hadd : form.endsInAdd = false)
    (hsecond : form.second = none)
    (hapart : ∀ last ∈ form.tokens.getLast?, last.Apart (.index literal.text)) :
    ∃ longer, form.Extends (.index literal.text) longer := by
  cases hpart : form.part with
  | none => exact form.exists_extends_opening (.index literal) (by simp [first, hpart]) hapart
  | some part =>
      obtain ⟨opening, hopening, _⟩ := form
      obtain rfl := hpart
      obtain ⟨source, index, ending⟩ := part
      cases ending with
      | bare =>
          cases index with
          | none =>
              refine ⟨⟨opening, hopening, some ⟨source, some literal, .bare⟩⟩, ?_, ?_⟩
              · simp [tokens, FieldPart.tokens, Ending.tokens]
              · simp [Partial.step, reading, first, second, add, endsInAdd, Ending.field?,
                  Ending.add, Ending.endsInAdd, literal.readIndex_text, literal.fits,
                  Literal.index]
          | some other =>
              -- two literals without anything between them would be one
              have hlast := hapart (.index other.text)
                (by simp [tokens, FieldPart.tokens, Ending.tokens])
              exact absurd ⟨rfl, rfl⟩ hlast
      | prepend second =>
          obtain rfl : second = none := hsecond
          exact absurd hadd (by simp [endsInAdd, Ending.endsInAdd])
      | letter second append => exact absurd hsecond (by simp [Form.second, Ending.field?])

theorem add_of_first_eq_none {form : Form} (h : form.first = none) : form.add = .none := by
  have hpart : form.part = none := by simpa [first] using h
  simp [add, hpart]

theorem exists_first_of_second {form : Form} (h : form.second.isSome = true) :
    ∃ source, form.first = some source := by
  cases hpart : form.part with
  | none => simp [second, hpart] at h
  | some part => exact ⟨part.first, by simp [first, hpart]⟩

/-- A token that is refused is an error of reading. -/
theorem Refuses.step {form : Form} {token : Token} {cause : FlagError}
    (h : form.Refuses token cause) (hstands : token.Stands) :
    form.reading.step token = .error cause := by
  cases h with
  | tooManyFields hsecond =>
      obtain ⟨source, hsource⟩ := exists_first_of_second hsecond
      obtain ⟨target, htarget⟩ := Option.isSome_iff_exists.1 hsecond
      simp only [Partial.step_letter, reading, hsource, htarget]
  | misplaced hc hfirst =>
      simp only [List.mem_cons, List.not_mem_nil, or_false] at hc
      rcases hc with rfl | rfl | rfl | rfl <;>
        simp [Partial.step, Field.ofLetter?, reading, hfirst]
  | repeatedAdd hadd =>
      rw [Partial.step_plus]
      exact if_pos hadd
  | addBeforeField hfirst =>
      have hadd := add_of_first_eq_none hfirst
      simp only [Partial.step_plus, reading, hfirst, hadd, ne_eq, not_true_eq_false, if_false]
  | indexAfterAdd hadd => simp [Partial.step, reading, hadd]
  | indexAfterSecondField hadd hsecond => simp [Partial.step, reading, hadd, hsecond]
  | @invalidNumber literal hadd hsecond hliteral =>
      have hread : readIndex literal = none := by
        by_contra hsome
        obtain ⟨value, hvalue⟩ := Option.ne_none_iff_exists'.1 hsome
        obtain ⟨numeral, rfl⟩ := exists_numeral_of_readIndex hstands.1 hvalue
        rw [readIndex_text, if_neg (hliteral numeral rfl)] at hvalue
        exact absurd hvalue (by simp)
      simp [Partial.step, reading, hadd, hsecond, hread]
  | @indexOutOfBound numeral hadd hsecond hword hfits =>
      have hread : readIndex numeral.text = some numeral.value := by
        rw [readIndex_text, if_pos hword]
      simp [Partial.step, reading, hadd, hsecond, hread, hfits]
  | @unrecognized c hfield hc =>
      have hletter : Field.ofLetter? c = none := by
        cases hletter : Field.ofLetter? c with
        | none => rfl
        | some field => exact absurd (Field.letter_of_ofLetter? hletter) (hfield field)
      simp only [List.mem_cons, List.not_mem_nil, or_false, not_or] at hc
      simp [Partial.step, hletter, hc]

/-- What stands behind a run either makes it longer or is refused. -/
theorem extends_or_refuses (form : Form) (token : Token)
    (hapart : ∀ last ∈ form.tokens.getLast?, last.Apart token) :
    (∃ longer, form.Extends token longer) ∨ ∃ cause, form.Refuses token cause := by
  cases token with
  | index literal =>
      cases hadd : form.endsInAdd with
      | true => exact .inr ⟨_, .indexAfterAdd hadd⟩
      | false =>
          cases hsecond : form.second with
          | some second => exact .inr ⟨_, .indexAfterSecondField hadd (by simp [hsecond])⟩
          | none =>
              by_cases hnumber : ∃ numeral : Numeral, numeral.text = literal ∧ numeral.IsWord
              · obtain ⟨numeral, rfl, hword⟩ := hnumber
                by_cases hfits : -128 ≤ numeral.value ∧ numeral.value ≤ 127
                · exact .inl (form.exists_extends_index ⟨numeral, hfits⟩ hadd hsecond hapart)
                · exact .inr ⟨_, .indexOutOfBound hadd hsecond hword hfits⟩
              · exact .inr ⟨_, .invalidNumber hadd hsecond fun numeral htext hword =>
                  hnumber ⟨numeral, htext, hword⟩⟩
  | mark c =>
      by_cases hletter : ∃ field : Field, field.letter = c
      · obtain ⟨field, rfl⟩ := hletter
        cases hsecond : form.second with
        | none => exact .inl (form.exists_extends_letter field hsecond)
        | some second => exact .inr ⟨_, .tooManyFields (by simp [hsecond])⟩
      · by_cases hopening : c ∈ ['s', 'i', 'm', 'p']
        · cases hfirst : form.first with
          | none =>
              obtain ⟨piece, hpiece⟩ := Opening.exists_token_eq_mark hopening
              rw [← hpiece] at hapart ⊢
              exact .inl (form.exists_extends_opening piece hfirst hapart)
          | some first => exact .inr ⟨_, .misplaced hopening (by simp [hfirst])⟩
        · by_cases hplus : c = '+'
          · subst hplus
            cases hfirst : form.first with
            | none => exact .inr ⟨_, .addBeforeField hfirst⟩
            | some first =>
                by_cases hadd : form.add = .none
                · exact .inl (form.exists_extends_plus (by simp [hfirst]) hadd)
                · exact .inr ⟨_, .repeatedAdd hadd⟩
          · refine .inr ⟨_, .unrecognized (fun field h => hletter ⟨field, h⟩) ?_⟩
            simpa [hplus] using hopening

/-- Whether tokens are those of a run of the grammar or there is a first one that cannot follow. -/
theorem reads_or_refuses {ts : List Token} (hapart : ts.IsChain Token.Apart) :
    (∃ form : Form, form.tokens = ts) ∨
      ∃ (form : Form) (token : Token) (after : List Token) (cause : FlagError),
        ts = form.tokens ++ token :: after ∧ form.Refuses token cause := by
  induction ts using List.reverseRecOn with
  | nil => exact .inl ⟨⟨[], .nil, none⟩, rfl⟩
  | append_singleton ts token ih =>
      obtain ⟨hbefore, -, hjoin⟩ := List.isChain_append.1 hapart
      rcases ih hbefore with
        ⟨form, rfl⟩ | ⟨form, other, after, cause, rfl, hrefuses⟩
      · have hlast : ∀ last ∈ form.tokens.getLast?, last.Apart token :=
          fun last h => hjoin last h token (by simp)
        rcases form.extends_or_refuses token hlast with
          ⟨longer, hlonger⟩ | ⟨cause, hrefuses⟩
        · exact .inl ⟨longer, hlonger.tokens⟩
        · exact .inr ⟨form, token, [], cause, rfl, hrefuses⟩
      · exact .inr ⟨form, other, after ++ [token], cause, by simp, hrefuses⟩

end Form

/-! ### Reading -/

theorem Form.decode_text (form : Form) : decode form.text = .ok form.flags := by
  rw [decode, form.tokens_text, form.foldlM_tokens]
  exact congrArg Except.ok form.finish_reading

/-- Reading stops at the first token that cannot follow. -/
theorem Form.Refuses.decode_text {form : Form} {token : Token} {cause : FlagError}
    (h : form.Refuses token cause) {after : List Char}
    (hstands : token.StandsBetween form.text after) :
    decode (form.text ++ (token.text ++ after)) = .error cause := by
  rw [decode, Form.tokens_text_append hstands, List.foldlM_append, form.foldlM_tokens]
  simp only [bind, Except.bind, List.foldlM_cons, h.step hstands.1, Except.map]

/-- A text is a run of the grammar, or it has a first piece that cannot follow the run before
it. -/
theorem exists_form_or_refuses (run : List Char) :
    (∃ form : Form, form.text = run) ∨
      ∃ (form : Form) (token : Token) (after : List Char) (cause : FlagError),
        run = form.text ++ (token.text ++ after) ∧ token.StandsBetween form.text after ∧
          form.Refuses token cause := by
  have hstands := stands_tokens run
  have hapart := apart_tokens run
  rcases Form.reads_or_refuses hapart with ⟨form, hform⟩ | ⟨form, token, after, cause, hrun, h⟩
  · exact .inl ⟨form, by rw [Form.text, hform, flatMap_text_tokens]⟩
  · rw [hrun] at hstands hapart
    simp only [List.forall_mem_append, List.forall_mem_cons] at hstands
    obtain ⟨-, htoken, hafter⟩ := hstands
    have htokens : tokens (after.flatMap Token.text) = after :=
      tokens_flatMap_text (fun t h => (hafter t h).1) (fun t h => (hafter t h).2)
        (List.isChain_append.1 hapart).2.1.tail
    refine .inr ⟨form, token, after.flatMap Token.text, cause, ?_, ?_, h⟩
    · rw [← flatMap_text_tokens run, hrun]
      simp [Form.text]
    · rw [← htokens] at hapart
      exact (form.isChain_iff_standsBetween _ htoken).1 hapart

/-- Reading accepts exactly the runs of the grammar and gives what they say. Any other text begins
with the longest run of the grammar that whole pieces of it make up, and the error is that of the
piece behind this run, which no run goes on with. -/
theorem decode_grammar (run : List Char) :
    (∀ flags, decode run = .ok flags ↔ ∃ form : Form, form.text = run ∧ form.flags = flags) ∧
    ∀ cause, decode run = .error cause ↔
      ∃ (form : Form) (token : Token) (after : List Char),
        run = form.text ++ (token.text ++ after) ∧ token.StandsBetween form.text after ∧
          form.Refuses token cause ∧ ∀ longer : Form, longer.text ≠ form.text ++ token.text := by
  refine ⟨fun flags => ⟨?_, ?_⟩, fun cause => ⟨?_, ?_⟩⟩
  · intro hdecode
    rcases exists_form_or_refuses run with ⟨form, rfl⟩ | ⟨form, token, after, cause, rfl, hs, h⟩
    · exact ⟨form, rfl, Except.ok.inj (form.decode_text.symm.trans hdecode)⟩
    · rw [h.decode_text hs] at hdecode
      exact absurd hdecode (by simp)
  · rintro ⟨form, rfl, rfl⟩
    exact form.decode_text
  · intro hdecode
    rcases exists_form_or_refuses run with ⟨form, rfl⟩ | ⟨form, token, after, other, rfl, hs, h⟩
    · rw [form.decode_text] at hdecode
      exact absurd hdecode (by simp)
    · obtain rfl : other = cause := Except.error.inj ((h.decode_text hs).symm.trans hdecode)
      refine ⟨form, token, after, rfl, hs, h, ?_⟩
      intro longer hlonger
      have hend : token.StandsBetween form.text [] := ⟨hs.1, fun hi => ⟨(hs.2 hi).1, rfl⟩⟩
      have hrefused := h.decode_text hend
      rw [List.append_nil, ← hlonger, longer.decode_text] at hrefused
      exact absurd hrefused (by simp)
  · rintro ⟨form, token, after, rfl, hs, h, -⟩
    exact h.decode_text hs

/-- Of two literals before the field letter the last one counts; the one behind it is a version. -/
example :
    decode "1s-007n2t+".toList = .ok
      { select := true, add := .append, source := .name, target := .title, fromIndex := 2,
        matchIndex := -7 } := by
  decide

/-- A literal directly behind a `+` is refused before it is looked at. -/
example : decode "n+1-x".toList = .error .indexAfterAdd := by
  decide

end HistEdit.Flags
