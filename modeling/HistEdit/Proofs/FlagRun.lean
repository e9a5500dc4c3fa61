import HistEdit.Clause
import HistEdit.Flags
import HistEdit.Proofs.Decimal
import Mathlib.Tactic.ByContra
import Mathlib.Tactic.Tauto

/-!
Flag runs and their printed form. A run that is read holds only characters of flags, so nothing in
it ends the run. The printed form of flags is read back as the same flags, whatever their values.
-/

namespace HistEdit.Flags

def Token.text : Token → List Char
  | .index literal => literal
  | .mark c => [c]

/-- A token as cutting makes it: an index is a block of its characters, and no mark is one of
them. -/
def Token.WellFormed : Token → Prop
  | .index literal => ∀ c ∈ literal, isIndexChar c = true
  | .mark c => isIndexChar c = false

theorem flatMap_text_tokens (cs : List Char) : (tokens cs).flatMap Token.text = cs := by
  fun_induction tokens cs with
  | case1 => rfl
  | case2 c cs hc literal rest htokens ih =>
      rw [htokens] at ih
      simpa [Token.text] using ih
  | case3 c cs hc _ ih => simpa [Token.text] using ih
  | case4 c cs hc ih => simpa [Token.text] using ih

theorem wellFormed_tokens (cs : List Char) : ∀ token ∈ tokens cs, token.WellFormed := by
  fun_induction tokens cs with
  | case1 => simp
  | case2 c cs hc literal rest htokens ih =>
      rw [htokens] at ih
      have hliteral : ∀ d ∈ literal, isIndexChar d = true := ih (.index literal) (by simp)
      have hrest : ∀ token ∈ rest, token.WellFormed := fun token h => ih token (by simp [h])
      simp only [List.forall_mem_cons]
      exact ⟨by simpa [Token.WellFormed, hc] using hliteral, hrest⟩
  | case3 c cs hc _ ih =>
      simp only [List.forall_mem_cons]
      exact ⟨by simp [Token.WellFormed, hc], ih⟩
  | case4 c cs hc ih =>
      simp only [List.forall_mem_cons]
      exact ⟨by simpa [Token.WellFormed] using hc, ih⟩

/-- A character that can stand in a flag run. It neither ends the run nor closes a block. -/
def isFlagChar (c : Char) : Bool :=
  Clause.isRunChar c && c != '\x7d'

theorem isFlagChar_of_isIndexChar {c : Char} (h : isIndexChar c = true) : isFlagChar c = true := by
  by_contra hflag
  simp only [isFlagChar, Clause.isRunChar, Clause.isDelimiter, Clause.isSeparator, Clause.isBlank,
    Bool.and_eq_true, Bool.not_eq_true', Bool.or_eq_false_iff, beq_eq_false_iff_ne, bne_iff_ne,
    ne_eq] at hflag
  have hcases : c ∈ ['/', '|', ':', ',', ';', '\n', '\r', ' ', '\t', '\x7b', '\x7d'] := by
    simp only [List.mem_cons, List.not_mem_nil, or_false]
    tauto
  have hnot : ∀ c ∈ ['/', '|', ':', ',', ';', '\n', '\r', ' ', '\t', '\x7b', '\x7d'],
      isIndexChar c = false := by
    simp [isIndexChar]
  rw [hnot c hcases] at h
  exact absurd h (by simp)

theorem isFlagChar_letter (field : Field) : isFlagChar field.letter = true := by
  cases field <;> decide

theorem isFlagChar_of_step {read next : Partial} {token : Token} (hform : token.WellFormed)
    (h : read.step token = .ok next) : ∀ c ∈ token.text, isFlagChar c = true := by
  cases token with
  | index literal =>
      intro c hc
      exact isFlagChar_of_isIndexChar (hform c hc)
  | mark c =>
      simp only [Token.text, List.forall_mem_cons, List.not_mem_nil, false_implies, implies_true,
        and_true]
      unfold Partial.step at h
      cases hletter : Field.ofLetter? c with
      | some field =>
          rw [← Field.letter_of_ofLetter? hletter]
          exact isFlagChar_letter field
      | none =>
          simp only [hletter] at h
          split at h
          · rename_i hgrows
            rcases hgrows with rfl | rfl | rfl | rfl <;> decide
          · split at h
            · rename_i hplus
              rw [hplus]
              decide
            · exact absurd h (by simp)

theorem isFlagChar_of_foldlM {ts : List Token} (hform : ∀ token ∈ ts, token.WellFormed)
    {read final : Partial} (h : ts.foldlM Partial.step read = .ok final) :
    ∀ c ∈ ts.flatMap Token.text, isFlagChar c = true := by
  induction ts generalizing read with
  | nil => simp
  | cons token ts ih =>
      rw [List.foldlM_cons] at h
      cases hstep : read.step token with
      | error cause =>
          rw [hstep] at h
          exact absurd h (by simp [bind, Except.bind])
      | ok next =>
          rw [hstep] at h
          intro c hc
          rw [List.flatMap_cons, List.mem_append] at hc
          rcases hc with hc | hc
          · exact isFlagChar_of_step (hform token (by simp)) hstep c hc
          · exact ih (fun token h => hform token (by simp [h])) h c hc

/-- Every character of a run that is read is one of flags. -/
theorem isFlagChar_of_decode {run : List Char} {flags : Flags} (h : decode run = .ok flags) :
    ∀ c ∈ run, isFlagChar c = true := by
  unfold decode at h
  cases hread : (tokens run).foldlM Partial.step {} with
  | error cause =>
      rw [hread] at h
      exact absurd h (by simp [Except.map])
  | ok final =>
      have hall := isFlagChar_of_foldlM (wellFormed_tokens run) hread
      rwa [flatMap_text_tokens] at hall

theorem isRunChar_of_decode {run : List Char} {flags : Flags} (h : decode run = .ok flags) :
    ∀ c ∈ run, Clause.isRunChar c = true := by
  intro c hc
  exact (Bool.and_eq_true_iff.1 (isFlagChar_of_decode h c hc)).1

private def resume (read : Partial) (cs : List Char) : Except FlagError Partial :=
  (tokens cs).foldlM Partial.step read

private theorem resume_mark {read next : Partial} {c : Char} {cs : List Char}
    (hc : isIndexChar c = false) (hstep : read.step (.mark c) = .ok next) :
    resume read (c :: cs) = resume next cs := by
  simp [resume, tokens, hc, hstep, bind, Except.bind]

/-- A block of index characters before any other character is one token. -/
theorem tokens_index_append {literal cs : List Char} (hne : literal ≠ [])
    (hliteral : ∀ c ∈ literal, isIndexChar c = true)
    (hcs : ∀ c ∈ cs.head?, isIndexChar c = false) :
    tokens (literal ++ cs) = .index literal :: tokens cs := by
  induction literal with
  | nil => exact absurd rfl hne
  | cons c literal ih =>
      have hc : isIndexChar c = true := hliteral c (by simp)
      rw [List.cons_append, tokens, if_pos hc]
      cases literal with
      | nil =>
          cases cs with
          | nil => rfl
          | cons d cs =>
              have hd : isIndexChar d = false := hcs d (by simp)
              simp [tokens, hd]
      | cons d literal =>
          rw [ih (by simp) fun c h => hliteral c (by simp [h])]

private theorem resume_letters (select invert matchOnly print : Bool) (cs : List Char) :
    resume {} ((if select then "s" else "").toList ++ ((if invert then "i" else "").toList ++
      ((if matchOnly then "m" else "").toList ++ ((if print then "p" else "").toList ++ cs)))) =
      resume { flags := { select, invert, matchOnly, print } } cs := by
  cases select <;> cases invert <;> cases matchOnly <;> cases print <;> rfl

private theorem readIndex_indexText (index : Int8) :
    readIndex (indexText index).toList = some index.toInt := by
  have hleast := index.le_toInt
  have hmost := index.toInt_lt
  have hpow : Nat.pow 2 63 = 9223372036854775808 := rfl
  exact Number.readWhole_toString (by omega) (by omega) (by omega)

private theorem indexText_chars (index : Int8) :
    (indexText index).toList ≠ [] ∧ ∀ c ∈ (indexText index).toList, isIndexChar c = true := by
  have hdigits (n : Nat) : ∀ c ∈ Nat.toDigits 10 n, isIndexChar c = true := by
    intro c hc
    have := List.all_eq_true.1 (Number.all_isDigit_toDigits n) c hc
    simp [isIndexChar, this]
  unfold indexText
  rcases Int.lt_or_le index.toInt 0 with hi | hi
  · obtain ⟨n, hn⟩ : ∃ n : Nat, index.toInt = -(n : Int) := ⟨index.toInt.natAbs, by omega⟩
    rw [hn, Number.toString_neg (by omega)]
    refine ⟨by simp, ?_⟩
    rw [List.forall_mem_cons]
    exact ⟨by decide, hdigits n⟩
  · obtain ⟨n, hn⟩ : ∃ n : Nat, index.toInt = (n : Int) := ⟨index.toInt.natAbs, by omega⟩
    rw [hn, Number.toString_nonneg]
    exact ⟨Nat.toDigits_ne_nil, hdigits n⟩

/-- An index that is printed unless it has its default value is read back: into the place of the
version once a field is named, else into the place of the match. -/
private theorem resume_indexText {read : Partial} (hadd : read.afterAdd = false)
    (hsecond : read.second = none) (index : Int8) {cs : List Char}
    (hcs : ∀ c ∈ cs.head?, isIndexChar c = false) :
    resume read ((indexText index).toList ++ cs) =
      resume { read with flags :=
        match read.first with
        | none => { read.flags with matchIndex := index }
        | some _ => { read.flags with fromIndex := index } } cs := by
  obtain ⟨hne, hchars⟩ := indexText_chars index
  have hleast := index.le_toInt
  have hmost := index.toInt_lt
  have hrange : -128 ≤ index.toInt ∧ index.toInt ≤ 127 := ⟨by omega, by omega⟩
  have hstep : read.step (.index (indexText index).toList) = .ok { read with flags :=
      match read.first with
      | none => { read.flags with matchIndex := index }
      | some _ => { read.flags with fromIndex := index } } := by
    unfold Partial.step
    simp only [hadd, hsecond, readIndex_indexText, if_pos hrange, Int8.ofInt_toInt]
    cases read.first with
    | none => rfl
    | some field => rfl
  simp only [resume, tokens_index_append hne hchars hcs, List.foldlM_cons, hstep, bind, Except.bind]

theorem isIndexChar_letter (field : Field) : isIndexChar field.letter = false := by
  cases field <;> decide

theorem Partial.step_letter (read : Partial) (field : Field) :
    read.step (.mark field.letter) =
      match read.first, read.second with
      | none, _ => .ok { read with first := some field, afterAdd := false }
      | some _, none => .ok { read with second := some field, afterAdd := false }
      | some _, some _ => .error .tooManyFields := by
  cases hfirst : read.first <;> cases hsecond : read.second <;>
    simp [step, Field.ofLetter?_letter, hfirst, hsecond]

theorem Partial.step_plus (read : Partial) :
    read.step (.mark '+') =
      if read.flags.add ≠ .none then .error .repeatedAdd
      else
        match read.first, read.second with
        | none, _ => .error .addBeforeField
        | some _, none =>
          .ok { read with flags := { read.flags with add := .prepend }, afterAdd := true }
        | some _, some _ =>
          .ok { read with flags := { read.flags with add := .append }, afterAdd := true } := by
  simp only [step, Field.ofLetter?]
  rfl

private theorem resume_source (flags : Flags) (source : Field) (cs : List Char) :
    resume { flags } (source.letter :: cs) = resume { flags, first := some source } cs := by
  refine resume_mark (isIndexChar_letter source) ?_
  rw [Partial.step_letter]

private theorem resume_target {read : Partial} {source : Field} (hfirst : read.first = some source)
    (hsecond : read.second = none) (target : Field) (cs : List Char) :
    resume read (target.letter :: cs) =
      resume { read with second := some target, afterAdd := false } cs := by
  refine resume_mark (isIndexChar_letter target) ?_
  simp only [Partial.step_letter, hfirst, hsecond]

private theorem resume_plus {read : Partial} {source : Field} (hfirst : read.first = some source)
    (hadd : read.flags.add = .none) (cs : List Char) :
    resume read ('+' :: cs) =
      resume { read with
        flags := { read.flags with add := if read.second.isSome then .append else .prepend }
        afterAdd := true } cs := by
  refine resume_mark (by decide) ?_
  rw [Partial.step_plus]
  cases hsecond : read.second with
  | none => simp [hadd, hfirst]
  | some target => simp [hadd, hfirst]

/-- The end of a printed run: a `+` before or behind the destination, which is left out where it
is the source and nothing is appended. -/
private def destinationText (source target : Field) (add : AddMode) : List Char :=
  (if add = .prepend then "+" else "").toList ++
    ((if target ≠ source ∨ add = .append then String.singleton target.letter else "").toList ++
      (if add = .append then "+" else "").toList)

private theorem head?_destinationText (source target : Field) (add : AddMode) :
    ∀ c ∈ (destinationText source target add).head?, isIndexChar c = false := by
  have hletter := isIndexChar_letter target
  have hplus : isIndexChar '+' = false := by decide
  unfold destinationText
  cases add with
  | none =>
      by_cases htarget : target = source
      · simp [htarget]
      · simp [htarget, hletter]
  | prepend => simp [hplus]
  | append => simp [hletter]

private theorem resume_destinationText (flags : Flags) (source target : Field) (add : AddMode) :
    (resume { flags := { flags with add := .none }, first := some source }
      (destinationText source target add)).map Partial.finish =
      .ok { flags with add, source, target } := by
  cases add with
  | none =>
      by_cases htarget : target = source
      · have htext : destinationText source target .none = [] := by
          simp [destinationText, htarget]
        rw [htext, htarget]
        rfl
      · have htext : destinationText source target .none = [target.letter] := by
          simp [destinationText, htarget]
        rw [htext, resume_target rfl rfl]
        rfl
  | prepend =>
      by_cases htarget : target = source
      · have htext : destinationText source target .prepend = ['+'] := by
          simp [destinationText, htarget]
        rw [htext, htarget, resume_plus rfl rfl]
        rfl
      · have htext : destinationText source target .prepend = ['+', target.letter] := by
          simp [destinationText, htarget]
        rw [htext, resume_plus rfl rfl, resume_target rfl rfl]
        rfl
  | append =>
      have htext : destinationText source target .append = [target.letter, '+'] := by
        simp [destinationText]
      rw [htext, resume_target rfl rfl, resume_plus rfl rfl]
      rfl

/-- The printed form of flags is read back as the same flags. -/
theorem decode_encode (flags : Flags) : decode flags.encode.toList = .ok flags := by
  obtain ⟨select, invert, matchOnly, print, add, source, target, fromIndex, matchIndex⟩ := flags
  have hmatch (cs : List Char) (hcs : ∀ c ∈ cs.head?, isIndexChar c = false) :
      resume { flags := { select, invert, matchOnly, print } }
          ((if matchIndex ≠ 0 then indexText matchIndex else "").toList ++ cs) =
        resume { flags := { select, invert, matchOnly, print, matchIndex } } cs := by
    by_cases hzero : matchIndex = 0
    · simp [hzero]
    · rw [if_pos hzero]
      exact resume_indexText rfl rfl matchIndex hcs
  have hversion (cs : List Char) (hcs : ∀ c ∈ cs.head?, isIndexChar c = false) :
      resume { flags := { select, invert, matchOnly, print, matchIndex }, first := some source }
          ((if fromIndex ≠ -1 then indexText fromIndex else "").toList ++ cs) =
        resume { flags := { select, invert, matchOnly, print, fromIndex, matchIndex }
                 first := some source } cs := by
    by_cases hlatest : fromIndex = -1
    · simp [hlatest]
    · rw [if_pos hlatest]
      exact resume_indexText rfl rfl fromIndex hcs
  have hletter : ∀ cs : List Char, ∀ c ∈ (source.letter :: cs).head?, isIndexChar c = false := by
    intro cs c hc
    rw [List.head?_cons, Option.mem_some_iff] at hc
    exact hc ▸ isIndexChar_letter source
  have htext : (encode ⟨select, invert, matchOnly, print, add, source, target, fromIndex,
      matchIndex⟩).toList =
      (if select then "s" else "").toList ++ ((if invert then "i" else "").toList ++
        ((if matchOnly then "m" else "").toList ++ ((if print then "p" else "").toList ++
          ((if matchIndex ≠ 0 then indexText matchIndex else "").toList ++ source.letter ::
            ((if fromIndex ≠ -1 then indexText fromIndex else "").toList ++
              destinationText source target add))))) := by
    simp only [encode, destinationText, String.toList_append, String.toList_singleton,
      List.append_assoc, List.cons_append, List.nil_append]
  change (resume {} (encode _).toList).map Partial.finish = _
  rw [htext, resume_letters, hmatch _ (hletter _), resume_source,
    hversion _ (head?_destinationText source target add)]
  exact resume_destinationText { select, invert, matchOnly, print, fromIndex, matchIndex }
    source target add

theorem isFlagChar_encode (flags : Flags) : ∀ c ∈ flags.encode.toList, isFlagChar c = true :=
  isFlagChar_of_decode (decode_encode flags)

theorem encode_ne_nil (flags : Flags) : flags.encode.toList ≠ [] := by
  have hletter : flags.source.letter ∈ flags.encode.toList := by simp [encode]
  exact List.ne_nil_of_mem hletter

end HistEdit.Flags
