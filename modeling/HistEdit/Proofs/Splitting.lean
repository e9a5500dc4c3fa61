import HistEdit.Proofs.Tokens
import Mathlib.Data.List.Forall2

/-!
Splitting takes joining back. A delimiter that is not white space keeps each token at its place,
also an empty one, and white space around a token does not count; a delimiter that is white space
takes any run of white space as one. So tokens come back from their join, however they are spaced,
and what a list reads is what its tokens read, one by one.
-/

namespace HistEdit.Text

def Blank (cs : List Char) : Prop :=
  ∀ c ∈ cs, isSpace c = true

def Solid (cs : List Char) : Prop :=
  ∀ c ∈ cs, isSpace c = false

structure Trimmed (cs : List Char) : Prop where
  first : ∀ c ∈ cs.head?, isSpace c = false
  last : ∀ c ∈ cs.getLast?, isSpace c = false

-- these go through the characters of the text; the instance for all characters is another one
instance (cs : List Char) : Decidable (Blank cs) :=
  List.decidableBAll (fun c => isSpace c = true) cs

instance (cs : List Char) : Decidable (Solid cs) :=
  List.decidableBAll (fun c => isSpace c = false) cs

instance (cs : List Char) : Decidable (Trimmed cs) :=
  decidable_of_iff (Solid cs.head?.toList ∧ Solid cs.getLast?.toList)
    ⟨fun h => ⟨fun c hc => h.1 c (Option.mem_toList.2 hc),
        fun c hc => h.2 c (Option.mem_toList.2 hc)⟩,
      fun h => ⟨fun c hc => h.first c (Option.mem_toList.1 hc),
        fun c hc => h.last c (Option.mem_toList.1 hc)⟩⟩

section

variable {c : Char} {cs before after gap word : List Char}

theorem trimmed_trim (cs : List Char) : Trimmed (trim cs) := by
  rw [trim, trimEnd_eq_trimEndWhere]
  constructor
  case first =>
    intro c hc
    -- what is left at the end begins like the text that it was cut from
    obtain ⟨cut, -, htext⟩ := exists_trimEndWhere_append isSpace (cs.dropWhile isSpace)
    have hhead := List.head?_dropWhile_not isSpace cs
    rw [htext, List.head?_append, Option.mem_def.1 hc, Option.some_or] at hhead
    exact hhead
  case last => exact getLast?_trimEndWhere isSpace _

/-- Trimming takes white space away and leaves a text that has none at its ends. -/
theorem trim_pad (hbefore : Blank before) (hafter : Blank after) (h : Trimmed cs) :
    trim (before ++ (cs ++ after)) = cs := by
  rw [trim, trimEnd_eq_trimEndWhere, List.dropWhile_append_of_pos hbefore]
  cases cs with
  | nil =>
      rw [List.nil_append, List.dropWhile_eq_nil_iff.2 hafter]
      rfl
  | cons c cs =>
      have hc : isSpace c = false := h.first c rfl
      rw [List.cons_append, List.dropWhile_cons_of_neg (Bool.eq_false_iff.1 hc),
        ← List.cons_append, trimEndWhere_append_of_all hafter]
      exact trimEndWhere_eq_self h.last

theorem mem_of_mem_trim (h : c ∈ trim cs) : c ∈ cs := by
  rw [trim, trimEnd_eq_trimEndWhere] at h
  obtain ⟨cut, -, htext⟩ := exists_trimEndWhere_append isSpace (cs.dropWhile isSpace)
  exact (List.dropWhile_suffix isSpace).subset (htext ▸ List.mem_append_left cut h)

/-- No piece holds a character that the text was cut at. -/
theorem of_mem_splitWhere {p : Char → Bool} {piece : List Char} (h : piece ∈ splitWhere p cs) :
    ∀ c ∈ piece, p c = false := by
  induction cs generalizing piece with
  | nil =>
      obtain rfl := List.mem_singleton.1 h
      simp
  | cons c cs ih =>
      unfold splitWhere at h
      split at h
      · rcases List.mem_cons.1 h with rfl | hlater
        · simp
        · exact ih hlater
      · next hnil => exact absurd hnil (splitWhere_ne_nil p cs)
      · next hc hcons =>
          rcases List.mem_cons.1 h with rfl | hlater
          · exact List.forall_mem_cons.2 ⟨hc, ih (hcons ▸ List.mem_cons_self)⟩
          · exact ih (hcons ▸ List.mem_cons_of_mem _ hlater)

/-- White space stands between words. -/
theorem words_append_space (hc : isSpace c = true) (as bs : List Char) :
    words (as ++ c :: bs) = words as ++ words bs := by
  simp only [words, splitWhere_eq_splitOnP]
  rw [List.splitOnP_append_cons as bs hc, List.filter_append]

theorem words_gap_append (hgap : Blank gap) (cs : List Char) : words (gap ++ cs) = words cs := by
  induction gap with
  | nil => rfl
  | cons c gap ih =>
      have hc : isSpace c = true := hgap c List.mem_cons_self
      rw [List.cons_append]
      exact (words_append_space hc [] (gap ++ cs)).trans
        (ih fun d hd => hgap d (List.mem_cons_of_mem c hd))

theorem words_of_blank (hgap : Blank gap) : words gap = [] := by
  have hwords := words_gap_append hgap []
  rwa [List.append_nil] at hwords

/-- A run without white space is one word. -/
theorem words_singleton (hne : word ≠ []) (hword : Solid word) :
    words word = [word] := by
  simp [words, splitWhere_eq_splitOnP, List.splitOnP_eq_singleton hword, hne]

/-- A word ends at the white space behind it, or at the end of the text. -/
theorem words_word_append (hne : word ≠ []) (hword : Solid word)
    (hstop : ∀ c ∈ cs.head?, isSpace c = true) : words (word ++ cs) = word :: words cs := by
  cases cs with
  | nil =>
      rw [List.append_nil, words_singleton hne hword]
      rfl
  | cons c cs =>
      have hc : isSpace c = true := hstop c rfl
      rw [words_append_space hc, words_singleton hne hword]
      exact congrArg _ (words_append_space hc [] cs).symm

end

end HistEdit.Text

namespace HistEdit.Argument

open Text (isSpace trim Blank Solid Trimmed)

/-- A token as it can be written, with white space before and after it. -/
structure Padded where
  before : String := ""
  token : String
  after : String := ""
  blank_before : Blank before.toList := by decide
  blank_after : Blank after.toList := by decide

def Padded.text (padded : Padded) : String :=
  padded.before ++ padded.token ++ padded.after

/-- A word as it can be written, with white space before it. -/
structure Spaced where
  gap : String := ""
  word : String
  blank_gap : Blank gap.toList := by decide
  word_ne : word ≠ "" := by decide
  solid : Solid word.toList := by decide

/-- Words one after the other, each behind its white space, and white space behind the last. -/
def spread : List Spaced → String → String
  | [], trailing => trailing
  | spaced :: rest, trailing => spaced.gap ++ spaced.word ++ spread rest trailing

theorem Padded.trim_text (padded : Padded) (h : Trimmed padded.token.toList) :
    trim padded.text.toList = padded.token.toList := by
  rw [text, String.toList_append, String.toList_append, List.append_assoc]
  exact Text.trim_pad padded.blank_before padded.blank_after h

theorem Padded.not_mem_text {delimiter : Char} (padded : Padded)
    (hdelimiter : isSpace delimiter = false) (h : delimiter ∉ padded.token.toList) :
    delimiter ∉ padded.text.toList := by
  have hspace {gap : String} (hgap : Blank gap.toList) : delimiter ∉ gap.toList :=
    fun hmem => Bool.false_ne_true (hdelimiter.symm.trans (hgap delimiter hmem))
  simp [text, hspace padded.blank_before, h, hspace padded.blank_after]

section

variable {delimiter : Char}

/-- Tokens come back from their join, whatever white space was put around them. -/
theorem tokens_intercalate {padded : List Padded} (hdelimiter : isSpace delimiter = false)
    (hblank : padded.map Padded.token ≠ [""])
    (hfree : ∀ p ∈ padded, delimiter ∉ p.token.toList)
    (htrimmed : ∀ p ∈ padded, Trimmed p.token.toList) :
    tokens delimiter ((String.singleton delimiter).intercalate (padded.map Padded.text)) =
      padded.map Padded.token := by
  have htrim : (padded.map fun p => p.text.toList).map trim =
      (padded.map Padded.token).map String.toList := by
    rw [List.map_map, List.map_map]
    exact List.map_congr_left fun p hmem => p.trim_text (htrimmed p hmem)
  have hshown : (padded.map fun p => p.text.toList).map trim ≠ [[]] := by
    rw [htrim]
    intro hone
    obtain ⟨token, htoken, hempty⟩ := List.map_eq_singleton_iff.1 hone
    rw [String.toList_eq_nil_iff] at hempty
    exact hblank (htoken.trans (congrArg (fun token => [token]) hempty))
  have hpieces : ∀ piece ∈ padded.map fun p => p.text.toList, delimiter ∉ piece := by
    intro piece hpiece
    obtain ⟨p, hmem, rfl⟩ := List.mem_map.1 hpiece
    exact p.not_mem_text hdelimiter (hfree p hmem)
  have htext : ((String.singleton delimiter).intercalate (padded.map Padded.text)).toList =
      [delimiter].intercalate (padded.map fun p => p.text.toList) := by
    rw [String.toList_intercalate, String.toList_singleton, List.map_map]
    rfl
  rw [tokens, htext, tokenize_intercalate_trim hdelimiter hshown hpieces, htrim, List.map_map]
  exact (List.map_congr_left fun token _ => String.ofList_toList).trans (List.map_id _)

theorem head?_spread {spaced : List Spaced} {trailing : String} (htrailing : Blank trailing.toList)
    (hgaps : ∀ s ∈ spaced, s.gap ≠ "") :
    ∀ c ∈ (spread spaced trailing).toList.head?, isSpace c = true := by
  intro c hc
  cases spaced with
  | nil => exact htrailing c (List.mem_of_head? hc)
  | cons s rest =>
      have hne : s.gap.toList ≠ [] := fun hnil =>
        hgaps s List.mem_cons_self (String.toList_eq_nil_iff.1 hnil)
      obtain ⟨first, gap, hgap⟩ := List.exists_cons_of_ne_nil hne
      rw [spread, String.toList_append, String.toList_append, hgap] at hc
      obtain rfl : first = c := Option.some.inj hc
      exact s.blank_gap first (by simp [hgap])

/-- Words come back from a text in which white space stands between any two of them. -/
theorem words_spread {spaced : List Spaced} {trailing : String}
    (htrailing : Blank trailing.toList) (hgaps : ∀ s ∈ spaced.tail, s.gap ≠ "") :
    Text.words (spread spaced trailing).toList = spaced.map fun s => s.word.toList := by
  induction spaced with
  | nil => exact Text.words_of_blank htrailing
  | cons s rest ih =>
      have hword : s.word.toList ≠ [] := fun hnil => s.word_ne (String.toList_eq_nil_iff.1 hnil)
      have hstop : ∀ c ∈ (spread rest trailing).toList.head?, isSpace c = true :=
        head?_spread htrailing hgaps
      rw [spread, String.toList_append, String.toList_append, List.append_assoc,
        Text.words_gap_append s.blank_gap, Text.words_word_append hword s.solid hstop,
        ih fun s hmem => hgaps s (List.mem_of_mem_tail hmem)]
      rfl

theorem tokens_spread {spaced : List Spaced} {trailing : String}
    (hdelimiter : isSpace delimiter = true) (htrailing : Blank trailing.toList)
    (hgaps : ∀ s ∈ spaced.tail, s.gap ≠ "") :
    tokens delimiter (spread spaced trailing) = spaced.map Spaced.word := by
  rw [tokens, tokenize, if_pos hdelimiter, words_spread htrailing hgaps, List.map_map]
  exact List.map_congr_left fun s _ => String.ofList_toList

/-- Tokens hold no delimiter and have no white space at their ends. -/
theorem mem_tokens (hdelimiter : isSpace delimiter = false) {text token : String}
    (h : token ∈ tokens delimiter text) :
    delimiter ∉ token.toList ∧ Trimmed token.toList := by
  obtain ⟨cs, hcs, rfl⟩ := List.mem_map.1 h
  rw [String.toList_ofList]
  rw [tokenize, hdelimiter, if_neg Bool.false_ne_true] at hcs
  split at hcs
  · exact absurd hcs List.not_mem_nil
  · obtain ⟨piece, hpiece, rfl⟩ := List.mem_map.1 hcs
    refine ⟨fun hmem => ?_, Text.trimmed_trim piece⟩
    exact absurd (Text.of_mem_splitWhere hpiece delimiter (Text.mem_of_mem_trim hmem)) (by simp)

/-- A text has one token more than it has delimiters, unless it is blank. -/
theorem length_tokens (hdelimiter : isSpace delimiter = false) (text : String) :
    (tokens delimiter text).length =
      if Blank text.toList then 0 else text.toList.count delimiter + 1 := by
  have hblank : (trim text.toList).isEmpty = true ↔ Blank text.toList := by
    rw [List.isEmpty_iff]
    exact Text.trim_eq_nil_iff
  simp only [tokens, tokenize, hdelimiter, Bool.false_eq_true, if_false, hblank]
  split
  · rfl
  · rw [List.length_map, List.length_map, Text.length_splitWhere]
    rfl

end

end HistEdit.Argument

namespace HistEdit

section

variable {α β ε : Type} {f : α → Except ε β} {items : List α}

theorem mapM_cons_eq (f : α → Except ε β) (item : α) (items : List α) :
    (item :: items).mapM f =
      (f item).bind fun value => (items.mapM f).map fun values => value :: values := by
  rw [List.mapM_cons]
  cases f item with
  | error error => rfl
  | ok value => cases items.mapM f <;> rfl

/-- Reading items one by one gives their values in order. -/
theorem mapM_eq_ok_iff {values : List β} :
    items.mapM f = .ok values ↔
      List.Forall₂ (fun item value => f item = .ok value) items values := by
  induction items generalizing values with
  | nil => simp [pure, Except.pure, eq_comm]
  | cons item items ih =>
      rw [mapM_cons_eq]
      cases values with
      | nil => cases f item <;> cases items.mapM f <;> simp [Except.bind, Except.map]
      | cons value values =>
          rw [List.forall₂_cons, ← ih]
          cases f item <;> cases items.mapM f <;> simp [Except.bind, Except.map]

/-- Reading items one by one fails as the first item that cannot be read. -/
theorem mapM_eq_error_iff {error : ε} :
    items.mapM f = .error error ↔
      ∃ before item after, items = before ++ item :: after ∧
        (∀ earlier ∈ before, ∃ value, f earlier = .ok value) ∧ f item = .error error := by
  induction items with
  | nil => simp [pure, Except.pure]
  | cons first items ih =>
      rw [mapM_cons_eq]
      cases hfirst : f first with
      | error cause =>
          change (Except.error cause : Except ε (List β)) = .error error ↔ _
          rw [Except.error.injEq]
          constructor
          · rintro rfl
            exact ⟨[], first, items, rfl, by simp, hfirst⟩
          · rintro ⟨before, item, after, hitems, hbefore, herror⟩
            cases before with
            | nil =>
                obtain ⟨rfl, rfl⟩ := List.cons.inj hitems
                exact Except.error.inj (hfirst.symm.trans herror)
            | cons other before =>
                obtain ⟨rfl, -⟩ := List.cons.inj hitems
                obtain ⟨value, hvalue⟩ := hbefore first List.mem_cons_self
                exact nomatch hfirst.symm.trans hvalue
      | ok value =>
          have hrest : (Except.ok value).bind
              (fun value => (items.mapM f).map fun values => value :: values) = .error error ↔
                items.mapM f = .error error := by
            cases items.mapM f <;> simp [Except.bind, Except.map]
          rw [hrest, ih]
          constructor
          · rintro ⟨before, item, after, rfl, hbefore, herror⟩
            exact ⟨first :: before, item, after, rfl,
              List.forall_mem_cons.2 ⟨⟨value, hfirst⟩, hbefore⟩, herror⟩
          · rintro ⟨before, item, after, hitems, hbefore, herror⟩
            cases before with
            | nil =>
                obtain ⟨rfl, -⟩ := List.cons.inj hitems
                exact nomatch hfirst.symm.trans herror
            | cons other before =>
                obtain ⟨-, rfl⟩ := List.cons.inj hitems
                exact ⟨before, item, after, rfl, (List.forall_mem_cons.1 hbefore).2, herror⟩

end

end HistEdit

namespace HistEdit.Argument

open Text (isSpace Blank Trimmed)

def given (delimiter : Char) (text : String) : List String :=
  (tokens delimiter text).filter fun token => !token.isEmpty

/-- Splitting is the inverse of joining. For a delimiter that is not white space, tokens that hold
none of it and have no white space at their ends come back from their join, with any white space
around each of them, except that a single empty token is a blank text; the tokens of every text are
such tokens, none for a blank text and otherwise one more than there are delimiters. For a delimiter
that is white space, words come back from a text that has white space between any two of them and
perhaps around, and no text has an empty token. A list reads the tokens that are not empty, in order
up to the first that does not convert. -/
theorem tokens_of_joined (delimiter : Char) :
    (isSpace delimiter = false →
      (∀ padded : List Padded, padded.map Padded.token ≠ [""] →
        (∀ p ∈ padded, delimiter ∉ p.token.toList ∧ Trimmed p.token.toList) →
        tokens delimiter ((String.singleton delimiter).intercalate (padded.map Padded.text)) =
          padded.map Padded.token) ∧
      ∀ text : String,
        (∀ token ∈ tokens delimiter text, delimiter ∉ token.toList ∧ Trimmed token.toList) ∧
        (tokens delimiter text).length =
          if Blank text.toList then 0 else text.toList.count delimiter + 1) ∧
    (isSpace delimiter = true →
      (∀ (spaced : List Spaced) (trailing : String), Blank trailing.toList →
        (∀ s ∈ spaced.tail, s.gap ≠ "") →
        tokens delimiter (spread spaced trailing) = spaced.map Spaced.word) ∧
      ∀ text : String, "" ∉ tokens delimiter text) ∧
    ∀ {α : Type} (type : ArgType α) (text : String),
      (∀ values, type.list.readList delimiter text = .ok values ↔
        List.Forall₂ (fun token value => type.read token = .ok value) (given delimiter text)
          values) ∧
      ∀ error, type.list.readList delimiter text = .error error ↔
        ∃ before token after, given delimiter text = before ++ token :: after ∧
          (∀ earlier ∈ before, ∃ value, type.read earlier = .ok value) ∧
          type.read token = .error error := by
  refine ⟨fun hdelimiter => ⟨?_, fun text => ⟨?_, length_tokens hdelimiter text⟩⟩,
    fun hdelimiter => ⟨?_, ?_⟩, fun type text => ?_⟩
  · intro padded hblank hfit
    exact tokens_intercalate hdelimiter hblank (fun p hmem => (hfit p hmem).1)
      fun p hmem => (hfit p hmem).2
  · exact fun token htoken => mem_tokens hdelimiter htoken
  · exact fun spaced trailing htrailing hgaps => tokens_spread hdelimiter htrailing hgaps
  · exact fun text hempty => ne_empty_of_mem_tokens hdelimiter hempty rfl
  · rw [ArgType.readList_list]
    exact ⟨fun values => mapM_eq_ok_iff, fun error => mapM_eq_error_iff⟩

/-- Empty tokens between commas, with blanks, and words behind line feeds. -/
theorem tokens_of_joined_spaced :
    tokens ',' "\t602 ,, 4 6," = ["602", "", "4 6", ""] ∧
      tokens '\n' "\n602  4\t" = ["602", "4"] := by
  let padded : List Padded :=
    [{ before := "\t", token := "602", after := " " }, { token := "" },
      { before := " ", token := "4 6" }, { token := "" }]
  let spaced : List Spaced := [{ gap := "\n", word := "602" }, { gap := "  ", word := "4" }]
  have hcomma := (tokens_of_joined ',').1 (by decide)
  have hline := (tokens_of_joined '\n').2.1 (by decide)
  exact ⟨hcomma.1 padded (by decide) (by decide), hline.1 spaced "\t" (by decide) (by decide)⟩

end HistEdit.Argument
