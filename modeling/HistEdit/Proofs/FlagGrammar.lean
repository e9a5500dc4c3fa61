import HistEdit.Proofs.FlagRun
import Mathlib.Data.List.Chain
import Mathlib.Data.List.Induction

/-!
The grammar of flag runs. A run is a list of opening letters and literals, then possibly a field
letter, with a literal behind it, and a `+` and a second field letter in either order. Cutting the
text of a run gives back the tokens that it was made from, since no two literals of a run touch.
-/

namespace HistEdit.Flags

/-- A number as runs spell it: an optional minus sign and decimal digits. -/
structure Numeral where
  negative : Bool
  digits : List Char
  nonempty : digits ≠ []
  decimal : ∀ c ∈ digits, c.isDigit = true
  deriving DecidableEq

def Numeral.text (numeral : Numeral) : List Char :=
  if numeral.negative then '-' :: numeral.digits else numeral.digits

def Numeral.value (numeral : Numeral) : Int :=
  if numeral.negative then -(Number.digitsValue numeral.digits) else
    Number.digitsValue numeral.digits

/-- A number of 64 bits; a wider one is not read as a number. -/
def Numeral.IsWord (numeral : Numeral) : Prop :=
  -9223372036854775808 ≤ numeral.value ∧ numeral.value ≤ 9223372036854775807

instance (numeral : Numeral) : Decidable numeral.IsWord :=
  inferInstanceAs (Decidable (_ ∧ _))

structure Literal extends Numeral where
  fits : -128 ≤ toNumeral.value ∧ toNumeral.value ≤ 127
  deriving DecidableEq

def Literal.index (literal : Literal) : Int8 :=
  .ofInt literal.value

inductive Opening where
  | select
  | invert
  | matchOnly
  | print
  | index (literal : Literal)
  deriving DecidableEq

def Opening.token : Opening → Token
  | .select => .mark 's'
  | .invert => .mark 'i'
  | .matchOnly => .mark 'm'
  | .print => .mark 'p'
  | .index literal => .index literal.text

def Opening.literal? : Opening → Option Literal
  | .index literal => some literal
  | _ => none

inductive Ending where
  | bare
  | prepend (second : Option Field)
  | letter (second : Field) (append : Bool)

def Ending.tokens : Ending → List Token
  | .bare => []
  | .prepend second => .mark '+' :: (second.map fun field => .mark field.letter).toList
  | .letter second append => .mark second.letter :: if append then [.mark '+'] else []

def Ending.field? : Ending → Option Field
  | .bare => none
  | .prepend second => second
  | .letter second _ => some second

/-- A `+` before the second field letter prepends, also where there is none; one behind it
appends. -/
def Ending.add : Ending → AddMode
  | .bare => .none
  | .prepend _ => .prepend
  | .letter _ append => if append then .append else .none

def Ending.endsInAdd : Ending → Bool
  | .bare => false
  | .prepend second => second.isNone
  | .letter _ append => append

structure FieldPart where
  first : Field
  index : Option Literal
  ending : Ending

def FieldPart.tokens (part : FieldPart) : List Token :=
  .mark part.first.letter ::
    ((part.index.map fun literal => .index literal.text).toList ++ part.ending.tokens)

def Token.isIndex : Token → Bool
  | .index _ => true
  | .mark _ => false

/-- Two tokens that can follow each other: of two blocks of digits, one would be no maximal
block. -/
def Token.Apart (a b : Token) : Prop :=
  ¬(a.isIndex = true ∧ b.isIndex = true)

structure Form where
  opening : List Opening
  apart : (opening.map Opening.token).IsChain Token.Apart
  part : Option FieldPart

namespace Form

def tokens (form : Form) : List Token :=
  form.opening.map Opening.token ++ (form.part.map FieldPart.tokens).getD []

def text (form : Form) : List Char :=
  form.tokens.flatMap Token.text

def first (form : Form) : Option Field :=
  form.part.map FieldPart.first

def second (form : Form) : Option Field :=
  form.part.bind fun part => part.ending.field?

def add (form : Form) : AddMode :=
  (form.part.map fun part => part.ending.add).getD .none

def endsInAdd (form : Form) : Bool :=
  form.part.any fun part => part.ending.endsInAdd

end Form

theorem isIndexChar_digit {c : Char} (h : c.isDigit = true) : isIndexChar c = true := by
  simp [isIndexChar, h]

theorem Numeral.text_ne_nil (numeral : Numeral) : numeral.text ≠ [] := by
  have hne := numeral.nonempty
  unfold text
  split <;> simp [hne]

theorem Numeral.isIndexChar_text (numeral : Numeral) :
    ∀ c ∈ numeral.text, isIndexChar c = true := by
  have hdigits : ∀ c ∈ numeral.digits, isIndexChar c = true :=
    fun c hc => isIndexChar_digit (numeral.decimal c hc)
  unfold text
  split
  · rw [List.forall_mem_cons]
    exact ⟨by decide, hdigits⟩
  · exact hdigits

/-! ### Tokens -/

theorem apart_tokens (cs : List Char) : (tokens cs).IsChain Token.Apart := by
  fun_induction tokens cs with
  | case1 => exact .nil
  | case2 c cs hc literal rest htokens ih =>
      rw [htokens] at ih
      cases rest with
      | nil => exact .singleton _
      | cons token rest =>
          rw [List.isChain_cons_cons] at ih ⊢
          exact ih
  | case3 c cs hc hother ih =>
      cases htokens : tokens cs with
      | nil => exact .singleton _
      | cons token rest =>
          cases token with
          | index literal => exact absurd htokens (hother literal rest)
          | mark d =>
              rw [htokens] at ih
              rw [List.isChain_cons_cons]
              exact ⟨by simp [Token.Apart, Token.isIndex], ih⟩
  | case4 c cs hc ih =>
      cases htokens : tokens cs with
      | nil => exact .singleton _
      | cons token rest =>
          rw [htokens] at ih
          rw [List.isChain_cons_cons]
          exact ⟨by simp [Token.Apart, Token.isIndex], ih⟩

/-- Tokens that can follow each other are found again in their text. -/
theorem tokens_flatMap_text {ts : List Token} (hform : ∀ token ∈ ts, token.WellFormed)
    (hne : ∀ token ∈ ts, token.text ≠ []) (hapart : ts.IsChain Token.Apart) :
    tokens (ts.flatMap Token.text) = ts := by
  induction ts with
  | nil => rfl
  | cons token ts ih =>
      have hrest := ih (fun t h => hform t (by simp [h])) (fun t h => hne t (by simp [h]))
        hapart.tail
      cases token with
      | mark c =>
          have hc : isIndexChar c = false := hform (.mark c) (by simp)
          simp [Token.text, tokens, hc, hrest]
      | index literal =>
          have hstop : ∀ c ∈ (ts.flatMap Token.text).head?, isIndexChar c = false := by
            cases ts with
            | nil => simp
            | cons next ts =>
                rw [List.isChain_cons_cons] at hapart
                cases next with
                | index other => exact absurd ⟨rfl, rfl⟩ hapart.1
                | mark d =>
                    have hd : isIndexChar d = false := hform (.mark d) (by simp)
                    simpa [Token.text] using hd
          have hblock := tokens_index_append (hne (.index literal) (by simp))
            (hform (.index literal) (by simp)) hstop
          rw [hrest] at hblock
          exact hblock

/-! ### Runs of the grammar -/

theorem Opening.wellFormed_token (piece : Opening) : piece.token.WellFormed := by
  cases piece with
  | index literal => exact literal.isIndexChar_text
  | select => exact rfl
  | invert => exact rfl
  | matchOnly => exact rfl
  | print => exact rfl

theorem Opening.exists_token_eq_mark {c : Char} (h : c ∈ ['s', 'i', 'm', 'p']) :
    ∃ piece : Opening, piece.token = .mark c := by
  simp only [List.mem_cons, List.not_mem_nil, or_false] at h
  rcases h with rfl | rfl | rfl | rfl
  · exact ⟨.select, rfl⟩
  · exact ⟨.invert, rfl⟩
  · exact ⟨.matchOnly, rfl⟩
  · exact ⟨.print, rfl⟩

theorem Opening.text_token_ne_nil (piece : Opening) : piece.token.text ≠ [] := by
  cases piece with
  | index literal => exact literal.text_ne_nil
  | select => exact List.cons_ne_nil _ _
  | invert => exact List.cons_ne_nil _ _
  | matchOnly => exact List.cons_ne_nil _ _
  | print => exact List.cons_ne_nil _ _

theorem Token.apart_mark (token : Token) (c : Char) :
    token.Apart (.mark c) ∧ (Token.mark c).Apart token := by
  simp [Token.Apart, Token.isIndex]

def Token.Stands (token : Token) : Prop :=
  token.WellFormed ∧ token.text ≠ []

theorem Token.stands_mark {c : Char} (hc : isIndexChar c = false) : (Token.mark c).Stands :=
  ⟨hc, List.cons_ne_nil _ _⟩

theorem Ending.stands_tokens (ending : Ending) : ∀ token ∈ ending.tokens, token.Stands := by
  have hplus : (Token.mark '+').Stands := Token.stands_mark (by decide)
  have hletter (field : Field) : (Token.mark field.letter).Stands :=
    Token.stands_mark (isIndexChar_letter field)
  cases ending with
  | bare => simp [tokens]
  | prepend second =>
      cases second with
      | none => simpa [tokens] using hplus
      | some second => simpa [tokens] using ⟨hplus, hletter second⟩
  | letter second append =>
      cases append with
      | false => simpa [tokens] using hletter second
      | true => simpa [tokens] using ⟨hletter second, hplus⟩

/-- No literal stands in an ending, so it can follow anything. -/
theorem Ending.apart_cons_tokens (ending : Ending) (token : Token) :
    (token :: ending.tokens).IsChain Token.Apart := by
  have hmark (a : Token) (c : Char) := (Token.apart_mark a c).1
  cases ending with
  | bare => exact .singleton _
  | prepend second => cases second <;> simp [tokens, hmark]
  | letter second append => cases append <;> simp [tokens, hmark]

theorem FieldPart.stands_tokens (part : FieldPart) : ∀ token ∈ part.tokens, token.Stands := by
  obtain ⟨first, index, ending⟩ := part
  have hfirst : (Token.mark first.letter).Stands := Token.stands_mark (isIndexChar_letter first)
  have hending := ending.stands_tokens
  simp only [tokens, List.forall_mem_cons, List.forall_mem_append]
  refine ⟨hfirst, ?_, hending⟩
  cases index with
  | none => simp
  | some literal => simpa using ⟨literal.isIndexChar_text, literal.text_ne_nil⟩

theorem FieldPart.apart_tokens (part : FieldPart) : part.tokens.IsChain Token.Apart := by
  obtain ⟨first, index, ending⟩ := part
  cases index with
  | none => exact ending.apart_cons_tokens _
  | some literal =>
      simp only [tokens, Option.map_some, Option.toList_some, List.singleton_append,
        List.isChain_cons_cons]
      exact ⟨(Token.apart_mark _ _).2, ending.apart_cons_tokens _⟩

namespace Form

theorem stands_tokens (form : Form) : ∀ token ∈ form.tokens, token.Stands := by
  obtain ⟨opening, hapart, part⟩ := form
  simp only [tokens, List.forall_mem_append, List.forall_mem_map]
  refine ⟨fun piece _ => ⟨piece.wellFormed_token, piece.text_token_ne_nil⟩, ?_⟩
  cases part with
  | none => simp
  | some part => exact part.stands_tokens

theorem apart_tokens (form : Form) : form.tokens.IsChain Token.Apart := by
  obtain ⟨opening, hapart, part⟩ := form
  cases part with
  | none => simpa [tokens] using hapart
  | some part =>
      refine hapart.append part.apart_tokens ?_
      intro last _ head hhead
      obtain rfl : .mark part.first.letter = head := by simpa [FieldPart.tokens] using hhead
      exact (Token.apart_mark last _).1

/-- The tokens of a run are found again in its text. -/
theorem tokens_text (form : Form) : Flags.tokens form.text = form.tokens :=
  tokens_flatMap_text (fun token h => (form.stands_tokens token h).1)
    (fun token h => (form.stands_tokens token h).2) form.apart_tokens

end Form

/-! ### Pieces of a text -/

theorem text_ne_nil_of_mem_tokens (cs : List Char) : ∀ token ∈ tokens cs, token.text ≠ [] := by
  fun_induction tokens cs with
  | case1 => simp
  | case2 c cs hc literal rest htokens ih =>
      rw [htokens, List.forall_mem_cons] at ih
      rw [List.forall_mem_cons]
      exact ⟨List.cons_ne_nil _ _, ih.2⟩
  | case3 c cs hc _ ih =>
      rw [List.forall_mem_cons]
      exact ⟨List.cons_ne_nil _ _, ih⟩
  | case4 c cs hc ih =>
      rw [List.forall_mem_cons]
      exact ⟨List.cons_ne_nil _ _, ih⟩

theorem stands_tokens (cs : List Char) : ∀ token ∈ tokens cs, token.Stands :=
  fun token h => ⟨wellFormed_tokens cs token h, text_ne_nil_of_mem_tokens cs token h⟩

theorem Token.isIndexChar_of_mem {token : Token} (h : token.Stands) :
    ∀ c ∈ token.text, isIndexChar c = token.isIndex := by
  cases token with
  | index literal => exact h.1
  | mark c =>
      have hc : isIndexChar c = false := h.1
      simpa [Token.text, isIndex] using hc

/-- The first character of a text tells the kind of its first token. -/
theorem any_head?_flatMap_text {ts : List Token} (hstands : ∀ token ∈ ts, token.Stands) :
    (ts.flatMap Token.text).head?.any isIndexChar = ts.head?.any Token.isIndex := by
  cases ts with
  | nil => rfl
  | cons token ts =>
      have htoken := hstands token (by simp)
      obtain ⟨c, cs, htext⟩ := List.exists_cons_of_ne_nil htoken.2
      simpa [htext] using Token.isIndexChar_of_mem htoken c (by simp [htext])

/-- The last character of a text tells the kind of its last token. -/
theorem any_getLast?_flatMap_text {ts : List Token} (hstands : ∀ token ∈ ts, token.Stands) :
    (ts.flatMap Token.text).getLast?.any isIndexChar = ts.getLast?.any Token.isIndex := by
  induction ts using List.reverseRecOn with
  | nil => rfl
  | append_singleton ts token _ =>
      have htoken := hstands token (by simp)
      have hlast := List.getLast?_eq_getLast_of_ne_nil htoken.2
      simpa [hlast] using Token.isIndexChar_of_mem htoken _ (List.getLast_mem htoken.2)

theorem Token.apart_iff {a b : Token} : a.Apart b ↔ (b.isIndex = true → a.isIndex = false) := by
  cases ha : a.isIndex <;> simp [Apart, ha]

/-- A token that stands between two texts as a piece of its own: a block of digits and minus signs
goes on neither to the left nor to the right. -/
def Token.StandsBetween (token : Token) (before after : List Char) : Prop :=
  token.Stands ∧ (token.isIndex = true →
    before.getLast?.any isIndexChar = false ∧ after.head?.any isIndexChar = false)

/-- A token stands as a piece of its own where it can follow the tokens before it and the tokens
behind it can follow it. -/
theorem Form.isChain_iff_standsBetween (form : Form) {token : Token} (after : List Char)
    (hstands : token.Stands) :
    (form.tokens ++ token :: Flags.tokens after).IsChain Token.Apart ↔
      token.StandsBetween form.text after := by
  have hlast := any_getLast?_flatMap_text form.stands_tokens
  have hhead := any_head?_flatMap_text (Flags.stands_tokens after)
  rw [flatMap_text_tokens] at hhead
  simp only [Token.StandsBetween, text, hlast, hhead, hstands, true_and, List.isChain_append,
    List.isChain_cons, form.apart_tokens, Flags.apart_tokens, Option.any_eq_false,
    List.head?_cons, Option.mem_some_iff, forall_eq', Token.apart_iff]
  constructor
  · rintro ⟨⟨hnext, -⟩, hbefore⟩ hindex
    refine ⟨fun last hlast => hbefore last hlast hindex, fun next hnextMem => ?_⟩
    by_contra hother
    have hmark := hnext next hnextMem (by simpa using hother)
    rw [hindex] at hmark
    exact absurd hmark (by simp)
  · intro h
    refine ⟨⟨fun next hnext hother => ?_, trivial⟩, ?_⟩
    · by_contra hindex
      have hmark := (h (by simpa using hindex)).2 next hnext
      rw [hother] at hmark
      exact absurd hmark (by simp)
    · exact fun last hlast hindex => (h hindex).1 last hlast

theorem Form.tokens_text_append {form : Form} {token : Token} {after : List Char}
    (h : token.StandsBetween form.text after) :
    Flags.tokens (form.text ++ (token.text ++ after)) =
      form.tokens ++ token :: Flags.tokens after := by
  have hall : ∀ t ∈ form.tokens ++ token :: Flags.tokens after, t.Stands := by
    simp only [List.forall_mem_append, List.forall_mem_cons]
    exact ⟨form.stands_tokens, h.1, Flags.stands_tokens after⟩
  have hapart := (form.isChain_iff_standsBetween after h.1).2 h
  have htokens := tokens_flatMap_text (fun t h => (hall t h).1) (fun t h => (hall t h).2) hapart
  simpa [flatMap_text_tokens, text] using htokens

end HistEdit.Flags
