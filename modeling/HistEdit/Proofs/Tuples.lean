import HistEdit.Proofs.Binding
import HistEdit.Proofs.Text
import Mathlib.Logic.ExistsUnique

/-!
Tuples in one token. The elements of a tuple stand between colons; a pair reads its second element
from everything behind the first colon, so that pairs nested to the right are longer tuples. The
text is cut at its first colons into as many parts as there are elements, or fewer, and each element
is read from the part at its own position, whatever the types are.
-/

namespace HistEdit

namespace Text

/-- A text cut at its first colons, into at most `most` parts; only the last one can hold further
colons. -/
structure Parts (most : Nat) (text : String) (parts : List String) : Prop where
  joined : ":".intercalate parts = text
  free : ∀ part ∈ parts.dropLast, ':' ∉ part.toList
  count : parts.length = min most (text.toList.count ':' + 1)

section

variable {most : Nat} {text : String} {parts : List String} {head tail : List Char}

theorem splitOnce_eq_none_iff {d : Char} {cs : List Char} :
    splitOnce d cs = none ↔ d ∉ cs := by
  induction cs with
  | nil => simp [splitOnce]
  | cons c cs ih =>
      unfold splitOnce
      by_cases hc : c = d
      · simp [hc]
      · simp [hc, ih, Ne.symm hc]

/-- A text without a colon is a part of its own, and so is any text that is not to be cut. -/
theorem parts_whole (h : most = 1 ∨ ':' ∉ text.toList) (hmost : 0 < most) :
    Parts most text parts ↔ parts = [text] := by
  have hone : min most (text.toList.count ':' + 1) = 1 := by
    rcases h with rfl | hfree
    · omega
    · rw [List.count_eq_zero.2 hfree]
      omega
  constructor
  · rintro ⟨hjoined, -, hcount⟩
    obtain ⟨part, rfl⟩ := List.length_eq_one_iff.1 (hcount.trans hone)
    rw [← hjoined, String.intercalate_singleton]
  · rintro rfl
    exact ⟨String.intercalate_singleton, by simp, hone.symm⟩

/-- The first colon ends the first part, and what is behind it is cut into the others. -/
theorem parts_cut (h : splitOnce ':' text.toList = some (head, tail)) (hmost : 0 < most) :
    Parts (most + 1) text parts ↔
      ∃ rest, parts = String.ofList head :: rest ∧ Parts most (String.ofList tail) rest := by
  obtain ⟨htext, hhead⟩ := splitOnce_eq_some_iff.1 h
  have hcolons : text.toList.count ':' = tail.count ':' + 1 := by
    rw [htext, List.count_append, List.count_eq_zero.2 hhead, List.count_cons_self, Nat.zero_add]
  constructor
  · rintro ⟨hjoined, hfree, hcount⟩
    have hlength : 1 < parts.length := by omega
    match parts, hlength with
    | part :: next :: later, _ =>
        have hpart : ':' ∉ part.toList := hfree part (by simp)
        have hsplit : text.toList =
            part.toList ++ ':' :: (":".intercalate (next :: later)).toList := by
          rw [← hjoined, String.intercalate_cons_cons, String.toList_append, String.toList_append,
            List.append_assoc]
          rfl
        have hsame := h.symm.trans (splitOnce_eq_some_iff.2 ⟨hsplit, hpart⟩)
        simp only [Option.some.injEq, Prod.mk.injEq] at hsame
        obtain ⟨rfl, rfl⟩ := hsame
        refine ⟨next :: later, by rw [String.ofList_toList], ?_⟩
        rw [String.ofList_toList]
        refine ⟨rfl, fun part hmem => hfree part (List.mem_cons_of_mem _ hmem), ?_⟩
        simp only [List.length_cons] at hcount ⊢
        omega
  · rintro ⟨rest, rfl, hjoined, hfree, hcount⟩
    rw [String.toList_ofList] at hcount
    have hne : rest ≠ [] := List.ne_nil_of_length_pos (by omega)
    refine ⟨?_, ?_, by simp only [List.length_cons]; omega⟩
    · rw [String.intercalate_cons_of_ne_nil hne, hjoined, ← String.toList_inj, htext]
      simp
    · rw [List.dropLast_cons_of_ne_nil hne]
      exact List.forall_mem_cons.2 ⟨by simpa using hhead, hfree⟩

/-- Every text can be cut into parts, and in one way only. -/
theorem existsUnique_parts (hmost : 0 < most) (text : String) :
    ∃! parts, Parts most text parts := by
  induction most, hmost using Nat.le_induction generalizing text with
  | base =>
      simp only [parts_whole (.inl rfl) Nat.one_pos, existsUnique_eq]
  | succ most hmost ih =>
      cases hsplit : splitOnce ':' text.toList with
      | none =>
          simp only [parts_whole (.inr (splitOnce_eq_none_iff.1 hsplit)) (Nat.succ_pos most),
            existsUnique_eq]
      | some cut =>
          obtain ⟨rest, hrest, hunique⟩ := ih (String.ofList cut.2)
          refine ⟨String.ofList cut.1 :: rest, (parts_cut hsplit hmost).2 ⟨rest, rfl, hrest⟩, ?_⟩
          intro parts hparts
          obtain ⟨other, rfl, hother⟩ := (parts_cut hsplit hmost).1 hparts
          rw [hunique other hother]

/-- Parts without colons, but for the last one, are the parts of their join. -/
theorem parts_intercalate (hfree : ∀ part ∈ parts.dropLast, ':' ∉ part.toList) :
    Parts parts.length (":".intercalate parts) parts := by
  have hcolons : parts.length ≤ (":".intercalate parts).toList.count ':' + 1 := by
    clear hfree
    induction parts with
    | nil => exact Nat.zero_le _
    | cons part rest ih =>
        cases rest with
        | nil => exact Nat.le_add_left _ _
        | cons next later =>
            rw [String.intercalate_cons_cons, String.toList_append, String.toList_append,
              List.count_append, List.count_append]
            have hcolon : ":".toList.count ':' = 1 := rfl
            simp only [List.length_cons] at ih ⊢
            omega
  exact ⟨rfl, hfree, (Nat.min_eq_left hcolons).symm⟩

end

end Text

/-- The types of the elements of a tuple, of which there is at least one. -/
inductive Tuple : Type → Type 1 where
  | one {α : Type} (type : ArgType α) : Tuple α
  | cons {α τ : Type} (type : ArgType α) (rest : Tuple τ) : Tuple (α × τ)

namespace Tuple

def type {τ : Type} : Tuple τ → ArgType τ
  | .one type => type
  | .cons type rest => type.pair rest.type

def size {τ : Type} : Tuple τ → Nat
  | .one _ => 1
  | .cons _ rest => rest.size + 1

def elements {τ : Type} : Tuple τ → τ → List Element
  | .one type, value => [⟨type, value⟩]
  | .cons type rest, (value, values) => ⟨type, value⟩ :: rest.elements values

theorem size_pos {τ : Type} (tuple : Tuple τ) : 0 < tuple.size := by
  cases tuple <;> exact Nat.succ_pos _

theorem length_elements {τ : Type} (tuple : Tuple τ) (values : τ) :
    (tuple.elements values).length = tuple.size := by
  induction tuple with
  | one type => rfl
  | cons type rest ih => rw [elements, size, List.length_cons, ih]

end Tuple

/-- An element holds what its type reads from a part, or the missing value where there is none. -/
def Element.IsFrom (element : Element) : Option String → Prop
  | none => element.value = element.type.missing
  | some part => element.type.read part = .ok element.value

namespace Tuple

section

variable {τ : Type}

/-- Values of which each one is read from the part at its own position. -/
def Reads (tuple : Tuple τ) (parts : List String) (values : τ) : Prop :=
  ∀ (index : Nat) (element : Element), (tuple.elements values)[index]? = some element →
    element.IsFrom parts[index]?

/-- The error of the first element that cannot be read from the part at its position. -/
def Refuses (tuple : Tuple τ) (parts : List String) (error : ArgError) : Prop :=
  ∃ (index : Nat) (element : Element) (part : String),
    (tuple.elements tuple.type.missing)[index]? = some element ∧ parts[index]? = some part ∧
    element.type.read part = .error error ∧
    ∀ (earlier : Nat) (other : Element) (before : String), earlier < index →
      (tuple.elements tuple.type.missing)[earlier]? = some other →
      parts[earlier]? = some before → ∃ value, other.type.read before = .ok value

end

section

variable {α τ : Type} {type : ArgType α} {rest : Tuple τ} {value : α} {values : τ}
  {parts : List String} {error : ArgError}

theorem reads_one :
    (Tuple.one type).Reads parts value ↔ Element.IsFrom ⟨type, value⟩ parts.head? := by
  rw [List.head?_eq_getElem?]
  constructor
  · exact fun h => h 0 ⟨type, value⟩ rfl
  · intro h index element helement
    obtain ⟨rfl, rfl⟩ : index = 0 ∧ ⟨type, value⟩ = element := by
      simpa [elements, List.getElem?_singleton] using helement
    exact h

theorem reads_cons :
    (Tuple.cons type rest).Reads parts (value, values) ↔
      Element.IsFrom ⟨type, value⟩ parts.head? ∧ rest.Reads parts.tail values := by
  rw [List.head?_eq_getElem?]
  constructor
  · intro h
    refine ⟨h 0 ⟨type, value⟩ rfl, fun index element helement => ?_⟩
    rw [List.getElem?_tail]
    exact h (index + 1) element helement
  · rintro ⟨hfirst, hrest⟩ index element helement
    cases index with
    | zero =>
        obtain rfl : ⟨type, value⟩ = element := Option.some.inj helement
        exact hfirst
    | succ index =>
        rw [← List.getElem?_tail]
        exact hrest index element helement

theorem refuses_one :
    (Tuple.one type).Refuses parts error ↔
      ∃ part, parts.head? = some part ∧ type.read part = .error error := by
  rw [List.head?_eq_getElem?]
  constructor
  · rintro ⟨index, element, part, helement, hpart, herror, -⟩
    obtain ⟨rfl, rfl⟩ : index = 0 ∧ ⟨type, type.missing⟩ = element := by
      simpa [elements, Tuple.type, List.getElem?_singleton] using helement
    exact ⟨part, hpart, herror⟩
  · rintro ⟨part, hpart, herror⟩
    exact ⟨0, ⟨type, type.missing⟩, part, rfl, hpart, herror,
      fun earlier _ _ hearlier => absurd hearlier (Nat.not_lt_zero earlier)⟩

theorem refuses_cons :
    (Tuple.cons type rest).Refuses parts error ↔
      (∃ part, parts.head? = some part ∧ type.read part = .error error) ∨
        (∀ part, parts.head? = some part → ∃ read, type.read part = .ok read) ∧
          rest.Refuses parts.tail error := by
  rw [List.head?_eq_getElem?]
  constructor
  · rintro ⟨index, element, part, helement, hpart, herror, hearlier⟩
    cases index with
    | zero =>
        obtain rfl : ⟨type, type.missing⟩ = element := Option.some.inj helement
        exact .inl ⟨part, hpart, herror⟩
    | succ index =>
        refine .inr ⟨fun first hfirst => ?_, index, element, part, helement, ?_, herror, ?_⟩
        · exact hearlier 0 ⟨type, type.missing⟩ first (Nat.succ_pos _) rfl hfirst
        · rwa [List.getElem?_tail]
        · intro earlier other before hlt hother hbefore
          rw [List.getElem?_tail] at hbefore
          exact hearlier (earlier + 1) other before (Nat.succ_lt_succ hlt) hother hbefore
  · rintro (⟨part, hpart, herror⟩ | ⟨hfirst, index, element, part, helement, hpart, herror,
      hearlier⟩)
    · exact ⟨0, ⟨type, type.missing⟩, part, rfl, hpart, herror,
        fun earlier _ _ hlt => absurd hlt (Nat.not_lt_zero earlier)⟩
    · rw [List.getElem?_tail] at hpart
      refine ⟨index + 1, element, part, helement, hpart, herror, ?_⟩
      intro earlier other before hlt hother hbefore
      cases earlier with
      | zero =>
          obtain rfl : ⟨type, type.missing⟩ = other := Option.some.inj hother
          exact hfirst before hbefore
      | succ earlier =>
          rw [← List.getElem?_tail] at hbefore
          exact hearlier earlier other before (Nat.lt_of_succ_lt_succ hlt) hother hbefore

end

section

variable {τ : Type} {tuple : Tuple τ} {values : τ} {parts : List String} {error : ArgError}
  {text : String}

/-- Elements without any part are missing. -/
theorem reads_nil : tuple.Reads [] values ↔ values = tuple.type.missing := by
  induction tuple with
  | one type => exact reads_one
  | cons type rest ih =>
      obtain ⟨value, values⟩ := values
      rw [reads_cons, List.tail_nil, ih]
      simp only [List.head?_nil, Element.IsFrom, Tuple.type, ArgType.pair, Prod.mk.injEq]

theorem not_refuses_nil : ¬tuple.Refuses [] error := by
  rintro ⟨index, element, part, -, hpart, -⟩
  exact nomatch hpart

/-- A tuple reads each element from the part at its position. -/
theorem read_eq_ok_iff (h : Text.Parts tuple.size text parts) :
    tuple.type.read text = .ok values ↔ tuple.Reads parts values := by
  induction tuple generalizing text parts with
  | one type =>
      obtain rfl := (Text.parts_whole (.inl rfl) Nat.one_pos).1 h
      rw [reads_one]
      exact Iff.rfl
  | cons type rest ih =>
      obtain ⟨value, values⟩ := values
      rw [reads_cons]
      simp only [Tuple.type, ArgType.pair]
      cases hsplit : Text.splitOnce ':' text.toList with
      | none =>
          obtain rfl := (Text.parts_whole (.inr (Text.splitOnce_eq_none_iff.1 hsplit))
            (Nat.succ_pos _)).1 h
          rw [List.tail_cons, reads_nil]
          simp only [List.head?_cons, Element.IsFrom]
          cases type.read text <;> simp [bind, Except.bind, pure, Except.pure, eq_comm]
      | some cut =>
          obtain ⟨later, rfl, hlater⟩ := (Text.parts_cut hsplit rest.size_pos).1 h
          simp only [List.head?_cons, List.tail_cons, Element.IsFrom, ← ih hlater]
          cases type.read (String.ofList cut.1) <;>
            cases rest.type.read (String.ofList cut.2) <;>
            simp [bind, Except.bind, pure, Except.pure]

/-- A tuple that is not read fails as the first of its elements that is not. -/
theorem read_eq_error_iff (h : Text.Parts tuple.size text parts) :
    tuple.type.read text = .error error ↔ tuple.Refuses parts error := by
  induction tuple generalizing text parts with
  | one type =>
      obtain rfl := (Text.parts_whole (.inl rfl) Nat.one_pos).1 h
      simp [refuses_one, Tuple.type]
  | cons type rest ih =>
      rw [refuses_cons]
      simp only [Tuple.type, ArgType.pair]
      cases hsplit : Text.splitOnce ':' text.toList with
      | none =>
          obtain rfl := (Text.parts_whole (.inr (Text.splitOnce_eq_none_iff.1 hsplit))
            (Nat.succ_pos _)).1 h
          simp only [List.tail_cons, not_refuses_nil, and_false, or_false, List.head?_cons,
            Option.some.injEq, exists_eq_left']
          cases type.read text <;> simp [bind, Except.bind, pure, Except.pure]
      | some cut =>
          obtain ⟨later, rfl, hlater⟩ := (Text.parts_cut hsplit rest.size_pos).1 h
          simp only [List.head?_cons, List.tail_cons, ← ih hlater, Option.some.injEq,
            exists_eq_left', forall_eq']
          cases type.read (String.ofList cut.1) <;>
            cases rest.type.read (String.ofList cut.2) <;>
            simp [bind, Except.bind, pure, Except.pure]

end

/-- A tuple of four elements is a pair whose second element is a tuple of three. -/
example {α β γ δ : Type} (a : ArgType α) (b : ArgType β) (c : ArgType γ) (d : ArgType δ) :
    (Tuple.cons a (.cons b (.cons c (.one d)))).type = a.pair (b.pair (c.pair d)) := rfl

end Tuple

/-- A type takes a text as one value and calls it by a name: a scalar by its own, and an optional
value or an item of a list by the name of what it is. -/
inductive ArgType.Calls : {α : Type} → ArgType α → String → Prop where
  | scalar {α : Type} (describe : String) (missing : α) (read? : String → Option α) :
      Calls (.scalar describe missing read?) describe
  | optional {α : Type} {type : ArgType α} {name : String} (h : Calls type name) :
      Calls type.optional name
  | list {α : Type} {type : ArgType α} {name : String} (h : Calls type name) : Calls type.list name

theorem ArgType.Calls.error_eq {α : Type} {type : ArgType α} {name : String}
    (h : type.Calls name) {text : String} {error : ArgError}
    (herror : type.read text = .error error) : error = .convert text name := by
  induction h with
  | scalar describe missing read? =>
      simp only [ArgType.scalar] at herror
      split at herror
      · cases herror
      · exact (Except.error.inj herror).symm
  | optional _ ih => exact ih (map_eq_error_iff.1 herror)
  | list _ ih => exact ih (map_eq_error_iff.1 herror)

/-- Tuples read their components in place. Every text is cut at its first colons in one way, into as
many parts as the tuple has elements, or as there are with all colons cut; the last part holds what
colons are left. Each element is read from the part at its own position, and is missing where there
is none; otherwise the tuple fails as its first element that is not read, which names the part and
the type of single values that it is none of. So the join of texts without colons, but for the last
one, is read as each of them is. -/
theorem Tuple.read_parts {τ : Type} (tuple : Tuple τ) :
    (∀ text : String, ∃! parts, Text.Parts tuple.size text parts) ∧
    (∀ text parts, Text.Parts tuple.size text parts →
      (∀ values, tuple.type.read text = .ok values ↔ tuple.Reads parts values) ∧
      ∀ error, tuple.type.read text = .error error ↔ tuple.Refuses parts error) ∧
    (∀ {α : Type} (type : ArgType α) (name part : String) (error : ArgError), type.Calls name →
      type.read part = .error error → error = .convert part name) ∧
    ∀ parts : List String, parts.length = tuple.size →
      (∀ part ∈ parts.dropLast, ':' ∉ part.toList) →
      (∀ values, tuple.type.read (":".intercalate parts) = .ok values ↔
        ∀ (index : Nat) (element : Element), (tuple.elements values)[index]? = some element →
          ∃ part, parts[index]? = some part ∧ element.type.read part = .ok element.value) ∧
      ∀ error, tuple.type.read (":".intercalate parts) = .error error ↔
        tuple.Refuses parts error := by
  refine ⟨Text.existsUnique_parts tuple.size_pos, ?_, ?_, ?_⟩
  · exact fun text parts hparts =>
      ⟨fun values => read_eq_ok_iff hparts, fun error => read_eq_error_iff hparts⟩
  · exact fun type name part error hcalls herror => hcalls.error_eq herror
  · intro parts hlength hfree
    have hparts : Text.Parts tuple.size (":".intercalate parts) parts :=
      hlength ▸ Text.parts_intercalate hfree
    refine ⟨fun values => ?_, fun error => read_eq_error_iff hparts⟩
    rw [read_eq_ok_iff hparts]
    refine forall₃_congr fun index element helement => ?_
    -- there are as many parts as elements, so every element has one
    have hindex : index < parts.length := by
      rw [hlength, ← tuple.length_elements values]
      exact (List.getElem?_eq_some_iff.1 helement).1
    simp [List.getElem?_eq_getElem hindex, Element.IsFrom]

/-- Three elements from a text with one colon too many and from a text with one too few, and an
element in the middle that is no number. -/
theorem Tuple.read_parts_three :
    let type := ArgType.text.pair (.pair .int16 .text)
    type.read "a:-3:b:c" = .ok ("a", -3, "b:c") ∧ type.read ":7" = .ok ("", 7, "") ∧
      type.read "a:x:b" = .error (.convert "x" "i16") := by
  let tuple : Tuple (String × Int16 × String) := .cons .text (.cons .int16 (.one .text))
  obtain ⟨-, hread, -, hjoined⟩ := Tuple.read_parts tuple
  have hshort : Text.Parts 3 ":7" ["", "7"] := ⟨by decide, by decide, by decide⟩
  have hnumber : ArgType.int16.read "x" = .error (.convert "x" "i16") := rfl
  refine ⟨((hjoined ["a", "-3", "b:c"] rfl (by decide)).1 ("a", -3, "b:c")).2 ?_,
    ((hread ":7" ["", "7"] hshort).1 ("", 7, "")).2 ?_,
    ((hjoined ["a", "x", "b"] rfl (by decide)).2 (.convert "x" "i16")).2 ?_⟩
  · intro index element helement
    match index with
    | 0 => cases helement; exact ⟨"a", rfl, rfl⟩
    | 1 => cases helement; exact ⟨"-3", rfl, rfl⟩
    | 2 => cases helement; exact ⟨"b:c", rfl, rfl⟩
    | index + 3 => cases helement
  · intro index element helement
    match index with
    | 0 => cases helement; rfl
    | 1 => cases helement; rfl
    | 2 => cases helement; rfl
    | index + 3 => cases helement
  · refine ⟨1, ⟨.int16, 0⟩, "x", rfl, rfl, hnumber, ?_⟩
    intro earlier other before hearlier hother hbefore
    obtain rfl : earlier = 0 := by omega
    cases hother
    exact ⟨before, rfl⟩

end HistEdit
