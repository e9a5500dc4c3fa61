import HistEdit.Argument.Row
import HistEdit.Proofs.Result

/-!
Binding tokens to rows of any length, whatever the types of the elements. A row and its values are a
list of elements, each with its own type, so that positions are those of the tokens. Each element
takes the token at its own position and no other one; the first element that refuses its token
decides how binding fails, after the number of tokens and the required ones were looked at.
-/

namespace HistEdit

/-- What a value becomes by the token at its position: the token is folded into it, unless it is
missing or empty. -/
def ArgType.receive {α : Type} (type : ArgType α) (value : α) : Option String → Except ArgError α
  | none => .ok value
  | some token => if token = "" then .ok value else type.accumulate value token

/-- The types that rows are declared with: scalars, and optional values, lists and pairs of declared
types. A pair whose second type is a pair is a longer tuple. -/
inductive ArgType.Declared : {α : Type} → ArgType α → Prop where
  | scalar {α : Type} (describe : String) (missing : α) (read? : String → Option α) :
      Declared (.scalar describe missing read?)
  | optional {α : Type} {type : ArgType α} (h : Declared type) : Declared type.optional
  | list {α : Type} {type : ArgType α} (h : Declared type) : Declared type.list
  | pair {α β : Type} {first : ArgType α} {second : ArgType β} (hfirst : Declared first)
      (hsecond : Declared second) : Declared (first.pair second)

/-- A declared type refuses a text only because some part of it is not of the type that it should
be. -/
theorem ArgType.Declared.convert_of_read {α : Type} {type : ArgType α} (h : type.Declared)
    {text : String} {error : ArgError} (herror : type.read text = .error error) :
    ∃ part name, error = .convert part name := by
  induction h generalizing text with
  | scalar describe missing read? =>
      simp only [ArgType.scalar] at herror
      split at herror
      · cases herror
      · exact ⟨text, describe, (Except.error.inj herror).symm⟩
  | optional _ ih => exact ih (map_eq_error_iff.1 herror)
  | list _ ih => exact ih (map_eq_error_iff.1 herror)
  | @pair _ _ first second _ _ ihfirst ihsecond =>
      simp only [ArgType.pair] at herror
      split at herror
      · exact ihfirst (map_eq_error_iff.1 herror)
      · next head tail _ =>
          cases hhead : first.read (String.ofList head) with
          | error cause =>
              rw [hhead] at herror
              cases herror
              exact ihfirst hhead
          | ok value =>
              rw [hhead] at herror
              exact ihsecond (map_eq_error_iff.1 herror)

theorem ArgType.Declared.convert_of_accumulate {α : Type} {type : ArgType α} (h : type.Declared)
    {value : α} {text : String} {error : ArgError}
    (herror : type.accumulate value text = .error error) :
    ∃ part name, error = .convert part name := by
  cases h with
  | scalar describe missing read? =>
      exact (Declared.scalar describe missing read?).convert_of_read herror
  | optional h => exact h.optional.convert_of_read herror
  | list h => exact h.convert_of_read (map_eq_error_iff.1 herror)
  | pair hfirst hsecond => exact (hfirst.pair hsecond).convert_of_read herror

structure Element where
  {α : Type}
  type : ArgType α
  value : α

def Element.receive (element : Element) (token? : Option String) : Except ArgError Element :=
  (element.type.receive element.value token?).map fun value => { element with value }

theorem Element.receive_eq_ok_iff {α : Type} {type : ArgType α} {value : α}
    {token? : Option String} {received : Element} :
    Element.receive ⟨type, value⟩ token? = .ok received ↔
      ∃ value', type.receive value token? = .ok value' ∧ received = ⟨type, value'⟩ := by
  unfold Element.receive
  cases type.receive value token? <;> simp [Except.map, eq_comm]

theorem Element.receive_eq_error_iff {α : Type} {type : ArgType α} {value : α}
    {token? : Option String} {error : ArgError} :
    Element.receive ⟨type, value⟩ token? = .error error ↔
      type.receive value token? = .error error := by
  unfold Element.receive
  cases type.receive value token? <;> simp [Except.map]

namespace Row

def elements {ρ : Type} : Row ρ → ρ → List Element
  | .nil, _ => []
  | .cons type rest, (value, values) => ⟨type, value⟩ :: rest.elements values

theorem length_elements {ρ : Type} (row : Row ρ) (values : ρ) :
    (row.elements values).length = row.arity := by
  induction row with
  | nil => rfl
  | cons type rest ih => rw [elements, arity, List.length_cons, ih]

section

variable {ρ : Type}

/-- Tokens that a row can take: not too few, not too many, and none of the required ones empty. -/
structure Fits (row : Row ρ) (optionals : Nat) (tokens : List String) : Prop where
  enough : row.arity - optionals ≤ tokens.length
  notMore : tokens.length ≤ row.arity
  given : ∀ index, index < row.arity - optionals → tokens[index]? ≠ some ""

/-- Values of which each one is the default after the token at its own position. -/
def Receives (row : Row ρ) (defaults : ρ) (tokens : List String) (values : ρ) : Prop :=
  ∀ (index : Nat) (element : Element), (row.elements defaults)[index]? = some element →
    ∃ received, element.receive tokens[index]? = .ok received ∧
      (row.elements values)[index]? = some received

/-- The error of the first element that refuses the token at its position. -/
def Refuses (row : Row ρ) (defaults : ρ) (tokens : List String) (error : ArgError) : Prop :=
  ∃ (index : Nat) (element : Element), (row.elements defaults)[index]? = some element ∧
    element.receive tokens[index]? = .error error ∧
    ∀ (earlier : Nat) (other : Element), earlier < index →
      (row.elements defaults)[earlier]? = some other →
      ∃ received, other.receive tokens[earlier]? = .ok received

/-- How binding comes out for a row whose last `optionals` elements need no token. -/
inductive Binds (row : Row ρ) (optionals : Nat) (defaults : ρ) (tokens : List String) :
    Except ArgError ρ → Prop where
  | tooFew (hfew : tokens.length < row.arity - optionals) :
      Binds row optionals defaults tokens (.error (.tooFew (row.arity - optionals) tokens.length))
  | tooMany (henough : row.arity - optionals ≤ tokens.length)
      (hmany : row.arity < tokens.length) :
      Binds row optionals defaults tokens (.error (.tooMany row.arity tokens.length))
  | empty (henough : row.arity - optionals ≤ tokens.length)
      (hnotMore : tokens.length ≤ row.arity) (index : Nat)
      (hrequired : index < row.arity - optionals) (hempty : tokens[index]? = some "")
      (hfirst : ∀ earlier, earlier < index → tokens[earlier]? ≠ some "") :
      Binds row optionals defaults tokens (.error (.empty (index + 1)))
  | refused (hfits : row.Fits optionals tokens) (error : ArgError)
      (hrefuses : row.Refuses defaults tokens error) :
      Binds row optionals defaults tokens (.error error)
  | bound (hfits : row.Fits optionals tokens) (values : ρ)
      (hreceives : row.Receives defaults tokens values) :
      Binds row optionals defaults tokens (.ok values)

end

section

variable {α ρ : Type} {type : ArgType α} {rest : Row ρ} {value value' : α} {others others' : ρ}
  {tokens : List String}

theorem receives_cons :
    (Row.cons type rest).Receives (value, others) tokens (value', others') ↔
      type.receive value tokens.head? = .ok value' ∧ rest.Receives others tokens.tail others' := by
  constructor
  · intro h
    constructor
    · obtain ⟨_, hreceive, hfirst⟩ := h 0 ⟨type, value⟩ rfl
      obtain ⟨received, hreceived, rfl⟩ := Element.receive_eq_ok_iff.1 hreceive
      obtain rfl : value' = received := by simpa [elements] using hfirst
      rwa [List.head?_eq_getElem?]
    · intro index element helement
      simpa [elements] using h (index + 1) element helement
  · rintro ⟨hfirst, hrest⟩ index element helement
    cases index with
    | zero =>
        obtain rfl : ⟨type, value⟩ = element := by simpa [elements] using helement
        rw [List.head?_eq_getElem?] at hfirst
        exact ⟨_, Element.receive_eq_ok_iff.2 ⟨_, hfirst, rfl⟩, rfl⟩
    | succ index =>
        simpa [elements] using hrest index element helement

theorem refuses_cons {error : ArgError} :
    (Row.cons type rest).Refuses (value, others) tokens error ↔
      type.receive value tokens.head? = .error error ∨
        (∃ received, type.receive value tokens.head? = .ok received) ∧
          rest.Refuses others tokens.tail error := by
  rw [List.head?_eq_getElem?]
  constructor
  · rintro ⟨index, element, helement, herror, hfirst⟩
    cases index with
    | zero =>
        obtain rfl : ⟨type, value⟩ = element := by simpa [elements] using helement
        exact .inl (Element.receive_eq_error_iff.1 herror)
    | succ index =>
        obtain ⟨_, hreceive⟩ := hfirst 0 ⟨type, value⟩ (Nat.succ_pos _) rfl
        obtain ⟨received, hreceived, -⟩ := Element.receive_eq_ok_iff.1 hreceive
        refine .inr ⟨⟨received, hreceived⟩, index, element, helement, by simpa using herror, ?_⟩
        intro earlier other hearlier hother
        simpa using hfirst (earlier + 1) other (by omega) hother
  · rintro (herror | ⟨⟨received, hreceived⟩, index, element, helement, herror, hfirst⟩)
    · exact ⟨0, ⟨type, value⟩, rfl, Element.receive_eq_error_iff.2 herror,
        fun earlier _ hearlier => absurd hearlier (Nat.not_lt_zero earlier)⟩
    · refine ⟨index + 1, element, helement, by simpa using herror, ?_⟩
      intro earlier other hearlier hother
      cases earlier with
      | zero =>
          obtain rfl : ⟨type, value⟩ = other := by simpa [elements] using hother
          exact ⟨_, Element.receive_eq_ok_iff.2 ⟨received, hreceived, rfl⟩⟩
      | succ earlier => simpa using hfirst earlier other (by omega) hother

end

theorem assign_nil {ρ : Type} (row : Row ρ) (values : ρ) : row.assign values [] = .ok values := by
  cases row <;> rfl

/-- One element takes the first token, the others take the rest. -/
theorem assign_cons {α ρ : Type} (type : ArgType α) (rest : Row ρ) (value : α) (others : ρ)
    (tokens : List String) :
    (Row.cons type rest).assign (value, others) tokens =
      (type.receive value tokens.head?).bind fun received =>
        (rest.assign others tokens.tail).map fun others => (received, others) := by
  cases tokens with
  | nil => simp [assign, ArgType.receive, assign_nil, Except.bind, Except.map]
  | cons token tokens =>
      simp only [assign, String.isEmpty_iff, List.head?_cons, List.tail_cons, ArgType.receive]
      cases rest.assign others tokens <;> split <;> rfl

theorem assign_eq_ok_iff {ρ : Type} {row : Row ρ} {defaults values : ρ} {tokens : List String} :
    row.assign defaults tokens = .ok values ↔ row.Receives defaults tokens values := by
  induction row generalizing tokens with
  | nil => simp [assign, Receives, elements]
  | cons type rest ih =>
      obtain ⟨value, others⟩ := defaults
      obtain ⟨value', others'⟩ := values
      rw [assign_cons, receives_cons, ← ih]
      cases type.receive value tokens.head? <;> cases rest.assign others tokens.tail <;>
        simp [Except.bind, Except.map]

theorem assign_eq_error_iff {ρ : Type} {row : Row ρ} {defaults : ρ} {tokens : List String}
    {error : ArgError} :
    row.assign defaults tokens = .error error ↔ row.Refuses defaults tokens error := by
  induction row generalizing tokens with
  | nil => simp [assign, Refuses, elements]
  | cons type rest ih =>
      obtain ⟨value, others⟩ := defaults
      rw [assign_cons, refuses_cons, ← ih]
      cases type.receive value tokens.head? <;> cases rest.assign others tokens.tail <;>
        simp [Except.bind, Except.map]

theorem findEmpty_eq_some_iff {tokens : List String} {required index : Nat} :
    (tokens.take required).findIdx? String.isEmpty = some index ↔
      index < required ∧ tokens[index]? = some "" ∧
        ∀ earlier, earlier < index → tokens[earlier]? ≠ some "" := by
  simp only [List.findIdx?_eq_some_iff_getElem, List.length_take, List.getElem_take,
    String.isEmpty_iff, Nat.lt_min]
  constructor
  · rintro ⟨⟨hrequired, hlength⟩, hempty, hfirst⟩
    refine ⟨hrequired, hempty ▸ List.getElem?_eq_getElem hlength, ?_⟩
    intro earlier hearlier hother
    obtain ⟨_, hother⟩ := List.getElem?_eq_some_iff.1 hother
    exact hfirst earlier hearlier hother
  · rintro ⟨hrequired, hempty, hfirst⟩
    obtain ⟨hlength, hempty⟩ := List.getElem?_eq_some_iff.1 hempty
    refine ⟨⟨hrequired, hlength⟩, hempty, ?_⟩
    intro earlier hearlier hother
    exact hfirst earlier hearlier (List.getElem?_eq_some_iff.2 ⟨_, hother⟩)

theorem findEmpty_eq_none_iff {tokens : List String} {required : Nat} :
    (tokens.take required).findIdx? String.isEmpty = none ↔
      ∀ index, index < required → tokens[index]? ≠ some "" := by
  rw [List.findIdx?_eq_none_iff]
  constructor
  · intro h index hindex hempty
    have hmem : "" ∈ tokens.take required :=
      List.mem_iff_getElem?.2 ⟨index, by rwa [List.getElem?_take_of_lt hindex]⟩
    exact absurd (h "" hmem) (by decide)
  · intro h token hmem
    obtain ⟨index, hindex, rfl⟩ := List.mem_take_iff_getElem.1 hmem
    rw [← Bool.not_eq_true, String.isEmpty_iff]
    exact fun hempty => h index (Nat.lt_min.1 hindex).1 (List.getElem?_eq_some_iff.2 ⟨_, hempty⟩)

theorem bindTokens_of_fits {ρ : Type} {row : Row ρ} {optionals : Nat} {tokens : List String}
    (h : row.Fits optionals tokens) (defaults : ρ) :
    row.bindTokens optionals defaults tokens = row.assign defaults tokens := by
  rw [bindTokens, if_neg (Nat.not_lt.2 h.enough), if_neg (Nat.not_lt.2 h.notMore),
    findEmpty_eq_none_iff.2 h.given]

/-- What binding comes to is what the rules for it say, and nothing else. -/
theorem bindTokens_eq_iff {ρ : Type} {row : Row ρ} {optionals : Nat} {defaults : ρ}
    {tokens : List String} {result : Except ArgError ρ} :
    row.bindTokens optionals defaults tokens = result ↔
      row.Binds optionals defaults tokens result := by
  constructor
  · rintro rfl
    by_cases henough : row.arity - optionals ≤ tokens.length
    · by_cases hnotMore : tokens.length ≤ row.arity
      · cases hfind : (tokens.take (row.arity - optionals)).findIdx? String.isEmpty with
        | some index =>
            obtain ⟨hrequired, hempty, hfirst⟩ := findEmpty_eq_some_iff.1 hfind
            rw [bindTokens, if_neg (Nat.not_lt.2 henough), if_neg (Nat.not_lt.2 hnotMore), hfind]
            exact .empty henough hnotMore index hrequired hempty hfirst
        | none =>
            have hfits : row.Fits optionals tokens :=
              ⟨henough, hnotMore, findEmpty_eq_none_iff.1 hfind⟩
            rw [bindTokens_of_fits hfits]
            cases hassign : row.assign defaults tokens with
            | error error => exact .refused hfits error (assign_eq_error_iff.1 hassign)
            | ok values => exact .bound hfits values (assign_eq_ok_iff.1 hassign)
      · rw [bindTokens, if_neg (Nat.not_lt.2 henough), if_pos (Nat.lt_of_not_le hnotMore)]
        exact .tooMany henough (Nat.lt_of_not_le hnotMore)
    · rw [bindTokens, if_pos (Nat.lt_of_not_le henough)]
      exact .tooFew (Nat.lt_of_not_le henough)
  · intro h
    cases h with
    | tooFew hfew => rw [bindTokens, if_pos hfew]
    | tooMany henough hmany =>
        rw [bindTokens, if_neg (Nat.not_lt.2 henough), if_pos hmany]
    | empty henough hnotMore index hrequired hempty hfirst =>
        rw [bindTokens, if_neg (Nat.not_lt.2 henough), if_neg (Nat.not_lt.2 hnotMore),
          findEmpty_eq_some_iff.2 ⟨hrequired, hempty, hfirst⟩]
    | refused hfits error hrefuses =>
        rw [bindTokens_of_fits hfits]
        exact assign_eq_error_iff.2 hrefuses
    | bound hfits values hreceives =>
        rw [bindTokens_of_fits hfits]
        exact assign_eq_ok_iff.2 hreceives

theorem bindWith_eq_ok_iff {ρ : Type} {row : Row ρ} {optionals : Nat} {defaults values : ρ}
    {args : RawArgs} :
    row.bindWith optionals defaults args = .ok values ↔
      row.Fits optionals args.tokens ∧ row.Receives defaults args.tokens values := by
  rw [bindWith, bindTokens_eq_iff]
  constructor
  · intro h
    cases h with
    | bound hfits _ hreceives => exact ⟨hfits, hreceives⟩
  · rintro ⟨hfits, hreceives⟩
    exact .bound hfits values hreceives

/-- Binding is exact. For every row, number of optional elements, defaults and text there is one
outcome: the number of tokens is wrong, the first empty token stands at a required position, the
first element that cannot take its token refuses, or every element is its default with the token of
its own position folded in. Scalars, options and tuples are replaced by a token, lists grow by it,
and what such an element refuses is a text that does not convert. -/
theorem bindWith_eq_iff {ρ : Type} (row : Row ρ) (optionals : Nat) (defaults : ρ)
    (args : RawArgs) :
    (∀ result, row.bindWith optionals defaults args = result ↔
      row.Binds optionals defaults args.tokens result) ∧
    (row.elements defaults).length = row.arity ∧
    (∀ {α : Type} (describe : String) (missing value : α) (read? : String → Option α)
        (token : String),
      (ArgType.scalar describe missing read?).accumulate value token =
        (ArgType.scalar describe missing read?).read token) ∧
    (∀ {α : Type} (type : ArgType α) (value : Option α) (token : String),
      type.optional.accumulate value token = (type.read token).map some) ∧
    (∀ {α β : Type} (first : ArgType α) (second : ArgType β) (value : α × β) (token : String),
      (first.pair second).accumulate value token = (first.pair second).read token) ∧
    (∀ {α : Type} (type : ArgType α) (values : List α) (token : String),
      type.list.accumulate values token = (type.read token).map fun value => values ++ [value]) ∧
    ∀ {α : Type} (type : ArgType α) (value : α) (token : String) (error : ArgError),
      type.Declared → type.accumulate value token = .error error →
        ∃ part name, error = .convert part name := by
  refine ⟨fun result => bindTokens_eq_iff, row.length_elements defaults, ?_, ?_, ?_, ?_, ?_⟩
  · exact fun _ _ _ _ _ => rfl
  · exact fun _ _ _ => rfl
  · exact fun _ _ _ _ => rfl
  · exact fun _ _ _ => rfl
  · exact fun _ _ _ _ hdeclared herror => hdeclared.convert_of_accumulate herror

end Row

end HistEdit
