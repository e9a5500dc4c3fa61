import HistEdit.History

/-!
How histories grow. Reading, taking the latest version and appending are the operations on a
history. Each one puts at most a version 0 into a field that has none, and an append puts one more
version behind; so the history of any operations keeps every version at its place, and an index
finds the version that it names from the front or from the back.
-/

namespace HistEdit

namespace History

section

variable (history : History) (native : Field → String)

/-- Version 0 of a field that is touched now: the latest name for the group, the native text of any
other field. -/
def zeroth : Field → String
  | .group => (history.latest native .name).2
  | field => native field

variable {history}

theorem touch_of_ne_nil {field : Field} (h : history.versions field ≠ []) :
    history.touch native field = history := by
  cases field <;> simp [touch, start, h]

theorem touch_of_ne_group {field : Field} (h : field ≠ .group) :
    history.touch native field = history.start field (native field) := by
  cases field with
  | group => exact absurd rfl h
  | _ => rfl

theorem touch_group_of_nil (h : history.versions .group = []) :
    history.touch native .group =
      (history.touch native .name).set .group [history.zeroth native .group] := by
  simp [touch, h, zeroth, latest]

theorem versions_start_of_nil {field : Field} (h : history.versions field = []) (text : String) :
    (history.start field text).versions field = [text] := by
  simp [start, h]

theorem versions_start_of_ne {field other : Field} (h : other ≠ field) (text : String) :
    (history.start field text).versions other = history.versions other := by
  unfold start
  split
  · exact versions_set_of_ne history [text] h
  · rfl

theorem versions_touch_of_ne {field other : Field} (hfield : field ≠ .group)
    (h : other ≠ field) :
    (history.touch native field).versions other = history.versions other := by
  rw [touch_of_ne_group native hfield]
  exact versions_start_of_ne h (native field)

theorem versions_touch_of_nil {field : Field} (h : history.versions field = []) :
    (history.touch native field).versions field = [history.zeroth native field] := by
  by_cases hfield : field = .group
  · subst hfield
    rw [touch_group_of_nil native h, versions_set_self]
  · rw [touch_of_ne_group native hfield, versions_start_of_nil h]
    cases field with
    | group => exact absurd rfl hfield
    | _ => rfl

/-- Touching any field leaves each field as it is or gives it its version 0. -/
theorem versions_touch (field other : Field) :
    (history.touch native field).versions other = history.versions other ∨
      history.versions other = [] ∧
        (history.touch native field).versions other = [history.zeroth native other] := by
  by_cases hempty : history.versions field = []
  · by_cases hother : other = field
    · subst hother
      exact .inr ⟨hempty, versions_touch_of_nil native hempty⟩
    by_cases hfield : field = .group
    · -- only the name may be started on the way to the group
      subst hfield
      rw [touch_group_of_nil native hempty, versions_set_of_ne _ _ hother]
      by_cases hname : other = .name
      · subst hname
        by_cases hnil : history.versions .name = []
        · exact .inr ⟨hnil, versions_touch_of_nil native hnil⟩
        · exact .inl (by rw [touch_of_ne_nil native hnil])
      · exact .inl (versions_touch_of_ne native (by decide) hname)
    · exact .inl (versions_touch_of_ne native hfield hother)
  · exact .inl (by rw [touch_of_ne_nil native hempty])

theorem tail_versions_touch (field other : Field) :
    ((history.touch native field).versions other).tail = (history.versions other).tail := by
  rcases versions_touch native field other with h | ⟨hnil, h⟩
  · rw [h]
  · rw [h, hnil]
    rfl

end

/-- Each field keeps its versions, and may have more of them behind. -/
def IsPrefix (earlier later : History) : Prop :=
  ∀ field, earlier.versions field <+: later.versions field

theorem IsPrefix.refl (history : History) : history.IsPrefix history :=
  fun field => List.prefix_refl (history.versions field)

theorem IsPrefix.trans {first second third : History} (h : first.IsPrefix second)
    (h' : second.IsPrefix third) : first.IsPrefix third :=
  fun field => (h field).trans (h' field)

theorem isPrefix_touch (history : History) (native : Field → String) (field : Field) :
    history.IsPrefix (history.touch native field) := by
  intro other
  rcases versions_touch native field other with h | ⟨hnil, -⟩
  · exact h ▸ List.prefix_refl _
  · exact hnil ▸ List.nil_prefix

/-- A group that was touched has a name to come from. -/
def Named (history : History) : Prop :=
  history.versions .group ≠ [] → history.versions .name ≠ []

theorem Named.touch {history : History} (h : history.Named) (native : Field → String)
    (field : Field) : (history.touch native field).Named := by
  intro htouched
  by_cases hfield : field = .group
  · subst hfield
    by_cases hnil : history.versions .group = []
    · rw [touch_group_of_nil native hnil, versions_set_of_ne _ _ (by decide)]
      exact versions_touch_ne_nil history native .name
    · rw [touch_of_ne_nil native hnil]
      exact h hnil
  · rw [versions_touch_of_ne native hfield (Ne.symm hfield)] at htouched
    intro hname
    exact h htouched (List.prefix_nil.1 (hname ▸ isPrefix_touch history native field .name))

inductive Operation where
  | read (field : Field) (index : Int8)
  | latest (field : Field)
  | push (field : Field) (version : String)

namespace Operation

def apply (native : Field → String) (history : History) : Operation → History
  | read field index => (history.read native field index.toInt).1
  | latest field => (history.latest native field).1
  | push field version => history.push native field version

def field : Operation → Field
  | read field _ | latest field | push field _ => field

def pushed? (field : Field) : Operation → Option String
  | push target version => if target = field then some version else none
  | read .. | latest _ => none

theorem pushed?_of_ne {field : Field} {operation : Operation} (h : field ≠ operation.field) :
    operation.pushed? field = none := by
  cases operation with
  | read source index => rfl
  | latest source => rfl
  | push target version => exact if_neg (Ne.symm h)

end Operation

@[simp] theorem history_read (history : History) (native : Field → String) (field : Field)
    (index : Int) : (history.read native field index).1 = history.touch native field := by
  simp only [read]
  split <;> rfl

@[simp] theorem history_latest (history : History) (native : Field → String) (field : Field) :
    (history.latest native field).1 = history.touch native field :=
  rfl

/-- An operation touches its field, and an append puts its version behind. -/
theorem versions_apply (native : Field → String) (history : History) (operation : Operation)
    (field : Field) :
    (operation.apply native history).versions field =
      (history.touch native operation.field).versions field ++
        (operation.pushed? field).toList := by
  cases operation with
  | read source index => simp [Operation.apply, Operation.field, Operation.pushed?]
  | latest source => simp [Operation.apply, Operation.field, Operation.pushed?]
  | push target version =>
      by_cases h : field = target
      · subst h
        simp [Operation.apply, Operation.field, Operation.pushed?, push]
      · simp [Operation.apply, Operation.field, Operation.pushed?, push, h, Ne.symm h]

theorem isPrefix_apply (native : Field → String) (history : History) (operation : Operation) :
    history.IsPrefix (operation.apply native history) := by
  intro field
  rw [versions_apply]
  exact (isPrefix_touch history native operation.field field).trans (List.prefix_append _ _)

theorem Named.apply {history : History} (h : history.Named) (native : Field → String)
    (operation : Operation) : (operation.apply native history).Named := by
  intro hgroup hname
  rw [versions_apply, List.append_eq_nil_iff] at hname
  refine h.touch native operation.field ?_ hname.1
  intro hnil
  by_cases hfield : operation.field = .group
  · exact versions_touch_ne_nil history native .group (hfield ▸ hnil)
  · rw [versions_apply, hnil, Operation.pushed?_of_ne (Ne.symm hfield)] at hgroup
    exact hgroup rfl

theorem tail_versions_apply (native : Field → String) (history : History) (operation : Operation)
    (field : Field) :
    ((operation.apply native history).versions field).tail =
      (history.versions field).tail ++ (operation.pushed? field).toList := by
  rw [versions_apply]
  by_cases hfield : field = operation.field
  · have htouched : (history.touch native operation.field).versions field ≠ [] :=
      hfield ▸ versions_touch_ne_nil history native operation.field
    rw [List.tail_append_of_ne_nil htouched, tail_versions_touch]
  · simp [Operation.pushed?_of_ne hfield, tail_versions_touch]

def operate (native : Field → String) (history : History) (operations : List Operation) : History :=
  operations.foldl (Operation.apply native) history

def pushes (field : Field) (operations : List Operation) : List String :=
  operations.filterMap (Operation.pushed? field)

theorem operate_append (native : Field → String) (history : History)
    (operations further : List Operation) :
    history.operate native (operations ++ further) =
      (history.operate native operations).operate native further :=
  List.foldl_append

theorem pushes_append (field : Field) (operations further : List Operation) :
    pushes field (operations ++ further) = pushes field operations ++ pushes field further :=
  List.filterMap_append

theorem isPrefix_operate (native : Field → String) (history : History)
    (operations : List Operation) : history.IsPrefix (history.operate native operations) := by
  induction operations generalizing history with
  | nil => exact .refl history
  | cons operation rest ih =>
      exact (isPrefix_apply native history operation).trans (ih (operation.apply native history))

theorem Named.operate {history : History} (h : history.Named) (native : Field → String)
    (operations : List Operation) : (history.operate native operations).Named := by
  induction operations generalizing history with
  | nil => exact h
  | cons operation rest ih => exact ih (h.apply native operation)

/-- Behind version 0, a field holds the versions that were appended to it. -/
theorem tail_versions_operate (native : Field → String) (history : History)
    (operations : List Operation) (field : Field) :
    ((history.operate native operations).versions field).tail =
      (history.versions field).tail ++ pushes field operations := by
  induction operations generalizing history with
  | nil => simp [operate, pushes]
  | cons operation rest ih =>
      change ((operate native (operation.apply native history) rest).versions field).tail = _
      rw [ih, tail_versions_apply, List.append_assoc]
      congr 1
      cases hpushed : operation.pushed? field <;> simp [pushes, hpushed]

theorem head?_versions_apply (native : Field → String) (history : History)
    (operation : Operation) (field : Field) :
    ((operation.apply native history).versions field).head? = (history.versions field).head? ∨
      history.versions field = [] ∧
        ((operation.apply native history).versions field).head? =
          some (history.zeroth native field) := by
  rw [versions_apply]
  rcases versions_touch native operation.field field with htouch | ⟨hnil, htouch⟩
  · rw [htouch]
    by_cases hfield : field = operation.field
    · have htouched : history.versions field ≠ [] := by
        rw [← htouch, hfield]
        exact versions_touch_ne_nil history native operation.field
      obtain ⟨zero, later, hversions⟩ := List.exists_cons_of_ne_nil htouched
      exact .inl (by rw [hversions]; rfl)
    · exact .inl (by simp [Operation.pushed?_of_ne hfield])
  · exact .inr ⟨hnil, by rw [htouch]; rfl⟩

/-- Version 0 was there from the start, or it is the text that the field had to take at the
operation that touched it first. -/
theorem head?_versions_operate {native : Field → String} {history : History}
    {operations : List Operation} {field : Field} {zero : String}
    (h : ((history.operate native operations).versions field).head? = some zero) :
    (history.versions field).head? = some zero ∨
      ∃ earlier operation rest, operations = earlier ++ operation :: rest ∧
        (history.operate native earlier).versions field = [] ∧
        ((history.operate native (earlier ++ [operation])).versions field).head? = some zero ∧
        zero = (history.operate native earlier).zeroth native field := by
  induction operations generalizing history with
  | nil => exact .inl h
  | cons operation rest ih =>
      rcases @ih (operation.apply native history) h with hhead | hlater
      · rcases head?_versions_apply native history operation field with hsame | ⟨hnil, hzero⟩
        · exact .inl (hsame ▸ hhead)
        · have heq : zero = history.zeroth native field := Option.some.inj (hhead.symm.trans hzero)
          exact .inr ⟨[], operation, rest, rfl, hnil, hhead, heq⟩
      · obtain ⟨earlier, next, behind, rfl, hnil, hhead, heq⟩ := hlater
        exact .inr ⟨operation :: earlier, next, behind, rfl, hnil, hhead, heq⟩

/-- Where the version of an index stands among `count` versions: counted from the front, and from
the back for a negative index. -/
def place (index : Int) (count : Nat) : Nat :=
  if 0 ≤ index then index.toNat else (count + index).toNat

theorem resolve?_of_mem {index : Int} {count : Nat} (hlow : -count ≤ index)
    (hhigh : index < count) :
    resolve? index count = some (place index count) ∧ place index count < count := by
  unfold resolve? place
  split <;> split <;> simp <;> omega

theorem resolve?_of_not_mem {index : Int} {count : Nat}
    (h : ¬(-count ≤ index ∧ index < count)) : resolve? index count = none := by
  unfold resolve?
  split <;> simp <;> omega

theorem read_of_mem {history : History} {native : Field → String} {field : Field} {index : Int}
    (hlow : -((history.touch native field).versions field).length ≤ index)
    (hhigh : index < ((history.touch native field).versions field).length) :
    ∃ version,
      ((history.touch native field).versions field)[
        place index ((history.touch native field).versions field).length]? = some version ∧
      (history.read native field index).2 = .ok version := by
  obtain ⟨hresolve, hplace⟩ := resolve?_of_mem hlow hhigh
  have hversion := List.getElem?_eq_getElem hplace
  exact ⟨_, hversion, by simp [read, hresolve, hversion]⟩

theorem read_of_not_mem {history : History} {native : Field → String} {field : Field}
    {index : Int}
    (h : ¬(-((history.touch native field).versions field).length ≤ index ∧
      index < ((history.touch native field).versions field).length)) :
    (history.read native field index).2 =
      .error (.indexOutOfRange field index
        ((history.touch native field).versions field).length) := by
  simp [read, resolve?_of_not_mem h]

/-- A field that was touched for the first time has one version, and any other field is as it
was. -/
def Started (before after : List String) : Prop :=
  after = before ∨ before = [] ∧ after.length = 1

theorem started_touch (history : History) (native : Field → String) (field other : Field) :
    Started (history.versions other) ((history.touch native field).versions other) := by
  rcases versions_touch native field other with h | ⟨hnil, h⟩
  · exact .inl h
  · exact .inr ⟨hnil, by rw [h]; rfl⟩

theorem versions_push_self (history : History) (native : Field → String) (field : Field)
    (version : String) :
    ∃ zero later, (history.push native field version).versions field =
      zero :: (later ++ [version]) := by
  have htouched := versions_touch_ne_nil history native field
  obtain ⟨zero, later, hversions⟩ := List.exists_cons_of_ne_nil htouched
  exact ⟨zero, later, by simp [push, hversions]⟩

theorem written?_eq (history : History) (field : Field) :
    history.written? field = (history.versions field).tail.getLast? := by
  unfold written?
  split
  · rename_i hversions
    simp [hversions]
  · rename_i hversions
    match hcase : history.versions field with
    | [] => rfl
    | [zero] => rfl
    | zero :: version :: versions => exact absurd hcase (hversions zero version versions)

theorem getLast?_latest (history : History) (native : Field → String) (field : Field) :
    ((history.latest native field).1.versions field).getLast? =
      some (history.latest native field).2 := by
  have htouched := versions_touch_ne_nil history native field
  simp [latest, last, List.getLast?_eq_some_getLast htouched]

/-- Histories only grow, and an index finds the version it names. Whatever was done with a history
that had no version: version 0 of a field is its native text, and for the group the latest name of
the moment when the group was touched first; every version stays at its place; an append leaves at
least two versions, of which its own is the last; reading and taking the latest version change
nothing but a field without versions, which then has one; and reading gives the version that the
index counts to, or names the index and the number of versions where there is none. -/
theorem versions_of_operations (native : Field → String) (operations : List Operation) :
    let history := operate native {} operations
    (∀ field zero later, history.versions field = zero :: later →
      if field = .group then
        history.versions .name ≠ [] ∧
          ∃ earlier operation rest, operations = earlier ++ operation :: rest ∧
            (operate native {} earlier).versions .group = [] ∧
            (operate native {} (earlier ++ [operation])).versions .group ≠ [] ∧
            zero = ((operate native {} earlier).latest native .name).2
      else zero = native field) ∧
    (∀ further, history.IsPrefix (operate native {} (operations ++ further))) ∧
    (∀ field version,
      let pushed := history.push native field version
      2 ≤ (pushed.versions field).length ∧
        (pushed.versions field).getLast? = some version ∧
        pushed.written? field = some version) ∧
    (∀ field other index,
      let read := history.read native field index
      let latest := history.latest native field
      Started (history.versions other) (read.1.versions other) ∧
        Started (history.versions other) (latest.1.versions other) ∧
        (latest.1.versions field).getLast? = some latest.2) ∧
    (∀ field (index : Int8),
      let read := history.read native field index.toInt
      let count := (read.1.versions field).length
      1 ≤ count ∧
        if -count ≤ index.toInt ∧ index.toInt < count then
          ∃ version, read.2 = .ok version ∧
            (read.1.versions field)[place index.toInt count]? = some version
        else read.2 = .error (.indexOutOfRange field index.toInt count)) := by
  intro history
  refine ⟨?_, ?_, ?_, ?_, ?_⟩
  · intro field zero later hversions
    have hnamed : history.Named := Named.operate (fun h => absurd rfl h) native operations
    have hhead : (history.versions field).head? = some zero := by rw [hversions]; rfl
    rcases head?_versions_operate hhead with hnone | hfirst
    · exact absurd hnone (by simp)
    · obtain ⟨earlier, operation, rest, hsplit, hnil, htouched, hzero⟩ := hfirst
      split
      · rename_i hgroup
        subst hgroup
        refine ⟨hnamed (by simp [hversions]), earlier, operation, rest, hsplit, hnil, ?_, hzero⟩
        intro hempty
        simp [hempty] at htouched
      · cases field with
        | group => contradiction
        | _ => exact hzero
  · intro further
    rw [operate_append]
    exact isPrefix_operate native history further
  · intro field version
    obtain ⟨zero, later, hpushed⟩ := versions_push_self history native field version
    simp only [written?_eq, hpushed]
    refine ⟨by simp, ?_, by simp⟩
    rw [← List.cons_append, List.getLast?_concat]
  · intro field other index
    refine ⟨?_, ?_, getLast?_latest history native field⟩
    · rw [history_read]
      exact started_touch history native field other
    · exact started_touch history native field other
  · intro field index
    simp only [history_read]
    have htouched := versions_touch_ne_nil history native field
    refine ⟨List.length_pos_iff.2 htouched, ?_⟩
    split
    · rename_i hmem
      obtain ⟨version, hversion, hread⟩ := read_of_mem hmem.1 hmem.2
      exact ⟨version, hread, hversion⟩
    · rename_i hmem
      exact read_of_not_mem hmem

end History

end HistEdit
