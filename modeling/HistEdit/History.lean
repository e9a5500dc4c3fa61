import HistEdit.Error

/-!
The versions that the fields of a subject go through while expressions run on it. Version 0 is the
native text and is taken when the field is first touched; later versions are appended. Version 0
of the group is the latest name of that moment.
-/

namespace HistEdit

/-- The versions of each field, oldest first; none for a field that was not touched. -/
structure History where
  versions : Field → List String := fun _ => []

namespace History

def set (history : History) (field : Field) (versions : List String) : History :=
  ⟨fun other => if other = field then versions else history.versions other⟩

@[simp] theorem versions_set_self (history : History) (field : Field) (versions : List String) :
    (history.set field versions).versions field = versions := by
  simp [set]

@[simp] theorem versions_set_of_ne {field other : Field} (history : History)
    (versions : List String) (h : other ≠ field) :
    (history.set field versions).versions other = history.versions other := by
  simp [set, h]

/-- Takes version 0 of a field from a text, unless the field has one. -/
def start (history : History) (field : Field) (text : String) : History :=
  if (history.versions field).isEmpty then history.set field [text] else history

/-- The last version of a field; empty text where there is none. -/
def last (history : History) (field : Field) : String :=
  (history.versions field).getLast?.getD ""

/-- Makes sure that a field has a version 0. -/
def touch (history : History) (native : Field → String) : Field → History
  | .group =>
    if (history.versions .group).isEmpty then
      let named := history.start .name (native .name)
      named.set .group [named.last .name]
    else history
  | field => history.start field (native field)

/-- The place of version `index` among `count`; a negative index counts from the latest one. -/
def resolve? (index : Int) (count : Nat) : Option Nat :=
  let place := if index < 0 then count + index else index
  if 0 ≤ place ∧ place < count then some place.toNat else none

def read (history : History) (native : Field → String) (field : Field) (index : Int) :
    History × Except EditError String :=
  let touched := history.touch native field
  let versions := touched.versions field
  match (resolve? index versions.length).bind fun place => versions[place]? with
  | some version => (touched, .ok version)
  | none => (touched, .error (.indexOutOfRange field index versions.length))

/-- The latest version of a field, and the history with the field touched. -/
def latest (history : History) (native : Field → String) (field : Field) : History × String :=
  let touched := history.touch native field
  (touched, touched.last field)

def push (history : History) (native : Field → String) (field : Field) (version : String) :
    History :=
  let touched := history.touch native field
  touched.set field (touched.versions field ++ [version])

/-- The latest version of a field that was written; nothing when it was only read, if at all. -/
def written? (history : History) (field : Field) : Option String :=
  match history.versions field with
  | _ :: version :: versions => (version :: versions).getLast?
  | _ => none

theorem versions_touch_ne_nil (history : History) (native : Field → String) (field : Field) :
    (history.touch native field).versions field ≠ [] := by
  cases field <;> simp only [touch, start] <;> split <;> simp_all

end History

end HistEdit
