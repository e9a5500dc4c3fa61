/-!
The nine metadata fields of a histogram that an expression can read. Five of them can also be
written back; the others exist only while expressions run.
-/

namespace HistEdit

/-- A metadata slot, in its fixed order. -/
inductive Field where
  | group
  | name
  | title
  | xLabel
  | yLabel
  | zLabel
  | legend
  | path
  | origin
  deriving DecidableEq, Repr, Inhabited

def Field.all : List Field :=
  [.group, .name, .title, .xLabel, .yLabel, .zLabel, .legend, .path, .origin]

def Field.index : Field → Nat
  | .group => 0
  | .name => 1
  | .title => 2
  | .xLabel => 3
  | .yLabel => 4
  | .zLabel => 5
  | .legend => 6
  | .path => 7
  | .origin => 8

def Field.letter : Field → Char
  | .group => 'g'
  | .name => 'n'
  | .title => 't'
  | .xLabel => 'x'
  | .yLabel => 'y'
  | .zLabel => 'z'
  | .legend => 'l'
  | .path => 'd'
  | .origin => 'f'

def Field.ofLetter? : Char → Option Field
  | 'g' => some .group
  | 'n' => some .name
  | 't' => some .title
  | 'x' => some .xLabel
  | 'y' => some .yLabel
  | 'z' => some .zLabel
  | 'l' => some .legend
  | 'd' => some .path
  | 'f' => some .origin
  | _ => none

def Field.label : Field → String
  | .group => "group"
  | .name => "name"
  | .title => "title"
  | .xLabel => "x_label"
  | .yLabel => "y_label"
  | .zLabel => "z_label"
  | .legend => "legend"
  | .path => "path"
  | .origin => "origin"

@[simp] theorem Field.ofLetter?_letter (field : Field) : ofLetter? field.letter = some field := by
  cases field <;> rfl

theorem Field.letter_of_ofLetter? {c : Char} {field : Field} (h : ofLetter? c = some field) :
    field.letter = c := by
  unfold ofLetter? at h
  split at h <;> first | (injection h with h; subst h; rfl) | exact absurd h (by simp)

end HistEdit
