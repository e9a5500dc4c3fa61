import HistEdit.Data.Value

/-!
Tables under construction. A TOML text fills one tree of tables statement by statement; how a
table came about decides who may still add to it. A header opens a table once, though tables on
the way to it may be opened later. A dotted key only adds to tables that dotted keys made.
-/

namespace HistEdit.Data.Toml

/-- How a table came about: by its own header, on the way to another header, or by a dotted key. -/
inductive Form where
  | header
  | onTheWay
  | dotted
  deriving DecidableEq

/-- What a key stands for. The tables of an array are kept latest first. -/
inductive Slot where
  | value (value : Value)
  | table (form : Form) (entries : List (String × Slot))
  | tables (latest : List (String × Slot)) (earlier : List (List (String × Slot)))

abbrev Entries := List (String × Slot)

namespace Entries

/-- Puts a slot under a key, in its place when the key is there. -/
def put (key : String) (slot : Slot) : Entries → Entries
  | [] => [(key, slot)]
  | (other, old) :: rest =>
    if other = key then (key, slot) :: rest else (other, old) :: put key slot rest

/-- Changes the table at the end of a path, making the tables on the way. A path leads to the latest
table of an array, and a dotted path never into a table that has a header. -/
def update (dotted : Bool) (change : Form → Entries → Option Entries) :
    List String → Form → Entries → Option Entries
  | [], form, entries => change form entries
  | key :: path, _, entries =>
    match entries.lookup key with
    | none => do
      let form := if dotted then .dotted else .onTheWay
      let inner ← update dotted change path form []
      some (entries.put key (.table form inner))
    | some (.value _) => none
    | some (.table form inner) =>
      if dotted ∧ form = .header then none
      else do
        let inner ← update dotted change path form inner
        some (entries.put key (.table form inner))
    | some (.tables latest earlier) => do
      let latest ← update dotted change path .header latest
      some (entries.put key (.tables latest earlier))

def add (key : String) (value : Value) (entries : Entries) : Option Entries :=
  match entries.lookup key with
  | some _ => none
  | none => some (entries.put key (.value value))

/-- Assigns a value to a dotted key inside the table at `place`. -/
def assign (place path : List String) (key : String) (value : Value) (entries : Entries) :
    Option Entries :=
  let inside (form : Form) (entries : Entries) : Option Entries :=
    if path.isEmpty then entries.add key value
    else
      entries.update true
        (fun form entries => if form = .dotted then entries.add key value else none)
        path form
  entries.update false inside place .header

def openTable (place : List String) (key : String) (entries : Entries) : Option Entries :=
  entries.update false (fun _ entries =>
    match entries.lookup key with
    | none => some (entries.put key (.table .header []))
    | some (.table .onTheWay inner) => some (entries.put key (.table .header inner))
    | some _ => none) place .header

def openArrayTable (place : List String) (key : String) (entries : Entries) : Option Entries :=
  entries.update false (fun _ entries =>
    match entries.lookup key with
    | none => some (entries.put key (.tables [] []))
    | some (.tables latest earlier) => some (entries.put key (.tables [] (latest :: earlier)))
    | some _ => none) place .header

end Entries

mutual

def Slot.finish : Slot → Value
  | .value value => value
  | .table _ entries => .table (finishEntries entries)
  | .tables latest earlier =>
    .list ((Value.table (finishEntries latest) :: finishTables earlier).reverse)

def finishTables : List (List (String × Slot)) → List Value
  | [] => []
  | entries :: rest => .table (finishEntries entries) :: finishTables rest

def finishEntry : String × Slot → String × Value
  | (key, slot) => (key, slot.finish)

def finishEntries : List (String × Slot) → List (String × Value)
  | [] => []
  | entry :: entries => finishEntry entry :: finishEntries entries

end

end HistEdit.Data.Toml
