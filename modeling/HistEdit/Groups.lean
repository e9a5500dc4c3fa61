import HistEdit.Text.Bytes
import Std.Data.HashMap

/-!
Values gathered in groups by key. Groups stand in the order in which their keys were first seen,
or in ascending byte order of their keys after sorting; the members of a group stay in the order
in which they came. An index tells the place of each key.
-/

namespace HistEdit

/-- Groups of values, each with its key, and the place of every key. -/
structure Groups (α : Type) where
  entries : Array (String × Array α) := #[]
  index : Std.HashMap String Nat := {}

namespace Groups

variable {α : Type}

/-- Adds a value to the group of a key, which begins a new group when the key is new. -/
def insert (groups : Groups α) (key : String) (member : α) : Groups α :=
  match groups.index[key]? with
  | some place =>
    { groups with
      entries := groups.entries.modify place fun (key, members) => (key, members.push member) }
  | none =>
    { entries := groups.entries.push (key, #[member])
      index := groups.index.insert key groups.entries.size }

/-- The place of each key among some groups. -/
def indexOf (entries : List (String × Array α)) : Std.HashMap String Nat :=
  entries.zipIdx.foldl (fun index (entry, place) => index.insert entry.1 place) {}

/-- Puts the groups in ascending byte order of their keys. -/
def sort (groups : Groups α) : Groups α :=
  let entries := groups.entries.toList.mergeSort fun a b => Text.le a.1 b.1
  { entries := entries.toArray, index := indexOf entries }

def toList (groups : Groups α) : List (String × List α) :=
  groups.entries.toList.map fun (key, members) => (key, members.toList)

def size (groups : Groups α) : Nat :=
  groups.entries.size

def isEmpty (groups : Groups α) : Bool :=
  groups.entries.isEmpty

def memberCount (groups : Groups α) : Nat :=
  groups.entries.toList.foldl (fun count (_, members) => count + members.size) 0

end Groups

end HistEdit
