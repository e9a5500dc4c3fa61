/-!
Trees of plain data, the common form of the documents that are read and the reports that are
written. A table keeps its entries in order.
-/

namespace HistEdit.Data

/-- A tree of plain data. Numbers remember whether they are whole, double or single. -/
inductive Value where
  | null
  | bool (value : Bool)
  | int (value : Int)
  | double (value : Float)
  | single (value : Float32)
  | text (value : String)
  | list (items : List Value)
  | table (entries : List (String × Value))
  deriving Inhabited

namespace Value

def get? (key : String) : Value → Option Value
  | .table entries => entries.lookup key
  | _ => none

def items? : Value → Option (List Value)
  | .list items => some items
  | _ => none

def text? : Value → Option String
  | .text value => some value
  | _ => none

def int? : Value → Option Int
  | .int value => some value
  | _ => none

end Value

end HistEdit.Data
