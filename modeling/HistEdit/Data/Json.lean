import HistEdit.Data.Value
import HistEdit.Number.Layout

/-!
Writing JSON, on one line or indented by two spaces a level. Control characters are escaped, every
other character stands for itself; empty lists and tables stay on one line.
-/

namespace HistEdit.Data

def escapeChar (c : Char) : String :=
  if c = '"' then "\\\""
  else if c = '\\' then "\\\\"
  else if c = '\n' then "\\n"
  else if c = '\r' then "\\r"
  else if c = '\t' then "\\t"
  else if c.toNat = 8 then "\\b"
  else if c.toNat = 12 then "\\f"
  else if c.toNat < 32 then
    "\\u00" ++ (if c.toNat < 16 then "0" else "1") ++ String.ofList (Nat.toDigits 16 (c.toNat % 16))
  else String.singleton c

def quote (text : String) : String :=
  "\"" ++ String.join (text.toList.map escapeChar) ++ "\""

/-- Where line breaks go: nowhere, or before each element at its depth. -/
inductive Spacing where
  | compact
  | indented
  deriving DecidableEq

/-- A line break followed by the indentation of a depth. -/
def Spacing.lineBreak : Spacing → Nat → String
  | .compact, _ => ""
  | .indented, depth => "\n" ++ String.ofList (List.replicate (2 * depth) ' ')

def Spacing.colon : Spacing → String
  | .compact => ":"
  | .indented => ": "

mutual

def Value.writeAt (spacing : Spacing) (depth : Nat) : Value → String
  | .null => "null"
  | .bool value => if value then "true" else "false"
  | .int value => toString value
  | .double value => Number.doubleReport value
  | .single value => Number.singleReport value
  | .text value => quote value
  | .list [] => "[]"
  | .list (item :: items) =>
    "[" ++ spacing.lineBreak (depth + 1) ++ item.writeAt spacing (depth + 1) ++
      writeItems spacing (depth + 1) items ++ spacing.lineBreak depth ++ "]"
  | .table [] => "\x7b\x7d"
  | .table (entry :: entries) =>
    "\x7b" ++ spacing.lineBreak (depth + 1) ++ writeEntry spacing (depth + 1) entry ++
      writeEntries spacing (depth + 1) entries ++ spacing.lineBreak depth ++ "\x7d"

def writeItems (spacing : Spacing) (depth : Nat) : List Value → String
  | [] => ""
  | item :: items =>
    "," ++ spacing.lineBreak depth ++ item.writeAt spacing depth ++ writeItems spacing depth items

def writeEntry (spacing : Spacing) (depth : Nat) : String × Value → String
  | (key, value) => quote key ++ spacing.colon ++ value.writeAt spacing depth

def writeEntries (spacing : Spacing) (depth : Nat) : List (String × Value) → String
  | [] => ""
  | entry :: entries =>
    "," ++ spacing.lineBreak depth ++ writeEntry spacing depth entry ++
      writeEntries spacing depth entries

end

def Value.compact (value : Value) : String := value.writeAt .compact 0

/-- JSON indented by two spaces a level. -/
def Value.pretty (value : Value) : String := value.writeAt .indented 0

end HistEdit.Data
