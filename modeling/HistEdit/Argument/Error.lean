import HistEdit.Number.Layout

/-!
Why the arguments of a function are refused: their number, their form, or their values.
-/

namespace HistEdit

inductive ArgError where
  | tooFew (expected got : Nat)
  | tooMany (expected got : Nat)
  | convert (value typeName : String)
  | empty (position : Nat)
  | negativeWidth (width : Float32)
  | emptyRange (minimum maximum : Float)
  | marginOutside (margin : Float)
  | invalidAxis (function : String) (letter : Char)

def ArgError.message : ArgError → String
  | .tooFew expected got => s!"too few arguments: expected at least {expected}, got {got}"
  | .tooMany expected got => s!"too many arguments: expected at most {expected}, got {got}"
  | .convert value typeName => "\"" ++ value ++ "\" cannot be interpreted as " ++ typeName
  | .empty position => s!"argument {position} is empty"
  | .negativeWidth width => "line width " ++ Number.singleText width ++ " is negative"
  | .emptyRange minimum maximum =>
    "empty range " ++ Number.doubleText minimum ++ ":" ++ Number.doubleText maximum
  | .marginOutside margin => "margin " ++ Number.doubleText margin ++ " outside [0, 1)"
  | .invalidAxis function letter =>
    function ++ ": invalid axis \"" ++ String.singleton letter ++ "\""

end HistEdit
