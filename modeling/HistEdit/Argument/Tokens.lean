import HistEdit.Text.Space

/-!
Cutting argument text into tokens. A delimiter that is white space stands for any run of white
space; any other delimiter keeps empty tokens in their place, and blanks around a token do not
count.
-/

namespace HistEdit.Argument

/-- The tokens of a text. Blank text has none. -/
def tokenize (delimiter : Char) (cs : List Char) : List (List Char) :=
  if Text.isSpace delimiter then Text.words cs
  else if (Text.trim cs).isEmpty then []
  else (Text.splitWhere (· == delimiter) cs).map Text.trim

def tokens (delimiter : Char) (text : String) : List String :=
  (tokenize delimiter text.toList).map String.ofList

end HistEdit.Argument
