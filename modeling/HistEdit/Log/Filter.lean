import HistEdit.Log

/-!
Filters of logs. A filter is a list of directives, each with a severity up to which the lines of
some part of the program are shown. For a line the directive with the longest beginning of its
origin decides.
-/

namespace HistEdit

/-- Shows lines up to a rank, none for rank 0, where the origin begins with a text. -/
structure LogDirective where
  origin : String := ""
  rank : Nat

abbrev LogFilter := List LogDirective

namespace LogFilter

/-- A severity by its name in either case or by its number; no text at all means errors. -/
def rank? (text : String) : Option Nat :=
  let word := String.ofList (text.toList.map Char.toLower)
  if ["off", "0"].contains word then some 0
  else if ["error", "1", ""].contains word then some 1
  else if ["warn", "2"].contains word then some 2
  else if ["info", "3"].contains word then some 3
  else if ["debug", "4"].contains word then some 4
  else if ["trace", "5"].contains word then some 5
  else none

def isOriginChar (c : Char) : Bool :=
  c.isAlphanum || c == '_' || c == ':' || c == '-'

/-- A directive: a severity, an origin, or both with an equals sign between them. -/
def directive? (text : String) : Option LogDirective :=
  match text.splitOn "=" with
  | [word] =>
    match rank? word with
    | some rank => some { rank }
    | none => if word.toList.all isOriginChar then some { origin := word, rank := 5 } else none
  | [origin, word] =>
    if !origin.isEmpty && origin.toList.all isOriginChar then
      (rank? word).map fun rank => { origin, rank }
    else none
  | _ => none

/-- Directives with commas between them. Without any, errors are shown. -/
def read? (text : String) : Option LogFilter :=
  if text.isEmpty then some [{ rank := 1 }]
  else (text.splitOn ",").mapM directive?

/-- Whether a line is shown. Of several directives for one origin the last one counts. -/
def shows (filter : LogFilter) (line : LogLine) : Bool :=
  let applies := filter.filter fun directive => directive.origin.isPrefixOf line.origin
  let best := applies.foldl (fun best directive =>
    match best with
    | none => some directive
    | some other =>
      if other.origin.length ≤ directive.origin.length then some directive else some other) none
  match best with
  | some directive => line.severity.rank ≤ directive.rank
  | none => false

/-- What is shown for so many verbosity switches. Lines of the print flag are always shown. -/
def ofVerbosity : Nat → LogFilter
  | 0 => [{ rank := 2 }, { origin := "hed::print", rank := 3 }]
  | 1 => [{ rank := 3 }]
  | 2 => [{ rank := 4 }]
  | _ => [{ rank := 5 }]

/-- The filter that a text describes, or else that of the verbosity. -/
def choose (described : Option String) (verbosity : Nat) : LogFilter :=
  (described.bind read?).getD (ofVerbosity verbosity)

def lines (filter : LogFilter) (events : List Event) : List String :=
  ((events.flatMap Event.logLines).filter filter.shows).map LogLine.text

end LogFilter

end HistEdit
