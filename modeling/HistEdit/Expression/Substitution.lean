import HistEdit.Expression

/-!
Applying a rule to a text. A rule with a pattern fails on a text that does not match, or with the
invert flag on one that does. A substitution replaces the matches that the flags select;
everything else of the text stays in its place.
-/

namespace HistEdit

/-- Whether the match number `occurrence`, counted from 1 among `total`, is substituted. Without
the match-only flag an index skips so many matches from the front, or stops after so many; with it
an index names one match, from the front or from the back. -/
def Flags.selects (flags : Flags) (occurrence total : Nat) : Bool :=
  let index := flags.matchIndex.toInt
  if flags.matchOnly then
    if index = 0 then false
    else if 0 < index then occurrence == index
    else (occurrence : Int) == total + 1 + index
  else
    if index = 0 then true
    else if 0 < index then index < occurrence
    else occurrence ≤ -index

/-- The number of matches, which is counted only for an index that names one from the back. -/
def Flags.counted (flags : Flags) (count : Nat) : Nat :=
  if flags.matchOnly ∧ flags.matchIndex < 0 then count else 0

def substitute (flags : Flags) (pattern : Pattern) (template source : List Char) : List Char :=
  let cut := pattern.findAll source
  let total := flags.counted cut.found.length
  ((cut.found.zipIdx 1).flatMap fun (found, occurrence) =>
    found.gap ++
      (if flags.selects occurrence total then pattern.expand found template
      else found.matched)) ++ cut.rest

/-- What a rule makes of a text; nothing when it fails. -/
def Rule.apply (rule : Rule) (source : String) : Option String :=
  match rule.pattern with
  | none => some (rule.substitution.getD source)
  | some pattern =>
    if pattern.isMatch source.toList = rule.flags.invert then none
    else
      match rule.substitution with
      | some template =>
        if rule.flags.invert then some source
        else
          some (String.ofList (substitute rule.flags pattern template.toList source.toList))
      | none => some source

end HistEdit
