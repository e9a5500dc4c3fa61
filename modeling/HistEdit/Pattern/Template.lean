/-!
Templates of replacements. `$name` and `$number` stand for a group, with the longest name that
letters, digits and underscores make; braces set the name off from what follows, and `$$` is a
dollar sign. Any other dollar sign stands for itself.
-/

namespace HistEdit.Pattern

inductive GroupRef where
  | number (index : Nat)
  | name (name : String)
  deriving DecidableEq

inductive TemplatePart where
  | char (c : Char)
  | group (ref : GroupRef)
  deriving DecidableEq

namespace Template

def isNameChar (c : Char) : Bool :=
  c.isAlphanum || c == '_'

/-- A reference by its text: a number that fits in 64 bits, or else a name. -/
def groupRef (text : List Char) : GroupRef :=
  let digits := match text with
    | '+' :: rest => rest
    | _ => text
  let value := digits.foldl (fun value c => 10 * value + (c.toNat - '0'.toNat)) 0
  if !digits.isEmpty && digits.all Char.isDigit && value < Nat.pow 2 64 then .number value
  else .name (String.ofList text)

/-- The reference that may follow a dollar sign, and what comes after it. -/
def reference? : List Char → Option (GroupRef × List Char)
  | '\x7b' :: rest =>
    match rest.dropWhile (· != '\x7d') with
    | _ :: after => some (groupRef (rest.takeWhile (· != '\x7d')), after)
    | [] => none
  | rest =>
    if (rest.takeWhile isNameChar).isEmpty then none
    else some (groupRef (rest.takeWhile isNameChar), rest.dropWhile isNameChar)

theorem reference?_length {cs rest : List Char} {ref : GroupRef}
    (h : reference? cs = some (ref, rest)) : rest.length ≤ cs.length := by
  unfold reference? at h
  split at h
  · rename_i body
    split at h
    · rename_i c after hdrop
      have hlen := (List.dropWhile_sublist (l := body) (fun x => x != '\x7d')).length_le
      simp only [Option.some.injEq, Prod.mk.injEq] at h
      rw [hdrop] at hlen
      simp only [List.length_cons] at hlen ⊢
      rw [← h.2]
      omega
    · exact absurd h (by simp)
  · split at h
    · exact absurd h (by simp)
    · simp only [Option.some.injEq, Prod.mk.injEq] at h
      rw [← h.2]
      exact (List.dropWhile_sublist _).length_le

def parts : List Char → List TemplatePart
  | [] => []
  | '$' :: '$' :: cs => .char '$' :: parts cs
  | '$' :: cs =>
    match h : reference? cs with
    | some (ref, rest) =>
      have := reference?_length h
      .group ref :: parts rest
    | none => .char '$' :: parts cs
  | c :: cs => .char c :: parts cs
termination_by cs => cs.length

def fill (group : GroupRef → List Char) (parts : List TemplatePart) : List Char :=
  parts.flatMap fun part =>
    match part with
    | .char c => [c]
    | .group ref => group ref

end Template

end HistEdit.Pattern
