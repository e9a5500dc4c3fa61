/-!
Scanning the text of expressions. A clause stands between two marks of one delimiter; a mark does
not count when an odd number of backslashes stands before it. Every scan gives back a later part
of the text it was given.
-/

namespace HistEdit.Clause

def isDelimiter (c : Char) : Bool :=
  c == '/' || c == '|' || c == ':' || c == ','

/-- A character that ends an expression. -/
def isSeparator (c : Char) : Bool :=
  c == ';' || c == '\n' || c == '\r'

def isBlank (c : Char) : Bool :=
  c == ' ' || c == '\t'

/-- A character that ends neither a flag run nor an expression. -/
def isRunChar (c : Char) : Bool :=
  !(isDelimiter c || isSeparator c || isBlank c || c == '\x7b')

/-- Cuts at the first mark that no odd number of backslashes precedes; `escaped` tells whether an
odd number stands before the text. -/
def splitUnescaped (mark : Char) : Bool → List Char → Option (List Char × List Char)
  | _, [] => none
  | escaped, c :: cs =>
    if c = '\\' then
      (splitUnescaped mark (!escaped) cs).map fun (before, after) => (c :: before, after)
    else if c = mark ∧ !escaped then some ([], cs)
    else (splitUnescaped mark false cs).map fun (before, after) => (c :: before, after)

/-- The substitution that follows the middle mark of a clause, and what comes after it. There is
none when the expression ends or a block begins before the next mark. -/
def splitSubstitution (mark : Char) (cs : List Char) : Option (List Char × List Char) :=
  match cs.dropWhile isBlank with
  | [] => none
  | c :: _ =>
    if c = '\x7b' ∨ isSeparator c then none
    else
      match splitUnescaped mark false cs with
      | some (template, rest) => if template.any isSeparator then none else some (template, rest)
      | none => none

/-- Cuts at the brace that closes `depth + 1` open ones. -/
def splitBrace : Nat → List Char → Option (List Char × List Char)
  | _, [] => none
  | depth, c :: cs =>
    let keep (depth : Nat) :=
      (splitBrace depth cs).map fun (before, after) => (c :: before, after)
    if c = '\x7b' then keep (depth + 1)
    else if c = '\x7d' then
      match depth with
      | 0 => some ([], cs)
      | depth + 1 => keep depth
    else keep depth

/-- The template that a substitution stands for: an escaped mark is the mark, and `$&` is the whole
match. -/
def unescape (mark : Char) : List Char → List Char
  | [] => []
  | [c] => [c]
  | c :: d :: cs =>
    if c = '\\' ∧ d = mark then mark :: unescape mark cs
    else if c = '$' ∧ d = '&' then ['$', '\x7b', '0', '\x7d'] ++ unescape mark cs
    else c :: unescape mark (d :: cs)

theorem splitUnescaped_eq {mark : Char} {escaped : Bool} {cs before after : List Char}
    (h : splitUnescaped mark escaped cs = some (before, after)) : cs = before ++ mark :: after := by
  induction cs generalizing escaped before after with
  | nil => exact absurd h (by simp [splitUnescaped])
  | cons c cs ih =>
      unfold splitUnescaped at h
      split at h
      · obtain ⟨⟨rest, tail⟩, hr, he⟩ := Option.map_eq_some_iff.1 h
        simp only [Prod.mk.injEq] at he
        obtain ⟨rfl, rfl⟩ := he
        exact congrArg (c :: ·) (ih hr)
      · split at h
        · rename_i hmark
          simp only [Option.some.injEq, Prod.mk.injEq] at h
          rw [← h.1, ← h.2, hmark.1]
          rfl
        · obtain ⟨⟨rest, tail⟩, hr, he⟩ := Option.map_eq_some_iff.1 h
          simp only [Prod.mk.injEq] at he
          obtain ⟨rfl, rfl⟩ := he
          exact congrArg (c :: ·) (ih hr)

theorem splitSubstitution_eq {mark : Char} {cs template rest : List Char}
    (h : splitSubstitution mark cs = some (template, rest)) : cs = template ++ mark :: rest := by
  unfold splitSubstitution at h
  split at h
  · exact absurd h (by simp)
  · split at h
    · exact absurd h (by simp)
    · split at h
      · rename_i found
        split at h
        · exact absurd h (by simp)
        · simp only [Option.some.injEq, Prod.mk.injEq] at h
          rw [← h.1, ← h.2]
          exact splitUnescaped_eq found
      · exact absurd h (by simp)

theorem splitBrace_eq {depth : Nat} {cs before after : List Char}
    (h : splitBrace depth cs = some (before, after)) : cs = before ++ '\x7d' :: after := by
  induction cs generalizing depth before after with
  | nil => exact absurd h (by simp [splitBrace])
  | cons c cs ih =>
      have keep : ∀ {d : Nat}, ((splitBrace d cs).map fun (b, a) => (c :: b, a)) =
          some (before, after) → c :: cs = before ++ '\x7d' :: after := by
        intro d hd
        obtain ⟨⟨rest, tail⟩, hr, he⟩ := Option.map_eq_some_iff.1 hd
        simp only [Prod.mk.injEq] at he
        obtain ⟨rfl, rfl⟩ := he
        exact congrArg (c :: ·) (ih hr)
      simp only [splitBrace] at h
      split at h
      · exact keep h
      · split at h
        · rename_i hclose
          cases depth with
          | zero =>
              simp only [Option.some.injEq, Prod.mk.injEq] at h
              rw [← h.1, ← h.2, hclose]
              rfl
          | succ depth => exact keep h
        · exact keep h

end HistEdit.Clause
