import HistEdit.Clause
import HistEdit.Expression
import HistEdit.Text.Space

/-!
The outer form of one expression: its rule, and the text of what follows the rule. What follows is
nothing, the text between two braces, or a call up to the end of the expression. A text that is no
flag run and has neither clause nor block is a call in whole.
-/

namespace HistEdit

inductive Segment.Body where
  | nothing
  | block (inner : List Char)
  | call (name args : String)

/-- One expression with its block or call still in text, and the text behind it. -/
structure Segment where
  rule : Rule
  body : Segment.Body
  rest : List Char

namespace Segment

def readFlags (start : List Char) : Except EditError (Flags × List Char) :=
  let run := start.takeWhile Clause.isRunChar
  let rest := start.dropWhile Clause.isRunChar
  match Flags.decode run with
  | .ok flags => .ok (flags, rest)
  | .error cause =>
    if rest.head?.any fun c => Clause.isDelimiter c || c == '\x7b' then
      .error (.invalidFlags (String.ofList run) cause)
    else .ok ({}, start)

/-- The pattern between the first two marks; empty text is no pattern. -/
def readPattern [PatternEngine] (cs : List Char) : Except EditError (Option Pattern) :=
  if cs.isEmpty then .ok none
  else
    match PatternEngine.compile? (String.ofList cs) with
    | some pattern => .ok (some pattern)
    | none => .error (.invalidPattern (String.ofList cs))

/-- The clause that may follow the flags of the expression that begins at `start`: its pattern, its
substitution, and the text behind it. -/
def readClause [PatternEngine] (start : List Char) :
    List Char → Except EditError (Option Pattern × Option String × List Char)
  | [] => .ok (none, none, [])
  | mark :: cs =>
    if Clause.isDelimiter mark then
      match Clause.splitUnescaped mark false cs with
      | none => .error (.unterminated mark (String.ofList start))
      | some (source, after) =>
        match readPattern source with
        | .error error => .error error
        | .ok pattern =>
          match Clause.splitSubstitution mark after with
          | some (template, rest) =>
            .ok (pattern, some (String.ofList (Clause.unescape mark template)), rest)
          | none => .ok (pattern, none, after)
    else .ok (none, none, mark :: cs)

/-- The name and the arguments of a call; the first space stands between them. -/
def readCall (cs : List Char) : String × String :=
  match Text.splitOnce ' ' (Text.trimEnd cs) with
  | some (name, args) => (String.ofList name, String.ofList args)
  | none => (String.ofList (Text.trimEnd cs), "")

def readBody (start : List Char) : List Char → Except EditError (Body × List Char)
  | [] => .ok (.nothing, [])
  | c :: cs =>
    if Clause.isSeparator c then .ok (.nothing, c :: cs)
    else if c = '\x7b' then
      match Clause.splitBrace 0 cs with
      | none => .error (.unmatchedBrace (String.ofList start))
      | some (inner, rest) =>
        let isTrailing (c : Char) : Bool := Clause.isBlank c || Clause.isSeparator c
        .ok (.block (Text.trimEndWhere isTrailing inner), rest)
    else
      let (name, args) := readCall ((c :: cs).takeWhile fun c => !Clause.isSeparator c)
      .ok (.call name args, (c :: cs).dropWhile fun c => !Clause.isSeparator c)

/-- Blanks and separators before an expression. -/
def isGap (c : Char) : Bool :=
  Clause.isBlank c || Clause.isSeparator c

def read [PatternEngine] (start : List Char) : Except EditError Segment :=
  match readFlags start with
  | .error error => .error error
  | .ok (flags, afterFlags) =>
    match readClause start afterFlags with
    | .error error => .error error
    | .ok (pattern, substitution, afterClause) =>
      match readBody start (afterClause.dropWhile Clause.isBlank) with
      | .error error => .error error
      | .ok (body, rest) => .ok ⟨⟨flags, pattern, substitution⟩, body, rest⟩

/-- The first expression of a text; nothing when only blanks and separators are left. -/
def next? [PatternEngine] (cs : List Char) : Except EditError (Option Segment) :=
  match cs.dropWhile isGap with
  | [] => .ok none
  | c :: start => (read (c :: start)).map some

theorem readFlags_suffix {start rest : List Char} {flags : Flags}
    (h : readFlags start = .ok (flags, rest)) : rest <:+ start := by
  simp only [readFlags] at h
  split at h
  · simp only [Except.ok.injEq, Prod.mk.injEq] at h
    rw [← h.2]
    exact List.dropWhile_suffix _
  · split at h
    · exact absurd h (by simp)
    · simp only [Except.ok.injEq, Prod.mk.injEq] at h
      exact h.2 ▸ List.suffix_refl _

theorem readClause_suffix [PatternEngine] {start cs rest : List Char} {pattern : Option Pattern}
    {substitution : Option String} (h : readClause start cs = .ok (pattern, substitution, rest)) :
    rest <:+ cs := by
  unfold readClause at h
  split at h
  · simp only [Except.ok.injEq, Prod.mk.injEq] at h
    exact h.2.2 ▸ List.suffix_refl _
  · rename_i mark cs
    split at h
    · split at h
      · exact absurd h (by simp)
      · rename_i source after found
        have hcut := Clause.splitUnescaped_eq found
        have hafter : after <:+ mark :: cs := ⟨mark :: source ++ [mark], by simp [hcut]⟩
        split at h
        · exact absurd h (by simp)
        · split at h
          · rename_i template tail hsub
            have htail := Clause.splitSubstitution_eq hsub
            simp only [Except.ok.injEq, Prod.mk.injEq] at h
            rw [← h.2.2]
            exact List.IsSuffix.trans ⟨template ++ [mark], by simp [htail]⟩ hafter
          · simp only [Except.ok.injEq, Prod.mk.injEq] at h
            rw [← h.2.2]
            exact hafter
    · simp only [Except.ok.injEq, Prod.mk.injEq] at h
      exact h.2.2 ▸ List.suffix_refl _

private theorem readBody_rest {start cs rest : List Char} {body : Body}
    (h : readBody start cs = .ok (body, rest)) :
    (rest.length < cs.length ∧ ∀ inner, body = .block inner → inner.length < cs.length) ∨
      (body = .nothing ∧ rest = cs ∧ ∀ c ∈ cs.head?, Clause.isSeparator c = true) := by
  unfold readBody at h
  split at h
  · simp only [Except.ok.injEq, Prod.mk.injEq] at h
    exact .inr ⟨h.1.symm, h.2.symm, by simp⟩
  · rename_i c cs
    split at h
    · rename_i hsep
      simp only [Except.ok.injEq, Prod.mk.injEq] at h
      exact .inr ⟨h.1.symm, h.2.symm, by simpa using hsep⟩
    · rename_i hsep
      split at h
      · split at h
        · exact absurd h (by simp)
        · rename_i inner tail found
          have hcut := Clause.splitBrace_eq found
          simp only [Except.ok.injEq, Prod.mk.injEq] at h
          refine .inl ⟨?_, ?_⟩
          · rw [← h.2, hcut]
            simp
            omega
          · intro text htext
            rw [← h.1] at htext
            simp only [Body.block.injEq] at htext
            have htrim : text.length ≤ inner.length := by
              rw [← htext]
              unfold Text.trimEndWhere
              simpa using (List.dropWhile_sublist (l := inner.reverse) _).length_le
            rw [hcut]
            simp
            omega
      · simp only [Except.ok.injEq, Prod.mk.injEq] at h
        refine .inl ⟨?_, ?_⟩
        · rw [← h.2]
          have hkeep : (!Clause.isSeparator c) = true := by simpa using hsep
          rw [List.dropWhile_cons_of_pos (by simpa using hkeep)]
          have := (List.dropWhile_sublist (l := cs) fun c => !Clause.isSeparator c).length_le
          simp
          omega
        · intro text htext
          rw [← h.1] at htext
          exact absurd htext (by simp)

/-- Reading an expression gets on: the rest is shorter, and so is the text of a block. -/
theorem next?_shorter [PatternEngine] {cs : List Char} {segment : Segment}
    (h : next? cs = .ok (some segment)) :
    segment.rest.length < cs.length ∧
      ∀ inner, segment.body = .block inner → inner.length < cs.length := by
  unfold next? at h
  have hskip := (List.dropWhile_sublist (l := cs) isGap).length_le
  split at h
  · exact absurd h (by simp)
  · rename_i c start hstart
    have hgap : isGap c = false := by
      have := List.head?_dropWhile_not isGap cs
      rw [hstart] at this
      simpa using this
    rw [hstart] at hskip
    unfold read at h
    split at h
    · exact absurd h (by simp [Except.map])
    · rename_i flags afterFlags hflags
      split at h
      · exact absurd h (by simp [Except.map])
      · rename_i pattern substitution afterClause hclause
        split at h
        · exact absurd h (by simp [Except.map])
        · rename_i body rest hbody
          simp only [Except.map, Except.ok.injEq, Option.some.injEq] at h
          subst h
          have hsuffix : afterClause.dropWhile Clause.isBlank <:+ c :: start :=
            (List.dropWhile_suffix _).trans
              ((readClause_suffix hclause).trans (readFlags_suffix hflags))
          have hle := hsuffix.length_le
          rcases readBody_rest hbody with ⟨hrest, hinner⟩ | ⟨hnothing, hrest, hhead⟩
          · refine ⟨by simp only; omega, ?_⟩
            intro inner hb
            have := hinner inner hb
            omega
          · refine ⟨?_, by simp [hnothing]⟩
            simp only [hrest]
            rcases Nat.lt_or_ge (afterClause.dropWhile Clause.isBlank).length (c :: start).length
              with hlt | hge
            · omega
            · have heq := hsuffix.eq_of_length (Nat.le_antisymm hle hge)
              rw [heq] at hhead
              have hsep := hhead c rfl
              simp [isGap, hsep] at hgap

end Segment

end HistEdit
