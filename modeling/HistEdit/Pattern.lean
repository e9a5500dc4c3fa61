import HistEdit.Pattern.Template

/-!
Patterns and what they find. A pattern looks for one match at a time; its matches cut a text into
gaps and matched pieces, so that the pieces in order with the rest are the text again. Matches do
not overlap, and an empty match never follows directly on the end of the match before it.
-/

namespace HistEdit

namespace Pattern

/-- A match: where it starts and ends, and where each group starts and ends. -/
structure Span where
  start : Nat
  stop : Nat
  slots : Array (Option Nat)

/-- Whether a span lies in a text from a place on. -/
def Span.Within (text : Array Char) (start : Nat) (span : Span) : Prop :=
  start ≤ span.start ∧ span.start ≤ span.stop ∧ span.stop ≤ text.size

theorem Span.Within.mono {text : Array Char} {start before : Nat} {span : Span}
    (h : span.Within text start) (hbefore : before ≤ start) : span.Within text before :=
  ⟨Nat.le_trans hbefore h.1, h.2⟩

/-- A character that the name of a group may hold. Names in other scripts are left open. -/
def isGroupNameChar (c : Char) : Bool :=
  128 ≤ c.toNat || c.isAlphanum || ['_', '.', '[', ']'].contains c

end Pattern

/-- A pattern that was read, ready to match: how many groups it has besides the whole match, the
numbers of those with a name, and the first match in a text at or after a place. -/
structure Pattern where
  source : String
  groups : Nat
  names : List (String × Nat)
  find? : Array Char → Nat → Option Pattern.Span
  find?_within : ∀ {text start span}, start ≤ text.size + 1 → find? text start = some span →
    span.Within text start
  isGroupNameChar_of_mem : ∀ {entry c}, entry ∈ names → c ∈ entry.1.toList →
    Pattern.isGroupNameChar c = true

/-- An engine that reads patterns and keeps their text; one that is not well formed or too large
gives nothing. -/
class PatternEngine where
  compile? : String → Option Pattern
  source_of_compile? : ∀ {source pattern}, compile? source = some pattern → pattern.source = source

namespace Pattern

/-- One match in a text: what stands between it and the match before, what it took, and what each
group took. Group 0 is the whole match. -/
structure Match where
  gap : List Char
  matched : List Char
  groups : List (Option (List Char))

/-- The matches in a text, and what stands after the last one. -/
structure Matches where
  found : List Match
  rest : List Char

def slice (text : Array Char) (start stop : Nat) : List Char :=
  (text.extract start stop).toList

def groupTexts (text : Array Char) (count : Nat) (span : Span) : List (Option (List Char)) :=
  (List.range count).map fun i => do
    let start ← (span.slots[2 * (i + 1)]?).join
    let stop ← (span.slots[2 * (i + 1) + 1]?).join
    some (slice text start stop)

/-- The next match from a place on. An empty one at the end of the match before does not count; the
search then starts one character later. -/
def nextSpan? (pattern : Pattern) (text : Array Char) (start : Nat) (last : Option Nat) :
    Option Span := do
  let span ← pattern.find? text start
  if span.start = span.stop ∧ last = some span.stop then pattern.find? text (start + 1)
  else some span

/-- The matches from a place on, at most `limit` of them; `remaining` is the text from there. -/
def matchesFrom (pattern : Pattern) (text : Array Char) :
    Nat → Nat → Option Nat → List Char → Matches
  | 0, _, _, remaining => ⟨[], remaining⟩
  | limit + 1, start, last, remaining =>
    match pattern.nextSpan? text start last with
    | none => ⟨[], remaining⟩
    | some span =>
      let gap := remaining.take (span.start - start)
      let behind := remaining.drop (span.start - start)
      let matched := behind.take (span.stop - span.start)
      let next := matchesFrom pattern text limit span.stop (some span.stop)
        (behind.drop (span.stop - span.start))
      ⟨⟨gap, matched, some matched :: groupTexts text pattern.groups span⟩ :: next.found, next.rest⟩

def findAll (pattern : Pattern) (text : List Char) : Matches :=
  matchesFrom pattern text.toArray (text.length + 2) 0 none text

def isMatch (pattern : Pattern) (text : List Char) : Bool :=
  (pattern.nextSpan? text.toArray 0 none).isSome

/-- What a group of a match took; nothing for a group that is not there or took no part. -/
def groupText (pattern : Pattern) (found : Match) : GroupRef → List Char
  | .number index => ((found.groups[index]?).join).getD []
  | .name name =>
    match pattern.names.lookup name with
    | some index => ((found.groups[index]?).join).getD []
    | none => []

def expand (pattern : Pattern) (found : Match) (template : List Char) : List Char :=
  Template.fill (pattern.groupText found) (Template.parts template)

theorem matchesFrom_text (pattern : Pattern) (text : Array Char) (limit start : Nat)
    (last : Option Nat) (remaining : List Char) :
    let cut := matchesFrom pattern text limit start last remaining
    (cut.found.flatMap fun found => found.gap ++ found.matched) ++ cut.rest = remaining := by
  induction limit generalizing start last remaining with
  | zero => rfl
  | succ limit ih =>
      simp only [matchesFrom]
      split
      · rfl
      · rename_i span _
        simp only [List.flatMap_cons, List.append_assoc]
        rw [ih, List.take_append_drop, List.take_append_drop]

/-- The gaps, the matched pieces and the rest in order are the text. -/
theorem findAll_text (pattern : Pattern) (text : List Char) :
    ((pattern.findAll text).found.flatMap fun found => found.gap ++ found.matched) ++
      (pattern.findAll text).rest = text :=
  matchesFrom_text pattern text.toArray _ _ _ text

end Pattern

end HistEdit
