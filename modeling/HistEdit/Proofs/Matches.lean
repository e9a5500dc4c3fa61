import HistEdit.Expression.Substitution

/-!
Where matches stand. The matches of a text stand inside it one after another: none overlaps the one
before, and each ends later than the one before. The list of their places says all that a search for
all matches finds.
-/

namespace HistEdit.Pattern

section Spans

variable {pattern : Pattern} {text : Array Char} {start : Nat} {last : Option Nat}

/-- The next match lies behind the place, and ends behind the end of the match before it. -/
theorem nextSpan?_within (hstart : start ≤ text.size) (hlast : ∀ stop ∈ last, stop = start)
    {span : Span} (h : pattern.nextSpan? text start last = some span) :
    span.Within text start ∧ ∀ stop ∈ last, stop < span.stop := by
  obtain ⟨first, hfirst, h⟩ := Option.bind_eq_some_iff.mp h
  have hwithin := pattern.find?_within (by omega) hfirst
  split at h
  · have hsecond := pattern.find?_within (Nat.succ_le_succ hstart) h
    refine ⟨hsecond.mono (Nat.le_succ start), fun stop hstop => ?_⟩
    rw [hlast stop hstop]
    exact Nat.lt_of_lt_of_le hsecond.1 hsecond.2.1
  · rename_i hnew
    obtain rfl : first = span := by simpa using h
    refine ⟨hwithin, fun stop hstop => ?_⟩
    have hplace := hlast stop hstop
    obtain ⟨hlower, hupper, -⟩ := hwithin
    -- a match that ends where the last one ended would be empty and directly behind it
    have hmoved : ¬(first.start = first.stop ∧ stop = first.stop) := by
      simpa [Option.mem_def.mp hstop] using hnew
    omega

/-- The places of the matches from a place on, at most `limit` of them. -/
def spansFrom (pattern : Pattern) (text : Array Char) : Nat → Nat → Option Nat → List Span
  | 0, _, _ => []
  | limit + 1, start, last =>
    match pattern.nextSpan? text start last with
    | none => []
    | some span => span :: spansFrom pattern text limit span.stop (some span.stop)

def spans (pattern : Pattern) (text : List Char) : List Span :=
  spansFrom pattern text.toArray (text.length + 2) 0 none

/-- Spans that stand one after another in the part of a text from a place on. -/
def InOrder (text : Array Char) : Nat → List Span → Prop
  | start, [] => start ≤ text.size
  | start, span :: rest => span.Within text start ∧ InOrder text span.stop rest

theorem spansFrom_inOrder (hstart : start ≤ text.size) (hlast : ∀ stop ∈ last, stop = start)
    (limit : Nat) : InOrder text start (pattern.spansFrom text limit start last) := by
  induction limit generalizing start last with
  | zero => exact hstart
  | succ limit ih =>
      simp only [spansFrom]
      split
      · exact hstart
      · rename_i span hspan
        have hwithin := (nextSpan?_within hstart hlast hspan).1
        exact ⟨hwithin, ih hwithin.2.2 (by simp)⟩

/-- Every match of a list ends behind the end of the match before the list. -/
theorem lt_stop_of_mem_spansFrom (hstart : start ≤ text.size) {limit : Nat} {span : Span}
    (hspan : span ∈ pattern.spansFrom text limit start (some start)) : start < span.stop := by
  induction limit generalizing start with
  | zero => simp [spansFrom] at hspan
  | succ limit ih =>
      simp only [spansFrom] at hspan
      split at hspan
      · simp at hspan
      · rename_i next hnext
        obtain ⟨hwithin, hbehind⟩ := nextSpan?_within hstart (by simp) hnext
        have hnextStop : start < next.stop := hbehind start rfl
        rcases List.mem_cons.mp hspan with rfl | hlater
        · exact hnextStop
        · exact Nat.lt_trans hnextStop (ih hwithin.2.2 hlater)

theorem InOrder.within {spans : List Span} (h : InOrder text start spans) :
    ∀ span ∈ spans, span.Within text start := by
  induction spans generalizing start with
  | nil => simp
  | cons first rest ih =>
      obtain ⟨hfirst, hrest⟩ := h
      refine List.forall_mem_cons.mpr ⟨hfirst, fun span hspan => ?_⟩
      exact (ih hrest span hspan).mono (Nat.le_trans hfirst.1 hfirst.2.1)

theorem spansFrom_pairwise (hstart : start ≤ text.size) (hlast : ∀ stop ∈ last, stop = start)
    (limit : Nat) :
    (pattern.spansFrom text limit start last).Pairwise fun earlier later =>
      earlier.stop ≤ later.start ∧ earlier.stop < later.stop := by
  induction limit generalizing start last with
  | zero => exact List.Pairwise.nil
  | succ limit ih =>
      simp only [spansFrom]
      split
      · exact List.Pairwise.nil
      · rename_i span hspan
        have hstop := (nextSpan?_within hstart hlast hspan).1.2.2
        have horder : InOrder text span.stop
            (pattern.spansFrom text limit span.stop (some span.stop)) :=
          spansFrom_inOrder hstop (by simp) limit
        refine List.Pairwise.cons (fun later hlater => ?_) (ih hstop (by simp))
        exact ⟨(horder.within later hlater).1, lt_stop_of_mem_spansFrom hstop hlater⟩

/-- A search that may take one step for each place that is left, and one more where no match was
found yet, finds all matches: a higher limit adds none. -/
theorem spansFrom_eq_of_le (hstart : start ≤ text.size) (hlast : ∀ stop ∈ last, stop = start)
    {room limit : Nat} (hroom : text.size - start + (if last.isSome then 1 else 2) ≤ room)
    (hlimit : room ≤ limit) :
    pattern.spansFrom text limit start last = pattern.spansFrom text room start last := by
  induction room generalizing limit start last with
  | zero => split at hroom <;> omega
  | succ room ih =>
      obtain ⟨limit, rfl⟩ : ∃ fewer, limit = fewer + 1 := ⟨limit - 1, by omega⟩
      simp only [spansFrom]
      split
      · rfl
      · rename_i span hspan
        obtain ⟨⟨hlower, hupper, hstop⟩, hbehind⟩ := nextSpan?_within hstart hlast hspan
        have hleft : text.size - span.stop + 1 ≤ room := by
          cases last with
          | none => simp only [Option.isSome_none, Bool.false_eq_true, if_false] at hroom; omega
          | some stop =>
              have hless := hbehind stop rfl
              have hplace := hlast stop rfl
              simp only [Option.isSome_some, if_true] at hroom
              omega
        rw [ih hstop (by simp) (by simpa using hleft) (by omega)]

theorem spansFrom_eq_spans (pattern : Pattern) (text : List Char) {limit : Nat}
    (hlimit : text.length + 2 ≤ limit) :
    pattern.spansFrom text.toArray limit 0 none = pattern.spans text :=
  spansFrom_eq_of_le (Nat.zero_le _) (by simp) (by simp) hlimit

theorem spans_inOrder (pattern : Pattern) (text : List Char) :
    InOrder text.toArray 0 (pattern.spans text) :=
  spansFrom_inOrder (Nat.zero_le _) (by simp) _

theorem isMatch_iff_spans (pattern : Pattern) (text : List Char) :
    pattern.isMatch text = true ↔ pattern.spans text ≠ [] := by
  simp only [isMatch, spans, spansFrom]
  cases pattern.nextSpan? text.toArray 0 none <;> simp

end Spans

section Cut

variable {pattern : Pattern} {text : Array Char}

/-- The match at a span, where the match before it ended at `place`. -/
def matchAt (pattern : Pattern) (text : Array Char) (place : Nat) (span : Span) : Match :=
  ⟨slice text place span.start, slice text span.start span.stop,
    some (slice text span.start span.stop) :: groupTexts text pattern.groups span⟩

/-- The text from a place on, cut at the spans that stand there. -/
def cutAt (pattern : Pattern) (text : Array Char) : Nat → List Span → Matches
  | place, [] => ⟨[], text.toList.drop place⟩
  | place, span :: spans =>
    let next := cutAt pattern text span.stop spans
    ⟨pattern.matchAt text place span :: next.found, next.rest⟩

theorem slice_eq (text : Array Char) (start stop : Nat) :
    slice text start stop = (text.toList.drop start).take (stop - start) := by
  simp [slice, List.extract_eq_take_drop]

theorem matchesFrom_eq_cutAt {start : Nat} {last : Option Nat} (hstart : start ≤ text.size)
    (hlast : ∀ stop ∈ last, stop = start) (limit : Nat) :
    pattern.matchesFrom text limit start last (text.toList.drop start) =
      pattern.cutAt text start (pattern.spansFrom text limit start last) := by
  induction limit generalizing start last with
  | zero => rfl
  | succ limit ih =>
      cases hspan : pattern.nextSpan? text start last with
      | none => simp only [matchesFrom, spansFrom, hspan, cutAt]
      | some span =>
        obtain ⟨hlower, hupper, hstop⟩ := (nextSpan?_within hstart hlast hspan).1
        have hself : ∀ stop ∈ some span.stop, stop = span.stop := by simp
        have hgap : (text.toList.drop start).drop (span.start - start) =
            text.toList.drop span.start := by
          rw [List.drop_drop, Nat.add_sub_cancel' hlower]
        have hrest : (text.toList.drop span.start).drop (span.stop - span.start) =
            text.toList.drop span.stop := by
          rw [List.drop_drop, Nat.add_sub_cancel' hupper]
        simp only [matchesFrom, spansFrom, hspan, hgap, hrest, ih hstop hself, cutAt, matchAt,
          slice_eq]

/-- What is found are the matches at the spans, cut out of the text. -/
theorem findAll_eq_cutAt (pattern : Pattern) (text : List Char) :
    pattern.findAll text = pattern.cutAt text.toArray 0 (pattern.spans text) :=
  matchesFrom_eq_cutAt (Nat.zero_le _) (by simp) _

theorem length_cutAt (place : Nat) (spans : List Span) :
    (pattern.cutAt text place spans).found.length = spans.length := by
  induction spans generalizing place with
  | nil => rfl
  | cons span spans ih => simp [cutAt, ih]

/-- What a template becomes does not depend on what stands before the match. -/
theorem expand_matchAt (place : Nat) (span : Span) (template : List Char) :
    pattern.expand (pattern.matchAt text place span) template =
      pattern.expand (pattern.matchAt text span.start span) template := by
  have hgroups : pattern.groupText (pattern.matchAt text place span) =
      pattern.groupText (pattern.matchAt text span.start span) := by
    funext ref
    cases ref <;> rfl
  simp only [expand, hgroups]

end Cut

end HistEdit.Pattern
