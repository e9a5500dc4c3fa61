import HistEdit.Proofs.Matches
import HistEdit.Proofs.TemplateReading

/-!
Substitution by ranges. A substitution walks through the matches and copies what stands between
them. Here it is said without a walk: of the matches of a text, those that the match index picks are
replaced in their places, and nothing else is touched.
-/

namespace HistEdit

open Pattern (Span)

/-- Whether a match index picks the match number `i` of `k`. Without the match-only flag 0 picks all
matches, a positive index all but the first ones and a negative one only the first ones; with the
flag an index names one match, counted from the front or from the back. -/
def Flags.Picks (flags : Flags) (k i : Nat) : Prop :=
  let n := flags.matchIndex.toInt
  if flags.matchOnly then 0 < n ∧ i = n ∨ n < 0 ∧ i = k + 1 + n
  else n = 0 ∨ 0 < n ∧ n < i ∨ n < 0 ∧ i ≤ -n

instance (flags : Flags) (k i : Nat) : Decidable (flags.Picks k i) :=
  inferInstanceAs (Decidable (ite _ _ _))

/-- The flags select what the match index picks, although the matches are not always counted. -/
theorem Flags.selects_iff (flags : Flags) (i k : Nat) :
    flags.selects i (flags.counted k) = true ↔ flags.Picks k i := by
  have hsigned : flags.matchIndex < 0 ↔ flags.matchIndex.toInt < 0 := Int8.lt_iff_toInt_lt
  simp only [selects, Picks, counted, hsigned]
  generalize flags.matchIndex.toInt = n
  have hsign : n < 0 ∨ n = 0 ∨ 0 < n := by omega
  rcases hsign with hn | rfl | hn
  · have hzero : n ≠ 0 := by omega
    have hpositive : ¬0 < n := by omega
    cases flags.matchOnly <;> simp [hn, hzero, hpositive]
  · cases flags.matchOnly <;> simp
  · have hzero : n ≠ 0 := by omega
    have hnegative : ¬n < 0 := by omega
    cases flags.matchOnly <;> simp [hn, hzero, hnegative]

def Flags.picked (flags : Flags) (spans : List Span) : List Span :=
  ((spans.zipIdx 1).filter fun (_, i) => flags.Picks spans.length i).map Prod.fst

theorem Flags.mem_of_mem_picked (flags : Flags) {spans : List Span} {span : Span}
    (h : span ∈ flags.picked spans) : span ∈ spans := by
  obtain ⟨⟨found, i⟩, hmem, rfl⟩ := List.mem_map.1 h
  exact List.fst_mem_of_mem_zipIdx (List.mem_filter.1 hmem).1

def replaceRange (text : List Char) (start stop : Nat) (piece : List Char) : List Char :=
  text.take start ++ piece ++ text.drop stop

/-- A text with the parts at some spans replaced. The last one is replaced first, so that the others
still stand where their spans say. -/
def replaceAll (piece : Span → List Char) (spans : List Span) (text : List Char) : List Char :=
  spans.foldr (fun span text => replaceRange text span.start span.stop (piece span)) text

theorem replaceRange_eq_self {text piece : List Char} {start stop : Nat} (h : start ≤ stop)
    (hpiece : piece = (text.drop start).take (stop - start)) :
    replaceRange text start stop piece = text := by
  have hstop : text.drop stop = (text.drop start).drop (stop - start) := by
    rw [List.drop_drop, Nat.add_sub_cancel' h]
  rw [replaceRange, hpiece, hstop, List.append_assoc, List.take_append_drop,
    List.take_append_drop]

/-- Replacing a part of a text that was only changed behind it. -/
theorem replaceRange_take_append {text later piece : List Char} {start stop : Nat}
    (h : start ≤ stop) (hstop : stop ≤ text.length) :
    replaceRange (text.take stop ++ later) start stop piece =
      text.take start ++ piece ++ later := by
  have hlength : (text.take stop).length = stop := List.length_take_of_le hstop
  have htake : (text.take stop ++ later).take start = text.take start := by
    rw [List.take_append_of_le_length (by omega), List.take_take, Nat.min_eq_left h]
  have hdrop : (text.take stop ++ later).drop stop = later := List.drop_left' hlength
  rw [replaceRange, htake, hdrop]

/-- Pieces that are the same as what they replace change nothing. -/
theorem replaceAll_eq_self {text : List Char} {piece : Span → List Char} {spans : List Span}
    (h : ∀ span ∈ spans, span.start ≤ span.stop ∧
      piece span = (text.drop span.start).take (span.stop - span.start)) :
    replaceAll piece spans text = text := by
  induction spans with
  | nil => rfl
  | cons span spans ih =>
      obtain ⟨⟨horder, hpiece⟩, hrest⟩ := List.forall_mem_cons.mp h
      rw [replaceAll, List.foldr_cons, ← replaceAll, ih hrest]
      exact replaceRange_eq_self horder hpiece

namespace Pattern

variable {pattern : Pattern} {text : Array Char}

theorem take_append_slice {start stop : Nat} (h : start ≤ stop) :
    text.toList.take start ++ slice text start stop = text.toList.take stop := by
  rw [slice_eq, ← List.take_add, Nat.add_sub_cancel' h]

/-- Walking through the matches from a place on is replacing in the whole text: what the walk has
behind it is still as it was. -/
theorem flatMap_cutAt (pattern : Pattern) (template : List Char) (picks : Nat → Bool)
    {place : Nat} {spans : List Span} (h : InOrder text place spans) (number : Nat) :
    text.toList.take place ++
        (((pattern.cutAt text place spans).found.zipIdx number).flatMap (fun (found, i) =>
          found.gap ++ (if picks i then pattern.expand found template else found.matched)) ++
        (pattern.cutAt text place spans).rest) =
      replaceAll (fun span => pattern.expand (pattern.matchAt text span.start span) template)
        (((spans.zipIdx number).filter fun (_, i) => picks i).map Prod.fst) text.toList := by
  induction spans generalizing place number with
  | nil => simp [cutAt, replaceAll]
  | cons span spans ih =>
      obtain ⟨⟨hplace, hspan, hstop⟩, hrest⟩ := h
      have hlater := ih hrest (number + 1)
      have hexpand : pattern.expand (pattern.matchAt text place span) template =
          pattern.expand (pattern.matchAt text span.start span) template :=
        expand_matchAt place span template
      simp only [cutAt, List.zipIdx_cons, List.flatMap_cons, List.append_assoc] at hlater ⊢
      rw [← List.append_assoc, matchAt, take_append_slice hplace, ← matchAt]
      cases hpicks : picks number with
      | true =>
          simp only [List.filter_cons, hpicks, if_true, List.map_cons, hexpand]
          rw [replaceAll, List.foldr_cons, ← replaceAll, ← hlater,
            replaceRange_take_append hspan hstop, List.append_assoc]
      | false =>
          simp only [List.filter_cons, hpicks, Bool.false_eq_true, if_false]
          rw [← hlater, ← take_append_slice hspan, List.append_assoc]
          rfl

theorem expand_wholeMatch (pattern : Pattern) (text : Array Char) (place : Nat) (span : Span) :
    pattern.expand (pattern.matchAt text place span) "$\x7b0\x7d".toList =
      slice text span.start span.stop := by
  have hparts : Template.parts "$\x7b0\x7d".toList = [.group (.number 0)] :=
    Template.parts_wholeMatch
  rw [expand, hparts]
  simp [Template.fill, groupText, matchAt]

/-- What a list of places has to be to hold all matches of a pattern in a text: they lie in the
text one after another without overlap, none is left out, they are what a search finds, and there
are any exactly when the text matches. -/
structure Enumerates (pattern : Pattern) (text : List Char) (spans : List Span) : Prop where
  inside : ∀ span ∈ spans, span.start ≤ span.stop ∧ span.stop ≤ text.length
  separate : spans.Pairwise fun earlier later =>
    earlier.stop ≤ later.start ∧ earlier.stop < later.stop
  complete : ∀ limit, text.length + 2 ≤ limit →
    pattern.spansFrom text.toArray limit 0 none = spans
  found : pattern.findAll text = pattern.cutAt text.toArray 0 spans
  isMatch : pattern.isMatch text = decide (0 < spans.length)

theorem enumerates_spans (pattern : Pattern) (text : List Char) :
    pattern.Enumerates text (pattern.spans text) where
  inside span hspan := ((spans_inOrder pattern text).within span hspan).2
  separate := spansFrom_pairwise (Nat.zero_le _) (by simp) _
  complete _ hlimit := spansFrom_eq_spans pattern text hlimit
  found := findAll_eq_cutAt pattern text
  isMatch := by
    rw [Bool.eq_iff_iff, isMatch_iff_spans, decide_eq_true_iff, List.length_pos_iff]

end Pattern

/-- A substitution replaces the picked matches in their places. -/
theorem substitute_eq_replaceAll (flags : Flags) (pattern : Pattern)
    (template source : List Char) :
    substitute flags pattern template source =
      replaceAll
        (fun span =>
          pattern.expand (pattern.matchAt source.toArray span.start span) template)
        (flags.picked (pattern.spans source)) source := by
  have hwalk := pattern.flatMap_cutAt template
    (fun i => flags.Picks (pattern.spans source).length i) (Pattern.spans_inOrder pattern source) 1
  have hselects : ∀ i, flags.selects i (flags.counted (pattern.spans source).length) =
      decide (flags.Picks (pattern.spans source).length i) := fun i => by
    rw [Bool.eq_iff_iff, Flags.selects_iff, decide_eq_true_iff]
  simp only [substitute, Pattern.findAll_eq_cutAt, Pattern.length_cutAt, hselects]
  simpa [Flags.picked] using hwalk

/-- What a rule makes of a text that it does not fail on: only a substitution without the invert
flag changes it. -/
def Rule.result (rule : Rule) (pattern : Pattern) (source : String) : String :=
  match rule.substitution, rule.flags.invert with
  | some template, false =>
    String.ofList
      (replaceAll
        (fun span =>
          pattern.expand (pattern.matchAt source.toList.toArray span.start span) template.toList)
        (rule.flags.picked (pattern.spans source.toList)) source.toList)
  | _, _ => source

theorem Rule.apply_of_pattern {rule : Rule} {pattern : Pattern}
    (hpattern : rule.pattern = some pattern) (source : String) :
    rule.apply source =
      if decide (0 < (pattern.spans source.toList).length) = rule.flags.invert then none
      else some (rule.result pattern source) := by
  rw [apply, hpattern, ← (pattern.enumerates_spans source.toList).isMatch]
  refine if_congr Iff.rfl rfl ?_
  cases hsubstitution : rule.substitution with
  | none => simp [result, hsubstitution]
  | some template =>
      cases hinvert : rule.flags.invert <;>
        simp [result, hsubstitution, hinvert, substitute_eq_replaceAll]

/-- Matches that are replaced by what they took leave the text as it was. -/
theorem Rule.result_eq_self {rule : Rule} {pattern : Pattern} {source : String}
    (h : ∀ template ∈ rule.substitution,
      ∀ span ∈ rule.flags.picked (pattern.spans source.toList),
        pattern.expand (pattern.matchAt source.toList.toArray span.start span) template.toList =
          Pattern.slice source.toList.toArray span.start span.stop) :
    rule.result pattern source = source := by
  unfold result
  split
  · rename_i template hsubstitution _
    have hinside := (pattern.enumerates_spans source.toList).inside
    rw [replaceAll_eq_self, String.ofList_toList]
    intro span hspan
    refine ⟨(hinside span (rule.flags.mem_of_mem_picked hspan)).1, ?_⟩
    rw [h template hsubstitution span hspan, Pattern.slice_eq]
  · rfl

/-- A rule without a pattern makes its substitution of a text, or keeps the text. With one it fails
exactly when there are matches and the invert flag is set, or neither; otherwise it keeps the text
when the flag is set or there is no substitution, and else replaces the matches that the match index
picks, each by the template filled in for it, and nothing else. The text is kept also where no match
is picked, and where every picked one is replaced by what it took. -/
theorem Rule.apply_eq_replaceAll (rule : Rule) (source : String) :
    match rule.pattern with
    | none => rule.apply source = some (rule.substitution.getD source)
    | some pattern =>
      let text := source.toList
      let spans := pattern.spans text
      let expanded (template : String) (span : Span) : List Char :=
        pattern.expand (pattern.matchAt text.toArray span.start span) template.toList
      let part (span : Span) : List Char := Pattern.slice text.toArray span.start span.stop
      pattern.Enumerates text spans ∧
      (∀ span, expanded "$\x7b0\x7d" span = part span) ∧
      (rule.apply source = none ↔ decide (0 < spans.length) = rule.flags.invert) ∧
      (rule.apply source ≠ none →
        rule.apply source = some
          (match rule.substitution, rule.flags.invert with
          | some template, false =>
            String.ofList (replaceAll (expanded template) (rule.flags.picked spans) text)
          | _, _ => source)) ∧
      (rule.apply source ≠ none →
        (∀ template ∈ rule.substitution, ∀ span ∈ rule.flags.picked spans,
          expanded template span = part span) →
        rule.apply source = some source) := by
  cases hpattern : rule.pattern with
  | none => simp [apply, hpattern]
  | some pattern =>
      dsimp -zeta only
      intro text spans expanded part
      have happly := rule.apply_of_pattern hpattern source
      have hresult (happlies : rule.apply source ≠ none) :
          rule.apply source = some (rule.result pattern source) := by
        rw [happly] at happlies ⊢
        exact if_neg fun hfails => happlies (if_pos hfails)
      refine ⟨pattern.enumerates_spans text, fun span => pattern.expand_wholeMatch _ _ span, ?_,
        hresult, fun happlies hsame => ?_⟩
      · rw [happly, ite_eq_left_iff]
        simp [text, spans]
      · rw [hresult happlies, Rule.result_eq_self hsame]

/-- Of three matches the last one is replaced, by what its group took and what it took itself. -/
theorem Rule.apply_eq_replaceAll_last :
    let flags : Flags := { matchOnly := true, matchIndex := -1 }
    ∃ pattern, PatternEngine.compile? "(?<x>[bn])a" = some pattern ∧
      Rule.apply ⟨flags, some pattern, some "$x-$0"⟩ "banana" = some "banan-na" := by
  intro flags
  obtain ⟨pattern, hcompile, hview⟩ := Option.map_eq_some_iff.1
    (show (PatternEngine.compile? "(?<x>[bn])a").map (fun pattern =>
        let spans := pattern.spans "banana".toList
        (spans.length, replaceAll (fun span => pattern.expand
          (pattern.matchAt "banana".toList.toArray span.start span) "$x-$0".toList)
          (flags.picked spans) "banana".toList)) = some (3, "banan-na".toList) by decide +kernel)
  obtain ⟨hcount, hreplaced⟩ := Prod.mk.inj hview
  obtain ⟨-, -, hfails, hreplaces, -⟩ :=
    Rule.apply_eq_replaceAll ⟨flags, some pattern, some "$x-$0"⟩ "banana"
  have happlies : Rule.apply ⟨flags, some pattern, some "$x-$0"⟩ "banana" ≠ none := by
    have hsome : ¬decide (0 < 3) = false := by decide
    rwa [Ne, hfails, hcount]
  refine ⟨pattern, hcompile, (hreplaces happlies).trans ?_⟩
  exact congrArg (some ∘ String.ofList) hreplaced

end HistEdit
