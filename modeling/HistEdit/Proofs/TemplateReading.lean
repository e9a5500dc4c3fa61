import HistEdit.Pattern.Machine
import HistEdit.Proofs.Segment

/-!
What a template means as it is written. Between two marks a template is written with an escaped mark
for the mark and `$&` for the whole match; it is rewritten into a template that the engine
understands, which then fills it in. The reader below takes the written template in one pass. The
two agree where every `$&` stands apart: neither behind a dollar sign that it is read with, nor
within the braces of a reference.
-/

namespace HistEdit.Pattern.Template

section Parts

variable {cs rest : List Char} {ref : GroupRef} {c : Char}

theorem reference?_of_head (hbrace : cs.head? ≠ some '\x7b')
    (hname : ∀ c ∈ cs.head?, isNameChar c = false) : reference? cs = none := by
  cases cs with
  | nil => rfl
  | cons c cs =>
      have hc : isNameChar c = false := hname c rfl
      have hne : c ≠ '\x7b' := by simpa using hbrace
      unfold reference?
      split
      · rename_i heq
        exact absurd (List.cons.inj heq).1 hne
      · simp [hc]

theorem reference?_brace {name : List Char} (hname : '\x7d' ∉ name) (rest : List Char) :
    reference? ('\x7b' :: (name ++ '\x7d' :: rest)) = some (groupRef name, rest) := by
  have hrun : ∀ c ∈ name, (c != '\x7d') = true := fun c hc =>
    bne_iff_ne.2 fun heq => hname (heq ▸ hc)
  have hstop : ∀ c ∈ ('\x7d' :: rest).head?, (c != '\x7d') = false := by simp
  simp only [reference?, Text.takeWhile_run hrun hstop, Text.dropWhile_run hrun hstop]

theorem reference?_open (hopen : '\x7d' ∉ cs) : reference? ('\x7b' :: cs) = none := by
  have hrun : ∀ c ∈ cs, (c != '\x7d') = true := fun c hc =>
    bne_iff_ne.2 fun heq => hopen (heq ▸ hc)
  simp only [reference?, List.dropWhile_eq_nil_iff.2 hrun]

theorem reference?_name {name : List Char} (hne : name ≠ [])
    (hname : ∀ c ∈ name, isNameChar c = true)
    (hrest : ∀ c ∈ rest.head?, isNameChar c = false) :
    reference? (name ++ rest) = some (groupRef name, rest) := by
  obtain ⟨c, more, rfl⟩ := List.exists_cons_of_ne_nil hne
  have hc : c ≠ '\x7b' := by
    rintro rfl
    have hbrace : isNameChar '\x7b' = true := hname _ List.mem_cons_self
    exact absurd hbrace (by decide)
  unfold reference?
  split
  · rename_i heq
    exact absurd (List.cons.inj heq).1 hc
  · rw [Text.takeWhile_run hname hrest, Text.dropWhile_run hname hrest]
    rfl

/-- A dollar sign begins no reference. -/
theorem reference?_dollar : reference? ('$' :: cs) = none :=
  reference?_of_head (by simp) (by simp; decide)

theorem parts_dollar : parts ('$' :: '$' :: cs) = .char '$' :: parts cs := by
  rw [parts]

theorem parts_reference (h : reference? cs = some (ref, rest)) :
    parts ('$' :: cs) = .group ref :: parts rest := by
  rw [parts]
  · split
    · rename_i heq
      simp only [h, Option.some.injEq, Prod.mk.injEq] at heq
      obtain ⟨rfl, rfl⟩ := heq
      rfl
    · rename_i heq
      simp [h] at heq
  · rintro cs rfl
    simp [reference?_dollar] at h

theorem parts_lone (hdollar : cs.head? ≠ some '$') (h : reference? cs = none) :
    parts ('$' :: cs) = .char '$' :: parts cs := by
  rw [parts]
  · split
    · rename_i heq
      simp [h] at heq
    · rfl
  · rintro cs rfl
    exact hdollar rfl

theorem parts_char (hc : c ≠ '$') : parts (c :: cs) = .char c :: parts cs := by
  rw [parts]
  · intro cs heq _
    exact hc heq
  · intro heq
    exact hc heq

/-- A reference is a name in braces, or the longest name that stands there. -/
theorem reference?_eq_some (h : reference? cs = some (ref, rest)) :
    ∃ name, ref = groupRef name ∧
      (cs = '\x7b' :: (name ++ '\x7d' :: rest) ∧ '\x7d' ∉ name ∨
        cs = name ++ rest ∧ name ≠ [] ∧ (∀ c ∈ name, isNameChar c = true) ∧
          ∀ c ∈ rest.head?, isNameChar c = false) := by
  unfold reference? at h
  split at h
  · rename_i body
    split at h
    · rename_i c after hdrop
      simp only [Option.some.injEq, Prod.mk.injEq] at h
      obtain ⟨rfl, rfl⟩ := h
      have hc : c = '\x7d' := by
        have hstop := List.head?_dropWhile_not (· != '\x7d') body
        simpa [hdrop] using hstop
      rw [hc] at hdrop
      refine ⟨_, rfl, .inl ⟨?_, fun hmem => ?_⟩⟩
      · rw [← hdrop, List.takeWhile_append_dropWhile]
      · simpa using List.mem_takeWhile_imp hmem
    · simp at h
  · split at h
    · simp at h
    · rename_i hname
      simp only [Option.some.injEq, Prod.mk.injEq] at h
      obtain ⟨rfl, rfl⟩ := h
      refine ⟨_, rfl, .inr ⟨(List.takeWhile_append_dropWhile).symm, ?_, ?_, ?_⟩⟩
      · simpa using hname
      · exact fun c hc => List.mem_takeWhile_imp hc
      · intro c hc
        have hstop := List.head?_dropWhile_not isNameChar cs
        rw [Option.mem_def.1 hc] at hstop
        simpa using hstop

theorem reference?_suffix (h : reference? cs = some (ref, rest)) : rest <:+ cs := by
  obtain ⟨name, -, ⟨rfl, -⟩ | ⟨rfl, -⟩⟩ := reference?_eq_some h
  · exact ⟨'\x7b' :: (name ++ ['\x7d']), by simp⟩
  · exact List.suffix_append name rest

/-- There is no reference behind an opening brace that is never closed, and where no name
stands. -/
theorem reference?_eq_none (h : reference? cs = none) :
    (∃ body, cs = '\x7b' :: body ∧ '\x7d' ∉ body) ∨
      cs.head? ≠ some '\x7b' ∧ ∀ c ∈ cs.head?, isNameChar c = false := by
  unfold reference? at h
  split at h
  · rename_i body
    split at h
    · simp at h
    · rename_i hdrop
      refine .inl ⟨body, rfl, fun hmem => ?_⟩
      simpa using List.dropWhile_eq_nil_iff.1 hdrop _ hmem
  · rename_i hbrace
    split at h
    · rename_i hname
      refine .inr ⟨?_, ?_⟩
      · intro hhead
        obtain ⟨rest, rfl⟩ := List.head?_eq_some_iff.1 hhead
        exact hbrace rest rfl
      · intro c hc
        obtain ⟨rest, rfl⟩ := List.head?_eq_some_iff.1 hc
        by_contra hyes
        simp [hyes] at hname
    · simp at h

theorem fill_char (group : GroupRef → List Char) (c : Char) (parts : List TemplatePart) :
    fill group (.char c :: parts) = c :: fill group parts := rfl

theorem fill_group (group : GroupRef → List Char) (ref : GroupRef) (parts : List TemplatePart) :
    fill group (.group ref :: parts) = group ref ++ fill group parts := rfl

theorem reference?_wholeMatch (cs : List Char) :
    reference? ('\x7b' :: '0' :: '\x7d' :: cs) = some (.number 0, cs) := by
  have hzero : '\x7d' ∉ ['0'] := by decide
  exact reference?_brace hzero cs

/-- The template that refers to the whole match. -/
theorem parts_wholeMatch : parts ['$', '\x7b', '0', '\x7d'] = [.group (.number 0)] := by
  rw [parts_reference (reference?_wholeMatch []), parts]

end Parts

/-- The parts of a template as it is written between two marks: an escaped mark is the mark, `$&` is
the whole match, and everything else is read as in a template. -/
def writtenParts (mark : Char) : List Char → List TemplatePart
  | [] => []
  | '$' :: '$' :: cs => .char '$' :: writtenParts mark cs
  | '$' :: '&' :: cs => .group (.number 0) :: writtenParts mark cs
  | '$' :: cs =>
    match h : reference? cs with
    | some (ref, rest) =>
      have := reference?_length h
      .group ref :: writtenParts mark rest
    | none => .char '$' :: writtenParts mark cs
  | '\\' :: c :: cs =>
    if c = mark then .char mark :: writtenParts mark cs
    else .char '\\' :: writtenParts mark (c :: cs)
  | c :: cs => .char c :: writtenParts mark cs
termination_by cs => cs.length

/-- Where a reader of a template stands: between two pieces, behind a dollar sign, or within the
braces of a reference. -/
inductive Place where
  | between
  | dollar
  | braces
  deriving DecidableEq

def Place.next : Place → Char → Place
  | .between, c => if c = '$' then .dollar else .between
  | .dollar, c => if c = '\x7b' then .braces else .between
  | .braces, c => if c = '\x7d' then .between else .braces

/-- Every `$&` of a text stands between two pieces of it. -/
def Apart (place : Place) (cs : List Char) : Prop :=
  ∀ before after, cs = before ++ '$' :: '&' :: after →
    before.foldl Place.next place = .between

section Apart

variable {place : Place} {c : Char} {cs : List Char}

theorem apart_nil (place : Place) : Apart place [] := by
  intro before after h
  simp at h

theorem apart_cons :
    Apart place (c :: cs) ↔
      (c = '$' → cs.head? = some '&' → place = .between) ∧ Apart (place.next c) cs := by
  constructor
  · intro h
    refine ⟨?_, fun before after hcut => h (c :: before) after (by rw [hcut]; rfl)⟩
    rintro rfl hhead
    obtain ⟨after, rfl⟩ := List.head?_eq_some_iff.1 hhead
    exact h [] after rfl
  · rintro ⟨hhead, hrest⟩ before after hcut
    cases before with
    | nil =>
        obtain ⟨rfl, rfl⟩ := List.cons.inj hcut
        exact hhead rfl rfl
    | cons first before =>
        obtain ⟨rfl, rfl⟩ := List.cons.inj hcut
        exact hrest before after rfl

instance decidableApart (place : Place) : (cs : List Char) → Decidable (Apart place cs)
  | [] => isTrue (apart_nil place)
  | c :: cs =>
    have := decidableApart (place.next c) cs
    decidable_of_iff _ apart_cons.symm

theorem apart_of_noWholeMatch (h : ¬['$', '&'] <:+: cs) : Apart place cs := by
  rintro before after rfl
  exact absurd ⟨before, after, by simp⟩ h

/-- Up to the closing brace the reader stays within the braces, and no `$&` stands there. -/
theorem Apart.of_braces {run rest : List Char} (hrun : '\x7d' ∉ run)
    (h : Apart .braces (run ++ rest)) : ¬['$', '&'] <:+: run ∧ Apart .braces rest := by
  have hstay {run : List Char} (hrun : '\x7d' ∉ run) : run.foldl Place.next .braces = .braces := by
    induction run with
    | nil => rfl
    | cons c run ih =>
        simp only [List.mem_cons, not_or] at hrun
        simpa [Place.next, Ne.symm hrun.1] using ih hrun.2
  constructor
  · rintro ⟨before, after, rfl⟩
    have hplace := h before (after ++ rest) (by simp)
    simp only [List.append_assoc, List.mem_append, not_or] at hrun
    simp [hstay hrun.1] at hplace
  · rintro before after rfl
    have hplace := h (run ++ before) after (by simp)
    simpa [hstay hrun] using hplace

/-- Characters that are no dollar signs leave the reader between two pieces. -/
theorem Apart.of_append {run rest : List Char} (hrun : '$' ∉ run)
    (h : Apart .between (run ++ rest)) : Apart .between rest := by
  induction run with
  | nil => exact h
  | cons c run ih =>
      simp only [List.mem_cons, not_or] at hrun
      have hnext := (apart_cons.1 h).2
      simp only [Place.next, Ne.symm hrun.1, if_false] at hnext
      exact ih hrun.2 hnext

end Apart

section Reading

variable {mark : Char}

/-- A mark has no meaning of its own in a template. -/
theorem mark_plain (hmark : Clause.isDelimiter mark = true) :
    mark ≠ '$' ∧ mark ≠ '\x7b' ∧ mark ≠ '\x7d' ∧ isNameChar mark = false := by
  rcases Clause.isDelimiter_cases hmark with rfl | rfl | rfl | rfl <;> decide

/-- A text that holds more than a sign and digits is a name. -/
theorem groupRef_of_mem {c : Char} (hsign : c ≠ '+') (hdigit : c.isDigit = false)
    {name : List Char} (hname : c ∈ name) : groupRef name = .name (String.ofList name) := by
  have hdigits {digits : List Char} (hmem : c ∈ digits) : digits.all Char.isDigit = false := by
    rw [List.all_eq_false]
    exact ⟨c, hmem, by simp [hdigit]⟩
  unfold groupRef
  split
  · rename_i rest
    have hrest : c ∈ rest := by simpa [hsign] using hname
    simp [hdigits hrest]
  · simp [hdigits hname]

/-- No group has a name with a character that names do not hold. -/
theorem lookup_names_eq_none (pattern : Pattern) {c : Char} (hc : isGroupNameChar c = false)
    {name : String} (hmem : c ∈ name.toList) : pattern.names.lookup name = none := by
  rw [List.lookup_eq_none_iff]
  intro entry hentry
  rw [bne_iff_ne]
  rintro rfl
  have hname := pattern.isGroupNameChar_of_mem hentry hmem
  rw [hc] at hname
  exact absurd hname (by decide)

/-- No group has a name that holds a mark. -/
theorem groupText_of_mem (hmark : Clause.isDelimiter mark = true) (pattern : Pattern)
    (found : Match) {name : List Char} (hname : mark ∈ name) :
    pattern.groupText found (groupRef name) = [] := by
  have hplain : mark ≠ '+' ∧ mark.isDigit = false ∧ isGroupNameChar mark = false := by
    rcases Clause.isDelimiter_cases hmark with rfl | rfl | rfl | rfl <;> decide
  have hlookup := lookup_names_eq_none pattern hplain.2.2
    (show mark ∈ (String.ofList name).toList by rwa [String.toList_ofList])
  rw [groupRef_of_mem hplain.1 hplain.2.1 hname, groupText, hlookup]

/-- A name in braces means the same group whether or not its marks are escaped: where it holds any,
there is none. -/
theorem groupText_unescape (hmark : Clause.isDelimiter mark = true) (pattern : Pattern)
    (found : Match) {name : List Char} (hwhole : ¬['$', '&'] <:+: name) :
    pattern.groupText found (groupRef (Clause.unescape mark name)) =
      pattern.groupText found (groupRef name) := by
  by_cases hname : mark ∈ name
  · rw [groupText_of_mem hmark pattern found hname,
      groupText_of_mem hmark pattern found (Clause.mark_mem_unescape hmark hname)]
  · have hescaped : ¬['\\', mark] <:+: name := by
      rintro ⟨before, after, rfl⟩
      simp at hname
    rw [Clause.unescape_eq_self hescaped hwhole]

theorem unescape_wholeMatch (cs : List Char) :
    Clause.unescape mark ('$' :: '&' :: cs) =
      '$' :: '\x7b' :: '0' :: '\x7d' :: Clause.unescape mark cs := by
  simp [Clause.unescape]

/-- Where no reference follows a dollar sign, none does after rewriting. -/
theorem reference?_unescape_eq_none (hmark : Clause.isDelimiter mark = true) {cs : List Char}
    (h : Apart .dollar cs) (hdollar : cs.head? ≠ some '$') (hnone : reference? cs = none) :
    Apart .between cs ∧ (Clause.unescape mark cs).head? ≠ some '$' ∧
      reference? (Clause.unescape mark cs) = none := by
  obtain ⟨hmarkDollar, hmarkBrace, -, hmarkName⟩ := mark_plain hmark
  have hhead : (Clause.unescape mark cs).head? ≠ some '$' := by
    intro hhead
    rcases Clause.mem_head?_unescape hhead with hbefore | heq
    · exact hdollar hbefore
    · exact hmarkDollar heq.symm
  rcases reference?_eq_none hnone with ⟨body, rfl, hbody⟩ | ⟨hbrace, hname⟩
  · -- a brace that stays open: behind it no `$&` is rewritten, so that it is not closed then
    have hopen : Apart .braces body := (apart_cons.1 h).2
    rw [← List.append_nil body] at hopen
    have hwhole := (Apart.of_braces hbody hopen).1
    have hall : ¬['$', '&'] <:+: '\x7b' :: body := by simpa [List.infix_cons_iff] using hwhole
    refine ⟨apart_of_noWholeMatch hall, hhead, ?_⟩
    rw [Clause.unescape_cons (by simp) (by simp)]
    exact reference?_open fun hmem => hbody (Clause.mem_of_mem_unescape hwhole hmem)
  · refine ⟨?_, hhead, reference?_of_head ?_ ?_⟩
    · cases cs with
      | nil => exact apart_nil .between
      | cons c cs =>
          have hnext := (apart_cons.1 h).2
          simp only [List.head?_cons, ne_eq, Option.some.injEq] at hdollar hbrace
          refine apart_cons.2 ⟨fun heq => absurd heq hdollar, ?_⟩
          simpa [Place.next, hdollar, hbrace] using hnext
    · intro hopen
      rcases Clause.mem_head?_unescape hopen with hbefore | heq
      · exact hbrace hbefore
      · exact hmarkBrace heq.symm
    · intro c hc
      rcases Clause.mem_head?_unescape hc with hbefore | rfl
      · exact hname c hbefore
      · exact hmarkName

/-- A reference stays one when the template is rewritten, to a group with the same text. -/
theorem exists_reference?_unescape (hmark : Clause.isDelimiter mark = true) (pattern : Pattern)
    (found : Match) {cs rest : List Char} {ref : GroupRef} (h : Apart .dollar cs)
    (hsome : reference? cs = some (ref, rest)) :
    Apart .between rest ∧ ∃ now,
      reference? (Clause.unescape mark cs) = some (now, Clause.unescape mark rest) ∧
        pattern.groupText found now = pattern.groupText found ref := by
  obtain ⟨-, -, hmarkClose, hmarkName⟩ := mark_plain hmark
  obtain ⟨name, rfl, ⟨rfl, hname⟩ | ⟨rfl, hne, hname, hstop⟩⟩ := reference?_eq_some hsome
  · have hbraces : Apart .braces (name ++ '\x7d' :: rest) := (apart_cons.1 h).2
    obtain ⟨hwhole, hclose⟩ := Apart.of_braces hname hbraces
    have hrest : Apart .between rest := (apart_cons.1 hclose).2
    refine ⟨hrest, _, ?_, groupText_unescape hmark pattern found hwhole⟩
    rw [Clause.unescape_cons (by simp) (by simp),
      Clause.unescape_append_cons hmarkClose.symm (by decide),
      Clause.unescape_cons (by simp) (by simp)]
    exact reference?_brace (fun hmem => hname (Clause.mem_of_mem_unescape hwhole hmem)) _
  · have hrun : ∀ c ∈ name, c ≠ '\\' ∧ c ≠ '$' := by
      intro c hc
      constructor <;> rintro rfl <;> exact absurd (hname _ hc) (by decide)
    refine ⟨?_, groupRef name, ?_, rfl⟩
    · obtain ⟨c, more, rfl⟩ := List.exists_cons_of_ne_nil hne
      have hc : c ≠ '\x7b' := by
        rintro rfl
        have hbrace : isNameChar '\x7b' = true := hname _ List.mem_cons_self
        exact absurd hbrace (by decide)
      have hmore : '$' ∉ more := fun hmem => (hrun _ (List.mem_cons_of_mem c hmem)).2 rfl
      have hnext := (apart_cons.1 h).2
      simp only [Place.next, hc, if_false] at hnext
      exact hnext.of_append hmore
    · rw [Clause.unescape_append_of_plain hrun]
      refine reference?_name hne hname fun c hc => ?_
      rcases Clause.mem_head?_unescape hc with hbefore | rfl
      · exact hstop c hbefore
      · exact hmarkName

/-- The rewritten template, filled in for a match, is the written one, read in one pass. -/
theorem fill_unescape (hmark : Clause.isDelimiter mark = true) (pattern : Pattern)
    (found : Match) {raw : List Char} (h : Apart .between raw) :
    fill (pattern.groupText found) (parts (Clause.unescape mark raw)) =
      fill (pattern.groupText found) (writtenParts mark raw) := by
  have hdollar := (mark_plain hmark).1
  fun_induction writtenParts mark raw with
  | case1 => rw [Clause.unescape, parts]
  | case2 cs ih =>
      obtain ⟨hsecond, hrest⟩ := apart_cons.1 (apart_cons.1 h).2
      have hand : cs.head? ≠ some '&' := fun hhead =>
        absurd (hsecond rfl hhead) (by decide)
      rw [Clause.unescape_cons (by simp) (by simp), Clause.unescape_cons (by simp) (fun _ => hand),
        parts_dollar, fill_char, fill_char, ih hrest]
  | case3 cs ih =>
      have hrest : Apart .between cs := (apart_cons.1 (apart_cons.1 h).2).2
      rw [unescape_wholeMatch, parts_reference (reference?_wholeMatch _), fill_group, fill_group,
        ih hrest]
  | case4 cs _ hnotAnd ref rest hsome _ ih =>
      obtain ⟨hrest, now, hnow, hgroup⟩ :=
        exists_reference?_unescape hmark pattern found (apart_cons.1 h).2 hsome
      have hand : cs.head? ≠ some '&' := fun hhead =>
        (List.head?_eq_some_iff.1 hhead).elim hnotAnd
      rw [Clause.unescape_cons (by simp) (fun _ => hand), parts_reference hnow, fill_group,
        fill_group, hgroup, ih hrest]
  | case5 cs hnotDollar hnotAnd hnone ih =>
      have hhead : cs.head? ≠ some '$' := fun hhead =>
        (List.head?_eq_some_iff.1 hhead).elim hnotDollar
      have hand : cs.head? ≠ some '&' := fun hhead =>
        (List.head?_eq_some_iff.1 hhead).elim hnotAnd
      obtain ⟨hrest, hnow, hlone⟩ :=
        reference?_unescape_eq_none hmark (apart_cons.1 h).2 hhead hnone
      rw [Clause.unescape_cons (by simp) (fun _ => hand), parts_lone hnow hlone, fill_char,
        fill_char, ih hrest]
  | case6 cs ih =>
      have hrest := (apart_cons.1 (apart_cons.1 h).2).2
      have hplace : (Place.between.next '\\').next mark = .between := by
        simp [Place.next, hdollar]
      rw [hplace] at hrest
      rw [Clause.unescape_mark, parts_char hdollar, fill_char, fill_char, ih hrest]
  | case7 c cs hc ih =>
      have hhead : (c :: cs).head? ≠ some mark := by simpa using hc
      have hrest : Apart .between (c :: cs) := (apart_cons.1 h).2
      rw [Clause.unescape_cons (fun _ => hhead) (by simp), parts_char (by decide), fill_char,
        fill_char, ih hrest]
  | case8 c cs _ _ hc hslash ih =>
      have hend : c = '\\' → cs.head? ≠ some mark := fun hback hhead =>
        (List.head?_eq_some_iff.1 hhead).elim fun rest => hslash mark rest hback
      have hrest := (apart_cons.1 h).2
      have hplace : Place.between.next c = .between := if_neg hc
      rw [hplace] at hrest
      rw [Clause.unescape_cons hend (absurd · hc), parts_char hc, fill_char, fill_char, ih hrest]

/-- A template without escaped marks and `$&` means what the engine makes of it as it stands. -/
theorem writtenParts_eq_parts {raw : List Char} (hescaped : ¬['\\', mark] <:+: raw)
    (hwhole : ¬['$', '&'] <:+: raw) : writtenParts mark raw = parts raw := by
  have hlater {pair rest cs : List Char} (hsuffix : rest <:+ cs) (h : ¬pair <:+: cs) :
      ¬pair <:+: rest := fun hpair => h (hpair.trans hsuffix.isInfix)
  fun_induction writtenParts mark raw with
  | case1 => rw [parts]
  | case2 cs ih =>
      have hrest : cs <:+ '$' :: '$' :: cs := ⟨['$', '$'], rfl⟩
      rw [parts_dollar, ih (hlater hrest hescaped) (hlater hrest hwhole)]
  | case3 cs _ => exact absurd ⟨[], cs, rfl⟩ hwhole
  | case4 cs _ _ ref rest hsome _ ih =>
      have hrest : rest <:+ '$' :: cs := (reference?_suffix hsome).trans (List.suffix_cons '$' cs)
      rw [parts_reference hsome, ih (hlater hrest hescaped) (hlater hrest hwhole)]
  | case5 cs hnotDollar _ hnone ih =>
      have hrest := List.suffix_cons '$' cs
      have hhead : cs.head? ≠ some '$' := fun hhead =>
        (List.head?_eq_some_iff.1 hhead).elim hnotDollar
      rw [parts_lone hhead hnone, ih (hlater hrest hescaped) (hlater hrest hwhole)]
  | case6 cs _ => exact absurd ⟨[], cs, rfl⟩ hescaped
  | case7 c cs _ ih =>
      have hrest := List.suffix_cons '\\' (c :: cs)
      rw [parts_char (by decide), ih (hlater hrest hescaped) (hlater hrest hwhole)]
  | case8 c cs _ _ hc _ ih =>
      have hrest := List.suffix_cons c cs
      rw [parts_char hc, ih (hlater hrest hescaped) (hlater hrest hwhole)]

end Reading

end HistEdit.Pattern.Template

namespace HistEdit.Segment

open Pattern (Template.Apart Template.fill Template.parts Template.writtenParts)

/-- A clause whose `$&` stand apart is read as a pattern with a template that means, for every
match, what was written between the marks. Without escaped marks and `$&` it is the written text.
-/
theorem readClause_written [PatternEngine] {mark : Char} (hmark : Clause.isDelimiter mark = true)
    {cs source after raw rest : List Char} {pattern : Pattern}
    (hsource : Clause.splitUnescaped mark false cs = some (source, after))
    (hpattern : readPattern source = .ok (some pattern))
    (hraw : Clause.splitSubstitution mark after = some (raw, rest))
    (hapart : Template.Apart .between raw) :
    ∃ template : String,
      (∀ start, readClause start (mark :: cs) = .ok (some pattern, some template, rest)) ∧
        (∀ found, pattern.expand found template.toList =
          Template.fill (pattern.groupText found) (Template.writtenParts mark raw)) ∧
        (¬['\\', mark] <:+: raw → ¬['$', '&'] <:+: raw →
          template.toList = raw ∧ Template.writtenParts mark raw = Template.parts raw) := by
  refine ⟨String.ofList (Clause.unescape mark raw), fun start => ?_, fun found => ?_,
    fun hescaped hwhole => ⟨?_, ?_⟩⟩
  · simp [readClause, hmark, hsource, hpattern, hraw]
  · rw [Pattern.expand, String.toList_ofList,
      Pattern.Template.fill_unescape hmark pattern found hapart]
  · rw [String.toList_ofList, Clause.unescape_eq_self hescaped hwhole]
  · exact Pattern.Template.writtenParts_eq_parts hescaped hwhole

/-- A template with a group by its name, an escaped mark, a dollar sign and two whole matches, one
of them behind a dollar sign. -/
theorem readClause_written_slash :
    let raw := "$&[$\x7bx\x7d]\\/$$$$$&".toList
    let text := "(?<x>a)/".toList ++ raw ++ "/ rest".toList
    ∃ pattern template,
      PatternEngine.compile? "(?<x>a)" = some pattern ∧
        (∀ start, readClause start ('/' :: text) =
          .ok (some pattern, some template, " rest".toList)) ∧
        ∀ found, pattern.expand found template.toList =
          Template.fill (pattern.groupText found) (Template.writtenParts '/' raw) := by
  intro raw text
  have hsome : (PatternEngine.compile? "(?<x>a)").isSome = true := by decide +kernel
  obtain ⟨pattern, hcompile⟩ := Option.isSome_iff_exists.1 hsome
  have hpattern : readPattern "(?<x>a)".toList = .ok (some pattern) :=
    readPattern_eq_ok_iff.2 (.inr ⟨by decide, pattern, rfl, hcompile⟩)
  have hsource : Clause.splitUnescaped '/' false text =
      some ("(?<x>a)".toList, raw ++ "/ rest".toList) := by decide
  have hraw : Clause.splitSubstitution '/' (raw ++ "/ rest".toList) =
      some (raw, " rest".toList) := by decide
  have hapart : Template.Apart .between raw := by decide
  obtain ⟨template, hread, hexpand, -⟩ :=
    readClause_written (by decide) hsource hpattern hraw hapart
  exact ⟨pattern, template, hcompile, hread, hexpand⟩

/-- Behind two dollar signs an ampersand is made a group that no dollar sign introduces. -/
theorem readClause_splits_wholeMatch :
    ∃ pattern template,
      (∀ start, readClause start "/a/$$&/".toList = .ok (some pattern, some template, [])) ∧
        ∀ found,
          pattern.expand found template.toList = "$\x7b0\x7d".toList ∧
            Template.fill (pattern.groupText found) (Template.writtenParts '/' "$$&".toList) =
              "$&".toList := by
  have hsome : (PatternEngine.compile? "a").isSome = true := by decide +kernel
  obtain ⟨pattern, hcompile⟩ := Option.isSome_iff_exists.1 hsome
  have hpattern : readPattern "a".toList = .ok (some pattern) :=
    readPattern_eq_ok_iff.2 (.inr ⟨by decide, pattern, rfl, hcompile⟩)
  have hsource : Clause.splitUnescaped '/' false "a/$$&/".toList =
      some ("a".toList, "$$&/".toList) := by decide
  have hraw : Clause.splitSubstitution '/' "$$&/".toList = some ("$$&".toList, []) := by decide
  refine ⟨pattern, "$$\x7b0\x7d", fun start => ?_, fun found => ⟨?_, ?_⟩⟩
  · have htemplate : String.ofList (Clause.unescape '/' "$$&".toList) = "$$\x7b0\x7d" := by decide
    change readClause start ('/' :: "a/$$&/".toList) = _
    have hmark : Clause.isDelimiter '/' = true := by decide
    simp only [readClause, hmark, if_true, hsource, hpattern, hraw, htemplate]
  · simp [Pattern.expand, Pattern.Template.parts, Pattern.Template.fill]
  · simp [Pattern.Template.writtenParts, Pattern.Template.fill]

end HistEdit.Segment
