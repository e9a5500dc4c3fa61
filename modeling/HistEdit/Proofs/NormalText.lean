import HistEdit.Proofs.Reading
import Mathlib.Data.String.Basic

/-!
The normal form of expressions as a text that can be read: its clause, its call, the characters it
ends with, and how expressions are joined.
-/

namespace HistEdit

def listText (expressions : List Expression) : String :=
  "; ".intercalate (expressions.map Expression.text)

@[simp] theorem toList_listText_nil : (listText []).toList = [] := rfl

@[simp] theorem toList_listText_singleton (expression : Expression) :
    (listText [expression]).toList = expression.text.toList := rfl

@[simp] theorem toList_listText_cons_cons (expression next : Expression)
    (rest : List Expression) :
    (listText (expression :: next :: rest)).toList =
      expression.text.toList ++ ';' :: ' ' :: (listText (next :: rest)).toList := by
  simp [listText, String.intercalate_cons_cons]

theorem toList_blockText (children : List Expression) :
    (blockText children).toList =
      if children = [] then [] else ' ' :: (listText children).toList := by
  induction children with
  | nil => rfl
  | cons child rest ih =>
      cases rest with
      | nil => simp [blockText]
      | cons next rest =>
          simp only [reduceCtorEq, if_false] at ih
          simp [blockText, ih]

def sourceText (pattern : Option Pattern) : List Char :=
  ((pattern.map Pattern.source).getD "").toList

def clauseText (pattern : Option Pattern) (substitution : Option String) : List Char :=
  match pattern, substitution with
  | none, none => []
  | some pattern, none => '/' :: (sourceText pattern ++ ['/'])
  | pattern, some template => '/' :: (sourceText pattern ++ '/' :: (template.toList ++ ['/']))

/-- A clause in normal form begins and ends with a slash. -/
theorem clauseText_eq (pattern : Option Pattern) (substitution : Option String) :
    clauseText pattern substitution = [] ∨
      ∃ inside, clauseText pattern substitution = '/' :: (inside ++ ['/']) := by
  cases substitution with
  | none =>
      cases pattern with
      | none => exact .inl rfl
      | some pattern => exact .inr ⟨sourceText pattern, rfl⟩
  | some template =>
      refine .inr ⟨sourceText pattern ++ '/' :: template.toList, ?_⟩
      cases pattern with
      | none => simp [clauseText]
      | some pattern => simp [clauseText]

theorem Rule.toList_text (rule : Rule) :
    rule.text.toList =
      rule.flags.encode.toList ++ clauseText rule.pattern rule.substitution := by
  obtain ⟨flags, pattern, substitution⟩ := rule
  cases pattern with
  | none =>
      cases substitution with
      | none => simp [Rule.text, clauseText]
      | some template => simp [Rule.text, clauseText, sourceText]
  | some pattern =>
      cases substitution with
      | none => simp [Rule.text, clauseText, sourceText]
      | some template => simp [Rule.text, clauseText, sourceText]

def callText (name args : String) : String :=
  if args.isEmpty then name else name ++ " " ++ args

end HistEdit

namespace HistEdit.Segment

theorem sourceText_of_readPattern [PatternEngine] {source : List Char} {pattern : Option Pattern}
    (h : readPattern source = .ok pattern) : sourceText pattern = source := by
  unfold sourceText
  rw [source_of_readPattern h]
  by_cases hempty : source = []
  · simp [hempty]
  · simp [hempty]

/-- What a call is read as is written as the text it was read from, without the space behind it. -/
theorem callText_readCall (cs : List Char) :
    (callText (readCall cs).1 (readCall cs).2).toList = Text.trimEnd cs := by
  unfold readCall
  cases hsplit : Text.splitOnce ' ' (Text.trimEnd cs) with
  | none => simp [callText]
  | some parts =>
      obtain ⟨name, args⟩ := parts
      obtain ⟨htext, -⟩ := Text.splitOnce_eq_some_iff.1 hsplit
      have hargs : args ≠ [] := by
        rintro rfl
        have hlast := Text.getLast?_trimEndWhere Text.isSpace cs ' '
        rw [← Text.trimEnd_eq_trimEndWhere, htext] at hlast
        exact absurd (hlast (by simp)) (by decide)
      simp [callText, htext, hargs]

theorem readCall_trimEnd (cs : List Char) : readCall (Text.trimEnd cs) = readCall cs := by
  have htwice : Text.trimEnd (Text.trimEnd cs) = Text.trimEnd cs :=
    Text.trimEndWhere_eq_self (Text.getLast?_trimEndWhere Text.isSpace cs)
  simp only [readCall, htwice]

structure IsCall (text : List Char) : Prop where
  nonempty : text ≠ []
  head : ∀ c ∈ text.head?, Clause.isBlank c = false ∧ c ≠ '\x7b'
  free : ∀ c ∈ text, Clause.isSeparator c = false
  last : ∀ c ∈ text.getLast?, Text.isSpace c = false

/-- A call that was read has a normal form, which is read as the same call. -/
theorem isCall_of_next? [PatternEngine] {cs : List Char} {segment : Segment} {name args : String}
    (h : next? cs = .ok (some segment)) (hbody : segment.body = .call name args)
    (hname : name ≠ "") :
    IsCall (callText name args).toList ∧ readCall (callText name args).toList = (name, args) := by
  obtain ⟨afterFlags, afterClause, -, -, -, hform⟩ := next?_eq_ok_some_iff.1 h
  have hhead := List.head?_dropWhile_not Clause.isBlank afterClause
  rw [hbody] at hform
  generalize afterClause.dropWhile Clause.isBlank = cs at hform hhead
  cases hform with
  | @call text rest hne hopen hfree hrest =>
      rw [callText_readCall, readCall_trimEnd]
      obtain ⟨cut, hcut, htext⟩ := Text.exists_trimEndWhere_append Text.isSpace text
      rw [← Text.trimEnd_eq_trimEndWhere] at htext
      have hnonempty : Text.trimEnd text ≠ [] := by
        intro hempty
        apply hname
        simp [readCall, hempty, Text.splitOnce]
      have hsame : (Text.trimEnd text ++ cut).head? = (Text.trimEnd text).head? :=
        List.head?_append_of_ne_nil _ hnonempty
      rw [← htext] at hsame
      refine ⟨⟨hnonempty, ?_, ?_, Text.getLast?_trimEndWhere Text.isSpace text⟩, rfl⟩
      · intro c hc
        rw [← hsame] at hc
        refine ⟨?_, fun hbrace => hopen (hbrace ▸ hc)⟩
        rw [List.head?_append_of_ne_nil _ hne, hc] at hhead
        simpa using hhead
      · intro c hc
        exact hfree c (htext ▸ List.mem_append_left cut hc)

/-- A text whose last character is part of an expression. -/
def Closed (cs : List Char) : Prop :=
  ∃ c ∈ cs.getLast?, isGap c = false

theorem Closed.append {bs : List Char} (as : List Char) (h : Closed bs) : Closed (as ++ bs) := by
  obtain ⟨c, hlast, hgap⟩ := h
  exact ⟨c, List.mem_getLast?_append_of_mem_getLast? hlast, hgap⟩

/-- Blanks and separators behind a closed text are taken away, and nothing else. -/
theorem Closed.trimEndWhere {cs gap : List Char} (h : Closed cs)
    (hgap : ∀ c ∈ gap, isGap c = true) : Text.trimEndWhere isGap (cs ++ gap) = cs := by
  obtain ⟨c, hlast, hc⟩ := h
  rw [Text.trimEndWhere_append_of_all hgap]
  refine Text.trimEndWhere_eq_self fun d hd => ?_
  have hsame : d = c := Option.mem_unique hd hlast
  exact hsame ▸ hc

theorem closed_rule (rule : Rule) : Closed rule.text.toList := by
  rw [Rule.toList_text]
  rcases clauseText_eq rule.pattern rule.substitution with hempty | ⟨inside, hclause⟩
  · have hne := Flags.encode_ne_nil rule.flags
    have hflag := Flags.isFlagChar_encode rule.flags _ (List.getLast_mem hne)
    rw [hempty, List.append_nil]
    refine ⟨_, List.getLast?_eq_getLast_of_ne_nil hne, ?_⟩
    exact isGap_of_isRunChar (Bool.and_eq_true_iff.1 hflag).1
  · rw [hclause]
    exact Closed.append _ (Closed.append ('/' :: inside) ⟨'/', rfl, by decide⟩)

theorem IsCall.closed {text : List Char} (h : IsCall text) : Closed text := by
  have hlast := List.getLast?_eq_getLast_of_ne_nil h.nonempty
  have hspace : Text.isSpace (text.getLast h.nonempty) = false := h.last _ hlast
  refine ⟨text.getLast h.nonempty, hlast, ?_⟩
  have hblank : Clause.isBlank (text.getLast h.nonempty) = false := by
    by_contra hblank
    have htrimmed := (Clause.isBlank_not_other (by simpa using hblank)).2.2
    rw [hspace] at htrimmed
    exact absurd htrimmed (by simp)
  simp [isGap, hblank, h.free _ (List.getLast_mem h.nonempty)]

theorem BodyForm.of_isCall {text : List Char} (h : IsCall text) :
    BodyForm text (.call (readCall text).1 (readCall text).2) [] := by
  have hopen : text.head? ≠ some '\x7b' := fun hhead => (h.head _ hhead).2 rfl
  have hform := @BodyForm.call text [] h.nonempty hopen h.free (by simp)
  rwa [List.append_nil] at hform

end HistEdit.Segment

namespace HistEdit.Expression

theorem text_of_resolve {functions : Functions} {resolution : Resolution} {name args : String}
    {effect : Effect} (h : resolve functions resolution name args = .ok effect) :
    effect.text = " " ++ callText name args := by
  have hmake {α : Type} {registry : Registry α} {call : Call α}
      (hcall : registry.make name args = .ok call) : call.text = callText name args := by
    unfold Registry.make at hcall
    split at hcall
    · exact absurd hcall (by simp)
    · split at hcall
      · rw [← Except.ok.inj hcall]
        rfl
      · exact absurd hcall (by simp)
  unfold resolve at h
  split at h
  · rename_i call hcall
    rw [← Except.ok.inj h, Effect.text, hmake hcall]
  · split at h
    · obtain ⟨call, hcall, rfl⟩ := map_eq_ok_iff.1 h
      rw [Effect.text, hmake hcall]
    · exact absurd h (by simp)

theorem name_ne_empty_of_resolve {resolution : Resolution} {name args : String} {effect : Effect}
    (h : resolve .builtin resolution name args = .ok effect) : name ≠ "" := by
  rintro rfl
  have hhistogram : Functions.builtin.histogram.find? "" = none := by decide
  have hcanvas : Functions.builtin.canvas.contains "" = false := by decide
  simp [resolve, Registry.make, hhistogram, hcanvas] at h

end HistEdit.Expression
