import HistEdit.Function.Builtin
import HistEdit.Proofs.Binding
import HistEdit.Proofs.Registration
import HistEdit.Proofs.Undefined

/-!
Values that are checked when a call is made. A width below zero and a range whose minimum lies above
its maximum are refused, so what gets past these checks is in order unless it is undefined. Margins
are asked to lie inside their interval, where no undefined value lies.
-/

namespace HistEdit

open Number (SpellsUndefined double_le_iff single_le_iff)

namespace ArgType

/-- A further token takes the place of the value that is already there. -/
def Replaces {α : Type} (type : ArgType α) : Prop :=
  ∀ value token, type.accumulate value token = type.read token

theorem replaces_scalar {α : Type} (describe : String) (missing : α)
    (read? : String → Option α) : (scalar describe missing read?).Replaces :=
  fun _ _ => rfl

theorem replaces_int16 : int16.Replaces :=
  replaces_scalar _ _ _

theorem replaces_single : single.Replaces :=
  replaces_scalar _ _ _

theorem replaces_double : double.Replaces :=
  replaces_scalar _ _ _

theorem replaces_pair {α β : Type} (first : ArgType α) (second : ArgType β) :
    (first.pair second).Replaces :=
  fun _ _ => rfl

/-- The texts that a pair reads: the one before the first colon and everything after it, or the
whole text where it has no colon. -/
def components (text : String) : List String :=
  match Text.splitOnce ':' text.toList with
  | none => [text]
  | some (head, tail) => [String.ofList head, String.ofList tail]

theorem isNaN_of_read_single {text : String} {value : Float32}
    (h : single.read text = .ok value) : value.isNaN = true ↔ SpellsUndefined text := by
  simp only [single, scalar] at h
  split at h
  · next hread => exact Number.isNaN_of_readSingle (Except.ok.inj h ▸ hread)
  · cases h

theorem isNaN_of_read_double {text : String} {value : Float}
    (h : double.read text = .ok value) : value.isNaN = true ↔ SpellsUndefined text := by
  simp only [double, scalar] at h
  split at h
  · next hread => exact Number.isNaN_of_readDouble (Except.ok.inj h ▸ hread)
  · cases h

/-- A pair of numbers holds no undefined value exactly when none of its texts spells it; a number
without a text is zero. -/
theorem isNaN_of_read_pair {text : String} {first second : Float}
    (h : (double.pair double).read text = .ok (first, second)) :
    first.isNaN = false ∧ second.isNaN = false ↔
      ∀ component ∈ components text, ¬ SpellsUndefined component := by
  rw [← Bool.not_eq_true, ← Bool.not_eq_true]
  cases hsplit : Text.splitOnce ':' text.toList with
  | none =>
      simp only [pair, hsplit] at h
      obtain ⟨value, hfirst, hpair⟩ := except_bind_eq_ok_iff.1 h
      obtain ⟨rfl, rfl⟩ : value = first ∧ double.missing = second :=
        Prod.mk.inj (Except.ok.inj hpair)
      have hzero : double.missing.isNaN = false := by decide +kernel
      simp only [components, hsplit]
      rw [isNaN_of_read_double hfirst, hzero, List.forall_mem_singleton, Bool.false_eq_true,
        not_false_eq_true, and_true]
  | some parts =>
      obtain ⟨head, tail⟩ := parts
      simp only [pair, hsplit] at h
      obtain ⟨value, hfirst, hrest⟩ := except_bind_eq_ok_iff.1 h
      obtain ⟨other, hsecond, hpair⟩ := except_bind_eq_ok_iff.1 hrest
      obtain ⟨rfl, rfl⟩ : value = first ∧ other = second := Prod.mk.inj (Except.ok.inj hpair)
      simp only [components, hsplit]
      rw [isNaN_of_read_double hfirst, isNaN_of_read_double hsecond, List.forall_mem_cons,
        List.forall_mem_singleton]

end ArgType

/-- A row of one required element takes exactly one token. -/
theorem Row.bind_one_eq_ok_iff {α : Type} {type : ArgType α} (htype : type.Replaces)
    {args : RawArgs} {value : α} :
    (Row.cons type .nil).bind args = .ok (value, ()) ↔
      ∃ token, args.tokens = [token] ∧ token ≠ "" ∧ type.read token = .ok value := by
  have hreceive {token : String} (hgiven : token ≠ "") :
      type.receive type.missing (some token) = type.read token := by
    rw [ArgType.receive, if_neg hgiven, htype]
  rw [Row.bind, bindWith_eq_ok_iff]
  constructor
  · rintro ⟨hfits, hreceives⟩
    obtain ⟨token, htokens⟩ :=
      List.length_eq_one_iff.1 (Nat.le_antisymm hfits.notMore hfits.enough)
    rw [htokens] at hfits hreceives
    have hgiven : token ≠ "" := by simpa using hfits.given 0 Nat.zero_lt_one
    have hread := (receives_cons.1 hreceives).1
    rw [List.head?_cons, hreceive hgiven] at hread
    exact ⟨token, htokens, hgiven, hread⟩
  · rintro ⟨token, htokens, hgiven, hread⟩
    rw [htokens]
    have hfits : (Row.cons type .nil).Fits 0 [token] := by
      refine ⟨Nat.le_refl 1, Nat.le_refl 1, ?_⟩
      intro index hindex
      obtain rfl : index = 0 := Nat.lt_one_iff.1 hindex
      simpa using hgiven
    refine ⟨hfits, receives_cons.2 ⟨?_, ?_⟩⟩
    · rw [List.head?_cons, hreceive hgiven, hread]
    · exact fun _ _ helement => by simp [elements] at helement

/-- A function of one argument that refuses bad values accepts exactly the others. -/
theorem bind_checked_eq_ok_iff {α β : Type} {type : ArgType α} (htype : type.Replaces)
    (bad : α → Prop) [DecidablePred bad] (cause : α → ArgError) (action : α → β) {args : RawArgs}
    {result : β} :
    ((Row.cons type .nil).bind args >>= fun values =>
        if bad values.1 then .error (cause values.1) else .ok (action values.1)) = .ok result ↔
      ∃ token value, args.tokens = [token] ∧ token ≠ "" ∧ type.read token = .ok value ∧
        ¬ bad value ∧ result = action value := by
  rw [except_bind_eq_ok_iff]
  constructor
  · rintro ⟨⟨value, ⟨⟩⟩, hbind, hchecked⟩
    obtain ⟨token, htokens, hgiven, hread⟩ := (Row.bind_one_eq_ok_iff htype).1 hbind
    by_cases hbad : bad value
    · rw [if_pos hbad] at hchecked
      cases hchecked
    · rw [if_neg hbad] at hchecked
      exact ⟨token, value, htokens, hgiven, hread, hbad, (Except.ok.inj hchecked).symm⟩
  · rintro ⟨token, value, htokens, hgiven, hread, hbad, rfl⟩
    refine ⟨(value, ()), ?_, if_neg hbad⟩
    exact (Row.bind_one_eq_ok_iff htype).2 ⟨token, htokens, hgiven, hread⟩

namespace HistogramFunction

theorem lineWidth_eq_ok_iff {args : RawArgs} {action : HistogramAction} :
    lineWidth args = .ok action ↔
      ∃ token width, args.tokens = [token] ∧ token ≠ "" ∧ ArgType.single.read token = .ok width ∧
        ¬ width < 0.0 ∧ action = .lineWidth width :=
  bind_checked_eq_ok_iff ArgType.replaces_single (· < 0.0) .negativeWidth HistogramAction.lineWidth

theorem range_eq_ok_iff {args : RawArgs} {action : HistogramAction} :
    range args = .ok action ↔
      ∃ token limits, args.tokens = [token] ∧ token ≠ "" ∧
        (ArgType.double.pair .double).read token = .ok limits ∧ ¬ limits.1 > limits.2 ∧
        action = .range limits.1 limits.2 :=
  have hpair : (ArgType.double.pair .double).Replaces := ArgType.replaces_pair _ _
  bind_checked_eq_ok_iff hpair (fun limits => limits.1 > limits.2)
    (fun limits => .emptyRange limits.1 limits.2)
    fun limits => HistogramAction.range limits.1 limits.2

end HistogramFunction

namespace CanvasFunction

/-- Margins are accepted by the good comparison, so none of them is undefined. -/
theorem inside_of_margin {args : RawArgs} {action : CanvasAction} (h : margin args = .ok action) :
    ∃ margins : Margins, action = .margins margins ∧
      ∀ value ∈ [margins.left, margins.right, margins.bottom, margins.top],
        0.0 ≤ value ∧ value < 1.0 ∧ value.isNaN = false := by
  rw [margin] at h
  dsimp only at h
  obtain ⟨⟨left, right, bottom, top, ⟨⟩⟩, -, hchecked⟩ := except_bind_eq_ok_iff.1 h
  cases hbad : badMargin? [left, right, bottom, top] with
  | some value => simp [hbad] at hchecked
  | none =>
      refine ⟨⟨left, right, bottom, top⟩, ?_, ?_⟩
      · simp only [hbad] at hchecked
        exact (Except.ok.inj hchecked).symm
      · intro value hvalue
        have hinside : 0.0 ≤ value ∧ value < 1.0 := by
          simpa using List.find?_eq_none.1 hbad value hvalue
        exact ⟨hinside.1, hinside.2, ((double_le_iff 0.0 value).1 hinside.1).2.2⟩

end CanvasFunction

namespace Functions

theorem find?_lineWidth : builtin.histogram.find? "line_width" =
    some ⟨"line_width", "line_width width", HistogramFunction.lineWidth⟩ :=
  rfl

theorem find?_yrange : builtin.histogram.find? "yrange" =
    some ⟨"yrange", "yrange min:max", HistogramFunction.range⟩ :=
  rfl

/-- What the checks of widths and ranges let past. For every argument text, the width that a call
was made with is the number that the only token of the text spells, and it is at least zero exactly
when the token does not spell the undefined value; the limits of a range are the numbers on both
sides of the colon, and they are in order exactly when neither side spells the undefined value. -/
theorem stored_inOrder_iff (text : String) (call : Call HistogramAction) :
    (builtin.histogram.make "line_width" text = .ok call →
      ∃ token width, Argument.tokens ' ' text = [token] ∧ ArgType.single.read token = .ok width ∧
        (∀ histogram, (call.action.apply histogram).style.lineWidth = some width) ∧
        (0.0 ≤ width ↔ ¬ SpellsUndefined token)) ∧
    (builtin.histogram.make "yrange" text = .ok call →
      ∃ token minimum maximum, Argument.tokens ' ' text = [token] ∧
        (ArgType.double.pair .double).read token = .ok (minimum, maximum) ∧
        (∀ histogram, (call.action.apply histogram).style.minimum = some minimum ∧
          (call.action.apply histogram).style.maximum = some maximum) ∧
        (minimum ≤ maximum ↔
          ∀ component ∈ ArgType.components token, ¬ SpellsUndefined component)) := by
  constructor
  · intro hmade
    obtain ⟨action, haction, rfl⟩ := (Registry.make_eq_ok_iff find?_lineWidth).1 hmade
    obtain ⟨token, width, htokens, -, hread, hchecked, rfl⟩ :=
      HistogramFunction.lineWidth_eq_ok_iff.1 haction
    refine ⟨token, width, htokens, hread, fun _ => rfl, ?_⟩
    have hzero : (0.0 : Float32).isNaN = false := by decide +kernel
    rw [single_le_iff, ← ArgType.isNaN_of_read_single hread, Bool.not_eq_true]
    exact ⟨fun horder => horder.2.2, fun hdefined => ⟨hchecked, hzero, hdefined⟩⟩
  · intro hmade
    obtain ⟨action, haction, rfl⟩ := (Registry.make_eq_ok_iff find?_yrange).1 hmade
    obtain ⟨token, ⟨minimum, maximum⟩, htokens, -, hread, hchecked, rfl⟩ :=
      HistogramFunction.range_eq_ok_iff.1 haction
    refine ⟨token, minimum, maximum, htokens, hread, fun _ => ⟨rfl, rfl⟩, ?_⟩
    rw [double_le_iff, ← ArgType.isNaN_of_read_pair hread]
    exact ⟨fun horder => horder.2, fun hdefined => ⟨hchecked, hdefined⟩⟩

theorem stored_inOrder_numbers :
    (∃ call width, builtin.histogram.make "line_width" "2.5" = .ok call ∧
      (∀ histogram, (call.action.apply histogram).style.lineWidth = some width) ∧
      0.0 ≤ width) ∧
    ∃ call minimum maximum, builtin.histogram.make "yrange" "-1:3e2" = .ok call ∧
      (∀ histogram, (call.action.apply histogram).style.minimum = some minimum ∧
        (call.action.apply histogram).style.maximum = some maximum) ∧
      minimum ≤ maximum := by
  constructor
  · obtain ⟨call, hmade⟩ : ∃ call, builtin.histogram.make "line_width" "2.5" = .ok call :=
      Registry.exists_made (by decide +kernel)
    obtain ⟨token, width, htokens, -, hstored, horder⟩ := (stored_inOrder_iff "2.5" call).1 hmade
    have htoken : Argument.tokens ' ' "2.5" = ["2.5"] := by decide +kernel
    obtain rfl : "2.5" = token := List.singleton_inj.1 (htoken.symm.trans htokens)
    exact ⟨call, width, hmade, hstored, horder.2 (by decide +kernel)⟩
  · obtain ⟨call, hmade⟩ : ∃ call, builtin.histogram.make "yrange" "-1:3e2" = .ok call :=
      Registry.exists_made (by decide +kernel)
    obtain ⟨token, minimum, maximum, htokens, -, hstored, horder⟩ :=
      (stored_inOrder_iff "-1:3e2" call).2 hmade
    have htoken : Argument.tokens ' ' "-1:3e2" = ["-1:3e2"] := by decide +kernel
    obtain rfl : "-1:3e2" = token := List.singleton_inj.1 (htoken.symm.trans htokens)
    exact ⟨call, minimum, maximum, hmade, hstored, horder.2 (by decide +kernel)⟩

/-- The undefined value gets past both checks. -/
theorem undefined_stored :
    (∃ call width, builtin.histogram.make "line_width" "nan" = .ok call ∧
      (∀ histogram, (call.action.apply histogram).style.lineWidth = some width) ∧
      ¬ 0.0 ≤ width) ∧
    ∃ call minimum maximum, builtin.histogram.make "yrange" "0:nan" = .ok call ∧
      (∀ histogram, (call.action.apply histogram).style.minimum = some minimum ∧
        (call.action.apply histogram).style.maximum = some maximum) ∧
      ¬ minimum ≤ maximum := by
  constructor
  · obtain ⟨call, hmade⟩ : ∃ call, builtin.histogram.make "line_width" "nan" = .ok call :=
      Registry.exists_made (by decide +kernel)
    obtain ⟨action, haction, rfl⟩ := (Registry.make_eq_ok_iff find?_lineWidth).1 hmade
    obtain ⟨token, width, htokens, -, hread, -, rfl⟩ :=
      HistogramFunction.lineWidth_eq_ok_iff.1 haction
    have htoken : RawArgs.tokens ⟨"nan", ' '⟩ = ["nan"] := by decide +kernel
    obtain rfl : "nan" = token := List.singleton_inj.1 (htoken.symm.trans htokens)
    have hnan : width.isNaN = true := (ArgType.isNaN_of_read_single hread).2 (by decide +kernel)
    refine ⟨_, width, hmade, fun _ => rfl, fun horder => ?_⟩
    exact Bool.false_ne_true (((single_le_iff _ _).1 horder).2.2.symm.trans hnan)
  · obtain ⟨call, hmade⟩ : ∃ call, builtin.histogram.make "yrange" "0:nan" = .ok call :=
      Registry.exists_made (by decide +kernel)
    obtain ⟨action, haction, rfl⟩ := (Registry.make_eq_ok_iff find?_yrange).1 hmade
    obtain ⟨token, ⟨minimum, maximum⟩, htokens, -, hread, -, rfl⟩ :=
      HistogramFunction.range_eq_ok_iff.1 haction
    have htoken : RawArgs.tokens ⟨"0:nan", ' '⟩ = ["0:nan"] := by decide +kernel
    obtain rfl : "0:nan" = token := List.singleton_inj.1 (htoken.symm.trans htokens)
    refine ⟨_, minimum, maximum, hmade, fun _ => ⟨rfl, rfl⟩, fun horder => ?_⟩
    have hdefined := (ArgType.isNaN_of_read_pair hread).1 ((double_le_iff _ _).1 horder).2
    exact absurd hdefined (by decide +kernel)

end Functions

end HistEdit
