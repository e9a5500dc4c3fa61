import HistEdit.Proofs.CheckedValues
import HistEdit.Proofs.Directives
import HistEdit.Proofs.Registration
import HistEdit.Proofs.Tokens

/-!
Calls of functions on histograms. Which directives a call sets, and to what, is decided by its name
and its argument text alone. So a sequence of calls leaves each directive as the last call that sets
it says, whatever stands in between and whichever histogram it is applied to.
-/

namespace HistEdit

def Histogram.called (h : Histogram) (calls : List (Call HistogramAction)) : Histogram :=
  calls.foldl (fun h call => call.action.apply h) h

/-- The value that the token at a position spells; none where there is no token. -/
def ArgType.spelled? {α : Type} (type : ArgType α) (place : Nat) (args : String) : Option α :=
  (Argument.tokens ' ' args)[place]?.bind fun token => (type.read token).toOption

namespace Directive

/-- The functions that set a directive, each with what its argument text sets the directive to. -/
def setters : (directive : Directive) → List (String × (String → Option directive.Value))
  | .lineColor => [("line_color", ArgType.int16.spelled? 0), ("color", ArgType.int16.spelled? 0)]
  | .lineWidth => [("line_width", ArgType.single.spelled? 0)]
  | .lineStyle => [("line_style", ArgType.int16.spelled? 0)]
  | .markerColor =>
    [("marker_color", ArgType.int16.spelled? 0), ("color", ArgType.int16.spelled? 0)]
  | .markerStyle => [("marker_style", ArgType.int16.spelled? 0)]
  | .markerSize => [("marker_style", ArgType.single.spelled? 1)]
  | .fillColor => [("fill_color", ArgType.int16.spelled? 0)]
  | .drawOption => [("draw", fun args => some (String.ofList (Text.trim args.toList)))]
  | .minimum =>
    [ ("yrange", fun args => ((ArgType.double.pair .double).spelled? 0 args).map Prod.fst),
      ("ymin", ArgType.double.spelled? 0) ]
  | .maximum =>
    [ ("yrange", fun args => ((ArgType.double.pair .double).spelled? 0 args).map Prod.snd),
      ("ymax", ArgType.double.spelled? 0) ]
  | .scale => [("scale", ArgType.double.spelled? 0)]
  | .normalize =>
    [ ("norm", fun args =>
        if Argument.tokens ' ' args = [] then some (1.0 : Float)
        else ArgType.double.spelled? 0 args) ]

def given? (directive : Directive) (name args : String) : Option directive.Value :=
  (directive.setters.lookup name).bind fun read => read args

/-- Whether a call sets a directive: it is a call of one of the functions that do, and for the size
of markers it has a second argument. -/
def isSetBy (directive : Directive) (call : Call HistogramAction) : Bool :=
  (directive.setters.map Prod.fst).contains call.name &&
    match directive with
    | .markerSize => decide (1 < (Argument.tokens ' ' call.args).length)
    | _ => true

end Directive

/-- What a call sets each directive to is what its name and its text say. -/
def Call.AsSpelled (call : Call HistogramAction) : Prop :=
  ∀ directive, call.action.value? directive = directive.given? call.name call.args ∧
    (call.action.value? directive).isSome = directive.isSetBy call

theorem ArgType.spelled?_eq_some {α : Type} {type : ArgType α} {place : Nat} {args token : String}
    {value : α} (htoken : (Argument.tokens ' ' args)[place]? = some token)
    (hread : type.read token = .ok value) : type.spelled? place args = some value := by
  rw [spelled?, htoken, Option.bind_some, hread]
  rfl

theorem ArgType.spelled?_of_tokens {α : Type} {type : ArgType α} {args token : String} {value : α}
    (htokens : RawArgs.tokens ⟨args, ' '⟩ = [token]) (hread : type.read token = .ok value) :
    type.spelled? 0 args = some value :=
  have hfirst : (Argument.tokens ' ' args)[0]? = some token :=
    congrArg (fun tokens => tokens[0]?) htokens
  spelled?_eq_some hfirst hread

theorem ArgType.spelled?_optional {α : Type} (type : ArgType α) (place : Nat) (args : String) :
    type.optional.spelled? place args = (type.spelled? place args).map some := by
  cases htoken : (Argument.tokens ' ' args)[place]? with
  | none => simp only [spelled?, htoken, Option.bind_none, Option.map_none]
  | some token =>
      simp only [spelled?, htoken, Option.bind_some, optional]
      cases type.read token <;> rfl

namespace HistogramFunction

variable {args : String} {action : HistogramAction}

theorem spelled_of_setter {α : Type} {type : ArgType α} (htype : type.Replaces)
    {act : α → HistogramAction} (h : setter type act ⟨args, ' '⟩ = .ok action) :
    ∃ value, type.spelled? 0 args = some value ∧ action = act value := by
  obtain ⟨⟨value, ⟨⟩⟩, hbind, haction⟩ := except_bind_eq_ok_iff.1 h
  obtain ⟨token, htokens, -, hread⟩ := (Row.bind_one_eq_ok_iff htype).1 hbind
  exact ⟨value, ArgType.spelled?_of_tokens htokens hread, (Except.ok.inj haction).symm⟩

theorem spelled_of_lineWidth (h : lineWidth ⟨args, ' '⟩ = .ok action) :
    ∃ width, ArgType.single.spelled? 0 args = some width ∧ action = .lineWidth width := by
  obtain ⟨token, width, htokens, -, hread, -, rfl⟩ := lineWidth_eq_ok_iff.1 h
  exact ⟨width, ArgType.spelled?_of_tokens htokens hread, rfl⟩

theorem spelled_of_range (h : range ⟨args, ' '⟩ = .ok action) :
    ∃ limits : Float × Float,
      ((ArgType.double.pair .double).spelled? 0 args).map Prod.fst = some limits.1 ∧
      ((ArgType.double.pair .double).spelled? 0 args).map Prod.snd = some limits.2 ∧
      action = .range limits.1 limits.2 := by
  obtain ⟨token, limits, htokens, -, hread, -, rfl⟩ := range_eq_ok_iff.1 h
  rw [ArgType.spelled?_of_tokens htokens hread]
  exact ⟨limits, rfl, rfl, rfl⟩

/-- Blanks between arguments leave no empty token, so a token that is there is read. -/
theorem receive_of_token {α : Type} {type : ArgType α} (htype : type.Replaces) {value read : α}
    {place : Nat} (h : type.receive value (Argument.tokens ' ' args)[place]? = .ok read) :
    read = value ∧ (Argument.tokens ' ' args).length ≤ place ∨
      type.spelled? place args = some read ∧ place < (Argument.tokens ' ' args).length := by
  cases htoken : (Argument.tokens ' ' args)[place]? with
  | none =>
      rw [htoken] at h
      exact .inl ⟨(Except.ok.inj h).symm, List.getElem?_eq_none_iff.1 htoken⟩
  | some token =>
      have hgiven : token ≠ "" :=
        Argument.ne_empty_of_mem_tokens (by decide) (List.mem_of_getElem? htoken)
      rw [htoken, ArgType.receive, if_neg hgiven, htype] at h
      exact .inr ⟨ArgType.spelled?_eq_some htoken h, (List.getElem?_eq_some_iff.1 htoken).1⟩

theorem spelled_of_norm (h : norm ⟨args, ' '⟩ = .ok action) :
    ∃ area, (if Argument.tokens ' ' args = [] then some (1.0 : Float)
      else ArgType.double.spelled? 0 args) = some area ∧ action = .normalize area := by
  obtain ⟨⟨area, ⟨⟩⟩, hbind, haction⟩ := except_bind_eq_ok_iff.1 h
  have hreceive := (Row.receives_cons.1 (Row.bindWith_eq_ok_iff.1 hbind).2).1
  rw [List.head?_eq_getElem?] at hreceive
  refine ⟨area, ?_, (Except.ok.inj haction).symm⟩
  rcases receive_of_token ArgType.replaces_double hreceive with
    ⟨rfl, hlength⟩ | ⟨hspelled, hlength⟩
  · rw [if_pos (List.length_eq_zero_iff.1 (Nat.le_zero.1 hlength))]
  · rw [if_neg (List.ne_nil_of_length_pos hlength)]
    exact hspelled

/-- The size is set when there is a second token. -/
theorem spelled_of_markerStyle (h : markerStyle ⟨args, ' '⟩ = .ok action) :
    ∃ style, ArgType.int16.spelled? 0 args = some style ∧
      action = .markerStyle style (ArgType.single.spelled? 1 args) ∧
      (ArgType.single.spelled? 1 args).isSome = decide (1 < (Argument.tokens ' ' args).length) := by
  obtain ⟨⟨style, size, ⟨⟩⟩, hbind, haction⟩ := except_bind_eq_ok_iff.1 h
  obtain ⟨hfits, hreceives⟩ := Row.bindWith_eq_ok_iff.1 hbind
  obtain ⟨hstyle, hrest⟩ := Row.receives_cons.1 hreceives
  have hsize := (Row.receives_cons.1 hrest).1
  rw [List.head?_eq_getElem?] at hstyle hsize
  rw [List.getElem?_tail] at hsize
  -- the style is required, so its token is there
  have hspelled : ArgType.int16.spelled? 0 args = some style := by
    rcases receive_of_token ArgType.replaces_int16 hstyle with ⟨-, hlength⟩ | ⟨h, -⟩
    · exact absurd hfits.enough (Nat.not_le_of_lt (Nat.lt_one_iff.2 (Nat.le_zero.1 hlength)))
    · exact h
  refine ⟨style, hspelled, ?_⟩
  rcases receive_of_token (fun _ _ => rfl) hsize with ⟨rfl, hlength⟩ | ⟨hread, hlength⟩
  · have hnone : ArgType.single.spelled? 1 args = none := by
      rw [ArgType.spelled?, List.getElem?_eq_none_iff.2 hlength, Option.bind_none]
    rw [hnone, decide_eq_false (Nat.not_lt.2 hlength)]
    exact ⟨(Except.ok.inj haction).symm, rfl⟩
  · rw [ArgType.spelled?_optional, Option.map_eq_some_iff] at hread
    obtain ⟨width, hwidth, rfl⟩ := hread
    rw [hwidth, decide_eq_true hlength]
    exact ⟨(Except.ok.inj haction).symm, rfl⟩

theorem spelled_of_draw (h : draw ⟨args, ' '⟩ = .ok action) :
    action = .draw (String.ofList (Text.trim args.toList)) := by
  rw [draw] at h
  dsimp only at h
  split at h
  · cases h
  · exact (Except.ok.inj h).symm

/-- The functions on histograms set what their names and their argument texts say. -/
theorem asSpelled_of_factory :
    ∀ entry ∈ entries, ∀ args action, entry.factory ⟨args, ' '⟩ = .ok action →
      Call.AsSpelled ⟨entry.name, args, action⟩ := by
  simp only [entries, List.forall_mem_cons]
  -- a directive that a function does not set has no reader for its name, and no value
  refine ⟨?norm, ?scale, ?lineColor, ?lineWidth, ?lineStyle, ?markerColor, ?markerStyle,
    ?fillColor, ?color, ?draw, ?range, ?minimum, ?maximum, fun _ hmem => nomatch hmem⟩ <;>
    intro args action haction directive
  case norm =>
    obtain ⟨area, hspelled, rfl⟩ := spelled_of_norm haction
    cases directive with
    | normalize => exact ⟨hspelled.symm, rfl⟩
    | _ => exact ⟨rfl, rfl⟩
  case scale | minimum | maximum =>
    obtain ⟨value, hspelled, rfl⟩ := spelled_of_setter ArgType.replaces_double haction
    cases directive <;> first | exact ⟨rfl, rfl⟩ | exact ⟨hspelled.symm, rfl⟩
  case lineColor | lineStyle | markerColor | fillColor | color =>
    obtain ⟨value, hspelled, rfl⟩ := spelled_of_setter ArgType.replaces_int16 haction
    cases directive <;> first | exact ⟨rfl, rfl⟩ | exact ⟨hspelled.symm, rfl⟩
  case lineWidth =>
    obtain ⟨width, hspelled, rfl⟩ := spelled_of_lineWidth haction
    cases directive with
    | lineWidth => exact ⟨hspelled.symm, rfl⟩
    | _ => exact ⟨rfl, rfl⟩
  case markerStyle =>
    obtain ⟨style, hspelled, rfl, hsize⟩ := spelled_of_markerStyle haction
    cases directive with
    | markerStyle => exact ⟨hspelled.symm, rfl⟩
    | markerSize => exact ⟨rfl, hsize⟩
    | _ => exact ⟨rfl, rfl⟩
  case draw =>
    obtain rfl := spelled_of_draw haction
    cases directive <;> exact ⟨rfl, rfl⟩
  case range =>
    obtain ⟨limits, hminimum, hmaximum, rfl⟩ := spelled_of_range haction
    cases directive with
    | minimum => exact ⟨hminimum.symm, rfl⟩
    | maximum => exact ⟨hmaximum.symm, rfl⟩
    | _ => exact ⟨rfl, rfl⟩

end HistogramFunction

section

variable {call : Call HistogramAction} {directive : Directive}

theorem Call.asSpelled_of_makes (h : Functions.builtin.histogram.Makes call) : call.AsSpelled := by
  obtain ⟨entry, hentry, hname, haction⟩ := h.exists_entry
  have hspelled := HistogramFunction.asSpelled_of_factory entry hentry call.args call.action haction
  rwa [hname] at hspelled

theorem Call.AsSpelled.value?_of_isSetBy (h : call.AsSpelled)
    (hset : directive.isSetBy call = true) :
    ∃ value, directive.given? call.name call.args = some value ∧
      call.action.value? directive = some value := by
  obtain ⟨value, hvalue⟩ := Option.isSome_iff_exists.1 ((h directive).2.trans hset)
  exact ⟨value, (h directive).1.symm.trans hvalue, hvalue⟩

theorem Call.AsSpelled.value?_of_not_isSetBy (h : call.AsSpelled)
    (hset : directive.isSetBy call = false) : call.action.value? directive = none :=
  Option.isNone_iff_eq_none.1 (Option.isSome_eq_false_iff.1 ((h directive).2.trans hset))

theorem Call.overwrites (directive : Directive) :
    Overwrites (fun style (call : Call HistogramAction) => call.action.onStyle style)
      (fun style => style.get directive) fun call => (call.action.value? directive).map some :=
  fun style call => HistogramAction.overwrites directive style call.action

theorem Histogram.called_eq (h : Histogram) (calls : List (Call HistogramAction)) :
    h.called calls =
      { h with style := calls.foldl (fun style call => call.action.onStyle style) h.style } := by
  induction calls generalizing h with
  | nil => rfl
  | cons call calls ih => exact ih (call.action.apply h)

theorem Histogram.get_called (h : Histogram) {calls : List (Call HistogramAction)}
    (hcalls : ∀ call ∈ calls, call.AsSpelled) (directive : Directive) :
    match (calls.filter directive.isSetBy).getLast? with
    | none => (h.called calls).style.get directive = h.style.get directive
    | some call =>
      ∃ value, directive.given? call.name call.args = some value ∧
        (h.called calls).style.get directive = some value := by
  have hsets : ∀ call ∈ calls,
      ((call.action.value? directive).map some).isSome = directive.isSetBy call := by
    intro call hmem
    rw [Option.isSome_map, (hcalls call hmem directive).2]
  have hlast := (Call.overwrites directive).foldl_last hsets h.style
  rw [called_eq]
  cases hfound : (calls.filter directive.isSetBy).getLast? with
  | none => simpa only [hfound] using hlast
  | some call =>
      have hmem : call ∈ calls.filter directive.isSetBy := List.mem_of_getLast? hfound
      simp only [hfound] at hlast
      obtain ⟨shown, hshown, hget⟩ := hlast
      obtain ⟨hcall, hset⟩ := List.mem_filter.1 hmem
      obtain ⟨value, hgiven, hvalue⟩ := (hcalls call hcall).value?_of_isSetBy hset
      rw [hvalue, Option.map_some, Option.some.injEq] at hshown
      exact ⟨value, hgiven, hget.trans hshown.symm⟩

theorem Histogram.get_called_one (h : Histogram) (call : Call HistogramAction) :
    (h.called [call]).style.get directive =
      ((call.action.value? directive).map some).getD (h.style.get directive) :=
  Call.overwrites directive h.style call

/-- Two calls with no directive in common can change places. -/
theorem Histogram.called_swap (h : Histogram) {first second : Call HistogramAction}
    (hfirst : first.AsSpelled) (hsecond : second.AsSpelled)
    (hapart : ∀ directive : Directive,
      (directive.isSetBy first && directive.isSetBy second) = false) :
    h.called [first, second] = h.called [second, first] := by
  rw [called_eq, called_eq h [second, first]]
  congr 1
  apply Style.ext_get
  intro directive
  refine (Call.overwrites directive).swap ?_ h.style
  rcases Bool.and_eq_false_iff.1 (hapart directive) with hset | hset
  · exact .inl (by rw [hfirst.value?_of_not_isSetBy hset, Option.map_none])
  · exact .inr (by rw [hsecond.value?_of_not_isSetBy hset, Option.map_none])

theorem Histogram.called_append (h : Histogram) (calls later : List (Call HistogramAction)) :
    h.called (calls ++ later) = (h.called calls).called later :=
  List.foldl_append

theorem Histogram.called_called (h : Histogram) (calls : List (Call HistogramAction)) :
    (h.called calls).called calls = h.called calls := by
  rw [called_eq (h.called calls), called_eq h]
  congr 1
  exact Style.ext_get fun directive => (Call.overwrites directive).foldl_foldl calls h.style

end

/-- Calls of functions on histograms set directives, and the last one wins. Each directive ends as
the value that the last call that sets it gives, which its name and its text decide, or stays where
no call sets it; nothing else of a histogram changes. So neighbours with no directive in common can
change places, calls that take place twice do what they do once, and one call does the same to every
histogram. -/
theorem Histogram.called_of_makes (calls : List (Call HistogramAction))
    (hcalls : ∀ call ∈ calls, Functions.builtin.histogram.Makes call) (h : Histogram) :
    (∀ directive : Directive,
      match (calls.filter directive.isSetBy).getLast? with
      | none => (h.called calls).style.get directive = h.style.get directive
      | some call =>
        ∃ value, directive.given? call.name call.args = some value ∧
          (h.called calls).style.get directive = some value) ∧
    h.called calls = { h with style := (h.called calls).style } ∧
    (∀ before first second after, calls = before ++ first :: second :: after →
      (∀ directive : Directive, (directive.isSetBy first && directive.isSetBy second) = false) →
      h.called (before ++ second :: first :: after) = h.called calls) ∧
    h.called (calls ++ calls) = h.called calls ∧
    ∀ call ∈ calls, ∀ directive : Directive,
      if directive.isSetBy call then
        ∃ value, directive.given? call.name call.args = some value ∧
          ∀ target : Histogram, (target.called [call]).style.get directive = some value
      else
        ∀ target : Histogram,
          (target.called [call]).style.get directive = target.style.get directive := by
  have hspelled : ∀ call ∈ calls, call.AsSpelled :=
    fun call hmem => Call.asSpelled_of_makes (hcalls call hmem)
  refine ⟨h.get_called hspelled, ?_, ?_, ?_, ?_⟩
  · rw [called_eq]
  · rintro before first second after rfl hapart
    have hfirst : first.AsSpelled := hspelled first (by simp)
    have hsecond : second.AsSpelled := hspelled second (by simp)
    calc h.called (before ++ second :: first :: after)
        = ((h.called before).called [second, first]).called after := by
          rw [called_append]
          exact called_append (h.called before) [second, first] after
      _ = ((h.called before).called [first, second]).called after := by
          rw [called_swap _ hfirst hsecond hapart]
      _ = h.called (before ++ first :: second :: after) := by
          rw [called_append h before]
          exact (called_append (h.called before) [first, second] after).symm
  · rw [called_append, called_called]
  · intro call hmem directive
    have hcall := hspelled call hmem
    split
    · next hset =>
        obtain ⟨value, hgiven, hvalue⟩ := hcall.value?_of_isSetBy hset
        refine ⟨value, hgiven, fun target => ?_⟩
        rw [get_called_one, hvalue]
        rfl
    · next hset =>
        intro target
        rw [get_called_one, hcall.value?_of_not_isSetBy (eq_false_of_ne_true hset)]
        rfl

/-- A color for lines and markers, a marker style without a size, and a color for lines alone. -/
theorem Histogram.called_colors :
    ∃ calls : List (Call HistogramAction),
      calls.map (fun call => (call.name, call.args)) =
        [("color", "632"), ("marker_style", " 20 "), ("line_color", "4")] ∧
      ∀ h : Histogram,
        (h.called calls).style.lineColor = some 4 ∧
        (h.called calls).style.markerColor = some 632 ∧
        (h.called calls).style.markerStyle = some 20 ∧
        (h.called calls).style.markerSize = h.style.markerSize := by
  obtain ⟨color, hcolor⟩ : ∃ action, Functions.builtin.histogram.Makes ⟨"color", "632", action⟩ :=
    Registry.exists_makes (by decide +kernel)
  obtain ⟨style, hstyle⟩ :
      ∃ action, Functions.builtin.histogram.Makes ⟨"marker_style", " 20 ", action⟩ :=
    Registry.exists_makes (by decide +kernel)
  obtain ⟨line, hline⟩ : ∃ action, Functions.builtin.histogram.Makes ⟨"line_color", "4", action⟩ :=
    Registry.exists_makes (by decide +kernel)
  obtain ⟨calls, hcalls⟩ : ∃ calls : List (Call HistogramAction),
      calls = [⟨"color", "632", color⟩, ⟨"marker_style", " 20 ", style⟩,
        ⟨"line_color", "4", line⟩] := ⟨_, rfl⟩
  have hmakes : ∀ call ∈ calls, Functions.builtin.histogram.Makes call := by
    simpa [hcalls] using ⟨hcolor, hstyle, hline⟩
  refine ⟨calls, by rw [hcalls]; rfl, fun h => ?_⟩
  have hcalled := (called_of_makes calls hmakes h).1
  have hends {directive : Directive} {call : Call HistogramAction}
      (hlast : (calls.filter directive.isSetBy).getLast? = some call) :
      (h.called calls).style.get directive = directive.given? call.name call.args := by
    have hset := hcalled directive
    rw [hlast] at hset
    obtain ⟨value, hgiven, hget⟩ := hset
    exact hget.trans hgiven.symm
  refine ⟨?_, ?_, ?_, ?_⟩
  · have hlast : (calls.filter Directive.lineColor.isSetBy).getLast? =
        some ⟨"line_color", "4", line⟩ := by rw [hcalls]; rfl
    have hread : ArgType.int16.spelled? 0 "4" = some 4 := by decide +kernel
    have hreader (args : String) :
        Directive.lineColor.given? "line_color" args = ArgType.int16.spelled? 0 args := rfl
    exact (hends hlast).trans ((hreader _).trans hread)
  · have hlast : (calls.filter Directive.markerColor.isSetBy).getLast? =
        some ⟨"color", "632", color⟩ := by rw [hcalls]; rfl
    have hread : ArgType.int16.spelled? 0 "632" = some 632 := by decide +kernel
    have hreader (args : String) :
        Directive.markerColor.given? "color" args = ArgType.int16.spelled? 0 args := rfl
    exact (hends hlast).trans ((hreader _).trans hread)
  · have hlast : (calls.filter Directive.markerStyle.isSetBy).getLast? =
        some ⟨"marker_style", " 20 ", style⟩ := by rw [hcalls]; rfl
    have hread : ArgType.int16.spelled? 0 " 20 " = some 20 := by decide +kernel
    have hreader (args : String) :
        Directive.markerStyle.given? "marker_style" args = ArgType.int16.spelled? 0 args := rfl
    exact (hends hlast).trans ((hreader _).trans hread)
  · have hone : decide (1 < (Argument.tokens ' ' " 20 ").length) = false := by decide +kernel
    have hnone : calls.filter Directive.markerSize.isSetBy = [] := by
      simp [hcalls, Directive.isSetBy, Directive.setters, hone]
    have hset := hcalled .markerSize
    rw [hnone] at hset
    exact hset

end HistEdit
