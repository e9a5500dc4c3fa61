import HistEdit.Proofs.NormalText
import HistEdit.Proofs.Resolution

/-!
Calls without flags and clause. The name of a function cannot be read as flags, so the text is a
call as a whole: its arguments are never looked at, whatever marks and braces they hold.
-/

namespace HistEdit

/-- A name that can begin an expression by itself: nothing in it ends a flag run or is cut off as
white space, and it cannot be read as flags. -/
structure BareName (name : String) : Prop where
  run : ∀ c ∈ name.toList, Clause.isRunChar c = true
  solid : ∀ c ∈ name.toList, Text.isSpace c = false
  refused : (Flags.decode name.toList).toOption = none

namespace BareName

variable {name : String}

instance (name : String) : Decidable (BareName name) :=
  decidable_of_iff (name.toList.all Clause.isRunChar = true ∧
      name.toList.any Text.isSpace = false ∧ (Flags.decode name.toList).toOption = none)
    ⟨fun ⟨hrun, hsolid, hrefused⟩ => ⟨by simpa using hrun, by simpa using hsolid, hrefused⟩,
      fun h => ⟨by simpa using h.run, by simpa using h.solid, h.refused⟩⟩

theorem exists_error (h : BareName name) : ∃ cause, Flags.decode name.toList = .error cause := by
  have hrefused := h.refused
  cases hdecode : Flags.decode name.toList with
  | error cause => exact ⟨cause, rfl⟩
  | ok flags => simp [hdecode, Except.toOption] at hrefused

theorem ne_nil (h : BareName name) : name.toList ≠ [] := by
  intro hempty
  have hrefused := h.refused
  rw [hempty] at hrefused
  exact absurd hrefused (by decide)

theorem space_not_mem (h : BareName name) : ' ' ∉ name.toList := by
  intro hmem
  exact absurd (h.solid ' ' hmem) (by decide)

end BareName

/-- Every function that comes with the program has such a name. -/
theorem Functions.builtin_bareName {name : String}
    (h : builtin.histogram.contains name = true ∨ builtin.canvas.contains name = true) :
    BareName name := by
  have hhistogram : ∀ name ∈ builtin.histogram.entries.map FunctionEntry.name, BareName name := by
    decide +kernel
  have hcanvas : ∀ name ∈ builtin.canvas.entries.map FunctionEntry.name, BareName name := by
    decide +kernel
  rcases h with h | h
  · exact hhistogram name (Registry.contains_iff.1 h)
  · exact hcanvas name (Registry.contains_iff.1 h)

end HistEdit

namespace HistEdit.Segment

variable {name args : String}

/-- Behind the name stands nothing, or the space that the arguments follow. -/
theorem callText_cases (name args : String) :
    (args = "" ∧ (callText name args).toList = name.toList) ∨
      (args.toList ≠ [] ∧ (callText name args).toList = name.toList ++ ' ' :: args.toList) := by
  by_cases hempty : args = ""
  · exact .inl ⟨hempty, by simp [callText, hempty]⟩
  · exact .inr ⟨by simpa using hempty, by simp [callText, hempty]⟩

/-- A bare name fails as flags, and no character behind it makes that an error. -/
theorem readFlags_bare (hname : BareName name) (args : String) :
    readFlags (callText name args).toList = .ok ({}, (callText name args).toList) := by
  obtain ⟨cause, hcause⟩ := hname.exists_error
  have hspace : Clause.isRunChar ' ' = false ∧ Clause.isDelimiter ' ' = false := by decide
  have hread (tail : List Char) (htail : ∀ c ∈ tail.head?, c = ' ') :
      readFlags (name.toList ++ tail) = .ok ({}, name.toList ++ tail) := by
    have hstop : ∀ c ∈ tail.head?, Clause.isRunChar c = false :=
      fun c hc => htail c hc ▸ hspace.1
    have hends : (tail.head?.any fun c => Clause.isDelimiter c || c == '\x7b') = false := by
      cases tail with
      | nil => rfl
      | cons c tail => simp [htail c rfl, hspace.2]
    simp [readFlags, Text.takeWhile_run hname.run hstop, Text.dropWhile_run hname.run hstop,
      hcause, hends]
  rcases callText_cases name args with ⟨-, htext⟩ | ⟨-, htext⟩
  · rw [htext]
    simpa using hread [] (by simp)
  · rw [htext]
    exact hread _ (by simp)

theorem head?_callText (hname : BareName name) (args : String) :
    ∃ c tail, (callText name args).toList = c :: tail ∧ Clause.isRunChar c = true := by
  obtain ⟨c, cs, hcons⟩ := List.exists_cons_of_ne_nil hname.ne_nil
  have hc := hname.run c (by simp [hcons])
  rcases callText_cases name args with ⟨-, htext⟩ | ⟨-, htext⟩
  · exact ⟨c, cs, by rw [htext, hcons], hc⟩
  · exact ⟨c, cs ++ ' ' :: args.toList, by rw [htext, hcons, List.cons_append], hc⟩

theorem getLast?_callText (hname : BareName name)
    (hlast : ∀ c ∈ args.toList.getLast?, Text.isSpace c = false) :
    ∀ c ∈ (callText name args).toList.getLast?, Text.isSpace c = false := by
  rcases callText_cases name args with ⟨-, htext⟩ | ⟨hne, htext⟩
  · rw [htext]
    exact fun c hc => hname.solid c (List.mem_of_getLast? hc)
  · rw [htext, List.append_cons, List.getLast?_append_of_ne_nil _ hne]
    exact hlast

theorem isCall_bare (hname : BareName name)
    (hfree : ∀ c ∈ args.toList, Clause.isSeparator c = false)
    (hlast : ∀ c ∈ args.toList.getLast?, Text.isSpace c = false) :
    IsCall (callText name args).toList := by
  obtain ⟨c, tail, hcons, hrun⟩ := head?_callText hname args
  refine ⟨by simp [hcons], ?_, ?_, getLast?_callText hname hlast⟩
  · intro d hd
    obtain rfl : c = d := by simpa [hcons] using hd
    exact ⟨(Clause.isRunChar_not_other hrun).1, (Clause.isRunChar_not_other hrun).2.2.2⟩
  · have hbefore : ∀ c ∈ name.toList, Clause.isSeparator c = false :=
      fun c hc => (Clause.isRunChar_not_other (hname.run c hc)).2.2.1
    have hspace : Clause.isSeparator ' ' = false := by decide
    rcases callText_cases name args with ⟨-, htext⟩ | ⟨-, htext⟩
    · rwa [htext]
    · rw [htext]
      simpa [or_imp, forall_and, hspace] using ⟨hbefore, hfree⟩

theorem readCall_bare (hname : BareName name)
    (hlast : ∀ c ∈ args.toList.getLast?, Text.isSpace c = false) :
    readCall (callText name args).toList = (name, args) := by
  have htrim : Text.trimEnd (callText name args).toList = (callText name args).toList :=
    Text.trimEndWhere_eq_self (getLast?_callText hname hlast)
  rw [readCall, htrim]
  rcases callText_cases name args with ⟨hempty, htext⟩ | ⟨hne, htext⟩
  · have hcut : Text.splitOnce ' ' name.toList = none := by
      rw [Option.eq_none_iff_forall_ne_some]
      rintro ⟨before, after⟩ hsplit
      obtain ⟨hwhole, -⟩ := Text.splitOnce_eq_some_iff.1 hsplit
      exact hname.space_not_mem (by simp [hwhole])
    rw [htext, hcut]
    simp [hempty]
  · have hcut := Text.splitOnce_eq_some_iff.2
      (⟨rfl, hname.space_not_mem⟩ : name.toList ++ ' ' :: args.toList = _ ∧ _)
    simp [htext, hcut]

/-- A bare name begins a call; everything behind it is arguments. -/
theorem next?_bare [PatternEngine] (hname : BareName name)
    (hfree : ∀ c ∈ args.toList, Clause.isSeparator c = false)
    (hlast : ∀ c ∈ args.toList.getLast?, Text.isSpace c = false) :
    next? (callText name args).toList = .ok (some ⟨{ flags := {} }, .call name args, []⟩) := by
  obtain ⟨c, tail, hcons, hrun⟩ := head?_callText hname args
  obtain ⟨hblank, hdelimiter, -, -⟩ := Clause.isRunChar_not_other hrun
  have hflags := readFlags_bare hname args
  have hbody := BodyForm.of_isCall (isCall_bare hname hfree hlast)
  rw [readCall_bare hname hlast, hcons] at hbody
  rw [hcons] at hflags ⊢
  rw [next?_eq_ok_some_iff, List.dropWhile_cons_of_neg (by simp [isGap_of_isRunChar hrun])]
  refine ⟨c :: tail, c :: tail, by simp, hflags, .absent (by simpa using hdelimiter), ?_⟩
  rwa [List.dropWhile_cons_of_neg (by simp [hblank])]

end HistEdit.Segment

namespace HistEdit.Expression

/-- What was read is one call as a table makes it, with default flags and no clause, or the error of
the table. -/
structure IsBareCall {α : Type} (result : Except EditError (List Expression))
    (registry : Registry α) (effect : Call α → Effect) (name args : String) : Prop where
  made : ∀ call, registry.make name args = .ok call →
    call.name = name ∧ call.args = args ∧ result = .ok [.leaf { flags := {} } (effect call)]
  refused : ∀ error, registry.make name args = .error error → result = .error error

/-- A bare call is read as what its name and its arguments mean. -/
theorem readList_bare [PatternEngine] (functions : Functions) (resolution : Resolution)
    {name args : String} (hname : BareName name)
    (hfree : ∀ c ∈ args.toList, Clause.isSeparator c = false)
    (hlast : ∀ c ∈ args.toList.getLast?, Text.isSpace c = false) :
    readList functions resolution (callText name args).toList =
      (resolve functions resolution name args).map fun effect =>
        [.leaf { flags := {} } effect] := by
  have hend : readList functions resolution [] = .ok [] := by
    rw [readList_eq]
    rfl
  rw [readList_eq, Segment.next?_bare hname hfree hlast]
  simp only [ofSegment]
  cases resolve functions resolution name args with
  | error error => rfl
  | ok effect => simp [Except.map, hend]

variable {functions : Functions} {name args : String}

theorem resolve_of_contains_histogram (hdisjoint : functions.Disjoint) (resolution : Resolution)
    (h : functions.histogram.contains name = true) :
    resolve functions resolution name args =
      (functions.histogram.make name args).map .histogram := by
  have hother : functions.canvas.contains name = false := by
    by_contra hcanvas
    rw [Registry.contains, hdisjoint name (by simpa using hcanvas)] at h
    exact absurd h (by simp)
  unfold resolve
  cases functions.histogram.make name args with
  | error error => simp [hother, Except.map]
  | ok call => rfl

theorem resolve_of_contains_canvas (hdisjoint : functions.Disjoint)
    (h : functions.canvas.contains name = true) :
    resolve functions .histogramThenCanvas name args =
      (functions.canvas.make name args).map .canvas := by
  simp [resolve, Registry.make_of_find?_eq_none (hdisjoint name h), h]

theorem IsBareCall.of_resolve [PatternEngine] {α : Type} {registry : Registry α}
    {effect : Call α → Effect} {resolution : Resolution} (hname : BareName name)
    (hfree : ∀ c ∈ args.toList, Clause.isSeparator c = false)
    (hlast : ∀ c ∈ args.toList.getLast?, Text.isSpace c = false)
    (hresolve : resolve functions resolution name args = (registry.make name args).map effect) :
    IsBareCall (readList functions resolution (callText name args).toList) registry effect name
      args := by
  rw [readList_bare functions resolution hname hfree hlast, hresolve]
  refine ⟨?_, ?_⟩
  · intro call hcall
    obtain ⟨hcallName, hcallArgs, -⟩ := Registry.make_eq_ok hcall
    exact ⟨hcallName, hcallArgs, by rw [hcall]; rfl⟩
  · intro error herror
    rw [herror]
    rfl

/-- A bare call is never mistaken for flags or a clause. Whatever its arguments look like, as long
as no separator ends them and they do not end in white space, the text is one call of the function
as its table makes it, or the table's error. -/
theorem readList_callText [PatternEngine] (args : String)
    (hfree : ∀ c ∈ args.toList, Clause.isSeparator c = false)
    (hlast : ∀ c ∈ args.toList.getLast?, Text.isSpace c = false) :
    (∀ resolution name, Functions.builtin.histogram.contains name = true →
      IsBareCall (readList .builtin resolution (callText name args).toList)
        Functions.builtin.histogram .histogram name args) ∧
    (∀ name, Functions.builtin.canvas.contains name = true →
      IsBareCall (readList .builtin .histogramThenCanvas (callText name args).toList)
        Functions.builtin.canvas .canvas name args) := by
  refine ⟨?_, ?_⟩
  · intro resolution name hname
    exact .of_resolve (Functions.builtin_bareName (.inl hname)) hfree hlast
      (resolve_of_contains_histogram Functions.builtin_disjoint resolution hname)
  · intro name hname
    exact .of_resolve (Functions.builtin_bareName (.inr hname)) hfree hlast
      (resolve_of_contains_canvas Functions.builtin_disjoint hname)

/-- Arguments that would be a block with a clause in it, and arguments that a function on canvases
refuses. -/
theorem readList_callText_syntax :
    (∃ call, call.args = "\x7b n/a\\/b/ \x7d" ∧
      readList .builtin .histogram (callText "draw" "\x7b n/a\\/b/ \x7d").toList =
        .ok [.leaf { flags := {} } (.histogram call)]) ∧
    (∃ error, Functions.builtin.canvas.make "log" ":/a|b/" = .error error ∧
      readList .builtin .histogramThenCanvas (callText "log" ":/a|b/").toList = .error error) := by
  have hfree (args : String) (h : args.toList.any Clause.isSeparator = false) :
      ∀ c ∈ args.toList, Clause.isSeparator c = false := by
    simpa only [List.any_eq_false, Bool.not_eq_true] using h
  have hlast (args : String) (last : Char) (h : args.toList.getLast? = some last)
      (hspace : Text.isSpace last = false) :
      ∀ c ∈ args.toList.getLast?, Text.isSpace c = false := by
    intro c hc
    rw [h, Option.mem_some_iff] at hc
    exact hc ▸ hspace
  refine ⟨?_, ?_⟩
  · obtain ⟨call, hcall, -⟩ := exists_ok_of_toOption
      (Functions.builtin.histogram.make "draw" "\x7b n/a\\/b/ \x7d") (fun _ => ()) (b := ())
      (by decide +kernel)
    have hbare := (readList_callText "\x7b n/a\\/b/ \x7d" (hfree _ (by decide))
      (hlast _ '\x7d' (by decide) (by decide))).1 .histogram "draw" (by decide +kernel)
    obtain ⟨-, hargs, hread⟩ := hbare.made call hcall
    exact ⟨call, hargs, hread⟩
  · have hbare := (readList_callText ":/a|b/" (hfree _ (by decide))
      (hlast _ '/' (by decide) (by decide))).2 "log" (by decide +kernel)
    cases hmake : Functions.builtin.canvas.make "log" ":/a|b/" with
    | error error => exact ⟨error, rfl, hbare.refused error hmake⟩
    | ok call =>
        have hnone : (Functions.builtin.canvas.make "log" ":/a|b/").toOption.isNone = true := by
          decide +kernel
        simp [hmake, Except.toOption] at hnone

end HistEdit.Expression
