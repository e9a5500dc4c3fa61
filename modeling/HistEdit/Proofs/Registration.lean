import HistEdit.Function.Builtin
import HistEdit.Proofs.ByteOrder
import Mathlib.Data.List.Sort

/-!
Tables as sequences of registrations. A table is built by putting in one function after the other; a
name that is there already ends this. As names decide the places of functions, there is only one
ascending table of functions with different names, and it does not show in which order they came.
-/

namespace HistEdit.Registry

variable {α : Type}

def Below (a b : FunctionEntry α) : Prop :=
  Text.le a.name b.name = true

instance : DecidableRel (Below (α := α)) :=
  fun a b => inferInstanceAs (Decidable (Text.le a.name b.name = true))

instance : Std.Total (Below (α := α)) :=
  ⟨fun a b => Bool.or_eq_true _ _ ▸ Text.le_total a.name b.name⟩

instance : IsTrans (FunctionEntry α) Below :=
  ⟨fun a b c => Text.le_trans a.name b.name c.name⟩

theorem insertEntry_eq_orderedInsert (entry : FunctionEntry α) (entries : List (FunctionEntry α)) :
    insertEntry entry entries = entries.orderedInsert Below entry := by
  induction entries with
  | nil => rfl
  | cons other rest ih =>
      rw [insertEntry, List.orderedInsert, ih]
      rfl

theorem entries_ofEntries (delimiter : Char) (entries : List (FunctionEntry α)) :
    (ofEntries delimiter entries).entries = entries.insertionSort Below := by
  induction entries with
  | nil => rfl
  | cons entry rest ih =>
      change insertEntry entry (ofEntries delimiter rest).entries = _
      rw [insertEntry_eq_orderedInsert, ih]
      rfl

theorem entries_ofEntries_perm (delimiter : Char) (entries : List (FunctionEntry α)) :
    (ofEntries delimiter entries).entries.Perm entries := by
  rw [entries_ofEntries]
  exact List.perm_insertionSort Below entries

section

variable {delimiter : Char} {entries : List (FunctionEntry α)}

/-- Functions with different names ascend strictly. -/
theorem entries_ofEntries_ascending (delimiter : Char)
    (hnodup : (entries.map FunctionEntry.name).Nodup) :
    (ofEntries delimiter entries).entries.Pairwise fun a b =>
      Text.bytes a.name.toList < Text.bytes b.name.toList := by
  have hsorted := List.pairwise_insertionSort Below entries
  have hdistinct : (entries.insertionSort Below).Pairwise fun a b => a.name ≠ b.name :=
    List.pairwise_map.1 (((List.perm_insertionSort Below entries).map _).nodup_iff.2 hnodup)
  rw [entries_ofEntries]
  exact hsorted.imp₂ (fun _ _ => Text.lt_of_le_of_ne) hdistinct

/-- Where names differ, the order of the functions decides nothing. -/
theorem ofEntries_perm {other : List (FunctionEntry α)}
    (hnodup : (entries.map FunctionEntry.name).Nodup) (hperm : entries.Perm other) :
    ofEntries delimiter entries = ofEntries delimiter other := by
  have hascending := entries_ofEntries_ascending delimiter hnodup
  have hother := entries_ofEntries_ascending delimiter
    ((hperm.map FunctionEntry.name).nodup_iff.1 hnodup)
  have hsame : (ofEntries delimiter entries).entries.Perm (ofEntries delimiter other).entries :=
    ((entries_ofEntries_perm delimiter entries).trans hperm).trans
      (entries_ofEntries_perm delimiter other).symm
  have hentries : (ofEntries delimiter entries).entries = (ofEntries delimiter other).entries :=
    List.Perm.eq_of_pairwise (fun _ _ _ _ hab hba => absurd hba (List.lt_asymm hab)) hascending
      hother hsame
  exact congrArg (Registry.mk delimiter) hentries

end

/-! ### Repeated names -/

theorem firstRepeat?_eq_none_iff {seen names : List String} :
    firstRepeat? seen names = none ↔ names.Nodup ∧ ∀ name ∈ names, name ∉ seen := by
  induction names generalizing seen with
  | nil => simp [firstRepeat?]
  | cons name names ih =>
      by_cases hseen : name ∈ seen
      · simp [firstRepeat?, hseen]
      · rw [firstRepeat?, if_neg (by simpa using hseen), ih, List.nodup_cons, List.forall_mem_cons]
        constructor
        · rintro ⟨hnodup, hnew⟩
          have hname : name ∉ names := fun hmem => hnew name hmem List.mem_cons_self
          refine ⟨⟨hname, hnodup⟩, hseen, fun other hmem => ?_⟩
          exact mt (List.mem_cons_of_mem name) (hnew other hmem)
        · rintro ⟨⟨hname, hnodup⟩, -, hnew⟩
          refine ⟨hnodup, fun other hmem => ?_⟩
          rw [List.mem_cons, not_or]
          exact ⟨fun heq => hname (heq ▸ hmem), hnew other hmem⟩

/-- The name that is found ends the longest beginning without repeated names. -/
theorem firstRepeat?_eq_some_iff {seen names : List String} {name : String} :
    firstRepeat? seen names = some name ↔
      ∃ before after, names = before ++ name :: after ∧
        firstRepeat? seen before = none ∧ (name ∈ before ∨ name ∈ seen) := by
  induction names generalizing seen with
  | nil => simp [firstRepeat?]
  | cons first names ih =>
      by_cases hseen : first ∈ seen
      · simp only [firstRepeat?, List.contains_iff_mem, hseen, if_true, Option.some.injEq]
        constructor
        · rintro rfl
          exact ⟨[], names, rfl, rfl, .inr hseen⟩
        · rintro ⟨before, after, hnames, hnone, -⟩
          cases before with
          | nil => exact (List.cons.inj hnames).1
          | cons other before =>
              obtain rfl : first = other := (List.cons.inj hnames).1
              exact absurd hseen ((firstRepeat?_eq_none_iff.1 hnone).2 first List.mem_cons_self)
      · simp only [firstRepeat?, List.contains_iff_mem, hseen, if_false, ih]
        constructor
        · rintro ⟨before, after, rfl, hnone, hname⟩
          refine ⟨first :: before, after, rfl, ?_, ?_⟩
          · simpa [firstRepeat?, hseen] using hnone
          · simpa [or_assoc, or_left_comm] using hname
        · rintro ⟨before, after, hnames, hnone, hname⟩
          cases before with
          | nil =>
              obtain rfl : first = name := (List.cons.inj hnames).1
              exact absurd (hname.resolve_left List.not_mem_nil) hseen
          | cons other before =>
              obtain ⟨rfl, rfl⟩ := List.cons.inj hnames
              refine ⟨before, after, rfl, ?_, ?_⟩
              · simpa [firstRepeat?, hseen] using hnone
              · simpa [or_assoc, or_left_comm] using hname

section

variable {delimiter : Char} {entries : List (FunctionEntry α)} {registry : Registry α}
  {name : String}

/-- Where names differ, looking up a name finds the one function that has it. -/
theorem find?_eq_some_iff {entry : FunctionEntry α}
    (hnodup : (registry.entries.map FunctionEntry.name).Nodup) :
    registry.find? name = some entry ↔ entry ∈ registry.entries ∧ entry.name = name := by
  constructor
  · intro h
    exact ⟨List.mem_of_find?_eq_some h, by simpa using List.find?_some h⟩
  · rintro ⟨hmem, rfl⟩
    cases hfind : registry.find? entry.name with
    | none => simpa using List.find?_eq_none.1 hfind entry hmem
    | some other =>
        have hname : other.name = entry.name := by simpa using List.find?_some hfind
        exact congrArg some
          (List.inj_on_of_nodup_map hnodup (List.mem_of_find?_eq_some hfind) hmem hname)

theorem find?_eq_none_iff :
    registry.find? name = none ↔ name ∉ registry.entries.map FunctionEntry.name := by
  simp [find?]

theorem contains_iff :
    registry.contains name = true ↔ name ∈ registry.entries.map FunctionEntry.name := by
  rw [contains, ← not_iff_not, ← find?_eq_none_iff, Bool.not_eq_true, Option.isSome_eq_false_iff,
    Option.isNone_iff_eq_none]

theorem build_eq_ok_iff :
    build delimiter entries = .ok registry ↔
      (entries.map FunctionEntry.name).Nodup ∧ registry = ofEntries delimiter entries := by
  rw [build]
  cases h : firstRepeat? [] (entries.map FunctionEntry.name) with
  | none => simp [(firstRepeat?_eq_none_iff.1 h).1, eq_comm]
  | some name =>
      have hrepeated : ¬ (entries.map FunctionEntry.name).Nodup := fun hnodup => by
        simp [firstRepeat?_eq_none_iff.2 ⟨hnodup, fun _ _ => List.not_mem_nil⟩] at h
      simp [hrepeated]

/-- The first function whose name an earlier one has. -/
theorem firstRepeat?_names_eq_some_iff :
    firstRepeat? [] (entries.map FunctionEntry.name) = some name ↔
      ∃ before entry after, entries = before ++ entry :: after ∧
        (before.map FunctionEntry.name).Nodup ∧ entry.name ∈ before.map FunctionEntry.name ∧
        entry.name = name := by
  simp only [firstRepeat?_eq_some_iff, firstRepeat?_eq_none_iff, List.not_mem_nil,
    not_false_eq_true, implies_true, and_true, or_false]
  constructor
  · rintro ⟨names, later, hnames, hnodup, hmem⟩
    obtain ⟨before, rest, rfl, rfl, hrest⟩ := List.map_eq_append_iff.1 hnames
    obtain ⟨entry, after, rfl, rfl, rfl⟩ := List.map_eq_cons_iff.1 hrest
    exact ⟨before, entry, after, rfl, hnodup, hmem, rfl⟩
  · rintro ⟨before, entry, after, rfl, hnodup, hmem, rfl⟩
    exact ⟨_, _, List.map_append, hnodup, hmem⟩

theorem build_eq_error_iff {error : EditError} :
    build delimiter entries = .error error ↔
      ∃ before entry after, entries = before ++ entry :: after ∧
        (before.map FunctionEntry.name).Nodup ∧ entry.name ∈ before.map FunctionEntry.name ∧
        error = .repeatedFunction entry.name := by
  have hbuild : build delimiter entries = .error error ↔
      ∃ name, firstRepeat? [] (entries.map FunctionEntry.name) = some name ∧
        error = .repeatedFunction name := by
    rw [build]
    cases firstRepeat? [] (entries.map FunctionEntry.name) <;> simp [eq_comm]
  simp only [hbuild, firstRepeat?_names_eq_some_iff]
  constructor
  · rintro ⟨_, ⟨before, entry, after, hentries, hnodup, hmem, rfl⟩, rfl⟩
    exact ⟨before, entry, after, hentries, hnodup, hmem, rfl⟩
  · rintro ⟨before, entry, after, hentries, hnodup, hmem, rfl⟩
    exact ⟨_, ⟨before, entry, after, hentries, hnodup, hmem, rfl⟩, rfl⟩

/-! ### One function after the other -/

/-- Puts one more function into a table, which must not have its name yet. -/
def register (registry : Registry α) (entry : FunctionEntry α) : Except EditError (Registry α) :=
  if registry.contains entry.name then .error (.repeatedFunction entry.name)
  else .ok { registry with entries := insertEntry entry registry.entries }

/-- One registration: a name that is there ends it, any other function finds its place. -/
theorem register_ofEntries (hnodup : (entries.map FunctionEntry.name).Nodup)
    (entry : FunctionEntry α) :
    register (ofEntries delimiter entries) entry =
      if entry.name ∈ entries.map FunctionEntry.name then .error (.repeatedFunction entry.name)
      else .ok (ofEntries delimiter (entries ++ [entry])) := by
  have hcontains : (ofEntries delimiter entries).contains entry.name = true ↔
      entry.name ∈ entries.map FunctionEntry.name :=
    contains_iff.trans ((entries_ofEntries_perm delimiter entries).map _).mem_iff
  by_cases hmem : entry.name ∈ entries.map FunctionEntry.name
  · rw [register, if_pos (hcontains.2 hmem), if_pos hmem]
  · have hnew : ((entry :: entries).map FunctionEntry.name).Nodup :=
      List.nodup_cons.2 ⟨hmem, hnodup⟩
    rw [register, if_neg (mt hcontains.1 hmem), if_neg hmem,
      ← ofEntries_perm hnew (List.perm_append_singleton entry entries).symm]
    rfl

/-- Registering functions one after the other is looking for the first repeated name. -/
theorem foldlM_register (before rest : List (FunctionEntry α))
    (hnodup : (before.map FunctionEntry.name).Nodup) :
    rest.foldlM register (ofEntries delimiter before) =
      match firstRepeat? (before.map FunctionEntry.name).reverse (rest.map FunctionEntry.name) with
      | some name => .error (.repeatedFunction name)
      | none => .ok (ofEntries delimiter (before ++ rest)) := by
  induction rest generalizing before with
  | nil => rw [List.append_nil]; rfl
  | cons entry rest ih =>
      rw [List.foldlM_cons, register_ofEntries hnodup, List.map_cons, firstRepeat?]
      by_cases hmem : entry.name ∈ before.map FunctionEntry.name
      · rw [if_pos hmem, if_pos (by simpa using hmem)]
        rfl
      · have hnew : ((before ++ [entry]).map FunctionEntry.name).Nodup := by
          rw [List.map_append, List.map_singleton, ← List.concat_eq_append]
          exact hnodup.concat hmem
        have hlater := ih (before ++ [entry]) hnew
        rw [List.map_append, List.map_singleton, List.reverse_concat, List.append_assoc] at hlater
        rw [if_neg hmem, if_neg (by simpa using hmem)]
        exact hlater

theorem build_eq_foldlM (delimiter : Char) (entries : List (FunctionEntry α)) :
    build delimiter entries = entries.foldlM register ⟨delimiter, []⟩ :=
  (foldlM_register [] entries List.nodup_nil).symm

/-- A call is made by the function that has its name, with the text as it is given and the delimiter
of the table. -/
theorem make_ofEntries (hnodup : (entries.map FunctionEntry.name).Nodup)
    {entry : FunctionEntry α} (hentry : entry ∈ entries) (args : String) :
    (ofEntries delimiter entries).make entry.name args =
      match entry.factory ⟨args, delimiter⟩ with
      | .ok action => .ok ⟨entry.name, args, action⟩
      | .error cause => .error (.badArguments entry.name args cause) := by
  have hperm := entries_ofEntries_perm delimiter entries
  have hfind : (ofEntries delimiter entries).find? entry.name = some entry :=
    (find?_eq_some_iff ((hperm.map _).nodup_iff.2 hnodup)).2 ⟨hperm.mem_iff.2 hentry, rfl⟩
  rw [make, hfind]
  rfl

theorem make_of_find?_eq_none {args : String} (h : registry.find? name = none) :
    registry.make name args = .error (.unknownFunction name args) := by
  simp only [make, h]

theorem make_eq_ok_iff {entry : FunctionEntry α} {args : String} {call : Call α}
    (hfind : registry.find? name = some entry) :
    registry.make name args = .ok call ↔
      ∃ action, entry.factory ⟨args, registry.delimiter⟩ = .ok action ∧
        call = ⟨name, args, action⟩ := by
  rw [make, hfind]
  cases h : entry.factory ⟨args, registry.delimiter⟩ <;> simp [h, eq_comm]

theorem make_eq_ok {args : String} {call : Call α} (h : registry.make name args = .ok call) :
    call.name = name ∧ call.args = args ∧ registry.find? name ≠ none := by
  cases hfind : registry.find? name with
  | none => cases (make_of_find?_eq_none hfind).symm.trans h
  | some entry =>
      obtain ⟨action, -, rfl⟩ := (make_eq_ok_iff hfind).1 h
      exact ⟨rfl, rfl, by simp⟩

/-- A call as a table makes it from its name and its argument text. -/
def Makes (registry : Registry α) (call : Call α) : Prop :=
  registry.make call.name call.args = .ok call

theorem makes_of_make {args : String} {call : Call α}
    (h : registry.make name args = .ok call) : registry.Makes call := by
  obtain ⟨rfl, rfl, -⟩ := make_eq_ok h
  exact h

theorem exists_made {args : String} (h : (registry.make name args).isOk = true) :
    ∃ call, registry.make name args = .ok call := by
  cases hmade : registry.make name args with
  | error error => rw [hmade] at h; cases h
  | ok call => exact ⟨call, rfl⟩

theorem exists_makes {args : String} (h : (registry.make name args).isOk = true) :
    ∃ action, registry.Makes ⟨name, args, action⟩ := by
  obtain ⟨call, hmade⟩ := exists_made h
  obtain ⟨rfl, rfl, -⟩ := make_eq_ok hmade
  exact ⟨call.action, hmade⟩

/-- The action of a call comes from the registered function that has its name. -/
theorem Makes.exists_entry {call : Call α} (h : (ofEntries delimiter entries).Makes call) :
    ∃ entry ∈ entries, entry.name = call.name ∧
      entry.factory ⟨call.args, delimiter⟩ = .ok call.action := by
  cases hfind : (ofEntries delimiter entries).find? call.name with
  | none => cases (make_of_find?_eq_none hfind).symm.trans h
  | some entry =>
      have hmem : entry ∈ entries :=
        (entries_ofEntries_perm delimiter entries).mem_iff.1 (List.mem_of_find?_eq_some hfind)
      have hname : entry.name = call.name := by simpa using List.find?_some hfind
      obtain ⟨action, haction, hcall⟩ := (make_eq_ok_iff hfind).1 h
      have hsame : call.action = action := congrArg Call.action hcall
      exact ⟨entry, hmem, hname, hsame ▸ haction⟩

end

/-- What a table keeps of its registrations. Building it registers the functions one after the
other, and fails exactly when some name occurs twice, for the first name that repeats an earlier
one. Otherwise the table lists exactly the registered names with their signatures, in strictly
ascending byte order; it has these names and no others; a call is made by the function that was
registered under its name, and by no function when there is none; and every other order of the same
registrations builds the same table. -/
theorem build_of_registrations (delimiter : Char) (entries : List (FunctionEntry α)) :
    build delimiter entries = entries.foldlM register ⟨delimiter, []⟩ ∧
    ((∃ error, build delimiter entries = .error error) ↔
      ¬ (entries.map FunctionEntry.name).Nodup) ∧
    (∀ error, build delimiter entries = .error error ↔
      ∃ before entry after, entries = before ++ entry :: after ∧
        (before.map FunctionEntry.name).Nodup ∧ entry.name ∈ before.map FunctionEntry.name ∧
        error = .repeatedFunction entry.name) ∧
    ∀ registry, build delimiter entries = .ok registry →
      (registry.signatures.Perm (entries.map fun entry => (entry.name, entry.signature)) ∧
        registry.signatures.Pairwise fun a b => Text.bytes a.1.toList < Text.bytes b.1.toList) ∧
      (∀ name, registry.contains name = true ↔ name ∈ entries.map FunctionEntry.name) ∧
      (∀ entry ∈ entries, ∀ args, registry.make entry.name args =
        match entry.factory ⟨args, delimiter⟩ with
        | .ok action => .ok ⟨entry.name, args, action⟩
        | .error cause => .error (.badArguments entry.name args cause)) ∧
      (∀ name args, name ∉ entries.map FunctionEntry.name →
        registry.make name args = .error (.unknownFunction name args)) ∧
      ∀ other, entries.Perm other → build delimiter other = .ok registry := by
  refine ⟨build_eq_foldlM delimiter entries, ?_, fun _ => build_eq_error_iff, ?_⟩
  · constructor
    · rintro ⟨error, hbuild⟩ hnodup
      cases hbuild.symm.trans (build_eq_ok_iff.2 ⟨hnodup, rfl⟩)
    · intro hrepeated
      cases hbuild : build delimiter entries with
      | error error => exact ⟨error, rfl⟩
      | ok registry => exact absurd (build_eq_ok_iff.1 hbuild).1 hrepeated
  · intro registry hbuild
    obtain ⟨hnodup, rfl⟩ := build_eq_ok_iff.1 hbuild
    have hperm := entries_ofEntries_perm delimiter entries
    refine ⟨⟨hperm.map _, ?_⟩, ?_, fun entry hentry => make_ofEntries hnodup hentry, ?_, ?_⟩
    · exact List.pairwise_map.2 (entries_ofEntries_ascending delimiter hnodup)
    · exact fun name => contains_iff.trans (hperm.map _).mem_iff
    · intro name args hname
      exact make_of_find?_eq_none (find?_eq_none_iff.2 (mt (hperm.map _).mem_iff.1 hname))
    · intro other hother
      exact build_eq_ok_iff.2 ⟨(hother.map _).nodup_iff.1 hnodup, ofEntries_perm hnodup hother⟩

end HistEdit.Registry

namespace HistEdit.Functions

/-- The functions that come with the program have different names, so nothing is lost on the way
into their tables. -/
theorem build_entries :
    Registry.build ' ' HistogramFunction.entries = .ok builtin.histogram ∧
      Registry.build ',' CanvasFunction.entries = .ok builtin.canvas :=
  ⟨Registry.build_eq_ok_iff.2 ⟨by decide +kernel, rfl⟩,
    Registry.build_eq_ok_iff.2 ⟨by decide +kernel, rfl⟩⟩

end HistEdit.Functions
