import HistEdit.FileTree
import HistEdit.Proofs.Result
import Mathlib.Data.List.Infix

/-!
What writing one file does to a tree of files. The path then leads to the new contents, and every
other place holds what it held: no directory comes or goes, and every other path that could be read
can be read as before.
-/

namespace HistEdit

namespace Entry

variable {entry child : Entry} {entries : List (String × Entry)} {name : String}
  {names place above : List String}

theorem lookup_assign (name other : String) (entry : Entry) (entries : List (String × Entry)) :
    (assign name entry entries).lookup other =
      if other = name then some entry else entries.lookup other := by
  induction entries with
  | nil =>
      by_cases h : other = name <;> simp [assign, h]
  | cons first entries ih =>
      obtain ⟨key, old⟩ := first
      by_cases hkey : key = name
      · subst hkey
        by_cases h : other = key
        · simp [assign, h]
        · simp [assign, h, List.lookup_cons, beq_eq_false_iff_ne.2 h]
      · by_cases h : other = key
        · subst h
          simp [assign, hkey]
        · simpa [assign, hkey, List.lookup_cons, beq_eq_false_iff_ne.2 h] using ih

theorem find?_append (entry : Entry) (above names : List String) :
    entry.find? (above ++ names) = (entry.find? above).bind fun found => found.find? names := by
  induction above generalizing entry with
  | nil => rfl
  | cons name above ih =>
      cases entry with
      | file contents => rfl
      | directory entries => cases h : entries.lookup name <;> simp [find?, h, ih]

def HasDirectory (entry : Entry) (place : List String) : Prop :=
  ∃ entries, entry.find? place = some (.directory entries)

theorem hasDirectory_iff :
    entry.HasDirectory place ↔ (entry.find? place).map contents? = some none := by
  unfold HasDirectory
  cases entry.find? place with
  | none => simp
  | some found => cases found <;> simp [contents?]

/-- What is above a directory is a directory. -/
theorem HasDirectory.of_above (h : entry.HasDirectory place) (hbefore : above <+: place) :
    entry.HasDirectory above := by
  obtain ⟨names, rfl⟩ := hbefore
  obtain ⟨entries, hentries⟩ := h
  rw [find?_append, Option.bind_eq_some_iff] at hentries
  obtain ⟨found, hfound, hnames⟩ := hentries
  cases found with
  | directory entries => exact ⟨entries, hfound⟩
  | file contents => cases names <;> simp [find?] at hnames

/-- A file can be put at a place: there are directories on the way, and none at the place. -/
structure Free (entry : Entry) (place : List String) : Prop where
  above : ∀ above, above <+: place → above ≠ place → entry.HasDirectory above
  here : ¬entry.HasDirectory place

theorem Free.below (h : (Entry.directory entries).Free (name :: names))
    (hchild : entries.lookup name = some child) : child.Free names where
  above above hbefore hne := by
    have habove := h.above (name :: above) (List.cons_prefix_cons.2 ⟨rfl, hbefore⟩)
      fun heq => hne (List.cons.inj heq).2
    simpa [HasDirectory, find?, hchild] using habove
  here := by simpa [HasDirectory, find?, hchild] using h.here

/-- A name that is not there is the last one of its place. -/
theorem Free.names_eq_nil (h : (Entry.directory entries).Free (name :: names))
    (hchild : entries.lookup name = none) : names = [] := by
  by_contra hne
  obtain ⟨found, hfound⟩ := h.above [name] (List.prefix_append [name] names)
    fun heq => hne (List.cons.inj heq).2.symm
  simp [find?, hchild] at hfound

/-- A file that was put at a place is found there, and every other place has the file or the
directory that it had. -/
theorem contents?_find?_put (h : entry.Free place) (contents : ByteArray) (other : List String) :
    ((entry.put contents place).find? other).map contents? =
      if other = place then some (some contents) else (entry.find? other).map contents? := by
  induction place generalizing entry other with
  | nil =>
      cases entry with
      | directory entries => exact absurd ⟨entries, rfl⟩ h.here
      | file old => cases other <;> simp [put, find?, contents?]
  | cons name names ih =>
      cases entry with
      | file old =>
          obtain ⟨found, hfound⟩ := h.above [] List.nil_prefix (by simp)
          simp [find?] at hfound
      | directory entries =>
          cases other with
          | nil => simp [put, find?, contents?]
          | cons first rest =>
              by_cases hfirst : first = name
              · subst hfirst
                cases hchild : entries.lookup first with
                | some child => simp [put, find?, lookup_assign, hchild, ih (h.below hchild)]
                | none =>
                    obtain rfl := h.names_eq_nil hchild
                    cases rest <;> simp [put, find?, lookup_assign, hchild, contents?]
              · simp [put, find?, lookup_assign, hfirst]

theorem hasDirectory_put (h : entry.Free place) (contents : ByteArray) (other : List String) :
    (entry.put contents place).HasDirectory other ↔ entry.HasDirectory other := by
  rw [hasDirectory_iff, hasDirectory_iff, contents?_find?_put h]
  split
  · subst other
    simpa [hasDirectory_iff] using h.here
  · rfl

end Entry

namespace FileTree

variable {tree : FileTree} {path elsewhere : String} {place other above parts : List String}
  {contents found : ByteArray}

theorem isDirectory_iff : tree.isDirectory place = true ↔
    (Entry.directory tree.entries).HasDirectory place := by
  rw [Entry.hasDirectory_iff, isDirectory, find?]
  cases (Entry.directory tree.entries).find? place <;> simp

@[simp]
theorem working_update : (tree.update place contents).working = tree.working := by
  unfold update
  split <;> rfl

/-- A path leads to a place where a file can be written, new or not. -/
structure Creates (tree : FileTree) (path : String) (place : List String) : Prop where
  open_end : path.endsWith "/" = false
  located : tree.locate path = .ok place
  free : tree.isDirectory place = false

/-- A file can be written at a place exactly when its path is that of one. -/
theorem write_eq_ok_iff {tree' : FileTree} :
    tree.write path contents = .ok tree' ↔
      ∃ place, tree.Creates path place ∧ tree' = tree.update place contents := by
  constructor
  · intro h
    unfold write at h
    split at h
    · obtain ⟨directory, -, hfails⟩ := except_bind_eq_ok_iff.1 h
      cases hfails
    · rename_i hend
      obtain ⟨place, hplace, hwritten⟩ := except_bind_eq_ok_iff.1 h
      split at hwritten
      · cases hwritten
      · rename_i hfree
        obtain rfl := Except.ok.inj hwritten
        exact ⟨place, ⟨by simpa using hend, hplace, by simpa using hfree⟩, rfl⟩
  · rintro ⟨place, ⟨hend, hplace, hfree⟩, rfl⟩
    simp [write, hend, hplace, hfree, bind, Except.bind]

theorem write_of_creates (h : tree.Creates path place) :
    tree.write path contents = .ok (tree.update place contents) :=
  write_eq_ok_iff.2 ⟨place, h, rfl⟩

/-- Whether a file is written does not depend on its contents. -/
theorem isOk_write (tree : FileTree) (path : String) (contents other : ByteArray) :
    (tree.write path contents).isOk = (tree.write path other).isOk := by
  have hcreates (contents : ByteArray) :
      (tree.write path contents).isOk = true ↔ ∃ place, tree.Creates path place := by
    constructor
    · intro h
      cases hwrite : tree.write path contents with
      | error cause => simp [hwrite, Except.isOk, Except.toBool] at h
      | ok tree' =>
          obtain ⟨place, hplace, -⟩ := write_eq_ok_iff.1 hwrite
          exact ⟨place, hplace⟩
    · rintro ⟨place, hplace⟩
      simp [write_of_creates hplace, Except.isOk, Except.toBool]
  rw [Bool.eq_iff_iff, hcreates, hcreates]

/-- A path is followed from directory to directory. -/
theorem follow_cons_eq_ok_iff {part : String} :
    tree.follow place (part :: parts) = .ok other ↔
      tree.isDirectory place = true ∧ tree.follow (enter place part) parts = .ok other := by
  rw [follow, isDirectory]
  cases tree.find? place with
  | none => simp
  | some entry => cases entry <;> simp [Entry.contents?]

/-- What is above the place that a part of a path leads to is a directory. -/
theorem hasDirectory_above_enter {part : String} (h : tree.isDirectory place = true)
    (hbefore : above <+: enter place part) (hne : above ≠ enter place part) :
    (Entry.directory tree.entries).HasDirectory above := by
  refine (isDirectory_iff.1 h).of_above ?_
  unfold enter at hbefore hne
  split at hbefore
  · exact hbefore
  · split at hbefore
    · have hlast := List.dropLast_prefix place
      exact hbefore.trans hlast
    · exact (List.prefix_concat_iff.1 hbefore).resolve_left (by simpa [*] using hne)

theorem hasDirectory_above_follow {part : String}
    (h : tree.follow place (part :: parts) = .ok other) (hbefore : above <+: other)
    (hne : above ≠ other) : (Entry.directory tree.entries).HasDirectory above := by
  induction parts generalizing place part with
  | nil =>
      obtain ⟨hplace, hend⟩ := follow_cons_eq_ok_iff.1 h
      obtain rfl := Except.ok.inj hend
      exact hasDirectory_above_enter hplace hbefore hne
  | cons next parts ih => exact ih (follow_cons_eq_ok_iff.1 h).2

theorem pathParts_ne_nil (path : String) : pathParts path ≠ [] := by
  simp [pathParts]

theorem locate_eq_ok_iff :
    tree.locate path = .ok place ↔
      path ≠ "" ∧ tree.follow (tree.start path) (pathParts path) = .ok place := by
  unfold locate
  split <;> simp_all

/-- A file can be put where one can be written. -/
theorem Creates.atPlace (h : tree.Creates path place) :
    (Entry.directory tree.entries).Free place where
  above above hbefore hne := by
    obtain ⟨-, hfollow⟩ := locate_eq_ok_iff.1 h.located
    obtain ⟨part, parts, hparts⟩ := List.exists_cons_of_ne_nil (pathParts_ne_nil path)
    rw [hparts] at hfollow
    exact hasDirectory_above_follow hfollow hbefore hne
  here hdirectory := by
    have htrue := isDirectory_iff.2 hdirectory
    rw [h.free] at htrue
    exact absurd htrue (by decide)

theorem find?_update (h : tree.Creates path place) (other : List String) :
    (tree.update place contents).find? other =
      ((Entry.directory tree.entries).put contents place).find? other := by
  cases place with
  | nil => exact absurd ⟨tree.entries, rfl⟩ h.atPlace.here
  | cons name names => rfl

/-- Only the new file comes: every other place holds the file or the directory that it held. -/
theorem contents?_find?_update (h : tree.Creates path place) (other : List String) :
    ((tree.update place contents).find? other).map Entry.contents? =
      if other = place then some (some contents)
      else (tree.find? other).map Entry.contents? := by
  rw [find?_update h, Entry.contents?_find?_put h.atPlace, find?]

theorem isDirectory_update (h : tree.Creates path place) (other : List String) :
    (tree.update place contents).isDirectory other = tree.isDirectory other := by
  rw [Bool.eq_iff_iff, isDirectory_iff, isDirectory_iff,
    ← Entry.hasDirectory_put h.atPlace contents]
  exact exists_congr fun entries => by rw [← find?_update h, find?]

theorem follow_update (h : tree.Creates path place) (start : List String) :
    (tree.update place contents).follow start parts = .ok other ↔
      tree.follow start parts = .ok other := by
  induction parts generalizing start with
  | nil => rfl
  | cons part parts ih =>
      rw [follow_cons_eq_ok_iff, follow_cons_eq_ok_iff, isDirectory_update h, ih]

/-- Paths lead where they led. -/
theorem locate_update (h : tree.Creates path place) :
    (tree.update place contents).locate elsewhere = .ok other ↔
      tree.locate elsewhere = .ok other := by
  rw [locate_eq_ok_iff, locate_eq_ok_iff, follow_update h, start, start, working_update]

theorem read_eq_ok_iff :
    tree.read path = .ok found ↔
      ∃ place, tree.locate path = .ok place ∧
        (tree.find? place).map Entry.contents? = some (some found) := by
  rw [read, except_bind_eq_ok_iff]
  refine exists_congr fun place => and_congr_right fun _ => ?_
  cases tree.find? place with
  | none => simp
  | some entry => cases entry <;> simp [Entry.contents?]

theorem read_update_self (h : tree.Creates path place) :
    (tree.update place contents).read path = .ok contents :=
  read_eq_ok_iff.2 ⟨place, (locate_update h).2 h.located, by
    rw [contents?_find?_update h, if_pos rfl]⟩

theorem read_update_of_ne (h : tree.Creates path place) (hne : tree.locate elsewhere ≠ .ok place) :
    (tree.update place contents).read elsewhere = .ok found ↔ tree.read elsewhere = .ok found := by
  rw [read_eq_ok_iff, read_eq_ok_iff]
  refine exists_congr fun other => ?_
  rw [locate_update h]
  refine and_congr_right fun hother => ?_
  rw [contents?_find?_update h, if_neg]
  rintro rfl
  exact hne hother

end FileTree

end HistEdit
