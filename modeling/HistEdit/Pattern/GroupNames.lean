import HistEdit.Pattern
import HistEdit.Pattern.Reader

/-!
Names of groups. Reading a pattern collects the names of its groups, and takes none that holds
anything but letters, digits, underscores, dots and brackets.
-/

namespace HistEdit.Pattern

def IsGroupName (name : String) : Prop :=
  ∀ c ∈ name.toList, isGroupNameChar c = true

/-- Whether all groups with a name that were opened so far have a proper one. -/
def ReadState.Named (state : ReadState) : Prop :=
  ∀ entry ∈ state.names, IsGroupName entry.1

namespace Reader

theorem isGroupNameChar_of_isNameChar {first : Bool} {c : Char} (h : isNameChar first c = true) :
    isGroupNameChar c = true := by
  unfold isNameChar at h
  split at h
  · simp only [Bool.or_eq_true, Bool.and_eq_true, beq_iff_eq] at h
    rcases h with (rfl | hletter) | ⟨-, ((rfl | rfl) | rfl) | hdigit⟩
    · decide
    · simp [isGroupNameChar, Char.isAlphanum, hletter]
    · decide
    · decide
    · decide
    · simp [isGroupNameChar, Char.isAlphanum, hdigit]
  · rename_i hascii
    simp [isGroupNameChar, Nat.not_lt.1 hascii]

theorem isGroupName_of_readName {cs rest : List Char} {name : String}
    (h : readName cs = some (name, rest)) : IsGroupName name := by
  obtain ⟨⟨cut, behind⟩, -, h⟩ := Option.bind_eq_some_iff.1 h
  cases cut with
  | nil => simp at h
  | cons c more =>
      simp only at h
      split at h
      · rename_i hname
        simp only [Option.some.injEq, Prod.mk.injEq] at h
        simp only [Bool.and_eq_true, List.all_eq_true] at hname
        rw [← h.1, IsGroupName, String.toList_ofList]
        exact List.forall_mem_cons.mpr ⟨isGroupNameChar_of_isNameChar hname.1,
          fun c hc => isGroupNameChar_of_isNameChar (hname.2 c hc)⟩
      · simp at h

/-- Whether a reader that starts with proper names ends with proper names. -/
def KeepsNamed (read : ReadState → Option (Item × ReadState)) : Prop :=
  ∀ {state after : ReadState} {item : Item}, read state = some (item, after) →
    state.Named → after.Named

section Step

variable {fuel : Nat} (hchoice : ∀ branches, KeepsNamed (readChoice fuel branches))
  (hitems : ∀ items, KeepsNamed (readItems fuel items)) (hgroup : KeepsNamed (readGroup fuel))

include hchoice hitems in
theorem keepsNamed_readChoice (branches : List Item) :
    KeepsNamed (readChoice (fuel + 1) branches) := by
  intro state after item h hstate
  rw [readChoice] at h
  obtain ⟨⟨first, between⟩, hfirst, h⟩ := Option.bind_eq_some_iff.1 h
  have hbetween : between.Named := hitems [] hfirst hstate
  simp only at h
  split at h
  · exact hchoice _ h hbetween
  · simp only [Option.pure_def, Option.some.injEq, Prod.mk.injEq] at h
    exact h.2 ▸ hbetween

include hitems hgroup in
/-- Only a group changes the names; everything else reads on with those that there are. -/
theorem keepsNamed_readItems (items : List Item) : KeepsNamed (readItems (fuel + 1) items) := by
  intro state after item h hstate
  have hend {rest : List Char} (h : some (joinItems items, { state with rest }) =
      some (item, after)) : after.Named := by
    simp only [Option.some.injEq, Prod.mk.injEq] at h
    exact h.2 ▸ hstate
  have hagain {items : List Item} {rest : List Char}
      (h : readItems fuel items { state with rest } = some (item, after)) : after.Named :=
    hitems items h hstate
  rw [readItems] at h
  simp only at h
  split at h
  -- the end of the text, a bar and a closing parenthesis
  · exact hend h
  · exact hend h
  · exact hend h
  -- repetitions
  · obtain ⟨_, -, h⟩ := Option.bind_eq_some_iff.1 h
    exact hagain h
  · obtain ⟨_, -, h⟩ := Option.bind_eq_some_iff.1 h
    exact hagain h
  · obtain ⟨_, -, h⟩ := Option.bind_eq_some_iff.1 h
    exact hagain h
  · obtain ⟨_, -, h⟩ := Option.bind_eq_some_iff.1 h
    obtain ⟨_, -, h⟩ := Option.bind_eq_some_iff.1 h
    exact hagain h
  -- a set
  · obtain ⟨_, -, h⟩ := Option.bind_eq_some_iff.1 h
    exact hagain h
  -- a group
  · obtain ⟨⟨inner, between⟩, hinner, h⟩ := Option.bind_eq_some_iff.1 h
    exact hitems _ h (hgroup hinner hstate)
  -- a dot, the edges of lines, an escape and any other character
  · obtain ⟨_, -, h⟩ := Option.bind_eq_some_iff.1 h
    exact hagain h
  · exact hagain h
  · exact hagain h
  · obtain ⟨_, -, h⟩ := Option.bind_eq_some_iff.1 h
    split at h <;> exact hagain h
  · exact hagain h

include hchoice in
theorem named_of_close {build : Item × ReadState → Item} {mode : Mode} {inner after : ReadState}
    {item : Item}
    (h : (do
      let found ← readChoice fuel [] inner
      match found.2.rest with
      | ')' :: rest => pure (build found, { found.2 with rest, mode })
      | _ => none) = some (item, after))
    (hinner : inner.Named) : after.Named := by
  obtain ⟨⟨found, between⟩, hfound, h⟩ := Option.bind_eq_some_iff.1 h
  have hbetween : between.Named := hchoice [] hfound hinner
  simp only at h
  split at h
  · simp only [Option.pure_def, Option.some.injEq, Prod.mk.injEq] at h
    exact h.2 ▸ hbetween
  · simp at h

theorem named_append {state : ReadState} (hstate : state.Named) {name : String}
    (hname : IsGroupName name) (rest : List Char) (groups index : Nat) :
    ReadState.Named { state with rest, groups, names := state.names ++ [(name, index)] } := by
  intro entry hentry
  rcases List.mem_append.1 hentry with hold | hnew
  · exact hstate entry hold
  · rw [List.mem_singleton.1 hnew]
    exact hname

include hchoice in
theorem keepsNamed_readGroup : KeepsNamed (readGroup (fuel + 1)) := by
  intro state after item h hstate
  rw [readGroup] at h
  simp only at h
  split at h
  -- the two ways to name a group
  · obtain ⟨⟨name, rest⟩, hname, h⟩ := Option.bind_eq_some_iff.1 h
    split at h
    · simp at h
    · exact named_of_close hchoice h (named_append hstate (isGroupName_of_readName hname) _ _ _)
  · obtain ⟨⟨name, rest⟩, hname, h⟩ := Option.bind_eq_some_iff.1 h
    split at h
    · simp at h
    · exact named_of_close hchoice h (named_append hstate (isGroupName_of_readName hname) _ _ _)
  -- modes, for the rest of the group around or for a group of their own
  · obtain ⟨⟨mode, seen, rest⟩, -, h⟩ := Option.bind_eq_some_iff.1 h
    simp only at h
    split at h
    · split at h
      · simp at h
      · simp only [Option.pure_def, Option.some.injEq, Prod.mk.injEq] at h
        exact h.2 ▸ hstate
    · exact named_of_close hchoice h hstate
    · simp at h
  · exact named_of_close hchoice h hstate

end Step

/-- Choices, their branches and groups read on with proper names. -/
theorem keepsNamed_read (fuel : Nat) :
    (∀ branches, KeepsNamed (readChoice fuel branches)) ∧
      (∀ items, KeepsNamed (readItems fuel items)) ∧ KeepsNamed (readGroup fuel) := by
  induction fuel with
  | zero =>
      refine ⟨fun branches => ?_, fun items => ?_, ?_⟩ <;> intro state after item h
      · simp [readChoice] at h
      · simp [readItems] at h
      · simp [readGroup] at h
  | succ fuel ih =>
      obtain ⟨hchoice, hitems, hgroup⟩ := ih
      exact ⟨keepsNamed_readChoice hchoice hitems, keepsNamed_readItems hitems hgroup,
        keepsNamed_readGroup hchoice⟩

end Reader

/-- The groups of a pattern have proper names. -/
theorem isGroupName_of_read? {cs : List Char} {reading : Reading} (h : read? cs = some reading) :
    ∀ entry ∈ reading.names, IsGroupName entry.1 := by
  obtain ⟨⟨item, state⟩, hchoice, hread⟩ := Option.bind_eq_some_iff.1 h
  have hnamed : state.Named := (Reader.keepsNamed_read _).1 [] hchoice (by simp [ReadState.Named])
  simp only at hread
  split at hread
  · simp only [Option.some.injEq] at hread
    rw [← hread]
    exact hnamed
  · simp at hread

end HistEdit.Pattern
