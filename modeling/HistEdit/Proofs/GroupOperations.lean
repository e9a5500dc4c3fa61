import HistEdit.Proofs.Gathering
import Mathlib.Algebra.Ring.Nat
import Mathlib.Data.List.Sort

/-!
Groups over a run of insertions and sorts, in any order. The index follows the keys to the places
that sorting gives them, so at every moment the groups are what an association list without an index
makes of the same operations. Sorting only moves groups: which values a key has, and in which order,
is decided by the insertions alone.
-/

namespace HistEdit

section

variable {α : Type}

/-- Groups in ascending order of the bytes of their keys; equal keys would keep their order. -/
def ascending (groups : List (String × List α)) : List (String × List α) :=
  groups.insertionSort fun a b => Text.bytes a.1.toList ≤ Text.bytes b.1.toList

theorem ascending_perm (groups : List (String × List α)) : (ascending groups).Perm groups :=
  List.perm_insertionSort _ _

theorem ascending_sorted (groups : List (String × List α)) :
    (ascending groups).Pairwise fun a b => Text.bytes a.1.toList ≤ Text.bytes b.1.toList := by
  let below (a b : String × List α) : Prop := Text.bytes a.1.toList ≤ Text.bytes b.1.toList
  have : Std.Total below := ⟨fun _ _ => List.le_total _ _⟩
  have : IsTrans (String × List α) below := ⟨fun _ _ _ => List.le_trans⟩
  exact List.pairwise_insertionSort below groups

/-- Where keys differ there is only one way to sort. -/
theorem mergeSort_eq_ascending {groups : List (String × List α)}
    (hnodup : (groups.map Prod.fst).Nodup) :
    (groups.mergeSort fun a b => Text.le a.1 b.1) = ascending groups := by
  have hperm := List.mergeSort_perm groups fun a b => Text.le a.1 b.1
  have hsorted := Groups.pairwise_mergeSort_key groups
  simp only [Text.le_iff] at hsorted
  refine List.Perm.eq_of_pairwise ?_ hsorted (ascending_sorted groups)
    (hperm.trans (ascending_perm groups).symm)
  intro a b ha hb hab hba
  have hkey : a.1 = b.1 := Text.bytes_toList_inj.1 (List.le_antisymm hab hba)
  exact List.inj_on_of_nodup_map hnodup (hperm.mem_iff.1 ha) ((ascending_perm groups).mem_iff.1 hb)
    hkey

/-- Inserting does not look at the order of groups with different keys. -/
theorem insertInto_perm (key : String) (member : α) {groups other : List (String × List α)}
    (hperm : groups.Perm other) (hnodup : (groups.map Prod.fst).Nodup) :
    (insertInto key member groups).Perm (insertInto key member other) := by
  induction hperm with
  | nil => exact List.Perm.refl _
  | cons group hrest ih =>
      obtain ⟨first, members⟩ := group
      have hinside := ih (List.nodup_cons.1 hnodup).2
      by_cases hfirst : first = key
      · simpa only [insertInto, if_pos hfirst] using hrest.cons _
      · simpa only [insertInto, if_neg hfirst] using hinside.cons _
  | swap second first rest =>
      obtain ⟨a, members⟩ := first
      obtain ⟨b, others⟩ := second
      have hne : b ≠ a := by
        rintro rfl
        simp at hnodup
      by_cases ha : a = key
      · have hb : b ≠ key := ha ▸ hne
        simpa only [insertInto, if_pos ha, if_neg hb] using List.Perm.swap _ _ _
      · by_cases hb : b = key
        · simpa only [insertInto, if_neg ha, if_pos hb] using List.Perm.swap _ _ _
        · simpa only [insertInto, if_neg ha, if_neg hb] using List.Perm.swap _ _ _
  | trans hfirst _ ihfirst ihsecond =>
      exact (ihfirst hnodup).trans (ihsecond (((hfirst.map _).nodup_iff).1 hnodup))

theorem mem_gathered {pairs : List (String × α)} {key : String} {members : List α} :
    (key, members) ∈ gathered pairs ↔
      key ∈ pairs.map Prod.fst ∧ members = membersOf pairs key := by
  simp only [gathered, List.mem_map, Prod.mk.injEq, List.mem_eraseDups]
  constructor
  · rintro ⟨_, hkey, rfl, rfl⟩
    exact ⟨hkey, rfl⟩
  · rintro ⟨hkey, rfl⟩
    exact ⟨key, hkey, rfl, rfl⟩

theorem length_pairsOf (groups : List (String × List α)) :
    (pairsOf groups).length = (groups.map fun group => group.2.length).sum := by
  simp [pairsOf, List.length_flatMap]

end

namespace Groups

variable {α : Type}

theorem indexOf_concat (entries : List (String × Array α)) (entry : String × Array α) :
    indexOf (entries ++ [entry]) = (indexOf entries).insert entry.1 entries.length := by
  simp [indexOf, List.zipIdx_append]

/-- The index of entries with different keys is true to their places. -/
theorem getElem?_indexOf {entries : List (String × Array α)}
    (hnodup : (entries.map Prod.fst).Nodup) (key : String) (place : Nat) :
    (indexOf entries)[key]? = some place ↔ (entries.map Prod.fst)[place]? = some key := by
  induction entries using List.reverseRecOn with
  | nil => simp [indexOf]
  | append_singleton entries entry ih =>
      rw [List.map_append, List.map_singleton] at hnodup ⊢
      obtain ⟨hnodup, -, hnew⟩ := List.nodup_append.1 hnodup
      have ih := ih hnodup
      rw [indexOf_concat, Std.HashMap.getElem?_insert, getElem?_concat_eq_some_iff, List.length_map]
      by_cases hkey : entry.1 = key
      · -- the last key is new, so no earlier place holds it
        have hnone : (entries.map Prod.fst)[place]? ≠ some key := fun hplace =>
          hnew _ (List.mem_of_getElem? hplace) _ (List.mem_singleton_self _) hkey.symm
        rw [if_pos (beq_iff_eq.2 hkey), or_iff_right hnone]
        simp [hkey, eq_comm]
      · simpa [hkey] using ih

theorem Indexed.sort {groups : Groups α} (h : groups.Indexed) : groups.sort.Indexed := by
  have hnodup : groups.sort.keys.Nodup := ((groups.toList_sort_perm.map _).nodup_iff).2 h.nodup
  rw [keys_eq] at hnodup
  intro key place
  rw [keys_eq]
  exact getElem?_indexOf hnodup key place

theorem Indexed.toList_sort {groups : Groups α} (h : groups.Indexed) :
    groups.sort.toList = ascending groups.toList := by
  rw [Groups.toList_sort, mergeSort_eq_ascending h.nodup]

inductive Operation (α : Type) where
  | insert (key : String) (member : α)
  | sort

namespace Operation

def apply (groups : Groups α) : Operation α → Groups α
  | .insert key member => groups.insert key member
  | .sort => groups.sort

def onList (groups : List (String × List α)) : Operation α → List (String × List α)
  | .insert key member => insertInto key member groups
  | .sort => ascending groups

def inserted? : Operation α → Option (String × α)
  | .insert key member => some (key, member)
  | .sort => none

end Operation

def operate (groups : Groups α) (operations : List (Operation α)) : Groups α :=
  operations.foldl Operation.apply groups

/-- What the operations make of an association list that starts empty. -/
def plain (operations : List (Operation α)) : List (String × List α) :=
  operations.foldl Operation.onList []

/-- One operation keeps the index true and does to the groups what it does to a list. -/
theorem Indexed.apply {groups : Groups α} (h : groups.Indexed) (operation : Operation α) :
    (operation.apply groups).Indexed ∧
      (operation.apply groups).toList = operation.onList groups.toList := by
  cases operation with
  | insert key member => exact ⟨h.insert key member, h.toList_insert key member⟩
  | sort => exact ⟨h.sort, h.toList_sort⟩

theorem Indexed.operate {groups : Groups α} (h : groups.Indexed)
    (operations : List (Operation α)) :
    (groups.operate operations).Indexed ∧
      (groups.operate operations).toList = operations.foldl Operation.onList groups.toList := by
  induction operations generalizing groups with
  | nil => exact ⟨h, rfl⟩
  | cons operation operations ih =>
      obtain ⟨hindexed, hlist⟩ := h.apply operation
      rw [List.foldl_cons, ← hlist]
      exact ih hindexed

/-- Wherever the sorts stand, the groups are those gathered from what was inserted. -/
theorem plain_perm_gathered (operations : List (Operation α)) :
    (plain operations).Perm (gathered (operations.filterMap Operation.inserted?)) := by
  induction operations using List.reverseRecOn with
  | nil => exact List.Perm.refl _
  | append_singleton operations operation ih =>
      rw [plain, List.foldl_append, List.foldl_cons, List.foldl_nil, List.filterMap_append]
      cases operation with
      | insert key member =>
          have hkeys : ((plain operations).map Prod.fst).Nodup := by
            rw [(ih.map _).nodup_iff, keys_gathered]
            exact nodup_eraseDups _
          change (insertInto key member (plain operations)).Perm (gathered (_ ++ [(key, member)]))
          rw [gathered_concat]
          exact insertInto_perm key member ih hkeys
      | sort =>
          change (ascending (plain operations)).Perm (gathered (_ ++ []))
          rw [List.append_nil]
          exact (ascending_perm _).trans ih

/-- Groups with an index are an association list without one. After any insertions and sorts the
keys differ, the index maps each of them to its place and nothing else, and the groups are those of
the list that the same operations make: a key's values are the ones inserted with it, as they came,
and the counts agree, the values being as many as the insertions. -/
theorem groups_of_operations (operations : List (Operation α)) :
    let groups := ({} : Groups α).operate operations
    let inserted := operations.filterMap Operation.inserted?
    groups.keys.Nodup ∧
    (∀ (key : String) (place : Nat),
      groups.index[key]? = some place ↔ groups.keys[place]? = some key) ∧
    groups.toList = plain operations ∧
    (∀ key members, (key, members) ∈ groups.toList ↔
      key ∈ inserted.map Prod.fst ∧ members = membersOf inserted key) ∧
    groups.size = (plain operations).length ∧
    groups.isEmpty = (plain operations).isEmpty ∧
    groups.memberCount = ((plain operations).map fun group => group.2.length).sum ∧
    groups.memberCount = inserted.length := by
  intro groups inserted
  obtain ⟨hindexed, hlist⟩ : groups.Indexed ∧ groups.toList = plain operations :=
    indexed_empty.operate operations
  have hperm := plain_perm_gathered operations
  have hcount := groups.memberCount_eq
  rw [hlist] at hcount
  refine ⟨hindexed.nodup, fun key place => hindexed key place, hlist, ?_, ?_, ?_, ?_, ?_⟩
  · intro key members
    rw [hlist, hperm.mem_iff, mem_gathered]
  · rw [← hlist]
    simp [size, toList]
  · rw [← hlist]
    simp [isEmpty, toList]
  · rw [hcount, length_pairsOf]
  · rw [hcount, ← (pairsOf_gathered inserted).length_eq]
    exact (hperm.flatMap_right _).length_eq

end Groups

end HistEdit
