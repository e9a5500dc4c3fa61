import HistEdit.Groups
import HistEdit.Proofs.ByteOrder
import Mathlib.Data.List.Induction

/-!
Groups without their index are an association list, and the index tells where each key stands in
it. What has been gathered from pairs of a key and a value can be said at once: the keys in the
order in which they were first seen, each with its values in the order in which they came.
-/

namespace HistEdit

section

variable {α : Type}

/-- Adds a value to the group of a key; a new key begins a new last group. -/
def insertInto (key : String) (member : α) : List (String × List α) → List (String × List α)
  | [] => [(key, [member])]
  | (other, members) :: rest =>
    if other = key then (other, members ++ [member]) :: rest
    else (other, members) :: insertInto key member rest

def membersOf (pairs : List (String × α)) (key : String) : List α :=
  (pairs.filter fun pair => pair.1 = key).map Prod.snd

/-- The keys of some pairs in the order in which they were first seen, each with its values. -/
def gathered (pairs : List (String × α)) : List (String × List α) :=
  (pairs.map Prod.fst).eraseDups.map fun key => (key, membersOf pairs key)

def pairsOf (groups : List (String × List α)) : List (String × α) :=
  groups.flatMap fun (key, members) => members.map fun member => (key, member)

theorem eraseDups_concat (keys : List String) (key : String) :
    (keys ++ [key]).eraseDups =
      if key ∈ keys.eraseDups then keys.eraseDups else keys.eraseDups ++ [key] := by
  rw [List.eraseDups_append]
  by_cases hmem : key ∈ keys <;> simp [List.removeAll, hmem, List.eraseDups_cons]

theorem nodup_eraseDups (keys : List String) : keys.eraseDups.Nodup := by
  induction keys using List.reverseRecOn with
  | nil => simp
  | append_singleton keys key ih =>
      rw [eraseDups_concat]
      by_cases hmem : key ∈ keys.eraseDups
      · rwa [if_pos hmem]
      · rw [if_neg hmem, List.nodup_append]
        refine ⟨ih, by simp, ?_⟩
        rintro other hother _ hkey rfl
        exact hmem (List.mem_singleton.1 hkey ▸ hother)

theorem membersOf_concat (pairs : List (String × α)) (key : String) (member : α)
    (other : String) :
    membersOf (pairs ++ [(key, member)]) other =
      membersOf pairs other ++ if other = key then [member] else [] := by
  by_cases hother : other = key
  · simp [membersOf, hother]
  · simp [membersOf, hother, Ne.symm hother]

theorem membersOf_of_not_mem {pairs : List (String × α)} {key : String}
    (h : key ∉ pairs.map Prod.fst) : membersOf pairs key = [] := by
  simp only [membersOf, List.map_eq_nil_iff, List.filter_eq_nil_iff, decide_eq_true_eq]
  intro pair hpair hkey
  exact h (List.mem_map.2 ⟨pair, hpair, hkey⟩)

theorem keys_gathered (pairs : List (String × α)) :
    (gathered pairs).map Prod.fst = (pairs.map Prod.fst).eraseDups := by
  simp [gathered, Function.comp_def]

theorem insertInto_map (key : String) (member : α) (members : String → List α)
    {keys : List String} (hnodup : keys.Nodup) (hnew : key ∉ keys → members key = []) :
    insertInto key member (keys.map fun other => (other, members other)) =
      (if key ∈ keys then keys else keys ++ [key]).map fun other =>
        (other, members other ++ if other = key then [member] else []) := by
  induction keys with
  | nil => simp [insertInto, hnew]
  | cons first rest ih =>
      obtain ⟨hfirst, hrest⟩ := List.nodup_cons.1 hnodup
      by_cases hkey : first = key
      · subst hkey
        have hothers : ∀ other ∈ rest,
            members other = members other ++ if other = first then [member] else [] := by
          intro other hother
          have hne : other ≠ first := fun heq => hfirst (heq ▸ hother)
          simp [hne]
        simpa [insertInto] using hothers
      · have hsame : key ∈ first :: rest ↔ key ∈ rest := by simp [Ne.symm hkey]
        simp only [List.map_cons, insertInto, if_neg hkey, hsame]
        rw [ih hrest fun hmem => hnew (mt hsame.1 hmem)]
        by_cases hmem : key ∈ rest <;> simp [hmem, hkey]

/-- One more pair is one more insertion. -/
theorem gathered_concat (pairs : List (String × α)) (key : String) (member : α) :
    gathered (pairs ++ [(key, member)]) = insertInto key member (gathered pairs) := by
  have hnew : key ∉ (pairs.map Prod.fst).eraseDups → membersOf pairs key = [] :=
    fun hmem => membersOf_of_not_mem (mt List.mem_eraseDups.2 hmem)
  rw [gathered, gathered, insertInto_map key member _ (nodup_eraseDups _) hnew, List.map_append,
    List.map_singleton, eraseDups_concat]
  simp only [membersOf_concat]

theorem pairsOf_insertInto (key : String) (member : α) (groups : List (String × List α)) :
    (pairsOf (insertInto key member groups)).Perm (pairsOf groups ++ [(key, member)]) := by
  induction groups with
  | nil => simp [insertInto, pairsOf]
  | cons group rest ih =>
      obtain ⟨other, members⟩ := group
      by_cases hother : other = key
      · subst hother
        simp only [insertInto, pairsOf, if_pos, List.flatMap_cons, List.map_append,
          List.append_assoc]
        exact List.Perm.append_left _ List.perm_append_comm
      · simp only [insertInto, if_neg hother, pairsOf, List.flatMap_cons, List.append_assoc]
        exact List.Perm.append_left _ ih

/-- Gathering loses no pair, repeats none, and puts none with another key. -/
theorem pairsOf_gathered (pairs : List (String × α)) : (pairsOf (gathered pairs)).Perm pairs := by
  induction pairs using List.reverseRecOn with
  | nil => simp [gathered, pairsOf]
  | append_singleton pairs pair ih =>
      rw [gathered_concat]
      exact (pairsOf_insertInto _ _ _).trans (ih.append_right _)

end

namespace Groups

variable {α : Type}

def keys (groups : Groups α) : List String :=
  groups.toList.map Prod.fst

/-- The index maps every key to its place, and nothing else. -/
def Indexed (groups : Groups α) : Prop :=
  ∀ (key : String) (place : Nat),
    groups.index[key]? = some place ↔ groups.keys[place]? = some key

theorem keys_eq (groups : Groups α) : groups.keys = groups.entries.toList.map Prod.fst := by
  simp [keys, toList]

theorem indexed_empty : ({} : Groups α).Indexed := by
  intro key place
  simp [keys, toList]

/-- A key that stands in two places would have two places in the index. -/
theorem Indexed.nodup {groups : Groups α} (h : groups.Indexed) : groups.keys.Nodup := by
  refine List.pairwise_iff_getElem.2 fun first second hfirst hsecond hlt hsame => ?_
  have hplace := (h _ first).2 (List.getElem?_eq_getElem hfirst)
  rw [hsame, (h _ second).2 (List.getElem?_eq_getElem hsecond)] at hplace
  exact absurd (Option.some.inj hplace) (by omega)

theorem Indexed.mem_keys {groups : Groups α} (h : groups.Indexed) (key : String) :
    key ∈ groups.keys ↔ ∃ place, groups.index[key]? = some place := by
  simp only [List.mem_iff_getElem?, h key]

/-- At the place of a key, its group takes the value. -/
theorem modify_eq_insertInto {key : String} {member : α} {place : Nat}
    {entries : List (String × Array α)} (hplace : (entries.map Prod.fst)[place]? = some key)
    (hnodup : (entries.map Prod.fst).Nodup) :
    (entries.modify place fun (key, members) => (key, members.push member)).map
        (fun (key, members) => (key, members.toList)) =
      insertInto key member (entries.map fun (key, members) => (key, members.toList)) := by
  induction entries generalizing place with
  | nil => simp at hplace
  | cons entry rest ih =>
      obtain ⟨other, members⟩ := entry
      obtain ⟨hfirst, hrest⟩ := List.nodup_cons.1 hnodup
      cases place with
      | zero =>
          obtain rfl : other = key := by simpa using hplace
          simp [insertInto]
      | succ place =>
          have hother : other ≠ key := fun heq => hfirst (heq ▸ List.mem_of_getElem? hplace)
          simpa [insertInto, hother] using ih hplace hrest

theorem keys_insertInto (key : String) (member : α) (groups : List (String × List α)) :
    (insertInto key member groups).map Prod.fst =
      if key ∈ groups.map Prod.fst then groups.map Prod.fst
      else groups.map Prod.fst ++ [key] := by
  induction groups with
  | nil => rfl
  | cons group rest ih =>
      obtain ⟨other, members⟩ := group
      by_cases hother : other = key
      · simp [insertInto, hother]
      · by_cases hmem : key ∈ rest.map Prod.fst <;>
          simp only [insertInto, if_neg hother, List.map_cons, ih, hmem, if_true, if_false,
            List.mem_cons, Ne.symm hother, false_or, List.cons_append]

theorem insertInto_of_not_mem {key : String} {member : α} {groups : List (String × List α)}
    (h : key ∉ groups.map Prod.fst) :
    insertInto key member groups = groups ++ [(key, [member])] := by
  induction groups with
  | nil => rfl
  | cons group rest ih =>
      obtain ⟨other, members⟩ := group
      simp only [List.map_cons, List.mem_cons, not_or] at h
      simp [insertInto, Ne.symm h.1, ih h.2]

/-- Inserting by index is inserting into the association list. -/
theorem Indexed.toList_insert {groups : Groups α} (h : groups.Indexed) (key : String)
    (member : α) :
    (groups.insert key member).toList = insertInto key member groups.toList := by
  cases hindex : groups.index[key]? with
  | some place =>
      have hplace := (h key place).1 hindex
      have hnodup := h.nodup
      rw [keys_eq] at hplace hnodup
      simpa [insert, hindex, toList] using modify_eq_insertInto hplace hnodup
  | none =>
      have hnew : key ∉ groups.keys := by simp [h.mem_keys, hindex]
      rw [insertInto_of_not_mem hnew]
      simp [insert, hindex, toList]

theorem Indexed.keys_insert {groups : Groups α} (h : groups.Indexed) (key : String)
    (member : α) :
    (groups.insert key member).keys =
      if key ∈ groups.keys then groups.keys else groups.keys ++ [key] := by
  rw [keys, h.toList_insert, keys_insertInto]
  rfl

theorem getElem?_concat_eq_some_iff (keys : List String) (key other : String) (place : Nat) :
    (keys ++ [key])[place]? = some other ↔
      keys[place]? = some other ∨ place = keys.length ∧ key = other := by
  rw [List.getElem?_append]
  split
  · next hlt => simp [Nat.ne_of_lt hlt]
  · next hge =>
      have hnone : keys[place]? = none := List.getElem?_eq_none (Nat.le_of_not_lt hge)
      have hlength : place - keys.length = 0 ↔ place = keys.length := by omega
      simp [hnone, List.getElem?_singleton, hlength]

theorem Indexed.insert {groups : Groups α} (h : groups.Indexed) (key : String) (member : α) :
    (groups.insert key member).Indexed := by
  intro other place
  rw [h.keys_insert]
  cases hindex : groups.index[key]? with
  | some first =>
      have hmem : key ∈ groups.keys := (h.mem_keys key).2 ⟨first, hindex⟩
      rw [if_pos hmem]
      simpa [Groups.insert, hindex] using h other place
  | none =>
      have hnew : key ∉ groups.keys := by simp [h.mem_keys, hindex]
      have hsize : groups.entries.size = groups.keys.length := by simp [keys_eq]
      rw [if_neg hnew, getElem?_concat_eq_some_iff, ← h other place]
      simp only [Groups.insert, hindex, hsize, Std.HashMap.getElem?_insert, beq_iff_eq]
      by_cases hother : key = other
      · subst hother
        simp [hindex, eq_comm]
      · simp [hother]

def insertAll (groups : Groups α) (pairs : List (String × α)) : Groups α :=
  pairs.foldl (fun groups (key, member) => groups.insert key member) groups

theorem insertAll_append (groups : Groups α) (pairs later : List (String × α)) :
    groups.insertAll (pairs ++ later) = (groups.insertAll pairs).insertAll later :=
  List.foldl_append

/-- Insertions from nothing gather their pairs, and the index stays true. -/
theorem gathered_insertAll (pairs : List (String × α)) :
    (({} : Groups α).insertAll pairs).Indexed ∧
      (({} : Groups α).insertAll pairs).toList = gathered pairs := by
  induction pairs using List.reverseRecOn with
  | nil => exact ⟨indexed_empty, by simp [insertAll, toList, gathered]⟩
  | append_singleton pairs pair ih =>
      obtain ⟨key, member⟩ := pair
      obtain ⟨hindexed, hgathered⟩ := ih
      rw [insertAll_append]
      refine ⟨hindexed.insert key member, ?_⟩
      rw [gathered_concat, ← hgathered]
      exact hindexed.toList_insert key member

theorem pairwise_mergeSort_key (groups : List (String × List α)) :
    (groups.mergeSort fun a b => Text.le a.1 b.1).Pairwise fun a b => Text.le a.1 b.1 := by
  have htrans (a b c : String × List α) : Text.le a.1 b.1 → Text.le b.1 c.1 → Text.le a.1 c.1 :=
    Text.le_trans a.1 b.1 c.1
  have htotal (a b : String × List α) : (Text.le a.1 b.1 || Text.le b.1 a.1) = true :=
    Text.le_total a.1 b.1
  exact List.pairwise_mergeSort htrans htotal _

/-- Sorting sorts the association list by key. -/
theorem toList_sort (groups : Groups α) :
    groups.sort.toList = groups.toList.mergeSort fun a b => Text.le a.1 b.1 := by
  simp only [sort, toList]
  exact List.map_mergeSort fun _ _ _ _ => rfl

theorem toList_sort_perm (groups : Groups α) : groups.sort.toList.Perm groups.toList := by
  rw [toList_sort]
  exact List.mergeSort_perm _ _

/-- Sorted groups with different keys strictly ascend. -/
theorem keys_sort_ascending {groups : Groups α} (h : groups.keys.Nodup) :
    groups.sort.keys.Pairwise fun a b => Text.bytes a.toList < Text.bytes b.toList := by
  have hsorted : groups.sort.keys.Pairwise fun a b => Text.le a b := by
    rw [keys, toList_sort, List.pairwise_map]
    exact pairwise_mergeSort_key groups.toList
  have hnodup : groups.sort.keys.Nodup := ((groups.toList_sort_perm.map _).nodup_iff).2 h
  exact (hsorted.and hnodup).imp fun ⟨hle, hne⟩ => Text.lt_of_le_of_ne hle hne

theorem memberCount_eq (groups : Groups α) :
    groups.memberCount = (pairsOf groups.toList).length := by
  have hcount (entries : List (String × Array α)) (count : Nat) :
      entries.foldl (fun count (_, members) => count + members.size) count =
        count + (pairsOf (entries.map fun (key, members) => (key, members.toList))).length := by
    induction entries generalizing count with
    | nil => rfl
    | cons entry rest ih =>
        rw [List.foldl_cons, ih]
        simp [pairsOf, Nat.add_assoc]
  rw [memberCount, hcount, Nat.zero_add, toList]

end Groups

end HistEdit
