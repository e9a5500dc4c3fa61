import HistEdit.Proofs.BlockBody
import HistEdit.Proofs.ByteScan
import Mathlib.Order.Bounds.Basic

/-!
What a search through bytes finds. A search goes through the bytes once and carries one number: the
backslashes directly before the next byte, or the braces that are open. Here the searches are told
by positions instead. The next mark that is not escaped and the brace that closes another one are
the least positions with a property of the bytes up to them, and a search finds nothing exactly
when no position has it.
-/

namespace HistEdit.Cursor

open Text

/-- What a search may come out with: the least of the positions that it is for, or nothing where
there are none. -/
def Finds (positions : Set Nat) : Option Nat → Prop
  | some stop => IsLeast positions stop
  | none => positions = ∅

namespace Finds

variable {positions : Set Nat} {found : Option Nat}

theorem eq_some_iff (h : Finds positions found) (stop : Nat) :
    found = some stop ↔ IsLeast positions stop := by
  constructor
  · rintro rfl
    exact h
  · intro hstop
    cases found with
    | none => exact absurd hstop.1 (by simp [show positions = ∅ from h])
    | some least => exact congrArg some (IsLeast.unique h hstop)

theorem eq_none_iff (h : Finds positions found) : found = none ↔ ∀ i, i ∉ positions := by
  rw [← Set.eq_empty_iff_forall_notMem]
  constructor
  · rintro rfl
    exact h
  · intro hempty
    cases found with
    | none => rfl
    | some least => exact absurd (show IsLeast positions least from h).1 (by simp [hempty])

/-- No position comes before the first one. -/
theorem zero (h : 0 ∈ positions) : Finds positions (some 0) :=
  ⟨h, fun i _ => Nat.zero_le i⟩

/-- A search behind `start` bytes finds the same when no position is among these bytes. -/
theorem shift {start : Nat} (hstart : ∀ i ∈ positions, start ≤ i)
    (h : Finds {i | start + i ∈ positions} found) : Finds positions (found.map (start + ·)) := by
  cases found with
  | none =>
      refine Set.eq_empty_iff_forall_notMem.2 fun i hi => ?_
      have hbehind : i - start ∈ {i | start + i ∈ positions} := by
        simpa [Nat.add_sub_cancel' (hstart i hi)] using hi
      exact Set.eq_empty_iff_forall_notMem.1 h _ hbehind
  | some stop =>
      obtain ⟨hmem, hleast⟩ := h
      refine ⟨hmem, fun i hi => ?_⟩
      have hbehind : stop ≤ i - start :=
        hleast (by simpa [Nat.add_sub_cancel' (hstart i hi)] using hi)
      have hi := hstart i hi
      show start + stop ≤ i
      omega

/-- One byte further. -/
theorem succ (hzero : 0 ∉ positions) (h : Finds {i | i + 1 ∈ positions} found) :
    Finds positions (found.map (· + 1)) := by
  simp only [Nat.add_comm _ 1] at h ⊢
  refine shift (fun i hi => ?_) h
  rcases Nat.eq_zero_or_pos i with rfl | hpos
  · exact absurd hi hzero
  · exact hpos

end Finds

/-- The bytes from one position up to another, each of them taken as a character. -/
def charsBetween (bytes : List UInt8) (start stop : Nat) : List Char :=
  ((bytes.take stop).drop start).map .ofUInt8

theorem charsBetween_add (bytes : List UInt8) (start size : Nat) :
    charsBetween bytes start (start + size) = ((bytes.drop start).take size).map .ofUInt8 := by
  rw [charsBetween, List.drop_take, Nat.add_sub_cancel_left]

theorem charsBetween_self (bytes : List UInt8) (start : Nat) :
    charsBetween bytes start start = [] := by
  simp [charsBetween]

theorem charsBetween_concat {bytes : List UInt8} {start stop : Nat} {byte : UInt8}
    (hstart : start ≤ stop) (hbyte : bytes[stop]? = some byte) :
    charsBetween bytes start (stop + 1) = charsBetween bytes start stop ++ [.ofUInt8 byte] := by
  have hinside : stop < bytes.length := (List.getElem?_eq_some_iff.1 hbyte).1
  rw [charsBetween, charsBetween, List.take_add_one, hbyte, Option.toList_some,
    List.drop_append_of_le_length (by rw [List.length_take]; omega), List.map_append,
    List.map_singleton]

/-- How many backslashes stand directly before the next byte, when `run` of them stand before the
last one. -/
def runStep (run : Nat) (byte : UInt8) : Nat :=
  if Char.ofUInt8 byte = '\\' then run + 1 else 0

/-- The number that the search for a mark carries is that of the backslashes that end the bytes
behind it. -/
theorem foldl_runStep (bytes : List UInt8) :
    bytes.foldl runStep 0 = Clause.backslashes (bytes.map .ofUInt8) := by
  induction bytes using List.reverseRecOn with
  | nil => rfl
  | append_singleton bytes byte ih =>
      rw [List.foldl_concat, ih, List.map_append, List.map_singleton, Clause.backslashes_concat,
        runStep]

/-- One step of the search for a mark, with backslashes and other bytes treated alike. -/
theorem findUnescaped_cons {mark : UInt8} (hmark : Char.ofUInt8 mark ≠ '\\') (backslashes : Nat)
    (byte : UInt8) (bytes : List UInt8) :
    findUnescaped mark backslashes (byte :: bytes) =
      if byte = mark ∧ Even backslashes then some 0
      else (findUnescaped mark (runStep backslashes byte) bytes).map (· + 1) := by
  simp only [findUnescaped, runStep, Nat.even_iff]
  by_cases hslash : Char.ofUInt8 byte = '\\'
  · have hne : byte ≠ mark := by
      rintro rfl
      exact hmark hslash
    simp [hslash, hne]
  · simp [hslash]

/-- The search for a mark finds the first one behind an even number of backslashes, when the
backslashes that stand before all bytes count as well. -/
theorem findUnescaped_finds {mark : UInt8} (hmark : Char.ofUInt8 mark ≠ '\\') (backslashes : Nat)
    (bytes : List UInt8) :
    Finds {i | bytes[i]? = some mark ∧ Even ((bytes.take i).foldl runStep backslashes)}
      (findUnescaped mark backslashes bytes) := by
  induction bytes generalizing backslashes with
  | nil => simp [Finds, findUnescaped]
  | cons byte bytes ih =>
      rw [findUnescaped_cons hmark]
      by_cases hstop : byte = mark ∧ Even backslashes
      · rw [if_pos hstop]
        exact .zero (by simpa using hstop)
      · rw [if_neg hstop]
        exact .succ (by simpa using hstop) (by simpa using ih (runStep backslashes byte))

/-- A backslash is never found: the search counts it and goes on. -/
theorem findUnescaped_backslash {mark : UInt8} (hmark : Char.ofUInt8 mark = '\\')
    (backslashes : Nat) (bytes : List UInt8) : findUnescaped mark backslashes bytes = none := by
  induction bytes generalizing backslashes with
  | nil => rfl
  | cons byte bytes ih =>
      have hne : Char.ofUInt8 byte ≠ '\\' → byte ≠ mark := by
        rintro hslash rfl
        exact hslash hmark
      rw [findUnescaped, ih, ih]
      by_cases hslash : Char.ofUInt8 byte = '\\'
      · simp [hslash]
      · simp [hslash, hne hslash]

/-- One byte opens a brace, closes one or leaves their number. -/
theorem depthStep_count {depth next : Nat} {c : Char} (h : Clause.depthStep depth c = some next) :
    depth + [c].count '\x7b' = next + [c].count '\x7d' :=
  (Clause.depthAfter_eq_some_iff.1 (by simpa [Clause.depthAfter_cons] using h)).1

/-- The search for a brace finds the first position where the braces that were open, and those
opened since, are all closed. It always comes out with an answer, so its count is never below
zero. -/
theorem findBrace_finds (depth : Nat) (bytes : List UInt8) :
    ∃ found, findBrace (depth + 1) bytes = some found ∧
      Finds {i | i < bytes.length ∧
        depth + 1 + ((bytes.take (i + 1)).map Char.ofUInt8).count '\x7b' =
          ((bytes.take (i + 1)).map Char.ofUInt8).count '\x7d'} found := by
  induction bytes generalizing depth with
  | nil => exact ⟨none, rfl, by simp [Finds]⟩
  | cons byte bytes ih =>
      rw [findBrace_cons]
      cases hstep : Clause.depthStep depth (.ofUInt8 byte) with
      | none =>
          obtain ⟨hclose, rfl⟩ := Clause.depthStep_eq_none_iff.1 hstep
          exact ⟨some 0, rfl, .zero (by simp [hclose])⟩
      | some next =>
          obtain ⟨found, hfound, hfinds⟩ := ih next
          have hcount := depthStep_count hstep
          refine ⟨found.map (· + 1), by simp [hfound], .succ ?_ ?_⟩
          · rintro ⟨-, hall⟩
            simp only [List.take_succ_cons, List.take_zero, List.map_cons, List.map_nil] at hall
            omega
          · -- behind the byte the count goes on from the braces that it leaves open
            convert hfinds using 1
            ext i
            simp only [Set.mem_ofPred_eq, List.length_cons, Nat.add_lt_add_iff_right,
              List.take_succ_cons, List.map_cons]
            simp only [List.count_cons, List.count_nil] at hcount ⊢
            exact and_congr_right fun _ => by omega

/-- A position behind `opening` that has the byte that stands there, with an even number of
backslashes directly before it; those at `opening` or before it do not count. -/
structure Marks (bytes : List UInt8) (opening : Nat) (mark : UInt8) (i : Nat) : Prop where
  behind : opening < i
  marked : bytes[i]? = some mark
  unescaped : Even (Clause.backslashes (charsBetween bytes (opening + 1) i))

/-- A position from `opening` on up to which as many braces are closed as opened. -/
structure Balances (bytes : List UInt8) (opening i : Nat) : Prop where
  from_opening : opening ≤ i
  inside : i < bytes.length
  balanced : (charsBetween bytes opening (i + 1)).count '\x7b' =
    (charsBetween bytes opening (i + 1)).count '\x7d'

section

variable {bytes : List UInt8} {opening : Nat} {mark : UInt8}

theorem nextUnescaped_finds (hopening : bytes[opening]? = some mark)
    (hmark : Char.ofUInt8 mark ≠ '\\') :
    ∃ found, nextUnescaped bytes opening = some found ∧
      Finds {i | Marks bytes opening mark i} found := by
  have hfinds := findUnescaped_finds hmark 0 (bytes.drop (opening + 1))
  refine ⟨(findUnescaped mark 0 (bytes.drop (opening + 1))).map (opening + 1 + ·),
    by simp only [nextUnescaped, hopening], .shift (fun i hi => hi.behind) ?_⟩
  convert hfinds using 1
  ext i
  simp only [Set.mem_ofPred_eq, List.getElem?_drop, foldl_runStep]
  rw [← charsBetween_add]
  exact ⟨fun h => ⟨h.marked, h.unescaped⟩, fun h => ⟨by omega, h.1, h.2⟩⟩

/-- A backslash at the opening position is never found again. -/
theorem nextUnescaped_backslash (hopening : bytes[opening]? = some mark)
    (hmark : Char.ofUInt8 mark = '\\') : nextUnescaped bytes opening = some none := by
  simp only [nextUnescaped, hopening, findUnescaped_backslash hmark, Option.map_none]

theorem matchingBrace_finds (hopening : bytes[opening]? = some mark)
    (hmark : Char.ofUInt8 mark = '\x7b') :
    ∃ found, matchingBrace bytes opening = some found ∧
      Finds {i | Balances bytes opening i} found := by
  obtain ⟨hinside, hget⟩ := List.getElem?_eq_some_iff.1 hopening
  obtain ⟨found, hfound, hfinds⟩ := findBrace_finds 0 (bytes.drop (opening + 1))
  have hdrop : bytes.drop opening = mark :: bytes.drop (opening + 1) := by
    rw [List.drop_eq_getElem_cons hinside, hget]
  refine ⟨(found.map (· + 1)).map (opening + ·), ?_, .shift (fun i hi => hi.from_opening) ?_⟩
  · simp [matchingBrace, hdrop, findBrace, hmark, hfound]
  · have hbalances (i : Nat) : Balances bytes opening (opening + i) ↔
        i < (bytes.drop opening).length ∧
          (((bytes.drop opening).take (i + 1)).map Char.ofUInt8).count '\x7b' =
            (((bytes.drop opening).take (i + 1)).map Char.ofUInt8).count '\x7d' := by
      rw [← charsBetween_add, List.length_drop, Nat.lt_sub_iff_add_lt']
      exact ⟨fun h => ⟨h.inside, h.balanced⟩, fun h => ⟨by omega, h.1, h.2⟩⟩
    simp only [Set.mem_ofPred_eq, hbalances, hdrop]
    refine .succ (by simp [hmark]) ?_
    convert hfinds using 1
    ext i
    simp only [Set.mem_ofPred_eq, List.length_cons, List.take_succ_cons, List.map_cons, hmark]
    simp [Nat.add_comm 1]

/-- Braces are closed one at a time, so as long as no position balances them fewer are closed than
opened. -/
theorem closed_lt_opened (hopening : bytes[opening]? = some mark)
    (hmark : Char.ofUInt8 mark = '\x7b') {i : Nat} (hi : opening ≤ i) (hinside : i < bytes.length)
    (hnone : ∀ j ≤ i, ¬Balances bytes opening j) :
    (charsBetween bytes opening (i + 1)).count '\x7d' <
      (charsBetween bytes opening (i + 1)).count '\x7b' := by
  induction i, hi using Nat.le_induction with
  | base => simp [charsBetween_concat le_rfl hopening, charsBetween_self, hmark]
  | succ i hi ih =>
      have hbefore := ih (by omega) fun j hj => hnone j (by omega)
      have hunequal : (charsBetween bytes opening (i + 1 + 1)).count '\x7b' ≠
          (charsBetween bytes opening (i + 1 + 1)).count '\x7d' :=
        fun hcount => hnone (i + 1) le_rfl ⟨by omega, hinside, hcount⟩
      rw [charsBetween_concat (by omega) (List.getElem?_eq_getElem hinside), List.count_append,
        List.count_append] at hunequal ⊢
      have hone : [Char.ofUInt8 bytes[i + 1]].count '\x7d' ≤ 1 := List.count_le_length
      omega

/-- A search finds the least position with the property that it is for, and nothing exactly when no
position has it. Where the byte at `opening` is no backslash, the search for a mark finds the next
position with this byte and an even number of backslashes before it. Where the byte is an opening
brace, the search for a brace finds the first position where as many braces are closed as opened;
its count is never below zero, as no more braces are closed than opened at any byte that it
passes. -/
theorem searches_find_least (hopening : bytes[opening]? = some mark) :
    (Char.ofUInt8 mark ≠ '\\' →
      ∃ found, nextUnescaped bytes opening = some found ∧
        (∀ stop, found = some stop ↔ IsLeast {i | Marks bytes opening mark i} stop) ∧
        (found = none ↔ ∀ i, ¬Marks bytes opening mark i)) ∧
      (Char.ofUInt8 mark = '\x7b' →
        ∃ found, matchingBrace bytes opening = some found ∧
          (∀ stop, found = some stop ↔ IsLeast {i | Balances bytes opening i} stop) ∧
          (found = none ↔ ∀ i, ¬Balances bytes opening i) ∧
          ∀ i, opening ≤ i → i < bytes.length → (∀ stop, found = some stop → i ≤ stop) →
            (charsBetween bytes opening (i + 1)).count '\x7d' ≤
              (charsBetween bytes opening (i + 1)).count '\x7b') := by
  refine ⟨fun hmark => ?_, fun hmark => ?_⟩
  · obtain ⟨found, hfound, hfinds⟩ := nextUnescaped_finds hopening hmark
    exact ⟨found, hfound, hfinds.eq_some_iff, hfinds.eq_none_iff⟩
  · obtain ⟨found, hfound, hfinds⟩ := matchingBrace_finds hopening hmark
    refine ⟨found, hfound, hfinds.eq_some_iff, hfinds.eq_none_iff, fun i hi hinside hpassed => ?_⟩
    by_cases hbalances : Balances bytes opening i
    · exact hbalances.balanced.ge
    · refine (closed_lt_opened hopening hmark hi hinside fun j hj hbalanced => ?_).le
      -- a position that balances the braces is not before the one that is found
      cases found with
      | none => exact hfinds.eq_none_iff.1 rfl j hbalanced
      | some stop =>
          have hle : stop ≤ j := ((hfinds.eq_some_iff stop).1 rfl).2 hbalanced
          obtain rfl : j = i := Nat.le_antisymm hj ((hpassed stop rfl).trans hle)
          exact hbalances hbalanced

end

/-- The mark behind a backslash is passed over, and so is the brace that closes an inner one. -/
theorem searches_find_least_passing :
    IsLeast {i | Marks (bytes "/a\\/b/".toList) 0 47 i} 5 ∧
      IsLeast {i | Balances (bytes "\x7b a \x7b b \x7d c \x7d".toList) 0 i} 12 := by
  constructor
  · obtain ⟨found, hfound, hleast, -⟩ :=
      (@searches_find_least (bytes "/a\\/b/".toList) 0 47 (by decide)).1 (by decide)
    have hstop : nextUnescaped (bytes "/a\\/b/".toList) 0 = some (some 5) := by decide
    exact (hleast 5).1 (Option.some.inj (hfound.symm.trans hstop))
  · obtain ⟨found, hfound, hleast, -⟩ :=
      (@searches_find_least (bytes "\x7b a \x7b b \x7d c \x7d".toList) 0 123 (by decide)).2
        (by decide)
    have hstop : matchingBrace (bytes "\x7b a \x7b b \x7d c \x7d".toList) 0 =
        some (some 12) := by decide
    exact (hleast 12).1 (Option.some.inj (hfound.symm.trans hstop))

end HistEdit.Cursor
