import HistEdit.Pattern
import HistEdit.Pattern.Program

/-!
Running a matching machine. The machine tries ways through its program in their order of
preference and never comes twice to the same instruction at the same place of the text, so that a
search takes at most one step for each pair of the two. A match is looked for at one place after
the other. No thread leaves the text or goes back behind the place where it started, whatever the
program.
-/

namespace HistEdit.Pattern

/-- A machine under way: its instruction, its place in the text, and the places it remembers. -/
structure Thread where
  address : Nat
  place : Nat
  slots : Array (Option Nat)

structure Visited where
  width : Nat
  marks : Array Bool

def Visited.empty (addresses places : Nat) : Visited :=
  ⟨places, Array.replicate (addresses * places) false⟩

def Visited.contains (visited : Visited) (thread : Thread) : Bool :=
  visited.marks[thread.address * visited.width + thread.place]?.getD true

def Visited.insert (visited : Visited) (thread : Thread) : Visited :=
  { visited with
    marks := visited.marks.setIfInBounds (thread.address * visited.width + thread.place) true }

/-- Where threads that wait go on after one step of a thread. -/
def Thread.step (text : Array Char) (thread : Thread) (waiting : List Thread) :
    Inst → List Thread
  | .take set =>
    match text[thread.place]? with
    | some c =>
      if set.contains c then
        { thread with address := thread.address + 1, place := thread.place + 1 } :: waiting
      else waiting
    | none => waiting
  | .look look =>
    let before := if thread.place = 0 then none else text[thread.place - 1]?
    if look.holds before text[thread.place]? then
      { thread with address := thread.address + 1 } :: waiting
    else waiting
  | .save slot =>
    { thread with
      address := thread.address + 1
      slots := thread.slots.setIfInBounds slot (some thread.place) } :: waiting
  | .jump target => { thread with address := target } :: waiting
  | .fork first second =>
    { thread with address := first } :: { thread with address := second } :: waiting
  | .accept => waiting

/-- Lets the waiting threads run, the first one first, until one accepts. -/
def run (program : Array Inst) (text : Array Char) :
    Nat → Visited → List Thread → Visited × Option Thread
  | 0, visited, _ => (visited, none)
  | _ + 1, visited, [] => (visited, none)
  | fuel + 1, visited, thread :: waiting =>
    if visited.contains thread then run program text fuel visited waiting
    else
      match program[thread.address]? with
      | none => run program text fuel visited waiting
      | some .accept => (visited, some thread)
      | some inst =>
        run program text fuel (visited.insert thread) (thread.step text waiting inst)

/-- Looks for a match at a place and, if there is none, at the places after it. -/
def searchFrom (program : Array Inst) (slotCount : Nat) (text : Array Char) :
    Nat → Visited → Nat → Option Span
  | 0, _, _ => none
  | places + 1, visited, start =>
    let thread : Thread := ⟨0, start, Array.replicate slotCount none⟩
    match run program text (2 * program.size * (text.size + 1) + 2) visited [thread] with
    | (_, some thread) => some ⟨start, thread.place, thread.slots⟩
    | (visited, none) => searchFrom program slotCount text places visited (start + 1)

/-- The first match at or after a place, the one preferred among those that start there. -/
def search (program : Array Inst) (slotCount : Nat) (text : Array Char) (start : Nat) :
    Option Span :=
  searchFrom program slotCount text (text.size + 1 - start)
    (Visited.empty program.size (text.size + 1)) start

variable {text : Array Char} {start : Nat}

/-- Whether a thread that started at a place stands at it or behind it, inside the text. -/
def Thread.Within (text : Array Char) (start : Nat) (thread : Thread) : Prop :=
  start ≤ thread.place ∧ thread.place ≤ text.size

theorem Thread.Within.step {thread : Thread} {waiting : List Thread}
    (hthread : thread.Within text start) (hwaiting : ∀ other ∈ waiting, other.Within text start)
    (inst : Inst) : ∀ next ∈ thread.step text waiting inst, next.Within text start := by
  cases inst with
  | take set =>
      cases hread : text[thread.place]? with
      | none => simpa [Thread.step, hread] using hwaiting
      | some c =>
          have hplace : thread.place < text.size := (Array.getElem?_eq_some_iff.mp hread).1
          have hnext : Thread.Within text start
              { thread with address := thread.address + 1, place := thread.place + 1 } :=
            ⟨Nat.le_succ_of_le hthread.1, hplace⟩
          simp only [Thread.step, hread]
          split
          · exact List.forall_mem_cons.mpr ⟨hnext, hwaiting⟩
          · exact hwaiting
  | look look =>
      simp only [Thread.step]
      generalize (if thread.place = 0 then none else text[thread.place - 1]?) = before
      split
      · exact List.forall_mem_cons.mpr ⟨hthread, hwaiting⟩
      · exact hwaiting
  | save slot => exact List.forall_mem_cons.mpr ⟨hthread, hwaiting⟩
  | jump target => exact List.forall_mem_cons.mpr ⟨hthread, hwaiting⟩
  | fork first second =>
      exact List.forall_mem_cons.mpr ⟨hthread, List.forall_mem_cons.mpr ⟨hthread, hwaiting⟩⟩
  | accept => exact hwaiting

theorem run_within {program : Array Inst} {fuel : Nat} {visited : Visited} {waiting : List Thread}
    (hwaiting : ∀ thread ∈ waiting, thread.Within text start) {accepted : Thread}
    (h : (run program text fuel visited waiting).2 = some accepted) :
    accepted.Within text start := by
  induction fuel generalizing visited waiting with
  | zero => simp [run] at h
  | succ fuel ih =>
      cases waiting with
      | nil => simp [run] at h
      | cons thread waiting =>
          obtain ⟨hthread, hrest⟩ := List.forall_mem_cons.mp hwaiting
          simp only [run] at h
          split at h
          · exact ih hrest h
          · split at h
            · exact ih hrest h
            · obtain rfl : thread = accepted := by simpa using h
              exact hthread
            · exact ih (hthread.step hrest _) h

theorem searchFrom_within {program : Array Inst} {slotCount places : Nat} {visited : Visited}
    (hplaces : start + places ≤ text.size + 1) {span : Span}
    (h : searchFrom program slotCount text places visited start = some span) :
    span.Within text start := by
  induction places generalizing visited start with
  | zero => simp [searchFrom] at h
  | succ places ih =>
      simp only [searchFrom] at h
      split at h
      · rename_i visited' accepted hrun
        have hplace : start ≤ text.size := by omega
        have hstart : ∀ thread ∈ [Thread.mk 0 start (Array.replicate slotCount none)],
            thread.Within text start := by
          simpa using ⟨Nat.le_refl start, hplace⟩
        have haccepted := run_within hstart (congrArg Prod.snd hrun)
        obtain rfl : Span.mk start accepted.place accepted.slots = span := by simpa using h
        exact ⟨Nat.le_refl start, haccepted.1, haccepted.2⟩
      · have hlater : span.Within text (start + 1) := ih (by omega) h
        exact hlater.mono (Nat.le_succ start)

theorem search_within {program : Array Inst} {slotCount : Nat} (hstart : start ≤ text.size + 1)
    {span : Span} (h : search program slotCount text start = some span) :
    span.Within text start :=
  searchFrom_within (by omega) h

end HistEdit.Pattern
