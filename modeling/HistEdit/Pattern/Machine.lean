import HistEdit.Pattern.GroupNames
import HistEdit.Pattern.Search

/-!
The engine of the program. It makes a machine of the pattern that it reads, unless the machine would
take too much room.
-/

namespace HistEdit.Pattern

/-- How much room the machine of a pattern may take. -/
def maxWeight : Nat := 327680

def ofReading (source : String) (reading : Reading)
    (hreading : read? source.toList = some reading) : Pattern where
  source
  groups := reading.groups
  names := reading.names
  find? text start := search reading.tree.program (2 * (reading.groups + 1)) text start
  find?_within hstart hfound := search_within hstart hfound
  isGroupNameChar_of_mem hentry := isGroupName_of_read? hreading _ hentry _

instance : PatternEngine where
  compile? source := do
    let ⟨reading, hreading⟩ ← (read? source.toList).attach
    if maxWeight < reading.tree.weight then none else some (ofReading source reading hreading)
  source_of_compile? := by
    intro source pattern h
    obtain ⟨⟨reading, hreading⟩, -, h⟩ := Option.bind_eq_some_iff.1 h
    simp only at h
    split at h
    · simp at h
    · rw [← Option.some.inj h]
      rfl

end HistEdit.Pattern
