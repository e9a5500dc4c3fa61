import HistEdit.Document.Load

/-!
Flattening a document is a walk in document order. The walk below carries no state: it lists every
histogram once, with the names of the directories around it. Visiting finds what the walk lists and
leaves the open directories as they were.
-/

namespace HistEdit

mutual

/-- The histograms of a node in document order, each with the names of the directories around it,
outermost first. -/
def Node.entries (above : List String) : Node → List (List String × Histogram)
  | .histogram record => [(above, record)]
  | .directory name nodes => entriesAll (above ++ [name]) nodes

def entriesAll (above : List String) : List Node → List (List String × Histogram)
  | [] => []
  | node :: nodes => node.entries above ++ entriesAll above nodes

end

def Document.entries (document : Document) : List (List String × Histogram) :=
  entriesAll [] document.nodes

def Histogram.placed (origin : String) (entry : List String × Histogram) : Histogram :=
  { entry.2 with path := "/".intercalate entry.1, origin }

def Walk.find (walk : Walk) (origin : String) (entries : List (List String × Histogram)) : Walk :=
  { walk with found := walk.found ++ (entries.map (Histogram.placed origin)).toArray }

theorem Walk.find_append (walk : Walk) (origin : String)
    (entries later : List (List String × Histogram)) :
    walk.find origin (entries ++ later) = (walk.find origin entries).find origin later := by
  simp [find, Array.append_assoc]

mutual

theorem Node.visit_eq (origin : String) (walk : Walk) (node : Node) :
    node.visit origin walk = walk.find origin (node.entries walk.directories.toList) := by
  cases node with
  | histogram record => simp [Node.visit, Node.entries, Walk.find, Histogram.placed]
  | directory name nodes =>
      -- the name that was pushed is the one that is popped
      have hinside :=
        visitAll_eq origin { walk with directories := walk.directories.push name } nodes
      simp only [Array.toList_push] at hinside
      simp [Node.visit, Node.entries, hinside, Walk.find]

/-- Visiting nodes finds their entries and leaves the open directories as they were. -/
theorem visitAll_eq (origin : String) (walk : Walk) (nodes : List Node) :
    visitAll origin walk nodes = walk.find origin (entriesAll walk.directories.toList nodes) := by
  cases nodes with
  | nil => simp [visitAll, entriesAll, Walk.find]
  | cons node nodes =>
      rw [visitAll, Node.visit_eq origin walk node, visitAll_eq origin _ nodes, entriesAll,
        Walk.find_append]
      rfl

end

theorem Document.histograms_eq (document : Document) (fallback : String) :
    document.histograms fallback =
      document.entries.map (Histogram.placed (document.origin fallback)) := by
  simp [histograms, visitAll_eq, Walk.find, entries]

end HistEdit
