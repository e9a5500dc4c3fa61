import HistEdit.Histogram

/-!
Documents as trees: directories that hold histograms and further directories. Flattening walks the
tree depth first in document order, with the names of the open directories on a stack, and tells
every histogram where it was found.
-/

namespace HistEdit

inductive Node where
  | histogram (record : Histogram)
  | directory (name : String) (nodes : List Node)
  deriving Inhabited

structure Document where
  name : Option String := none
  nodes : List Node := []

/-- A walk under way: the names of the open directories, outermost first, and what was found. -/
structure Walk where
  directories : Array String := #[]
  found : Array Histogram := #[]

mutual

/-- Visits one node. A directory is open while its nodes are visited. -/
def Node.visit (origin : String) (walk : Walk) : Node → Walk
  | .histogram record =>
    let path := "/".intercalate walk.directories.toList
    { walk with found := walk.found.push { record with path, origin } }
  | .directory name nodes =>
    let inside := visitAll origin { walk with directories := walk.directories.push name } nodes
    { inside with directories := inside.directories.pop }

def visitAll (origin : String) (walk : Walk) : List Node → Walk
  | [] => walk
  | node :: nodes => visitAll origin (node.visit origin walk) nodes

end

/-- What a document is called: its name unless that is absent or empty. -/
def Document.origin (document : Document) (fallback : String) : String :=
  match document.name with
  | some name => if name.isEmpty then fallback else name
  | none => fallback

def Document.histograms (document : Document) (fallback : String) : List Histogram :=
  (visitAll (document.origin fallback) {} document.nodes).found.toList

end HistEdit
