import HistEdit.Proofs.Traversal

/-!
Document order. A histogram lies in a document at an address: the places of the nodes on the way
down to it, of which the last is its own. Flattening lists the histograms in the lexicographic order
of their addresses, which is depth-first order, each one once and under the names of the directories
that its address goes through.
-/

namespace HistEdit

/-- A histogram of a document, with its address and the names of the directories around it, both
from the top. -/
structure Leaf where
  address : List Nat
  above : List String
  record : Histogram

/-- A histogram lies among some nodes, at an address and below named directories. -/
inductive Lies : List Node → Leaf → Prop where
  | here {nodes : List Node} {place : Nat} {record : Histogram}
      (h : nodes[place]? = some (.histogram record)) : Lies nodes ⟨[place], [], record⟩
  | inside {nodes children : List Node} {place : Nat} {name : String} {leaf : Leaf}
      (h : nodes[place]? = some (.directory name children)) (hleaf : Lies children leaf) :
      Lies nodes ⟨place :: leaf.address, name :: leaf.above, leaf.record⟩

/-- Leaves that are the histograms among some nodes, in document order and each of them once. -/
structure InDocumentOrder (nodes : List Node) (leaves : List Leaf) : Prop where
  ascending : leaves.Pairwise fun a b => a.address < b.address
  mem_iff : ∀ leaf, leaf ∈ leaves ↔ Lies nodes leaf

/-- What flattening makes of a histogram below some open directories: it is told its path and its
origin, and keeps all else. -/
def Leaf.placed (origin : String) (opened : List String) (leaf : Leaf) : Histogram :=
  { leaf.record with path := "/".intercalate (opened ++ leaf.above), origin }

/-- A leaf of the node at a place, its address taken from above that node. -/
def Leaf.behind (place : Nat) (leaf : Leaf) : Leaf :=
  { leaf with address := place :: leaf.address }

def Leaf.within (name : String) (leaf : Leaf) : Leaf :=
  { leaf with above := name :: leaf.above }

mutual

/-- The leaves of a node; its own address is not part of theirs. -/
def Node.leaves : Node → List Leaf
  | .histogram record => [⟨[], [], record⟩]
  | .directory name nodes => (leavesFrom 0 nodes).map (Leaf.within name)

def leavesFrom (place : Nat) : List Node → List Leaf
  | [] => []
  | node :: nodes => node.leaves.map (Leaf.behind place) ++ leavesFrom (place + 1) nodes

end

theorem mem_leavesFrom {place : Nat} {nodes : List Node} {leaf : Leaf} :
    leaf ∈ leavesFrom place nodes ↔
      ∃ (further : Nat) (node : Node), nodes[further]? = some node ∧
        ∃ own ∈ node.leaves, own.behind (place + further) = leaf := by
  induction nodes generalizing place with
  | nil => simp [leavesFrom]
  | cons first nodes ih =>
      rw [leavesFrom, List.mem_append, List.mem_map, ih]
      constructor
      · rintro (⟨own, hown, rfl⟩ | ⟨further, node, hnode, own, hown, rfl⟩)
        · exact ⟨0, first, rfl, own, hown, rfl⟩
        · refine ⟨further + 1, node, hnode, own, hown, ?_⟩
          rw [Nat.add_right_comm, Nat.add_assoc]
      · rintro ⟨further, node, hnode, own, hown, rfl⟩
        cases further with
        | zero =>
            obtain rfl : first = node := by simpa using hnode
            exact .inl ⟨own, hown, rfl⟩
        | succ further =>
            refine .inr ⟨further, node, hnode, own, hown, ?_⟩
            rw [Nat.add_right_comm, Nat.add_assoc]

/-- The leaves of nodes are all that lies among them. -/
theorem mem_leavesFrom_iff_lies {nodes : List Node} {leaf : Leaf} :
    leaf ∈ leavesFrom 0 nodes ↔ Lies nodes leaf := by
  constructor
  · -- by induction on the address, which gets shorter on the way down
    obtain ⟨address, above, record⟩ := leaf
    intro hleaf
    induction address generalizing nodes above with
    | nil =>
        obtain ⟨_, _, _, _, _, hleaf⟩ := mem_leavesFrom.1 hleaf
        simp [Leaf.behind] at hleaf
    | cons place address ih =>
        obtain ⟨further, node, hnode, own, hown, hleaf⟩ := mem_leavesFrom.1 hleaf
        rw [Nat.zero_add] at hleaf
        cases node with
        | histogram found =>
            rw [Node.leaves, List.mem_singleton] at hown
            subst hown
            obtain ⟨⟨rfl, rfl⟩, rfl, rfl⟩ := by simpa [Leaf.behind] using hleaf
            exact .here hnode
        | directory name children =>
            rw [Node.leaves, List.mem_map] at hown
            obtain ⟨inner, hinner, rfl⟩ := hown
            obtain ⟨⟨rfl, rfl⟩, rfl, rfl⟩ := by simpa [Leaf.behind, Leaf.within] using hleaf
            exact .inside hnode (ih inner.above hinner)
  · intro hlies
    induction hlies with
    | here h =>
        exact mem_leavesFrom.2 ⟨_, _, h, _, List.mem_singleton_self _, by simp [Leaf.behind]⟩
    | inside h _ ih =>
        refine mem_leavesFrom.2 ⟨_, _, h, _, List.mem_map_of_mem ih, ?_⟩
        simp [Leaf.behind, Leaf.within]

mutual

theorem Node.leaves_ascending (node : Node) :
    node.leaves.Pairwise fun a b => a.address < b.address := by
  cases node with
  | histogram record => exact List.pairwise_singleton _ _
  | directory name nodes =>
      rw [Node.leaves, List.pairwise_map]
      exact leavesFrom_ascending 0 nodes

theorem leavesFrom_ascending (place : Nat) (nodes : List Node) :
    (leavesFrom place nodes).Pairwise fun a b => a.address < b.address := by
  cases nodes with
  | nil => exact List.Pairwise.nil
  | cons node nodes =>
      rw [leavesFrom, List.pairwise_append, List.pairwise_map]
      refine ⟨?_, leavesFrom_ascending (place + 1) nodes, ?_⟩
      · exact (Node.leaves_ascending node).imp fun h => List.cons_lt_cons_self.2 h
      · -- the leaves of later nodes have a larger first place
        intro earlier hearlier later hlater
        obtain ⟨own, -, rfl⟩ := List.mem_map.1 hearlier
        obtain ⟨further, _, _, other, -, rfl⟩ := mem_leavesFrom.1 hlater
        exact List.Lex.rel (by omega)

end

theorem inDocumentOrder_leavesFrom (nodes : List Node) :
    InDocumentOrder nodes (leavesFrom 0 nodes) :=
  ⟨leavesFrom_ascending 0 nodes, fun _ => mem_leavesFrom_iff_lies⟩

mutual

theorem Node.entries_eq (above : List String) (node : Node) :
    node.entries above = node.leaves.map fun leaf => (above ++ leaf.above, leaf.record) := by
  cases node with
  | histogram record => simp [Node.entries, Node.leaves]
  | directory name nodes =>
      rw [Node.entries, Node.leaves, entriesAll_eq (above ++ [name]) 0 nodes, List.map_map]
      simp [Leaf.within, Function.comp_def]

theorem entriesAll_eq (above : List String) (place : Nat) (nodes : List Node) :
    entriesAll above nodes =
      (leavesFrom place nodes).map fun leaf => (above ++ leaf.above, leaf.record) := by
  cases nodes with
  | nil => rfl
  | cons node nodes =>
      rw [entriesAll, leavesFrom, Node.entries_eq above node,
        entriesAll_eq above (place + 1) nodes, List.map_append, List.map_map]
      rfl

end

theorem toList_found_visitAll (origin : String) (walk : Walk) (nodes : List Node) :
    (visitAll origin walk nodes).found.toList =
      walk.found.toList ++
        (leavesFrom 0 nodes).map (Leaf.placed origin walk.directories.toList) := by
  rw [visitAll_eq, Walk.find, entriesAll_eq _ 0 nodes]
  simp [Histogram.placed, Leaf.placed, Function.comp_def]

/-- Flattening a document gives each of its histograms once, in document order. Each one is told the
names of the directories around it, from the top and joined by slashes, and the name of the
document, or the fallback when that is absent or empty; whatever path and origin it came with are
gone, and all else stays. Nodes are visited like this in the middle of any walk, which then has the
same directories open as before. -/
theorem Document.histograms_inDocumentOrder (document : Document) (fallback : String) :
    (∃ leaves, InDocumentOrder document.nodes leaves ∧
      document.histograms fallback = leaves.map fun leaf =>
        { leaf.record with
          path := "/".intercalate leaf.above, origin := document.origin fallback }) ∧
    (document.name = none ∨ document.name = some "" → document.origin fallback = fallback) ∧
    (∀ name, document.name = some name → name ≠ "" → document.origin fallback = name) ∧
    ∀ (origin : String) (walk : Walk) (nodes : List Node),
      let visited := visitAll origin walk nodes
      visited.directories = walk.directories ∧
        ∃ leaves, InDocumentOrder nodes leaves ∧
          visited.found.toList = walk.found.toList ++ leaves.map fun leaf =>
            { leaf.record with
              path := "/".intercalate (walk.directories.toList ++ leaf.above), origin } := by
  refine ⟨⟨_, inDocumentOrder_leavesFrom document.nodes, ?_⟩, ?_, ?_, ?_⟩
  · exact toList_found_visitAll (document.origin fallback) {} document.nodes
  · rintro (hname | hname) <;> simp [origin, hname]
  · intro name hname hne
    simp [origin, hname, hne]
  · intro origin walk nodes visited
    refine ⟨?_, _, inDocumentOrder_leavesFrom nodes, toList_found_visitAll origin walk nodes⟩
    change (visitAll origin walk nodes).directories = _
    rw [visitAll_eq, Walk.find]

end HistEdit
