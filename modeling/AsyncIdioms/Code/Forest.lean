/-
  Several trees side by side, with numbers of nodes that have no bound.

  * `Forest` : numbered trees; a number whose events told no tree holds none;
  * `Forest.Node` : a node that the forest has, with its tree at hand (`Forest.node?` finds it);
  * `Forest.isWithin` : comparing nodes of the forest.
-/
import AsyncIdioms.Code.Arena
import AsyncIdioms.Code.NodeRef

namespace AsyncIdioms.Code

/-- Numbered trees. -/
structure Forest where
  trees : Array (Option Arena) := #[]

namespace Forest

def tree? (f : Forest) (t : Nat) : Option Arena := (f.trees[t]?).join

/-- A node that the forest has. -/
structure Node (f : Forest) where
  tree : Nat
  arena : Arena
  isTree : f.tree? tree = some arena
  id : Nat
  id_lt : id < arena.size

namespace Node

variable {f : Forest} (n : f.Node)

def ref : NodeRef := ⟨n.tree, n.id⟩

def entry : Entry :=
  have : n.id < n.arena.entries.size := n.id_lt
  n.arena.entries[n.id]

def kind : Kind := n.entry.kind

/-- The role in the parent. -/
def field : Option Field := n.entry.field

/-- The text of a token. -/
def tokenText? : Option String := n.entry.text

/-- The children, in document order. -/
def children : List f.Node :=
  (n.arena.children n.id).attach.map fun ⟨j, h⟩ =>
    { n with id := j, id_lt := (n.arena.child_bounds h).2 }

/-- The number of nodes at and below the node. -/
def treeSize : Nat := n.arena.treeSize n.id

theorem treeSize_eq : n.treeSize = 1 + total (n.children.map treeSize) := by
  have h : n.children.map treeSize = (n.arena.children n.id).map n.arena.treeSize := by
    rw [children, List.map_map]
    exact List.attach_map_val (f := n.arena.treeSize)
  rw [h]
  exact n.arena.treeSize_eq n.id

theorem treeSize_pos : 0 < n.treeSize := by
  rw [treeSize_eq]
  omega

end Node

/-- The node of a reference, if the forest has it. -/
def node? (f : Forest) (r : NodeRef) : Option f.Node :=
  match h : f.tree? r.tree with
  | none => none
  | some a => if hid : r.id < a.size then some ⟨r.tree, a, h, r.id, hid⟩ else none

/-- Is `n` the node `m`, or below it? Never, if they belong to two trees. -/
def isWithin (f : Forest) (n m : NodeRef) : Bool :=
  n.tree == m.tree && (f.tree? n.tree).any fun a => a.isWithin n.id m.id

end Forest

end AsyncIdioms.Code
