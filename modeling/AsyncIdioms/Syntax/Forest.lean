/-
  Several stored trees side by side.

  * `Forest` : numbered trees; a number whose events told no tree holds none;
  * `Forest.Node` : a node that the forest has, with its tree at hand (`Forest.node?` finds it);
    nodes are compared by their references (`Forest.Node.ref`);
  * `Forest.isWithin` : whether a node is another one or lies below it.
-/
import AsyncIdioms.Code.NodeRef
import AsyncIdioms.Syntax.Arena

namespace AsyncIdioms.Syntax

open Code

/-- Numbered trees. -/
structure Forest where
  trees : Array (Option Arena) := #[]

namespace Forest

def tree? (f : Forest) (t : Nat) : Option Arena := (f.trees[t]?).join

/-- A node that the forest has. -/
structure Node (f : Forest) where
  tree : Nat
  arena : Arena
  isTree : f.tree? tree = some arena
  id : UInt32
  id_lt : id.toNat < arena.size

namespace Node

variable {f : Forest} (n : f.Node)

def ref : NodeRef := ⟨n.tree, n.id.toNat⟩

def entry : Entry :=
  have : n.id.toNat < n.arena.entries.size := n.id_lt
  n.arena.entries[n.id.toNat]

def kind : Kind := n.entry.kind

/-- The role in the parent. -/
def field : Option Field := n.entry.field

/-- The text of a token. -/
def tokenText? : Option String := n.entry.text

/-- The children, in document order. -/
def children : List f.Node :=
  (n.arena.children n.id).attach.map fun ⟨j, h⟩ =>
    { n with id := j, id_lt := n.arena.child_lt h }

end Node

/-- The node of a reference, if the forest has it. -/
def node? (f : Forest) (r : NodeRef) : Option f.Node :=
  match h : f.tree? r.tree with
  | none => none
  | some a =>
    let id := UInt32.ofNat r.id
    if hid : id.toNat = r.id ∧ r.id < a.size then
      some ⟨r.tree, a, h, id, hid.1 ▸ hid.2⟩
    else none

/-- Adds a tree and gives its number. -/
def push (f : Forest) (a : Arena) : Forest × Nat := (⟨f.trees.push (some a)⟩, f.trees.size)

/-- Is `n` the node `m`, or below it? Never, if they belong to two trees. -/
def isWithin {f : Forest} (n m : f.Node) : Bool :=
  n.tree == m.tree && n.arena.isWithin n.id m.id

end Forest

end AsyncIdioms.Syntax
