/-
  References to nodes.

  A `NodeRef` says which node of which tree is meant, by their numbers. Two references are the same node
  exactly if they are equal, also where two trees are alike.
-/
namespace AsyncIdioms.Code

/-- A node of some tree of a forest. -/
structure NodeRef where
  tree : Nat
  id : Nat
  deriving DecidableEq, Repr

/-- A node by its number in its tree, as in `#3`. -/
def nodeName (i : Nat) : String := "#" ++ toString i

/-- The number of different nodes in a list. -/
def distinctCount (nodes : List NodeRef) : Nat := nodes.eraseDups.length

end AsyncIdioms.Code
