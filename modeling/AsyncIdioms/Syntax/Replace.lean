/-
  Replacing many nodes of a stored tree at once.

  `Forest.replace` copies the tree below a root and puts, in place of each old node that is met, a
  copy of the new one. All replacements are looked up in the tree as it was: what stands below a
  replaced node, and what is put there, is not looked up again.

  * `Work.turn` : one turn takes the topmost step off a stack and tells the new tree to a builder;
  * `replacementTable` holds the new nodes by the numbers of the old ones;
  * two replacements of one node are refused (`ReplaceError.duplicateTarget`).
-/
import AsyncIdioms.Code.Replacement
import AsyncIdioms.Syntax.Build
import AsyncIdioms.Syntax.Forest

namespace AsyncIdioms.Syntax

open Code

/-- An old node and the one whose copy takes its place. -/
structure Forest.Replacement (f : Forest) where
  old : f.Node
  new : f.Node

variable {f : Forest}

/-! ## Steps -/

/-- What is left to do. -/
inductive Step (f : Forest) where
  /-- Copy a node, in the role `field`. In copies of new nodes nothing is looked up. -/
  | enter (node : f.Node) (field : Option Field) (lookup : Bool)
  /-- Finish the innermost open node. -/
  | exit

/-- The steps for the children of a node. -/
def Step.below (n : f.Node) (lookup : Bool) : List (Step f) :=
  n.children.map fun c => enter c c.field lookup

/-- What is left to do, topmost first, the tree that has been told so far, and the numbers of the old
    nodes met. -/
structure Work (f : Forest) where
  stack : List (Step f)
  builder : Builder := .empty
  applied : List UInt32 := []

/-- The new node for `n`, unless nothing is looked up. -/
def newNode? (table : List (UInt32 × f.Node)) (n : f.Node) (lookup : Bool) : Option f.Node :=
  if lookup then table.lookup n.id else none

namespace Work

/-- At first there is one step, for the root. -/
def start (root : f.Node) : Work f := { stack := [.enter root none true] }

/-- Takes the topmost step off the stack, if there is one. -/
def turn (table : List (UInt32 × f.Node)) (w : Work f) : Option (Work f) :=
  match w.stack with
  | [] => none
  | .exit :: stack => some { w with stack, builder := w.builder.finish }
  | .enter n field lookup :: stack =>
    match newNode? table n lookup with
    | some new =>
      some { w with stack := .enter new field false :: stack, applied := w.applied.insert n.id }
    | none =>
      match n.tokenText? with
      | some text => some { w with stack, builder := w.builder.token n.kind field text }
      | none =>
        some { w with
          stack := Step.below n lookup ++ .exit :: stack
          builder := w.builder.start n.kind field }

end Work

/-! ## Replacing -/

/-- The new nodes by the numbers of the old ones, as far as these belong to the tree of `root`. -/
def replacementTable (root : f.Node) (pairs : List f.Replacement) : List (UInt32 × f.Node) :=
  (pairs.filter fun r => r.old.tree == root.tree).map fun r => (r.old.id, r.new)

/-- Copies the tree below `root`, with every old node that is met replaced by a copy of its new
    node. A copy takes over the role of the node it replaces, and the new root has none. -/
def Forest.replace (f : Forest) (root : f.Node) (pairs : List f.Replacement) :
    Loop (Except ReplaceError (Arena × ReplaceStats)) :=
  match firstRepeated [] (pairs.map (·.old.ref)) with
  | some node => some (.error (.duplicateTarget node.id))
  | none => do
    let done ← runToEnd (Work.turn (replacementTable root pairs)) (.start root)
    match done.builder.close with
    | .ok tree => return .ok (tree, ⟨done.applied.length, pairs.length - done.applied.length⟩)
    | .error fault => return .error (.malformed fault)

end AsyncIdioms.Syntax
