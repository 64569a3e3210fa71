/-
  Replacing many nodes of a tree at once, where numbers of nodes have no bound.

  `Forest.replace` copies the tree below a root and puts, in place of each old node that is met, a
  copy of the new one. All replacements are looked up in the tree as it was: what stands below a
  replaced node, and what is put there, is not looked up again.

  * `runSteps` works off a stack of steps, which tell the new tree to a builder; it comes to an end
    because looking up is never switched on again (`Step.searched`, `Step.copied`);
  * `replacementTable` holds the new nodes by the numbers of the old ones;
  * two replacements of one node are refused (`ReplaceError.duplicateTarget`).
-/
import AsyncIdioms.Code.Build
import AsyncIdioms.Code.Forest
import AsyncIdioms.Code.Replacement

namespace AsyncIdioms.Code

/-- An old node and the one whose copy takes its place. -/
structure Forest.Replacement (f : Forest) where
  old : f.Node
  new : f.Node

variable {f : Forest}

/-! ## Steps -/

/-- What is left to do. -/
inductive Step (f : Forest) where
  /-- Copy a node, in the role `field`. In copies of new nodes nothing is looked up. -/
  | enter (node : f.Node) (field : Option Field) (lookup : Bool)
  /-- Finish the innermost open node. -/
  | exit

namespace Step

/-- How many nodes may be looked up. -/
def searched : Step f → Nat
  | enter n _ true => n.treeSize
  | _ => 0

/-- How many steps it takes where nothing is looked up. -/
def copied : Step f → Nat
  | enter n _ false => 2 * n.treeSize
  | enter _ _ true => 0
  | exit => 1

/-- The steps for the children of a node. -/
def below (n : f.Node) (lookup : Bool) : List (Step f) :=
  n.children.map fun c => enter c c.field lookup

theorem total_searched_below_true (n : f.Node) :
    total ((below n true).map searched) + 1 = n.treeSize := by
  rw [n.treeSize_eq, Nat.add_comm, below, List.map_map]
  rfl

theorem total_searched_below_false (n : f.Node) : total ((below n false).map searched) = 0 := by
  rw [below]
  induction n.children with
  | nil => rfl
  | cons c cs ih => exact (Nat.zero_add _).trans ih

theorem total_copied_below_false (n : f.Node) :
    total ((below n false).map copied) + 2 = 2 * n.treeSize := by
  have hcopied (cs : List f.Node) :
      total ((cs.map fun c => enter c c.field false).map copied) =
        2 * total (cs.map Forest.Node.treeSize) := by
    induction cs with
    | nil => rfl
    | cons c cs ih => simp only [List.map_cons, total_cons, ih, copied, Nat.mul_add]
  rw [n.treeSize_eq, below, hcopied]
  omega

end Step

/-- The tree that has been told so far, and the numbers of the old nodes met. -/
structure Progress where
  builder : Builder := .empty
  applied : List Nat := []

/-- The new node for `n`, unless nothing is looked up. -/
def newNode? (table : List (Nat × f.Node)) (n : f.Node) (lookup : Bool) : Option f.Node :=
  if lookup then table.lookup n.id else none

/-- Works off the steps, topmost first. -/
def runSteps (table : List (Nat × f.Node)) : List (Step f) → Progress → Progress
  | [], p => p
  | .exit :: stack, p => runSteps table stack { p with builder := p.builder.finish }
  | .enter n field lookup :: stack, p =>
    match _h : newNode? table n lookup with
    | some new =>
      runSteps table (.enter new field false :: stack) { p with applied := p.applied.insert n.id }
    | none =>
      match n.tokenText? with
      | some text => runSteps table stack { p with builder := p.builder.token n.kind field text }
      | none =>
        runSteps table (Step.below n lookup ++ .exit :: stack)
          { p with builder := p.builder.start n.kind field }
termination_by stack => (total (stack.map Step.searched), total (stack.map Step.copied))
decreasing_by
  · exact Prod.Lex.right' _ (by simp [Step.searched]) (by simp [Step.copied])
  · cases lookup with
    | false => simp [newNode?] at _h
    | true => exact Prod.Lex.left _ _ (by simp [Step.searched, n.treeSize_pos])
  · have := n.treeSize_pos
    cases lookup with
    | false => exact Prod.Lex.right' _ (by simp [Step.searched]) (by simp [Step.copied, this])
    | true => exact Prod.Lex.left _ _ (by simp [Step.searched, this])
  · cases lookup with
    | false =>
      have hs := Step.total_searched_below_false n
      have hc := Step.total_copied_below_false n
      refine Prod.Lex.right' _ ?_ ?_ <;>
        simp only [List.map_append, total_append, List.map_cons, total_cons, Step.searched,
          Step.copied]
      all_goals omega
    | true =>
      have hs := Step.total_searched_below_true n
      refine Prod.Lex.left _ _ ?_
      simp only [List.map_append, total_append, List.map_cons, total_cons, Step.searched]
      omega

theorem runSteps_enter (table : List (Nat × f.Node)) (n : f.Node) (field : Option Field)
    (lookup : Bool) (stack : List (Step f)) (p : Progress) :
    runSteps table (.enter n field lookup :: stack) p = match newNode? table n lookup with
      | some new =>
        runSteps table (.enter new field false :: stack) { p with applied := p.applied.insert n.id }
      | none =>
        match n.tokenText? with
        | some text => runSteps table stack { p with builder := p.builder.token n.kind field text }
        | none =>
          runSteps table (Step.below n lookup ++ .exit :: stack)
            { p with builder := p.builder.start n.kind field } := by
  rw [runSteps]
  split
  next h => rw [h]
  next h => rw [h]

/-! ## Replacing -/

/-- The new nodes by the numbers of the old ones, as far as these belong to the tree of `root`. -/
def replacementTable (root : f.Node) (pairs : List f.Replacement) : List (Nat × f.Node) :=
  (pairs.filter fun r => r.old.tree == root.tree).map fun r => (r.old.id, r.new)

/-- Copies the tree below `root`, with every old node that is met replaced by a copy of its new
    node. A copy takes over the role of the node it replaces, and the new root has none. -/
def Forest.replace (f : Forest) (root : f.Node) (pairs : List f.Replacement) :
    Except ReplaceError (Arena × ReplaceStats) :=
  match firstRepeated [] (pairs.map (·.old.ref)) with
  | some node => .error (.duplicateTarget node.id)
  | none =>
    let done := runSteps (replacementTable root pairs) [.enter root none true] {}
    match done.builder.close with
    | .ok tree => .ok (tree, ⟨done.applied.length, pairs.length - done.applied.length⟩)
    | .error fault => .error (.malformed fault)

end AsyncIdioms.Code
