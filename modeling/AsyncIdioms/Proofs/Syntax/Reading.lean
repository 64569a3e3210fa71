/-
  Reading a stored tree.

  `Arena.treeAt` reads what a node is and goes on with its children, so that it is a `Loop`, like all that
  goes down:

  * `Arena.treeAt`, `Arena.tree` : the tree without numbers, as far as one comes to an end;
  * `Arena.treeAt_stored` : of a tree that fits, all is read;
  * `reading_of_build` : what is built of the events of a tree has as many nodes, and is read as that tree
    if these are not too many.
-/
import AsyncIdioms.Proofs.Code.Tree
import AsyncIdioms.Proofs.Syntax.Build

namespace AsyncIdioms

namespace Syntax.Arena

open Code (Tree)

variable (a : Arena)

/-- The tree at and below node `i`. -/
def treeAt (i : UInt32) : Loop Tree :=
  let kind := (a.kind? i).getD .other
  match a.tokenText? i with
  | some text => some (.token kind (a.field? i) text)
  | none => do return .node kind (a.field? i) (← (a.children i).mapM (by apply treeAt))
partial_fixpoint

/-- The whole tree. -/
def tree : Loop Tree := a.treeAt a.root

end Syntax.Arena

namespace Code.Arena

variable {a : Arena} {i : Nat} (hfit : a.Fits)

include hfit

theorem treeAt_stored (hi : i < 2 ^ 32) : a.stored.treeAt (.ofNat i) = some (a.treeAt i) := by
  induction i using treeAt.induct a with
  | case1 i text ht =>
    rw [Syntax.Arena.treeAt, treeAt, tokenText?_stored hi, ht, kind?_stored hi, field?_stored hi]
  | case2 i ht ih =>
    have hbelow : (a.stored.children (.ofNat i)).mapM a.stored.treeAt =
        some ((a.children i).map a.treeAt) := by
      rw [children_stored hi, List.mapM_map]
      exact mapM_eq_some fun j hj => ih j hj (hfit.child_lt hj)
    rw [Syntax.Arena.treeAt, treeAt, tokenText?_stored hi, ht, kind?_stored hi, field?_stored hi,
      List.attach_map_val (f := a.treeAt)]
    simp only [hbelow, Option.bind_eq_bind, Option.bind_some]
    rfl

theorem tree_stored : a.stored.tree = some a.tree := treeAt_stored hfit hfit.root_lt

end Code.Arena

/-- If it has no more nodes than there are numbers, what is built of the events of a tree is that tree, as
    it is stored. -/
theorem Syntax.exists_tree_stored {tree : Code.Tree} {t : Arena} (h : build tree.events = .ok t)
    (hsize : t.size ≤ 2 ^ 32) : ∃ a : Code.Arena, a.Fits ∧ t = a.stored ∧ a.tree = tree := by
  obtain ⟨a, ha, hfit, hstored⟩ := exists_stored_of_build h hsize
  obtain ⟨a', ha', -, -, htree⟩ := tree.build_events
  obtain rfl := Except.ok.inj (ha'.symm.trans ha)
  exact ⟨a', hfit, hstored, htree⟩

theorem Syntax.reading_of_build {tree : Code.Tree} {t : Arena} (h : build tree.events = .ok t) :
    t.size = tree.size ∧ (t.size ≤ 2 ^ 32 → t.tree = some tree) := by
  obtain ⟨a, ha, hentries, -⟩ := tree.build_events
  obtain ⟨t', ht', hsize⟩ := exists_build ha
  obtain rfl := Except.ok.inj (ht'.symm.trans h)
  refine ⟨hsize.trans (Code.Arena.size_of_layout hentries), fun hle => ?_⟩
  obtain ⟨a, hfit, rfl, rfl⟩ := exists_tree_stored h hle
  exact Code.Arena.tree_stored hfit

end AsyncIdioms
