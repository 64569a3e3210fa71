/-
  Which events tell a stored tree, and which trees can be told again.

  What is built, and which fault there is, does not depend on numbers of nodes. Reading a tree does: it
  comes to an end exactly if all nodes have numbers of their own, and then the tree that is read tells
  the events once more:

  * `build_outcome` : a tree is built exactly if the events follow the grammar; else the fault is that of
    the first faulty event, and without one it tells how many nodes are open;
  * `exists_tree_iff_of_build` : which built trees can be read;
  * `build_roundTrip` : a tree that is told is read, and a tree that is read and told is built again.
-/
import AsyncIdioms.Proofs.Code.RoundTrip
import AsyncIdioms.Proofs.Syntax.Overflow

namespace AsyncIdioms.Syntax

open Code (Event Tree TellsTree FirstFault Faultless endFault)

/-- **A tree is built exactly if the events tell one. Else the fault is that of the first faulty
    event, whatever follows it; without one it says how many nodes are open, or that there are
    none.** -/
theorem build_outcome (es : List Event) :
    ((∃ t, build es = .ok t) ↔ TellsTree es) ∧
    ∀ fault, build es = .error fault ↔
      FirstFault es fault ∨ Faultless es ∧ ¬ TellsTree es ∧ fault = endFault es := by
  obtain ⟨htells, hfault⟩ := Code.build_iff_tellsTree es
  refine ⟨Iff.trans ⟨?_, ?_⟩ htells, fun fault => build_eq_error_iff.trans (hfault fault)⟩
  · rintro ⟨t, ht⟩
    obtain ⟨a, ha, -⟩ := exists_covers_of_build ht
    exact ⟨a, ha⟩
  · rintro ⟨a, ha⟩
    obtain ⟨t, ht, -⟩ := exists_build ha
    exact ⟨t, ht⟩

-- The second event is faulty; what follows would close a tree.
example : build [.token .identifier none "x", .start .block none, .finish] = .error .multipleRoots :=
  rfl

/-- The whole of a built tree can be read exactly if there are not more nodes than numbers. Then the tree
    that is read tells the events from which it was built. -/
theorem exists_tree_iff_of_build {es : List Event} {t : Arena} (h : build es = .ok t) :
    ((∃ tree, t.tree = some tree) ↔ t.size ≤ 2 ^ 32) ∧ ∀ tree, t.tree = some tree → tree.events = es := by
  have hread (hle : t.size ≤ 2 ^ 32) : ∃ tree, t.tree = some tree ∧ tree.events = es := by
    obtain ⟨a, ha, hfit, rfl⟩ := exists_stored_of_build h hle
    exact ⟨a.tree, Code.Arena.tree_stored hfit, a.events_tree.trans (Code.events_of_build ha)⟩
  have hle (htree : ∃ tree, t.tree = some tree) : t.size ≤ 2 ^ 32 := by
    by_contra hgt
    obtain ⟨S, hcircular, htoken, hroot⟩ := exists_circular_of_build h (Nat.lt_of_not_le hgt)
    obtain ⟨tree, htree⟩ := htree
    have hnone : t.tree = none := hcircular.treeAt_eq_none htoken hroot
    exact nomatch hnone.symm.trans htree
  refine ⟨⟨hle, fun h => (hread h).imp fun _ => And.left⟩, fun tree htree => ?_⟩
  obtain ⟨tree', htree', hevents⟩ := hread (hle ⟨tree, htree⟩)
  obtain rfl := Option.some.inj (htree'.symm.trans htree)
  exact hevents

/-- **Building and telling are inverse to each other**: each tree that is told, with at most 2 ^ 32 nodes,
    is built, with as many nodes, and is what is read; and a built tree with at most 2 ^ 32 nodes can be
    read, and what is read tells the events from which it was built, so that building from them gives the
    same nodes with the same numbers. -/
theorem build_roundTrip :
    (∀ tree : Tree, tree.size ≤ 2 ^ 32 →
      ∃ t, build tree.events = .ok t ∧ t.size = tree.size ∧ t.tree = some tree) ∧
    ∀ (es : List Event) (t : Arena), build es = .ok t →
      ((∃ tree, t.tree = some tree) ↔ t.size ≤ 2 ^ 32) ∧
      ∀ tree, t.tree = some tree → tree.events = es ∧ build tree.events = .ok t := by
  refine ⟨fun tree hsize => ?_, fun es t h => ?_⟩
  · obtain ⟨a, ha, -⟩ := tree.build_events
    obtain ⟨t, ht, -⟩ := exists_build ha
    obtain ⟨hcount, hread⟩ := reading_of_build ht
    exact ⟨t, ht, hcount, hread (hcount.trans_le hsize)⟩
  · obtain ⟨hiff, hevents⟩ := exists_tree_iff_of_build h
    exact ⟨hiff, fun tree htree => ⟨hevents tree htree, (hevents tree htree).symm ▸ h⟩⟩

/-- A call that stands to the left of an operator, and a token to its right. -/
theorem build_roundTrip_binary :
    let es : List Event := [.start .binaryExpression none,
      .start .invocationExpression (some .left), .token .identifierName none "f", .finish,
      .token .operator (some .operator) " + ", .token .identifierName (some .right) "b", .finish]
    ∃ t tree, build es = .ok t ∧ t.tree = some tree ∧ tree.events = es ∧ tree.size ≤ 2 ^ 32 ∧
      build tree.events = .ok t := by
  intro es
  have hbuilt : ∃ t, build es = .ok t ∧ t.size = 5 := ⟨_, rfl, rfl⟩
  obtain ⟨t, ht, hfive⟩ := hbuilt
  obtain ⟨hiff, hagain⟩ := build_roundTrip.2 es t ht
  obtain ⟨tree, htree⟩ := hiff.2 (by rw [hfive]; decide)
  obtain ⟨hevents, hbuild⟩ := hagain tree htree
  refine ⟨t, tree, ht, htree, hevents, ?_, hbuild⟩
  rw [← (reading_of_build hbuild).1, hfive]
  decide

end AsyncIdioms.Syntax
