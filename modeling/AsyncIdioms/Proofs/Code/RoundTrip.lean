/-
  Telling a built arena again.

  `Arena.events` tells an arena again. It asks each node for its kind, its role, its text and its
  children and for nothing else, so it knows neither the numbers of the nodes nor their parents. That
  building puts these where they were is because numbers follow the document (`exists_tree_of_build`):

  * `Arena.events_treeAt` : a node is told as the tree that is read at it;
  * `events_of_build` : an arena tells the events from which it was built.
-/
import AsyncIdioms.Proofs.Code.WellFormed

namespace AsyncIdioms.Code

/-! ## Telling an arena -/

namespace Arena

variable (a : Arena)

/-- The events that tell node `i` and what is below it. -/
def eventsAt (i : Nat) : List Event :=
  let kind := (a.kind? i).getD .other
  match a.tokenText? i with
  | some text => [.token kind (a.field? i) text]
  | none =>
    .start kind (a.field? i) ::
      ((a.children i).attach.flatMap (fun ⟨j, _⟩ => eventsAt j) ++ [.finish])
termination_by a.size - i
decreasing_by
  have := a.child_bounds ‹_›
  omega

/-- The events that tell the whole tree. -/
def events : List Event := a.eventsAt a.root

theorem eventsAt_eq (i : Nat) :
    a.eventsAt i = match a.tokenText? i with
      | some text => [.token ((a.kind? i).getD .other) (a.field? i) text]
      | none => .start ((a.kind? i).getD .other) (a.field? i) ::
          ((a.children i).flatMap a.eventsAt ++ [.finish]) := by
  rw [eventsAt, List.flatMap_subtype (g := a.eventsAt) (fun _ _ => rfl), List.unattach_attach]

/-- A node is told as the tree that is read at it. -/
theorem events_treeAt (i : Nat) : (a.treeAt i).events = a.eventsAt i := by
  induction i using eventsAt.induct a with
  | case1 i text ht => rw [eventsAt_eq, treeAt, ht, Tree.events]
  | case2 i ht ih =>
    have hbelow : (a.children i).flatMap (fun j => (a.treeAt j).events) =
        (a.children i).flatMap a.eventsAt := List.flatMap_congr fun j hj => ih j hj
    rw [eventsAt_eq, treeAt, ht, List.attach_map_val (f := a.treeAt), Tree.events, Tree.eventsAll_eq,
      List.flatMap_map, hbelow]

theorem events_tree : a.tree.events = a.events := a.events_treeAt a.root

end Arena

/-! ## There and back -/

/-- An arena tells the events from which it was built. -/
theorem events_of_build {es : List Event} {a : Arena} (h : build es = .ok a) : a.events = es := by
  obtain ⟨t, rfl, -⟩ := exists_tree_of_build h
  obtain ⟨a', ha', -, -, htree⟩ := t.build_events
  obtain rfl : a = a' := Except.ok.inj (h.symm.trans ha')
  rw [← a.events_tree, htree]

end AsyncIdioms.Code
