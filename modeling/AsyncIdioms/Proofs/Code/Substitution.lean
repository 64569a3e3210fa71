/-
  Replacing nodes is substitution.

  `Forest.Node.substituted` says by recursion on the tree what becomes of a node: a copy of its new
  node if it is to be replaced, and else the node with its children substituted. The work stack of
  `runSteps` tells the same tree:

  * `Step.events` : what a step on the stack is going to tell;
  * `lookup_replacementTable` : the table finds what the list of replacements holds;
  * `builder_runSteps` : the builder is told what the steps on the stack tell, one after the other;
  * `close_runSteps` : so it is told the substituted tree.
-/
import Mathlib.Data.List.Basic
import AsyncIdioms.Code.Replace
import AsyncIdioms.Proofs.Code.Build

namespace AsyncIdioms.Code

variable {f : Forest}

/-! ## Substitution -/

namespace Forest.Node

/-- The tree at and below the node. -/
def subtree (n : f.Node) : Tree := n.arena.treeAt n.id

theorem treeSize_lt_of_mem {n c : f.Node} (h : c ∈ n.children) : c.treeSize < n.treeSize := by
  have := le_total_of_mem (List.mem_map_of_mem (f := treeSize) h)
  rw [n.treeSize_eq]
  omega

/-- The replacement of the node, if it is the old node of one. -/
def replacement? (pairs : List f.Replacement) (n : f.Node) : Option f.Replacement :=
  pairs.find? fun r => r.old.ref == n.ref

/-- The tree at and below the node, with replacements made: an old node becomes a copy of its new
    one, in the role of the old one, and in the copy nothing is replaced. -/
def substituted (pairs : List f.Replacement) (n : f.Node) : Tree :=
  match n.replacement? pairs with
  | some r => r.new.subtree.withField n.field
  | none =>
    match n.tokenText? with
    | some text => .token n.kind n.field text
    | none => .node n.kind n.field (n.children.attach.map fun ⟨c, _⟩ => substituted pairs c)
termination_by n.treeSize
decreasing_by exact treeSize_lt_of_mem ‹_›

theorem substituted_eq (pairs : List f.Replacement) (n : f.Node) :
    n.substituted pairs = match n.replacement? pairs with
      | some r => r.new.subtree.withField n.field
      | none =>
        match n.tokenText? with
        | some text => .token n.kind n.field text
        | none => .node n.kind n.field (n.children.map (substituted pairs)) := by
  rw [substituted, List.attach_map_val (f := substituted pairs)]

theorem subtree_eq (n : f.Node) :
    n.subtree = match n.tokenText? with
      | some text => .token n.kind n.field text
      | none => .node n.kind n.field (n.children.map subtree) := by
  have he : n.arena.entry? n.id = some n.entry := Array.getElem?_eq_getElem n.id_lt
  have hc : n.children.map subtree = n.entry.children.map n.arena.treeAt := by
    rw [children, List.map_map]
    have hchildren : n.arena.children n.id = n.entry.children := by
      rw [Arena.children, he, Option.elim_some]
    rw [← hchildren]
    exact List.attach_map_val (f := n.arena.treeAt)
  rw [hc]
  exact Arena.treeAt_of_entry he

@[simp]
theorem substituted_nil (n : f.Node) : n.substituted [] = n.subtree := by
  induction n using substituted.induct [] with
  | case1 n r hr => simp [replacement?] at hr
  | case2 n hnone text ht => rw [substituted_eq, subtree_eq, ht, hnone]
  | case3 n hnone ht ih =>
    have hmap : n.children.map (substituted []) = n.children.map subtree :=
      List.map_congr_left fun c hc => ih c hc
    rw [substituted_eq, subtree_eq, ht, hnone, hmap]

/-- A node keeps its role. -/
theorem field_substituted (pairs : List f.Replacement) (n : f.Node) :
    (n.substituted pairs).field = n.field := by
  rw [substituted_eq]
  split
  · rw [Tree.field_withField]
  · split <;> rfl

end Forest.Node

/-! ## Replacements by number -/

theorem firstRepeated_eq_none_iff {seen refs : List NodeRef} :
    firstRepeated seen refs = none ↔ refs.Nodup ∧ ∀ r ∈ refs, r ∉ seen := by
  induction refs generalizing seen with
  | nil => simp [firstRepeated]
  | cons r refs ih =>
    rw [firstRepeated]
    split
    next h =>
      have hr : r ∈ seen := List.contains_iff_mem.1 h
      simp [hr]
    next h =>
      have hr : r ∉ seen := mt List.contains_iff_mem.2 h
      rw [ih]
      grind

/-- In the tree of the root, the table finds what the list of replacements holds. -/
theorem lookup_replacementTable {root n : f.Node} (hn : n.tree = root.tree)
    (pairs : List f.Replacement) :
    (replacementTable root pairs).lookup n.id = (n.replacement? pairs).map (·.new) := by
  induction pairs with
  | nil => rfl
  | cons r pairs ih =>
    have href : (r.old.ref == n.ref) = (r.old.tree == root.tree && n.id == r.old.id) := by
      rw [Bool.eq_iff_iff, Bool.and_eq_true, beq_iff_eq, beq_iff_eq, beq_iff_eq, Forest.Node.ref,
        Forest.Node.ref, NodeRef.mk.injEq, hn, eq_comm (a := n.id)]
    have htable : replacementTable root (r :: pairs) = if r.old.tree == root.tree then
        (r.old.id, r.new) :: replacementTable root pairs else replacementTable root pairs := by
      rw [replacementTable, List.filter_cons]
      split <;> rfl
    rw [htable, Forest.Node.replacement?, List.find?_cons, href]
    cases r.old.tree == root.tree with
    | false => exact ih
    | true =>
      rw [if_pos rfl, List.lookup_cons, Bool.true_and]
      cases n.id == r.old.id with
      | false => exact ih
      | true => rfl

/-! ## The work stack -/

/-- What the step is going to tell. -/
def Step.events (pairs : List f.Replacement) : Step f → List Event
  | enter n field lookup => ((n.substituted (if lookup then pairs else [])).withField field).events
  | exit => [.finish]

/-- Nodes are looked up in the tree of the root only. -/
def Step.StaysIn (root : f.Node) : Step f → Prop
  | enter n _ lookup => lookup → n.tree = root.tree
  | exit => True

section
variable {pairs : List f.Replacement} {root n : f.Node} {field : Option Field} {lookup : Bool}

theorem newNode?_eq (h : (Step.enter n field lookup).StaysIn root) :
    newNode? (replacementTable root pairs) n lookup =
      (n.replacement? (if lookup then pairs else [])).map (·.new) := by
  cases lookup with
  | false => rfl
  | true => exact lookup_replacementTable (h rfl) pairs

theorem Step.staysIn_below (h : (enter n field lookup).StaysIn root) :
    ∀ s ∈ below n lookup, s.StaysIn root := by
  intro s hs
  obtain ⟨c, hc, rfl⟩ := List.mem_map.1 hs
  obtain ⟨⟨j, hj⟩, -, rfl⟩ := List.mem_map.1 hc
  exact h

/-- An old node tells what the copy of its new node tells. -/
theorem Step.events_replaced {r : f.Replacement}
    (hr : n.replacement? (if lookup then pairs else []) = some r) :
    (enter n field lookup).events pairs = (enter r.new field false).events pairs := by
  simp [Step.events, n.substituted_eq, hr]

/-- A token that is not replaced tells itself. -/
theorem Step.events_token {text : String} (hnone : n.replacement? (if lookup then pairs else []) = none)
    (ht : n.tokenText? = some text) :
    (enter n field lookup).events pairs = [.token n.kind field text] := by
  rw [Step.events, n.substituted_eq, hnone, ht]
  rfl

/-- A node that is not replaced tells itself, and what its children tell stands between. -/
theorem Step.events_node (hnone : n.replacement? (if lookup then pairs else []) = none)
    (ht : n.tokenText? = none) :
    (enter n field lookup).events pairs =
      .start n.kind field :: ((below n lookup).flatMap (Step.events pairs) ++ [.finish]) := by
  have hbelow : (below n lookup).flatMap (Step.events pairs) =
      Tree.eventsAll (n.children.map (Forest.Node.substituted (if lookup then pairs else []))) := by
    rw [Tree.eventsAll_eq, below, List.flatMap_map, List.flatMap_map]
    refine List.flatMap_congr fun c _ => ?_
    rw [Step.events, ← c.field_substituted, Tree.withField_field]
  rw [hbelow, Step.events, n.substituted_eq, hnone, ht]
  rfl

end

/-- The builder is told what the steps on the stack tell, one after the other. -/
theorem builder_runSteps (root : f.Node) (pairs : List f.Replacement) (stack : List (Step f))
    (p : Progress) (h : ∀ s ∈ stack, s.StaysIn root) :
    (runSteps (replacementTable root pairs) stack p).builder =
      (stack.flatMap (Step.events pairs)).foldl Builder.step p.builder := by
  induction stack, p using runSteps.induct (replacementTable root pairs) with
  | case1 p =>
    rw [runSteps]
    rfl
  | case2 stack p ih =>
    rw [runSteps, ih fun s hs => h s (List.mem_cons_of_mem _ hs)]
    rfl
  | case3 n field lookup stack p new hnew ih =>
    obtain ⟨hn, hstack⟩ := List.forall_mem_cons.1 h
    obtain ⟨r, hr, rfl⟩ := Option.map_eq_some_iff.1 ((newNode?_eq hn).symm.trans hnew)
    -- The step for the new node is all that is left of the step for the old one.
    rw [runSteps_enter, hnew, List.flatMap_cons, Step.events_replaced hr, ← List.flatMap_cons]
    exact ih (List.forall_mem_cons.2 ⟨fun h => absurd h Bool.false_ne_true, hstack⟩)
  | case4 n field lookup stack p hnone text ht ih =>
    obtain ⟨hn, hstack⟩ := List.forall_mem_cons.1 h
    have hkeep := Option.map_eq_none_iff.1 ((newNode?_eq hn).symm.trans hnone)
    rw [runSteps_enter, hnone, ht, List.flatMap_cons, Step.events_token hkeep ht]
    exact ih hstack
  | case5 n field lookup stack p hnone ht ih =>
    obtain ⟨hn, hstack⟩ := List.forall_mem_cons.1 h
    have hkeep := Option.map_eq_none_iff.1 ((newNode?_eq hn).symm.trans hnone)
    have hbelow : ∀ s ∈ Step.below n lookup ++ .exit :: stack, s.StaysIn root :=
      List.forall_mem_append.2 ⟨Step.staysIn_below hn, List.forall_mem_cons.2 ⟨trivial, hstack⟩⟩
    rw [runSteps_enter, hnone, ht, List.flatMap_cons, Step.events_node hkeep ht]
    refine (ih hbelow).trans ?_
    simp only [List.flatMap_append, List.flatMap_cons, List.cons_append, List.append_assoc,
      List.foldl_cons]
    rfl

/-- At first, the stack holds one step, for the root. -/
theorem Step.staysIn_root (root : f.Node) : ∀ s ∈ [enter root none true], s.StaysIn root :=
  List.forall_mem_singleton.2 fun _ => rfl

/-- So the builder is told the substituted tree and nothing else. -/
theorem close_runSteps (root : f.Node) (pairs : List f.Replacement) :
    (runSteps (replacementTable root pairs) [.enter root none true] {}).builder.close =
      build ((root.substituted pairs).withField none).events := by
  rw [builder_runSteps root pairs _ {} (Step.staysIn_root root), List.flatMap_singleton]
  rfl

/-! ## The outcome -/

/-- Where no node is to be replaced twice, the substituted tree is the outcome, and the nodes noted are
    counted. -/
theorem Forest.replace_eq_ok {root : f.Node} {pairs : List f.Replacement} {out : Arena}
    (h : (pairs.map fun r => r.old.ref).Nodup)
    (hout : build ((root.substituted pairs).withField none).events = .ok out) :
    let done := runSteps (replacementTable root pairs) [.enter root none true] {}
    f.replace root pairs =
      .ok (out, ⟨done.applied.length, pairs.length - done.applied.length⟩) := by
  have hfirst : firstRepeated [] (pairs.map fun r => r.old.ref) = none :=
    firstRepeated_eq_none_iff.2 ⟨h, fun _ _ => List.not_mem_nil⟩
  have hclose := (close_runSteps root pairs).trans hout
  rw [replace, hfirst]
  simp only [hclose]

end AsyncIdioms.Code
