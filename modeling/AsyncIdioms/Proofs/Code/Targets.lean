/-
  Which replacements are made.

  Of the old nodes at and below the root, those are replaced above which no other one stands; the
  others are not met. `Forest.Node.IsMet` says this with the nodes above a node, and the work stack
  finds it out by going down:

  * `Forest.Node.isMet_iff_eq`, `Forest.Node.isMet_iff_child` : what is met from a node that is to be
    replaced, and from one that is kept;
  * `Forest.Node.pieces` : the tree below a node, cut into nodes that are kept and trees that are
    replaced; `Forest.Node.targets` are the replacements among them;
  * `Forest.Node.mem_targets_iff` : these are the replacements whose old node is met;
  * `Forest.Node.pairwise_targets` : they stand in document order;
  * `applied_runSteps` : the work stack notes the old nodes of the targets of its steps;
  * `Forest.replace_of_build` : so the targets are counted.
-/
import Mathlib.Data.List.Dedup
import AsyncIdioms.Proofs.Code.Navigation
import AsyncIdioms.Proofs.Code.Substitution

namespace AsyncIdioms.Code

variable {f : Forest}

/-- The tree was built from events. -/
def Arena.Built (a : Arena) : Prop := ∃ es, build es = .ok a

theorem Arena.Built.wellFormed {a : Arena} (hb : a.Built) : a.WellFormed := by
  obtain ⟨es, hes⟩ := hb
  obtain ⟨t, -, hentries, hroot⟩ := exists_tree_of_build hes
  exact wellFormed_of_layout hroot hentries

/-- The tree at and below a node is laid out from the number of the node on. -/
theorem Arena.Built.exists_holdsAt {a : Arena} (hb : a.Built) {i : Nat} (hi : i < a.size) :
    ∃ parent, a.HoldsAt parent i (a.treeAt i) := by
  obtain ⟨es, hes⟩ := hb
  obtain ⟨t, -, hentries, -⟩ := exists_tree_of_build hes
  have hholds : a.HoldsAt none 0 t :=
    show t.layout none 0 <+: a.entries.toList from hentries ▸ List.prefix_rfl
  obtain ⟨parent, part, hpart, -⟩ := hholds.exists_part (size_of_layout hentries ▸ hi)
  obtain rfl : a.treeAt i = part := treeAt_of_layout hpart
  exact ⟨parent, hpart⟩

namespace Forest.Node

variable {root n m c : f.Node} {pairs : List f.Replacement} {r : f.Replacement}

/-- The node is at or below the root, and no node above it, as far up as the root, is to be
    replaced. -/
def IsMet (n root : f.Node) (pairs : List f.Replacement) : Prop :=
  f.isWithin n.ref root.ref = true ∧
    ∀ p ∈ n.arena.ancestors n.id, f.isWithin ⟨n.tree, p⟩ root.ref = true →
      ⟨n.tree, p⟩ ∉ pairs.map fun r => r.old.ref

instance : Decidable (n.IsMet root pairs) := inferInstanceAs (Decidable (_ ∧ _))

/-! ## Nodes of a forest -/

theorem arena_eq_of_tree_eq (h : n.tree = m.tree) : n.arena = m.arena :=
  Option.some.inj (n.isTree.symm.trans (h ▸ m.isTree))

theorem eq_of_ref_eq (h : n.ref = m.ref) : n = m := by
  obtain ⟨htree, hid⟩ := NodeRef.mk.inj h
  have harena := arena_eq_of_tree_eq htree
  obtain ⟨tree, arena, isTree, id, id_lt⟩ := n
  obtain ⟨tree', arena', isTree', id', id_lt'⟩ := m
  obtain rfl : tree = tree' := htree
  obtain rfl : arena = arena' := harena
  obtain rfl : id = id' := hid
  rfl

theorem of_mem_children (h : c ∈ n.children) :
    c.tree = n.tree ∧ c.arena = n.arena ∧ c.id ∈ n.arena.children n.id := by
  obtain ⟨⟨j, hj⟩, -, rfl⟩ := List.mem_map.1 h
  exact ⟨rfl, rfl, hj⟩

theorem map_id_children (n : f.Node) : n.children.map id = n.arena.children n.id := by
  rw [children, List.map_map]
  exact List.attach_map_subtype_val _

theorem exists_child {j : Nat} (h : j ∈ n.arena.children n.id) : ∃ c ∈ n.children, c.id = j :=
  List.mem_map.1 (n.map_id_children ▸ h)

theorem tokenText?_eq (n : f.Node) : n.tokenText? = n.arena.tokenText? n.id := by
  have he : n.arena.entry? n.id = some n.entry := Array.getElem?_eq_getElem n.id_lt
  rw [Arena.tokenText?, he]
  rfl

theorem children_of_token {text : String} (h : n.tokenText? = some text) : n.children = [] := by
  have hids := n.map_id_children
  rw [Arena.children_of_tokenText? (n.tokenText?_eq.symm.trans h)] at hids
  exact List.map_eq_nil_iff.1 hids

/-- The children of a node that is not replaced are substituted one by one. -/
theorem children_substituted (h : n.replacement? pairs = none) :
    (n.substituted pairs).children = n.children.map (substituted pairs) := by
  rw [substituted_eq, h]
  cases ht : n.tokenText? with
  | some text =>
    rw [children_of_token ht]
    rfl
  | none => rfl

theorem preorder_eq_children (n : f.Node) :
    n.arena.preorder n.id = n.id :: n.children.flatMap fun c => c.arena.preorder c.id := by
  have hmap : n.children.flatMap (fun c => c.arena.preorder c.id) =
      n.children.flatMap (n.arena.preorder ∘ id) :=
    List.flatMap_congr fun c hc => by rw [(of_mem_children hc).2.1]; rfl
  rw [Arena.preorder_eq, hmap, ← n.map_id_children, List.flatMap_map]
  rfl

theorem old_eq_of_replacement? (h : n.replacement? pairs = some r) : r.old = n :=
  eq_of_ref_eq (by simpa using List.find?_some h)

theorem replacement?_eq_none_iff :
    n.replacement? pairs = none ↔ n.ref ∉ pairs.map fun r => r.old.ref := by
  simp [replacement?]

/-- A node is the old node of one replacement only. -/
theorem replacement?_old (hnodup : (pairs.map fun r => r.old.ref).Nodup) (hr : r ∈ pairs) :
    r.old.replacement? pairs = some r := by
  cases h : r.old.replacement? pairs with
  | none => exact absurd (List.mem_map_of_mem hr) (replacement?_eq_none_iff.1 h)
  | some s =>
    have hs : s.old.ref = r.old.ref := by rw [old_eq_of_replacement? h]
    rw [List.inj_on_of_nodup_map hnodup (List.mem_of_find?_eq_some h) hr hs]

/-! ## Built trees -/

theorem exists_holdsAt (hb : n.arena.Built) : ∃ parent, n.arena.HoldsAt parent n.id n.subtree :=
  hb.exists_holdsAt n.id_lt

/-- The nodes at and below a node are numbered one after the other. -/
theorem preorder_eq_range' (hb : n.arena.Built) :
    n.arena.preorder n.id = List.range' n.id n.treeSize := by
  obtain ⟨parent, hpart⟩ := exists_holdsAt hb
  rw [hpart.preorder_eq, ← hpart.treeSize_eq]
  rfl

theorem isWithin_ref_iff (hb : root.arena.Built) {p : Nat} :
    f.isWithin ⟨n.tree, p⟩ root.ref = true ↔ n.tree = root.tree ∧ root.arena.Below root.id p := by
  rw [Forest.isWithin, Bool.and_eq_true, beq_iff_eq]
  refine and_congr_right fun htree => ?_
  have hsome : f.tree? n.tree = some root.arena := by
    rw [show n.tree = root.tree from htree, root.isTree]
  rw [hsome, Option.any_some, hb.wellFormed.isWithin_iff]
  rfl

/-- A node is met if the way down to it, from the root, leads past no node that is to be replaced. -/
theorem isMet_iff (hb : root.arena.Built) : n.IsMet root pairs ↔
    n.tree = root.tree ∧ root.arena.Below root.id n.id ∧
      ∀ p, root.arena.Below root.id p → root.arena.Below p n.id → p ≠ n.id →
        ⟨root.tree, p⟩ ∉ pairs.map fun r => r.old.ref := by
  rw [IsMet, show n.ref = ⟨n.tree, n.id⟩ from rfl, isWithin_ref_iff hb, and_assoc]
  refine and_congr_right fun htree => and_congr_right fun _ => ?_
  have hancestors : ∀ p, p ∈ n.arena.ancestors n.id ↔ root.arena.Below p n.id ∧ p ≠ n.id := by
    intro p
    rw [arena_eq_of_tree_eq htree, hb.wellFormed.mem_ancestors_iff]
  simp only [hancestors, isWithin_ref_iff hb, htree, true_and]
  constructor
  · intro h p hroot hn hne
    exact h p ⟨hn, hne⟩ hroot
  · rintro h p ⟨hn, hne⟩ hroot
    exact h p hroot hn hne

theorem isMet_self (hb : root.arena.Built) : root.IsMet root pairs := by
  rw [isMet_iff hb]
  refine ⟨rfl, Arena.below_refl _, ?_⟩
  intro p hdown hup hne
  exact absurd (hup.antisymm hdown) hne

/-- Of a root that is to be replaced, no more is met than the root. -/
theorem isMet_iff_eq (hb : root.arena.Built) (hold : root.ref ∈ pairs.map fun r => r.old.ref) :
    n.IsMet root pairs ↔ n = root := by
  constructor
  · rw [isMet_iff hb]
    rintro ⟨htree, hbelow, hfree⟩
    have hid : root.id = n.id := by
      by_contra hne
      exact hfree root.id (Arena.below_refl _) hbelow hne hold
    exact eq_of_ref_eq (by rw [ref, ref, htree, hid])
  · rintro rfl
    exact isMet_self hb

/-- If the root is kept, what is met is the root or is met from one of its children. -/
theorem isMet_iff_child (hb : root.arena.Built) (hkept : root.ref ∉ pairs.map fun r => r.old.ref) :
    n.IsMet root pairs ↔ n = root ∨ ∃ c ∈ root.children, n.IsMet c pairs := by
  constructor
  · rw [isMet_iff hb]
    rintro ⟨htree, hbelow, hfree⟩
    rcases Arena.below_iff_eq_or_child.1 hbelow with hid | ⟨j, hj, hbelow⟩
    · exact .inl (eq_of_ref_eq (by rw [ref, ref, htree, hid]))
    · obtain ⟨c, hc, rfl⟩ := exists_child hj
      obtain ⟨hctree, harena, -⟩ := of_mem_children hc
      refine .inr ⟨c, hc, ?_⟩
      rw [isMet_iff (harena ▸ hb), harena, hctree]
      refine ⟨htree, hbelow, ?_⟩
      intro p hdown hup hne
      exact hfree p ((Arena.below_child hj).trans hdown) hup hne
  · rintro (rfl | ⟨c, hc, h⟩)
    · exact isMet_self hb
    · obtain ⟨hctree, harena, hchild⟩ := of_mem_children hc
      rw [isMet_iff (harena ▸ hb), harena, hctree] at h
      obtain ⟨htree, hbelow, hfree⟩ := h
      rw [isMet_iff hb]
      refine ⟨htree, (Arena.below_child hchild).trans hbelow, ?_⟩
      intro p hdown hup hne
      rcases Arena.below_iff_eq_or_child.1 hdown with rfl | ⟨c', hchild', hdown'⟩
      · exact hkept
      -- There is one way down, so it leads through this child.
      · obtain rfl := hb.wellFormed.eq_of_children hchild hchild' hbelow (hdown'.trans hup)
        exact hfree p hdown' hup hne

end Forest.Node

/-! ## Cutting a tree -/

/-- A node that is kept, or the tree below an old node, which is replaced. -/
inductive Piece (f : Forest) where
  | kept (id : Nat)
  | replaced (r : f.Replacement)

namespace Piece

def replacement? : Piece f → Option f.Replacement
  | kept _ => none
  | replaced r => some r

/-- The nodes of the piece. -/
def nodes : Piece f → List Nat
  | kept id => [id]
  | replaced r => r.old.arena.preorder r.old.id

theorem sublist_nodes (ps : List (Piece f)) :
    ((ps.filterMap replacement?).map fun r => r.old.id).Sublist (ps.flatMap nodes) := by
  induction ps with
  | nil => exact .slnil
  | cons p ps ih =>
    cases p with
    | kept id => exact ih.cons id
    | replaced r =>
      rw [List.flatMap_cons, nodes, Arena.preorder_eq, List.cons_append]
      exact (ih.trans (List.sublist_append_right _ _)).cons_cons r.old.id

end Piece

namespace Forest.Node

variable {root n : f.Node} {pairs : List f.Replacement} {r : f.Replacement}

/-- The pieces of the tree at and below the node, in document order. -/
def pieces (pairs : List f.Replacement) (n : f.Node) : List (Piece f) :=
  match n.replacement? pairs with
  | some r => [.replaced r]
  | none => .kept n.id :: n.children.attach.flatMap fun ⟨c, _⟩ => pieces pairs c
termination_by n.treeSize
decreasing_by exact treeSize_lt_of_mem ‹_›

/-- The replacements that are made at and below the node, in document order. -/
def targets (pairs : List f.Replacement) (n : f.Node) : List f.Replacement :=
  (n.pieces pairs).filterMap Piece.replacement?

theorem pieces_of_some (h : n.replacement? pairs = some r) : n.pieces pairs = [.replaced r] := by
  rw [pieces, h]

theorem pieces_of_none (h : n.replacement? pairs = none) :
    n.pieces pairs = .kept n.id :: n.children.flatMap (pieces pairs) := by
  rw [pieces, h]
  rw [List.flatMap_subtype (g := pieces pairs) (fun _ _ => rfl), List.unattach_attach]

theorem targets_of_some (h : n.replacement? pairs = some r) : n.targets pairs = [r] := by
  rw [targets, pieces_of_some h]
  rfl

theorem targets_of_none (h : n.replacement? pairs = none) :
    n.targets pairs = n.children.flatMap (targets pairs) := by
  rw [targets, pieces_of_none h, List.filterMap_cons, List.filterMap_flatMap]
  rfl

/-- The pieces hold the nodes at and below the node, each once and in document order. -/
theorem flatMap_nodes_pieces (pairs : List f.Replacement) (n : f.Node) :
    (n.pieces pairs).flatMap Piece.nodes = n.arena.preorder n.id := by
  induction n using pieces.induct pairs with
  | case1 n r hr =>
    rw [pieces_of_some hr, List.flatMap_singleton, Piece.nodes, old_eq_of_replacement? hr]
  | case2 n hnone ih =>
    rw [pieces_of_none hnone, List.flatMap_cons, Piece.nodes, List.flatMap_assoc,
      n.preorder_eq_children, List.flatMap_congr ih, List.singleton_append]

/-- The targets stand in document order. -/
theorem pairwise_targets (hb : n.arena.Built) (pairs : List f.Replacement) :
    (n.targets pairs).Pairwise fun r s => r.old.id < s.old.id := by
  have hsublist := Piece.sublist_nodes (n.pieces pairs)
  rw [n.flatMap_nodes_pieces pairs, preorder_eq_range' hb] at hsublist
  exact List.pairwise_map.1 (List.Pairwise.sublist hsublist List.pairwise_lt_range')

theorem nodup_targets (hb : n.arena.Built) (pairs : List f.Replacement) :
    ((n.targets pairs).map fun r => r.old.id).Nodup :=
  List.pairwise_map.2 ((pairwise_targets hb pairs).imp fun hlt => Nat.ne_of_lt hlt)

/-- The targets are the replacements whose old node is met. -/
theorem mem_targets_iff (hb : n.arena.Built) (hnodup : (pairs.map fun r => r.old.ref).Nodup) :
    r ∈ n.targets pairs ↔ r ∈ pairs ∧ r.old.IsMet n pairs := by
  induction n using pieces.induct pairs with
  | case1 n s hs =>
    have hmem : s ∈ pairs := List.mem_of_find?_eq_some hs
    obtain rfl := old_eq_of_replacement? hs
    rw [targets_of_some hs, List.mem_singleton, isMet_iff_eq hb (List.mem_map_of_mem hmem)]
    constructor
    · rintro rfl
      exact ⟨hmem, rfl⟩
    · rintro ⟨hr, hold⟩
      have hfound := replacement?_old hnodup hr
      rw [hold, hs] at hfound
      exact (Option.some.inj hfound).symm
  | case2 n hnone ih =>
    have hkept := replacement?_eq_none_iff.1 hnone
    have hbuilt : ∀ c ∈ n.children, c.arena.Built := fun c hc => (of_mem_children hc).2.1 ▸ hb
    rw [targets_of_none hnone, List.mem_flatMap, isMet_iff_child hb hkept]
    constructor
    · rintro ⟨c, hc, h⟩
      obtain ⟨hr, hmet⟩ := (ih c hc (hbuilt c hc)).1 h
      exact ⟨hr, .inr ⟨c, hc, hmet⟩⟩
    · rintro ⟨hr, hold | ⟨c, hc, hmet⟩⟩
      · exact absurd (hold ▸ List.mem_map_of_mem hr) hkept
      · exact ⟨c, hc, (ih c hc (hbuilt c hc)).2 ⟨hr, hmet⟩⟩

/-- Each target is a replacement of its own, so there are as many as there are old nodes met. -/
theorem length_targets (hb : n.arena.Built) (hnodup : (pairs.map fun r => r.old.ref).Nodup) :
    (n.targets pairs).length = pairs.countP fun r => r.old.IsMet n pairs := by
  have htargets : (n.targets pairs).Nodup := List.Nodup.of_map _ (nodup_targets hb pairs)
  have hfilter : (pairs.filter fun r => r.old.IsMet n pairs).Nodup :=
    (List.Nodup.of_map _ hnodup).filter _
  have hperm : (n.targets pairs).Perm (pairs.filter fun r => r.old.IsMet n pairs) := by
    rw [List.perm_ext_iff_of_nodup htargets hfilter]
    intro r
    rw [mem_targets_iff hb hnodup, List.mem_filter, decide_eq_true_iff]
  rw [hperm.length_eq, List.countP_eq_length_filter]

end Forest.Node

/-! ## What the work stack notes -/

/-- The numbers of the old nodes that are met in the step. -/
def Step.met (pairs : List f.Replacement) : Step f → List Nat
  | enter n _ true => (n.targets pairs).map fun r => r.old.id
  | enter _ _ false | exit => []

section
variable {pairs : List f.Replacement} {n : f.Node} {field : Option Field} {lookup : Bool}

/-- An old node is met, and what is below it is not. -/
theorem Step.met_replaced {r : f.Replacement}
    (hr : n.replacement? (if lookup then pairs else []) = some r) :
    (enter n field lookup).met pairs = [n.id] := by
  cases lookup with
  | false => cases hr
  | true =>
    have htargets : n.targets pairs = [r] := Forest.Node.targets_of_some hr
    rw [Step.met, htargets, List.map_singleton, Forest.Node.old_eq_of_replacement? hr]

/-- In a node that is not replaced, old nodes are met in its children. -/
theorem Step.met_of_kept (h : n.replacement? (if lookup then pairs else []) = none) :
    (enter n field lookup).met pairs = (below n lookup).flatMap (Step.met pairs) := by
  rw [below, List.flatMap_map]
  cases lookup with
  | false => exact (List.flatMap_eq_nil_iff.2 fun _ _ => rfl).symm
  | true =>
    have htargets : n.targets pairs = n.children.flatMap (Forest.Node.targets pairs) :=
      Forest.Node.targets_of_none h
    rw [Step.met, htargets, List.map_flatMap]
    rfl

end

/-- The old nodes of the targets of the steps on the stack are noted, and no others. -/
theorem applied_runSteps (root : f.Node) (pairs : List f.Replacement) (stack : List (Step f))
    (p : Progress) (h : ∀ s ∈ stack, s.StaysIn root) :
    (runSteps (replacementTable root pairs) stack p).applied =
      (stack.flatMap (Step.met pairs)).reverse ∪ p.applied := by
  induction stack, p using runSteps.induct (replacementTable root pairs) with
  | case1 p =>
    rw [runSteps]
    rfl
  | case2 stack p ih =>
    rw [runSteps, ih fun s hs => h s (List.mem_cons_of_mem _ hs)]
    rfl
  | case3 n field lookup stack p new hnew ih =>
    obtain ⟨hn, hstack⟩ := List.forall_mem_cons.1 h
    obtain ⟨r, hr, rfl⟩ := Option.map_eq_some_iff.1 ((newNode?_eq hn).symm.trans hnew)
    have hcopy : ∀ s ∈ Step.enter r.new field false :: stack, s.StaysIn root :=
      List.forall_mem_cons.2 ⟨fun h => absurd h Bool.false_ne_true, hstack⟩
    -- The copy of the new node adds nothing to what is noted.
    rw [runSteps_enter, hnew, List.flatMap_cons, Step.met_replaced hr]
    refine (ih hcopy).trans ?_
    simp [Step.met, List.union_def]
  | case4 n field lookup stack p hnone text ht ih =>
    obtain ⟨hn, hstack⟩ := List.forall_mem_cons.1 h
    have hkeep := Option.map_eq_none_iff.1 ((newNode?_eq hn).symm.trans hnone)
    rw [runSteps_enter, hnone, ht, List.flatMap_cons, Step.met_of_kept hkeep, Step.below,
      Forest.Node.children_of_token ht]
    exact ih hstack
  | case5 n field lookup stack p hnone ht ih =>
    obtain ⟨hn, hstack⟩ := List.forall_mem_cons.1 h
    have hkeep := Option.map_eq_none_iff.1 ((newNode?_eq hn).symm.trans hnone)
    have hbelow : ∀ s ∈ Step.below n lookup ++ .exit :: stack, s.StaysIn root :=
      List.forall_mem_append.2 ⟨Step.staysIn_below hn, List.forall_mem_cons.2 ⟨trivial, hstack⟩⟩
    rw [runSteps_enter, hnone, ht, List.flatMap_cons, Step.met_of_kept hkeep]
    refine (ih hbelow).trans ?_
    rw [List.flatMap_append, List.flatMap_cons]
    rfl

/-! ## Two trees that are alike -/

/-- A call and a name, and a name beside both. -/
def twinEvents : List Event :=
  [.start .block none,
    .start .binaryExpression (some .left),
      .start .invocationExpression (some .left), .token .identifierName none "f", .finish,
      .token .identifierName (some .right) "x", .finish,
    .token .identifierName (some .right) "y", .finish]

/-- The same tree twice. -/
def Forest.twins : Forest := ⟨#[(build twinEvents).toOption, (build twinEvents).toOption]⟩

theorem Forest.isSome_node?_twins : ∀ (t : Fin 2) (i : Fin 6), (twins.node? ⟨t, i⟩).isSome := by
  decide +kernel

def Forest.twin (t : Fin 2) (i : Fin 6) : twins.Node :=
  (twins.node? ⟨t, i⟩).get (isSome_node?_twins t i)

theorem Forest.built_twins (n : twins.Node) : n.arena.Built := by
  refine ⟨twinEvents, ?_⟩
  have htree : (build twinEvents).toOption = some n.arena :=
    match n.tree, n.isTree with
    | 0, h | 1, h => h
  cases hbuild : build twinEvents with
  | error fault =>
    rw [hbuild] at htree
    exact nomatch htree
  | ok a =>
    rw [hbuild] at htree
    exact congrArg _ (Option.some.inj htree)

/-! ## The outcome -/

/-- The nodes noted are those of the targets. -/
theorem Forest.replace_of_build {root : f.Node} {pairs : List f.Replacement} {out : Arena}
    (hb : root.arena.Built) (h : (pairs.map fun r => r.old.ref).Nodup)
    (hout : build ((root.substituted pairs).withField none).events = .ok out) :
    f.replace root pairs =
      .ok (out, ⟨(root.targets pairs).length, pairs.length - (root.targets pairs).length⟩) := by
  have happlied : (runSteps (replacementTable root pairs) [.enter root none true] {}).applied.length =
      (root.targets pairs).length := by
    have hids := Node.nodup_targets hb pairs
    rw [applied_runSteps root pairs _ {} (Step.staysIn_root root), List.flatMap_singleton, Step.met,
      List.Disjoint.union_eq (List.disjoint_nil_right _), (List.nodup_reverse.2 hids).dedup]
    simp
  rw [replace_eq_ok h hout, happlied]

end AsyncIdioms.Code
