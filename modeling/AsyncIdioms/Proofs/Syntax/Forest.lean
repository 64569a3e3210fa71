/-
  Forests, as they are stored.

  A forest is stored tree by tree (`Forest.stored`), and a node is stored as the node of its number in
  32 bits (`Forest.Node.stored`). If all trees fit (`Forest.Fits`), nodes keep their places:

  * `Forest.exists_stored` : each forest of stored trees of at most 2 ^ 32 nodes that were built is such
    a forest, and `Forest.exists_node_stored` : so is each of its nodes;
  * `Forest.Node.children_stored` : the children are the same;
  * `Forest.isWithin_stored` : the same nodes lie within a node.
-/
import AsyncIdioms.Proofs.Code.Targets
import AsyncIdioms.Proofs.Syntax.Build
import AsyncIdioms.Syntax.Forest

namespace AsyncIdioms

namespace Syntax.Forest.Node

variable {f : Syntax.Forest} {n m : f.Node}

/-- Nodes are told apart by their tree and their number. -/
theorem eq_of_tree_of_id (htree : n.tree = m.tree) (hid : n.id = m.id) : n = m := by
  obtain ⟨tree, arena, htn, id, hn⟩ := n
  obtain ⟨tree', arena', htm, id', hm⟩ := m
  obtain rfl : tree = tree' := htree
  obtain rfl : id = id' := hid
  obtain rfl := Option.some.inj (htn.symm.trans htm)
  rfl

theorem ref_inj : n.ref = m.ref ↔ n.tree = m.tree ∧ n.id = m.id := by
  rw [ref, ref, Code.NodeRef.mk.injEq, UInt32.toNat_inj]

/-- So are lists of nodes of one tree. -/
theorem eq_of_map_id {ns ms : List f.Node} {t : Nat} (hns : ∀ x ∈ ns, x.tree = t)
    (hms : ∀ x ∈ ms, x.tree = t) (h : ns.map (·.id) = ms.map (·.id)) : ns = ms := by
  have hpairs (xs : List f.Node) (hxs : ∀ x ∈ xs, x.tree = t) :
      xs.map (fun x => (x.tree, x.id)) = (xs.map (·.id)).map fun i => (t, i) := by
    rw [List.map_map]
    exact List.map_congr_left fun x hx => by rw [hxs x hx, Function.comp_apply]
  have hinj : Function.Injective fun x : f.Node => (x.tree, x.id) := fun x y hxy => by
    obtain ⟨htree, hid⟩ := Prod.mk.inj hxy
    exact eq_of_tree_of_id htree hid
  exact List.map_injective_iff.2 hinj (by rw [hpairs ns hns, hpairs ms hms, h])

theorem map_id_children (n : f.Node) : n.children.map (·.id) = n.arena.children n.id := by
  rw [children, List.map_map]
  exact List.attach_map_subtype_val _

theorem of_mem_children {c : f.Node} (h : c ∈ n.children) : c.tree = n.tree ∧ c.arena = n.arena := by
  obtain ⟨⟨j, hj⟩, -, rfl⟩ := List.mem_map.1 h
  exact ⟨rfl, rfl⟩

theorem exists_child {j : UInt32} (h : j ∈ n.arena.children n.id) : ∃ c ∈ n.children, c.id = j :=
  List.mem_map.1 (n.map_id_children ▸ h)

theorem tokenText?_eq (n : f.Node) : n.tokenText? = n.arena.tokenText? n.id := by
  have h : n.arena.entry? n.id = some n.entry := Array.getElem?_eq_getElem n.id_lt
  rw [tokenText?, Arena.tokenText?, h, Option.bind_some]

end Syntax.Forest.Node

namespace Code

/-- The trees, as they are stored. -/
def Forest.stored (f : Forest) : Syntax.Forest := ⟨f.trees.map (Option.map Arena.stored)⟩

theorem Forest.tree?_stored (f : Forest) (t : Nat) : f.stored.tree? t = (f.tree? t).map Arena.stored := by
  rw [Syntax.Forest.tree?, stored, Array.getElem?_map, tree?]
  cases f.trees[t]? <;> rfl

/-- 32 bits are enough for the numbers of all nodes of each tree. -/
def Forest.Fits (f : Forest) : Prop := ∀ n : f.Node, n.arena.Fits

variable {f : Forest}

namespace Forest.Node

/-- The node, as it is stored. -/
def stored (n : f.Node) : f.stored.Node where
  tree := n.tree
  arena := n.arena.stored
  isTree := by rw [f.tree?_stored, n.isTree, Option.map_some]
  id := .ofNat n.id
  id_lt := by
    rw [Arena.size_stored]
    exact Nat.lt_of_le_of_lt (toNat_ofNat_le n.id) n.id_lt

variable {n m : f.Node} (hfit : f.Fits)

include hfit

theorem id_lt_pow : n.id < 2 ^ 32 := (hfit n).lt n.id_lt

/-- Nodes are still told apart. -/
theorem stored_inj : n.stored = m.stored ↔ n = m := by
  refine ⟨fun h => eq_of_ref_eq ?_, fun h => h ▸ rfl⟩
  have htree : n.tree = m.tree := congrArg (·.tree) h
  have hid : UInt32.ofNat n.id = UInt32.ofNat m.id := congrArg (·.id) h
  rw [ref, ref, htree, (ofNat_inj (id_lt_pow hfit) (id_lt_pow hfit)).1 hid]

theorem ref_stored : n.stored.ref = n.ref := by
  rw [Syntax.Forest.Node.ref, ref, stored, toNat_ofNat (id_lt_pow hfit)]

theorem entry_stored : n.stored.entry = n.entry.stored := by
  have h : n.arena.entry? n.id = some n.entry := Array.getElem?_eq_getElem n.id_lt
  have h' : n.stored.arena.entry? n.stored.id = some n.stored.entry :=
    Array.getElem?_eq_getElem n.stored.id_lt
  have hstored := Arena.entry?_stored (a := n.arena) (id_lt_pow (n := n) hfit)
  rw [h, Option.map_some] at hstored
  exact Option.some.inj (h'.symm.trans hstored)

theorem kind_stored : n.stored.kind = n.kind := congrArg (·.kind) (entry_stored hfit)

theorem field_stored : n.stored.field = n.field := congrArg (·.field) (entry_stored hfit)

theorem tokenText?_stored : n.stored.tokenText? = n.tokenText? := congrArg (·.text) (entry_stored hfit)

theorem children_stored : n.stored.children = n.children.map stored := by
  refine Syntax.Forest.Node.eq_of_map_id (t := n.tree)
    (fun c hc => (Syntax.Forest.Node.of_mem_children hc).1) (fun c hc => ?_) ?_
  · obtain ⟨d, hd, rfl⟩ := List.mem_map.1 hc
    exact (of_mem_children hd).1
  · have hids : (n.children.map stored).map (·.id) = (n.children.map id).map UInt32.ofNat := by
      rw [List.map_map, List.map_map]
      rfl
    rw [Syntax.Forest.Node.map_id_children, hids, map_id_children]
    exact Arena.children_stored (id_lt_pow hfit)

end Forest.Node

/-- The same nodes lie within a node. -/
theorem Forest.isWithin_stored (hfit : f.Fits) (n m : f.Node) :
    Syntax.Forest.isWithin n.stored m.stored = f.isWithin n.ref m.ref := by
  have hn := Node.id_lt_pow (n := n) hfit
  have hm := Node.id_lt_pow (n := m) hfit
  have hwithin := Arena.isWithin_stored (a := n.arena) hn hm
  rw [Syntax.Forest.isWithin, isWithin, Node.ref, n.isTree]
  exact congrArg _ hwithin

/-! ## What is stored -/

/-- Each forest of stored trees that were built and have at most 2 ^ 32 nodes is a forest as it is
    stored. -/
theorem Forest.exists_stored (g : Syntax.Forest)
    (hb : ∀ n : g.Node, ∃ es, Syntax.build es = .ok n.arena) (hsize : ∀ n : g.Node, n.arena.size ≤ 2 ^ 32) :
    ∃ f : Forest, f.stored = g ∧ (∀ n : f.Node, n.arena.Built) ∧ f.Fits := by
  -- Each tree is some arena as it is stored; one is chosen for each.
  have hpick : ∀ a, ∃ o : Option Arena, (∀ t, g.tree? t = some a → o.map Arena.stored = some a) ∧
      ∀ a' ∈ o, a'.Built ∧ a'.Fits := by
    intro a
    by_cases h : ∃ t, g.tree? t = some a
    · obtain ⟨t, ht⟩ := h
      let n : g.Node := ⟨t, a, ht, a.root, a.root_lt⟩
      obtain ⟨es, hes⟩ := hb n
      obtain ⟨a', ha', hfit, rfl⟩ := Syntax.exists_stored_of_build hes (hsize n)
      refine ⟨some a', fun _ _ => rfl, fun a'' ha'' => ?_⟩
      obtain rfl := Option.some.inj ha''
      exact ⟨⟨es, ha'⟩, hfit⟩
    · exact ⟨none, fun t ht => absurd ⟨t, ht⟩ h, by simp⟩
  choose pick hstored hgood using hpick
  have hnode : ∀ n : (⟨g.trees.map fun o => o.bind pick⟩ : Forest).Node,
      n.arena.Built ∧ n.arena.Fits := by
    rintro ⟨t, a, ht, -, -⟩
    rw [tree?, Array.getElem?_map] at ht
    cases hg : g.trees[t]? with
    | none => simp [hg] at ht
    | some o =>
      rw [hg, Option.map_some, Option.join_some] at ht
      obtain ⟨a', -, ha⟩ := Option.bind_eq_some_iff.1 ht
      exact hgood a' a ha
  refine ⟨⟨g.trees.map fun o => o.bind pick⟩, ?_, fun n => (hnode n).1, fun n => (hnode n).2⟩
  have htrees : (g.trees.map fun o => o.bind pick).map (Option.map Arena.stored) = g.trees := by
    refine Array.ext_getElem? fun t => ?_
    rw [Array.getElem?_map, Array.getElem?_map, Option.map_map]
    cases hg : g.trees[t]? with
    | none => rfl
    | some o =>
      cases o with
      | none => rfl
      | some a =>
        have ht : g.tree? t = some a := by rw [Syntax.Forest.tree?, hg, Option.join_some]
        exact congrArg some (hstored a t ht)
  rw [stored, htrees]

/-- Each node of a stored forest is a node as it is stored. -/
theorem Forest.exists_node_stored (n : f.stored.Node) : ∃ m : f.Node, m.stored = n := by
  obtain ⟨a, ha, hstored⟩ := Option.map_eq_some_iff.1 ((f.tree?_stored n.tree).symm.trans n.isTree)
  have hlt : n.id.toNat < a.size := by
    rw [← Arena.size_stored, hstored]
    exact n.id_lt
  exact ⟨⟨n.tree, a, ha, n.id.toNat, hlt⟩,
    Syntax.Forest.Node.eq_of_tree_of_id rfl UInt32.ofNat_toNat⟩

theorem Forest.forall_node_stored {P : f.stored.Node → Prop} :
    (∀ n, P n) ↔ ∀ n : f.Node, P n.stored := by
  refine ⟨fun h n => h n.stored, fun h n => ?_⟩
  obtain ⟨m, rfl⟩ := Forest.exists_node_stored n
  exact h m

/-- The trees of a stored forest were built. -/
theorem Forest.built_stored (hb : ∀ n : f.Node, n.arena.Built) (hfit : f.Fits) (n : f.stored.Node) :
    ∃ es, Syntax.build es = .ok n.arena := by
  obtain ⟨n, rfl⟩ := Forest.exists_node_stored n
  obtain ⟨es, hes⟩ := hb n
  exact ⟨es, Syntax.build_stored hes (hfit n)⟩

theorem Forest.size_stored_le (hfit : f.Fits) (n : f.stored.Node) : n.arena.size ≤ 2 ^ 32 := by
  obtain ⟨n, rfl⟩ := Forest.exists_node_stored n
  exact Arena.size_stored.trans_le (hfit n)

/-- The two trees that are alike are small. -/
theorem Forest.fits_twins : twins.Fits := by
  intro n
  have htree : (build twinEvents).toOption = some n.arena :=
    match n.tree, n.isTree with
    | 0, h | 1, h => h
  have hsize : (build twinEvents).toOption.map Arena.size = some 6 := rfl
  rw [htree] at hsize
  rw [Arena.Fits, Option.some.inj hsize]
  decide

/-- As they are stored, both of them were built and are small. -/
theorem Forest.twins_stored : (∀ n : twins.stored.Node, ∃ es, Syntax.build es = .ok n.arena) ∧
    ∀ n : twins.stored.Node, n.arena.size ≤ 2 ^ 32 :=
  ⟨built_stored built_twins fits_twins, size_stored_le fits_twins⟩

end Code

end AsyncIdioms
