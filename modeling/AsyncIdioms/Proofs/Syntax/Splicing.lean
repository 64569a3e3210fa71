/-
  The text of a stored tree after replacements.

  The old nodes that are met cut a tree. What stands outside of them is kept, in the order in which it
  stood, and a `Cut` lists these nodes before, between and behind the old ones:

  * `Cut.nodes`, `Cut.text` : a cut tree put together again, with the old nodes as they were or with other
    texts in their place;
  * `Forest.replace_text` : replacing changes the texts of the old nodes that are met, and no other text;
    `Forest.replace_untold` : an outcome with too many nodes has no text.
-/
import AsyncIdioms.Proofs.Code.Splicing
import AsyncIdioms.Proofs.Syntax.Substitution
import AsyncIdioms.Proofs.Syntax.Targets

namespace AsyncIdioms

/-! ## Cuts -/

namespace Syntax

/-- The text of the tokens among some nodes. -/
def Arena.textOf (a : Arena) (ids : List UInt32) : String := String.join (ids.filterMap a.tokenText?)

variable {f : Forest}

/-- A tree that is cut at some old nodes. -/
structure Cut (f : Forest) where
  /-- The nodes before the first old node. -/
  before : List UInt32
  /-- The old nodes, each one with the nodes between it and the next one. -/
  rest : List (f.Replacement × List UInt32)

namespace Cut

def targets (c : Cut f) : List f.Replacement := c.rest.map Prod.fst

/-- The nodes at and below an old node, and those behind it. -/
def nodesFrom (t : f.Replacement × List UInt32) : Loop (List UInt32) := do
  return t.1.old.id :: (← t.1.old.arena.descendants t.1.old.id) ++ t.2

/-- All nodes, those at and below the old nodes included. -/
def nodes (c : Cut f) : Loop (List UInt32) := do
  return c.before ++ (← c.rest.mapM nodesFrom).flatten

/-- The text in place of an old node, and that of the nodes behind it. -/
def textFrom (a : Arena) (part : f.Replacement → Loop String) (t : f.Replacement × List UInt32) :
    Loop String := do
  return (← part t.1) ++ a.textOf t.2

/-- The text of the nodes outside of the old nodes, with a text in place of each old node. -/
def text (a : Arena) (part : f.Replacement → Loop String) (c : Cut f) : Loop String := do
  return a.textOf c.before ++ String.join (← c.rest.mapM (textFrom a part))

end Cut

end Syntax

/-! ## Cuts, as they are stored -/

namespace Code

variable {f : Forest}

/-- The cut, as it is stored. -/
def Cut.stored (c : Cut f) : Syntax.Cut f.stored where
  before := c.before.map .ofNat
  rest := c.rest.map fun t => (t.1.stored, t.2.map .ofNat)

theorem Arena.textOf_stored {a : Arena} {ids : List Nat} (h : ∀ i ∈ ids, i < 2 ^ 32) :
    a.stored.textOf (ids.map .ofNat) = a.textOf ids := by
  rw [Syntax.Arena.textOf, List.filterMap_map, textOf]
  exact congrArg _ (List.filterMap_congr fun i hi => tokenText?_stored (h i hi))

namespace Cut

variable {c : Cut f} {a : Arena}

theorem targets_stored : c.stored.targets = c.targets.map (·.stored) := by
  rw [Syntax.Cut.targets, stored, targets, List.map_map, List.map_map]
  rfl

theorem nodes_stored (hfit : f.Fits) : c.stored.nodes = some (c.nodes.map .ofNat) := by
  have hparts : c.stored.rest.mapM Syntax.Cut.nodesFrom = some (c.rest.map fun t =>
      (t.1.old.id :: t.1.old.arena.descendants t.1.old.id ++ t.2).map UInt32.ofNat) := by
    rw [stored, List.mapM_map]
    refine mapM_eq_some fun t _ => ?_
    have hbelow : t.1.stored.old.arena.descendants t.1.stored.old.id =
        some ((t.1.old.arena.descendants t.1.old.id).map .ofNat) :=
      Arena.descendants_stored (hfit t.1.old) (Forest.Node.id_lt_pow hfit)
    rw [Function.comp_apply, Syntax.Cut.nodesFrom]
    simp only [hbelow, List.map_append, List.map_cons]
    rfl
  rw [Syntax.Cut.nodes]
  simp only [hparts]
  rw [nodes, List.map_append, List.map_flatMap, List.flatMap_def]
  rfl

/-- The texts are the same, if numbers of 32 bits are enough for what is outside of the old nodes. -/
theorem text_stored {part : f.Replacement → String} {loop : f.stored.Replacement → Loop String}
    (hpart : ∀ r : f.Replacement, loop r.stored = some (part r)) (hlt : ∀ i ∈ c.nodes, i < 2 ^ 32) :
    c.stored.text a.stored loop = some (c.text a part) := by
  obtain ⟨hbefore, hrest⟩ := List.forall_mem_append.1 hlt
  have hparts : c.stored.rest.mapM (Syntax.Cut.textFrom a.stored loop) =
      some (c.rest.map fun t => part t.1 ++ a.textOf t.2) := by
    rw [stored, List.mapM_map]
    refine mapM_eq_some fun t ht => ?_
    have hbehind : ∀ i ∈ t.2, i < 2 ^ 32 := fun i hi =>
      hrest i (List.mem_flatMap.2 ⟨t, ht, List.mem_append_right _ hi⟩)
    rw [Function.comp_apply, Syntax.Cut.textFrom, Arena.textOf_stored hbehind]
    simp only [hpart]
    rfl
  have hbefore : a.stored.textOf c.stored.before = a.textOf c.before := Arena.textOf_stored hbefore
  rw [Syntax.Cut.text, hbefore]
  simp only [hparts]
  rfl

end Cut

end Code

/-! ## The outcome -/

namespace Syntax

/-- What is built of the events of a tree has the text of its tokens. -/
theorem fullText_of_build {tree : Code.Tree} {t : Arena} (h : build tree.events = .ok t)
    (hsize : t.size ≤ 2 ^ 32) : t.fullText = some (String.join tree.texts) := by
  obtain ⟨a, hfit, rfl, rfl⟩ := exists_tree_stored h hsize
  rw [Code.Arena.fullText_stored hfit, Code.Arena.fullText, Code.Arena.text_eq]
  rfl

namespace Forest

/-- **Replacing changes the texts of the old nodes that are met, and no other text**, where all trees were
    built and have at most 2 ^ 32 nodes. The tree at and below the root is cut at the old nodes that are
    met, in document order; its text is that of the cut tree with the texts of the old nodes, and the text
    of the outcome is the same with those of the new nodes, if it has at most 2 ^ 32 nodes as well. -/
theorem replace_text (f : Forest) (root : f.Node) (pairs : List f.Replacement)
    (hb : ∀ n : f.Node, ∃ es, build es = .ok n.arena) (hsize : ∀ n : f.Node, n.arena.size ≤ 2 ^ 32)
    (h : (pairs.map (·.old.ref)).Nodup) :
    ∃ (c : Cut f) (t : Arena) (stats : Code.ReplaceStats),
      f.replace root pairs = some (.ok (t, stats)) ∧
      (∀ r, r ∈ c.targets ↔ r ∈ pairs ∧ r.old.IsMet root pairs) ∧
      c.targets.Pairwise (fun r s => r.old.id < s.old.id) ∧
      (∃ below, root.arena.descendants root.id = some below ∧ c.nodes = some (root.id :: below)) ∧
      (∃ before, root.arena.text root.id = some before ∧
        c.text root.arena (fun r => r.old.arena.text r.old.id) = some before) ∧
      ∃ after, c.text root.arena (fun r => r.new.arena.text r.new.id) = some after ∧
        (t.size ≤ 2 ^ 32 → t.fullText = some after) := by
  obtain ⟨f, rfl, hb, hfit⟩ := Code.Forest.exists_stored f hb hsize
  obtain ⟨root, rfl⟩ := Code.Forest.exists_node_stored root
  obtain ⟨pairs, rfl⟩ := Code.Forest.exists_replacements_stored pairs
  rw [Code.refs_stored hfit] at h
  obtain ⟨t, ht, hbuild⟩ := Code.Forest.replace_stored hfit root pairs (hb root) h
  have htext (n : f.Node) : n.stored.arena.text n.stored.id = some (n.arena.text n.id) :=
    Code.Arena.text_stored (hfit n) (Code.Forest.Node.id_lt_pow hfit)
  have hbelow : root.stored.arena.descendants root.stored.id =
      some ((root.arena.descendants root.id).map .ofNat) :=
    Code.Arena.descendants_stored (hfit root) (Code.Forest.Node.id_lt_pow hfit)
  have hlt : ∀ i ∈ (root.cut pairs).nodes, i < 2 ^ 32 := by
    rw [root.nodes_cut]
    exact List.forall_mem_cons.2 ⟨Code.Forest.Node.id_lt_pow hfit, fun i hi =>
      Code.Arena.descendant_lt (hfit root) hi⟩
  refine ⟨(root.cut pairs).stored, t, _, ht, fun r => ?_, ?_, ⟨_, hbelow, ?_⟩, ⟨_, htext root, ?_⟩,
    _, Code.Cut.text_stored (fun r => htext r.new) hlt, fun hle => ?_⟩
  · obtain ⟨r, rfl⟩ := Code.Forest.exists_replacement_stored r
    rw [Code.Cut.targets_stored, root.targets_cut,
      List.mem_map_of_injective (Code.Forest.Replacement.stored_injective hfit),
      Code.Forest.Node.mem_and_isMet_stored hfit]
    exact Code.Forest.Node.mem_targets_iff (hb root) h
  · rw [Code.Cut.targets_stored, root.targets_cut, List.pairwise_map]
    refine (Code.Forest.Node.pairwise_targets (hb root) pairs).imp fun {r s} hrs => ?_
    exact (Code.ofNat_lt (Code.Forest.Node.id_lt_pow hfit) (Code.Forest.Node.id_lt_pow hfit)).2 hrs
  · rw [Code.Cut.nodes_stored hfit, root.nodes_cut]
    rfl
  · exact (Code.Cut.text_stored (fun r => htext r.old) hlt).trans (congrArg some (root.text_cut pairs))
  · rw [fullText_of_build hbuild hle, Code.Tree.texts_withField]
    exact congrArg some (root.text_cut_substituted pairs).symm

/-- The call becomes a copy of the other tree, and the last name a copy of what stands in front of it;
    the name of the call is below another old node. -/
theorem replace_text_twins :
    let f := Code.Forest.twins.stored
    let twin := fun t i => (Code.Forest.twin t i).stored
    let root := twin 0 0
    let pairs : List f.Replacement :=
      [⟨twin 0 5, twin 0 1⟩, ⟨twin 0 3, twin 0 5⟩, ⟨twin 0 2, twin 1 0⟩]
    (∀ n : f.Node, ∃ es, build es = .ok n.arena) ∧ (∀ n : f.Node, n.arena.size ≤ 2 ^ 32) ∧
      (pairs.map (·.old.ref)).Nodup ∧
      ∃ (c : Cut f) (t : Arena) (stats : Code.ReplaceStats),
        f.replace root pairs = some (.ok (t, stats)) ∧ root.arena.text root.id = some "fxy" ∧
        c.text root.arena (fun r => r.old.arena.text r.old.id) = some "fxy" ∧
        c.text root.arena (fun r => r.new.arena.text r.new.id) = some "fxyxfx" ∧
        t.fullText = some "fxyxfx" := by
  intro f twin root pairs
  have hfit := Code.Forest.fits_twins
  obtain ⟨hb, hsize⟩ := Code.Forest.twins_stored
  have hnodup : (pairs.map (·.old.ref)).Nodup := by decide +kernel
  obtain ⟨c, t, stats, ht, -, -, -, ⟨before, hbefore, hold⟩, after, hnew, hfull⟩ :=
    f.replace_text root pairs hb hsize hnodup
  -- Both texts are worked out where nothing is stored.
  let inner := Code.Forest.twin
  let listed : List Code.Forest.twins.Replacement :=
    [⟨inner 0 5, inner 0 1⟩, ⟨inner 0 3, inner 0 5⟩, ⟨inner 0 2, inner 1 0⟩]
  obtain ⟨t', ht', hbuild⟩ := Code.Forest.replace_stored hfit (inner 0 0) listed
    (Code.Forest.built_twins (inner 0 0)) (by decide +kernel)
  obtain ⟨rfl, -⟩ := Prod.mk.inj (Except.ok.inj (Option.some.inj (ht'.symm.trans ht)))
  have hcount : (((inner 0 0).substituted listed).withField none).size ≤ 2 ^ 32 := by decide +kernel
  have hle : t'.size ≤ 2 ^ 32 := (reading_of_build hbuild).1.trans_le hcount
  have htold : String.join (((inner 0 0).substituted listed).withField none).texts = "fxyxfx" := by
    decide +kernel
  have hafter : after = "fxyxfx" :=
    Option.some.inj ((hfull hle).symm.trans ((fullText_of_build hbuild hle).trans (congrArg some htold)))
  have htext : root.arena.text root.id = some ((inner 0 0).arena.text (inner 0 0).id) :=
    Code.Arena.text_stored (hfit (inner 0 0)) (by decide +kernel)
  have hfxy : before = "fxy" := (Option.some.inj (hbefore.symm.trans htext)).trans (by decide +kernel)
  exact ⟨hb, hsize, hnodup, c, t', stats, ht, hfxy ▸ hbefore, hfxy ▸ hold, hafter ▸ hnew,
    hafter ▸ hfull hle⟩

/-- A name becomes a copy of a block with 2 ^ 32 nodes. The root and the block have texts, and the outcome
    has none. -/
theorem replace_untold : ∃ (f : Forest) (root : f.Node) (r : f.Replacement),
    (∀ n : f.Node, ∃ es, build es = .ok n.arena) ∧ (∀ n : f.Node, n.arena.size ≤ 2 ^ 32) ∧
      (∀ n : f.Node, ∃ text, n.arena.text n.id = some text) ∧
      ∃ t stats, f.replace root [r] = some (.ok (t, stats)) ∧ t.fullText = none := by
  obtain ⟨w, hb, hsize, t, stats, tree, ht, htree, hroot, -, hcircular, htoken⟩ :=
    besideNames.exists_circular
  refine ⟨besideNames w, _, _, hb, hsize, ?_, t, stats, ht,
    hcircular.text_eq_none (.inl hroot) (htoken _ (.inl hroot))⟩
  obtain ⟨f, hf, -, hfit⟩ := Code.Forest.exists_stored _ hb hsize
  rw [← hf]
  refine Code.Forest.forall_node_stored.2 fun n => ?_
  exact ⟨_, Code.Arena.text_stored (hfit n) (Code.Forest.Node.id_lt_pow hfit)⟩

end Forest

end Syntax

end AsyncIdioms
