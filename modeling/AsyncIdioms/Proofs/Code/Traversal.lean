/-
  Going through a tree node by node.

  On the way down and on the way up, the same pairs of nodes are met:

  * `Arena.mem_descendants_iff` : the nodes met on the way down are those properly below;
  * `Arena.Built.descendants_eq` : they are met number by number;
  * `Arena.text_of_children`, `Arena.fullText_of_build` : the text of a node is put together from those of
    its children, and that of a built tree is the text of the tokens that were told;
  * `Forest.ancestors_agree` : up and down agree, and lying within a node is a partial order in which
    the nodes around a node form a chain.
-/
import Mathlib.Order.Defs.Unbundled
import AsyncIdioms.Proofs.Code.OneByOne
import AsyncIdioms.Proofs.Code.RoundTrip
import AsyncIdioms.Proofs.Code.Splicing

namespace AsyncIdioms.Code

theorem join_flatMap {α : Type} (f : α → List String) (xs : List α) :
    String.join (xs.flatMap f) = String.join (xs.map fun x => String.join (f x)) := by
  induction xs with
  | nil => rfl
  | cons x xs ih => rw [List.flatMap_cons, String.join_append, ih, List.map_cons, String.join_cons]

namespace Arena

variable {a : Arena} {i j : Nat}

/-! ## Down -/

/-- The nodes met on the way down are those properly below. -/
theorem mem_descendants_iff : j ∈ a.descendants i ↔ a.Below i j ∧ j ≠ i := by
  rw [descendants, walk_eq, List.mem_flatMap]
  simp only [mem_preorder_iff]
  constructor
  · rintro ⟨c, hc, hj⟩
    have hlt := (a.child_bounds hc).1
    have hle := hj.le
    exact ⟨(below_child hc).trans hj, by omega⟩
  · rintro ⟨hj, hne⟩
    rcases below_iff_eq_or_child.1 hj with heq | hchild
    · exact absurd heq.symm hne
    · exact hchild

/-- The nodes below a node are numbered one after the other, from the node on. -/
theorem Built.descendants_eq (hb : a.Built) (hi : i < a.size) :
    a.descendants i = List.range' (i + 1) (a.descendants i).length := by
  obtain ⟨parent, hholds⟩ := hb.exists_holdsAt hi
  obtain ⟨k, hk⟩ := Nat.exists_eq_add_one_of_ne_zero (Nat.ne_of_gt (a.treeAt i).size_pos)
  have hpreorder := hholds.preorder_eq
  rw [preorder_eq_cons_descendants, hk, List.range'_succ] at hpreorder
  have hbelow : a.descendants i = List.range' (i + 1) k := List.tail_eq_of_cons_eq hpreorder
  rw [hbelow, List.length_range']

/-! ## Texts -/

/-- The text of a node that is no token is put together from those of its children. -/
theorem text_of_children (h : a.tokenText? i = none) :
    a.text i = String.join ((a.children i).map a.text) := by
  have htext : ∀ j, a.text j = String.join ((a.preorder j).filterMap a.tokenText?) := by
    intro j
    rw [text_eq, texts_treeAt]
  have hmap : (a.children i).map a.text =
      (a.children i).map fun j => String.join ((a.preorder j).filterMap a.tokenText?) :=
    List.map_congr_left fun j _ => htext j
  rw [htext, hmap, preorder_eq, List.filterMap_cons_none h, List.filterMap_flatMap, join_flatMap]

/-- The text of a built tree is that of the tokens that were told. -/
theorem fullText_of_build {es : List Event} (h : build es = .ok a) :
    a.fullText = String.join (es.filterMap Event.text?) := by
  have hevents : (a.treeAt a.root).events = es := a.events_tree.trans (events_of_build h)
  rw [fullText, text_eq, Tree.texts, hevents]

/-! ## Up -/

theorem pairwise_ancestors (i : Nat) : (a.ancestors i).Pairwise (· > ·) := by
  induction i using ancestors.induct a with
  | case1 i hnone =>
    rw [ancestors, hnone]
    exact .nil
  | case2 i p hsome ih =>
    rw [ancestors, hsome]
    exact .cons (fun q hq => a.lt_of_mem_ancestors hq) ih

theorem ancestors_eq_nil_iff : a.ancestors i = [] ↔ a.parent? i = none := by
  rw [ancestors]
  split <;> simp_all

namespace WellFormed

variable (hw : a.WellFormed)

include hw

/-- From each node, the way up ends at the root. -/
theorem getLast?_ancestors (hi : i < a.size) : (i :: a.ancestors i).getLast? = some a.root := by
  induction i using ancestors.induct a with
  | case1 i hnone =>
    rw [ancestors, hnone, (hw.parent?_eq_none_iff i hi).1 hnone]
    rfl
  | case2 i p hsome ih =>
    rw [ancestors, hsome, List.getLast?_cons_cons]
    exact ih (Nat.lt_trans (a.parent_lt hsome) hi)

/-- Up and down, the same pairs of nodes are met. -/
theorem mem_ancestors_iff_mem_descendants : j ∈ a.ancestors i ↔ i ∈ a.descendants j := by
  rw [hw.mem_ancestors_iff, mem_descendants_iff, ne_comm]

end WellFormed

end Arena

/-! ## Lying within a node -/

namespace Forest

namespace Node

variable {f : Forest} {n m k : f.Node}

theorem eq_of_tree_of_id (htree : n.tree = m.tree) (hid : n.id = m.id) : n = m :=
  eq_of_ref_eq (by rw [ref, ref, htree, hid])

theorem isWithin_iff_below (hb : m.arena.Built) :
    f.isWithin n.ref m.ref = true ↔ n.tree = m.tree ∧ m.arena.Below m.id n.id :=
  isWithin_ref_iff hb

/-- In one tree, a node lies within another one if it is that node or is met on the way down. -/
theorem isWithin_iff_descendant (hb : m.arena.Built) (htree : n.tree = m.tree) :
    f.isWithin n.ref m.ref = true ↔ n = m ∨ n.id ∈ m.arena.descendants m.id := by
  rw [isWithin_iff_below hb, Arena.mem_descendants_iff]
  constructor
  · rintro ⟨-, hbelow⟩
    by_cases hid : n.id = m.id
    · exact .inl (eq_of_tree_of_id htree hid)
    · exact .inr ⟨hbelow, hid⟩
  · rintro (rfl | ⟨hbelow, -⟩)
    · exact ⟨rfl, Arena.below_refl _⟩
    · exact ⟨htree, hbelow⟩

variable (hb : ∀ n : f.Node, n.arena.Built)

include hb

theorem isWithin_trans (h : f.isWithin n.ref m.ref = true) (h' : f.isWithin m.ref k.ref = true) :
    f.isWithin n.ref k.ref = true := by
  rw [isWithin_iff_below (hb _)] at h h' ⊢
  obtain ⟨htree, hbelow⟩ := h
  obtain ⟨htree', hbelow'⟩ := h'
  rw [arena_eq_of_tree_eq htree'] at hbelow
  exact ⟨htree.trans htree', hbelow'.trans hbelow⟩

theorem eq_of_isWithin (h : f.isWithin n.ref m.ref = true) (h' : f.isWithin m.ref n.ref = true) :
    n = m := by
  rw [isWithin_iff_below (hb _)] at h h'
  obtain ⟨htree, hbelow⟩ := h
  obtain ⟨-, hbelow'⟩ := h'
  rw [arena_eq_of_tree_eq htree] at hbelow'
  exact eq_of_tree_of_id htree (hbelow'.antisymm hbelow)

theorem isPartialOrder_isWithin :
    IsPartialOrder f.Node fun n m => f.isWithin n.ref m.ref = true where
  refl := isWithin_self
  trans _ _ _ := isWithin_trans hb
  antisymm _ _ := eq_of_isWithin hb

/-- Of two nodes around a third one, the one lies within the other. -/
theorem isWithin_or (h : f.isWithin k.ref n.ref = true) (h' : f.isWithin k.ref m.ref = true) :
    f.isWithin n.ref m.ref = true ∨ f.isWithin m.ref n.ref = true := by
  simp only [isWithin_iff_below (hb _)] at h h' ⊢
  obtain ⟨htree, hbelow⟩ := h
  obtain ⟨htree', hbelow'⟩ := h'
  have hnm : n.tree = m.tree := htree.symm.trans htree'
  rw [arena_eq_of_tree_eq hnm] at hbelow ⊢
  rcases (hb m).wellFormed.comparable hbelow hbelow' with h | h
  · exact .inr ⟨hnm.symm, h⟩
  · exact .inl ⟨hnm, h⟩

end Node

/-- Up and down agree. In trees that were built, a node is above another one exactly if that one is
    below it. On the way up from a node, numbers fall, and it leads to the root, from where there is none. A node lies within another one exactly if it is that node or below it;
    this is a partial order, in which the nodes around a node form a chain, and no node lies within one
    of another tree. -/
theorem ancestors_agree (f : Forest) (hb : ∀ n : f.Node, n.arena.Built) :
    (∀ n m : f.Node, n.tree = m.tree →
      (m.id ∈ n.arena.ancestors n.id ↔ n.id ∈ m.arena.descendants m.id) ∧
      (f.isWithin n.ref m.ref = true ↔ n = m ∨ n.id ∈ m.arena.descendants m.id)) ∧
    (∀ n : f.Node,
      (n.arena.ancestors n.id).Pairwise (· > ·) ∧
      (n.arena.ancestors n.id = [] ↔ n.id = n.arena.root) ∧
      (n.id ≠ n.arena.root → (n.arena.ancestors n.id).getLast? = some n.arena.root)) ∧
    (IsPartialOrder f.Node fun n m => f.isWithin n.ref m.ref = true) ∧
    (∀ n m k : f.Node, f.isWithin k.ref n.ref = true → f.isWithin k.ref m.ref = true →
      f.isWithin n.ref m.ref = true ∨ f.isWithin m.ref n.ref = true) ∧
    ∀ n m : f.Node, n.tree ≠ m.tree → f.isWithin n.ref m.ref = false := by
  refine ⟨fun n m htree => ?_, fun n => ?_, Node.isPartialOrder_isWithin hb,
    fun n m k => Node.isWithin_or hb, fun n m hne => ?_⟩
  · refine ⟨?_, Node.isWithin_iff_descendant (hb m) htree⟩
    rw [Node.arena_eq_of_tree_eq htree]
    exact (hb m).wellFormed.mem_ancestors_iff_mem_descendants
  · have hw := (hb n).wellFormed
    have hnil : n.arena.ancestors n.id = [] ↔ n.id = n.arena.root :=
      Arena.ancestors_eq_nil_iff.trans (hw.parent?_eq_none_iff n.id n.id_lt)
    refine ⟨Arena.pairwise_ancestors n.id, hnil, fun hne => ?_⟩
    have hlast := hw.getLast?_ancestors n.id_lt
    rwa [List.getLast?_cons_of_ne_nil (mt hnil.1 hne)] at hlast
  · rw [Bool.eq_false_iff]
    intro hwithin
    exact hne ((Node.isWithin_iff_below (hb m)).1 hwithin).1

end Forest

end AsyncIdioms.Code
