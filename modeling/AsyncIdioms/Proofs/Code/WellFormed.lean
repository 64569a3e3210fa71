/-
  Built arenas are well formed.

  In a built arena each node but the root has one parent, which lists it once, and the numbers of the
  nodes follow the document (`Arena.WellFormed`). All of it is read off the layout of the tree that the
  events tell:

  * `Arena.preorder` : the nodes at and below a node, each one before what is below it;
    `Arena.Below` : a node is reached from another one by links to children;
  * `Arena.HoldsAt` : a tree is laid out from a number on;
  * `Arena.HoldsAt.preorder_eq` : its nodes are numbered one after the other;
  * `Arena.HoldsAt.cases` : each of these numbers is where a part of the tree is laid out;
  * `wellFormed_of_build` : what is built is well formed, and lists what the events add.
-/
import Mathlib.Data.List.Nodup
import Mathlib.Logic.Relation
import AsyncIdioms.Proofs.Code.Telling

namespace AsyncIdioms.Code

open Relation

/-! ## Below a node -/

namespace Arena

variable (a : Arena)

/-- The nodes at and below node `i`: first the node, then what is at and below its children. -/
def preorder (i : Nat) : List Nat := i :: (a.children i).attach.flatMap fun ⟨j, _⟩ => preorder j
termination_by a.size - i
decreasing_by
  have := a.child_bounds ‹_›
  omega

/-- Node `j` is node `i`, or is reached from it by links to children. -/
def Below (i j : Nat) : Prop := ReflTransGen (fun i j => j ∈ a.children i) i j

theorem preorder_eq (i : Nat) : a.preorder i = i :: (a.children i).flatMap a.preorder := by
  rw [preorder, List.flatMap_subtype (g := a.preorder) (fun _ _ => rfl), List.unattach_attach]

variable {a}

theorem length_preorder (i : Nat) : (a.preorder i).length = a.treeSize i := by
  induction i using preorder.induct a with
  | case1 i ih =>
    have hmap : (a.children i).map (fun j => (a.preorder j).length) =
        (a.children i).map a.treeSize := List.map_congr_left fun j hj => ih j hj
    rw [preorder_eq, treeSize_eq, List.length_cons, length_flatMap_eq_total, hmap, Nat.add_comm]

theorem mem_preorder_iff {i j : Nat} : j ∈ a.preorder i ↔ a.Below i j := by
  induction i using preorder.induct a with
  | case1 i ih =>
    rw [preorder_eq, List.mem_cons, List.mem_flatMap, Below, ReflTransGen.cases_head_iff]
    constructor
    · rintro (rfl | ⟨k, hk, hj⟩)
      · exact .inl rfl
      · exact .inr ⟨k, hk, (ih k hk).1 hj⟩
    · rintro (rfl | ⟨k, hk, hj⟩)
      · exact .inl rfl
      · exact .inr ⟨k, hk, (ih k hk).2 hj⟩

/-! ## Where a tree is laid out -/

/-- The tree is laid out from number `i` on, its root being a child of `parent`. -/
def HoldsAt (a : Arena) (parent : Option Nat) (i : Nat) (t : Tree) : Prop :=
  t.layout parent i <+: a.entries.toList.drop i

/-- The trees are laid out one after the other, as children of `parent`. -/
def HoldAllAt (a : Arena) (parent : Option Nat) (i : Nat) (ts : List Tree) : Prop :=
  Tree.layoutAll parent i ts <+: a.entries.toList.drop i

variable {parent : Option Nat} {i : Nat} {t : Tree} {ts : List Tree}

theorem holdAllAt_cons :
    a.HoldAllAt parent i (t :: ts) ↔ a.HoldsAt parent i t ∧ a.HoldAllAt parent (i + t.size) ts := by
  rw [HoldAllAt, HoldsAt, HoldAllAt, Tree.layoutAll, append_isPrefix_drop, Tree.length_layout]

theorem HoldsAt.parent?_eq (h : a.HoldsAt parent i t) : a.parent? i = parent := by
  cases t with
  | token kind field text | node kind field ts =>
    obtain ⟨he, -⟩ := cons_isPrefix_drop.1 h
    rw [Array.getElem?_toList] at he
    rw [parent?, entry?, he]
    rfl

theorem HoldsAt.children_token {kind : Kind} {field : Option Field} {text : String}
    (h : a.HoldsAt parent i (.token kind field text)) : a.children i = [] := by
  obtain ⟨he, -⟩ := cons_isPrefix_drop.1 h
  rw [Array.getElem?_toList] at he
  rw [children, entry?, he]
  rfl

/-- The children of a node are laid out behind it. -/
theorem HoldsAt.children_node {kind : Kind} {field : Option Field}
    (h : a.HoldsAt parent i (.node kind field ts)) :
    a.children i = Tree.rootNumbers (i + 1) ts ∧ a.HoldAllAt (some i) (i + 1) ts := by
  obtain ⟨he, hts⟩ := cons_isPrefix_drop.1 h
  rw [Array.getElem?_toList] at he
  refine ⟨?_, hts⟩
  rw [children, entry?, he]
  rfl

mutual
/-- The nodes of a tree are numbered one after the other. -/
theorem HoldsAt.preorder_eq {parent : Option Nat} {i : Nat} :
    ∀ {t : Tree}, a.HoldsAt parent i t → a.preorder i = List.range' i t.size
  | .token kind field text, h => by
    rw [Arena.preorder_eq, h.children_token]
    rfl
  | .node kind field ts, h => by
    obtain ⟨hc, hts⟩ := h.children_node
    rw [Arena.preorder_eq, hc, hts.flatMap_preorder, Tree.size, Nat.add_comm 1, List.range'_succ]
/-- So are the nodes of trees one after the other. -/
theorem HoldAllAt.flatMap_preorder {parent : Option Nat} {i : Nat} :
    ∀ {ts : List Tree}, a.HoldAllAt parent i ts →
      (Tree.rootNumbers i ts).flatMap a.preorder = List.range' i (Tree.sizeAll ts)
  | [], _ => rfl
  | t :: ts, h => by
    obtain ⟨ht, hts⟩ := holdAllAt_cons.1 h
    rw [Tree.rootNumbers, List.flatMap_cons, ht.preorder_eq, hts.flatMap_preorder, Tree.sizeAll,
      List.range'_append_1]
end

theorem HoldAllAt.exists_of_mem (h : a.HoldAllAt parent i ts) {j : Nat}
    (hj : j ∈ Tree.rootNumbers i ts) : ∃ t, a.HoldsAt parent j t := by
  induction ts generalizing i with
  | nil => simp [Tree.rootNumbers] at hj
  | cons t ts ih =>
    obtain ⟨ht, hts⟩ := holdAllAt_cons.1 h
    rcases List.mem_cons.1 hj with rfl | hj
    · exact ⟨t, ht⟩
    · exact ih hts hj

mutual
/-- Each number of a tree is that of its root, or of the root of a part of it, which is a child. -/
theorem HoldsAt.cases {parent : Option Nat} {i : Nat} :
    ∀ {t : Tree}, a.HoldsAt parent i t → ∀ {j : Nat}, i ≤ j → j < i + t.size →
      j = i ∨ ∃ p t', a.HoldsAt (some p) j t' ∧ j ∈ a.children p
  | .token kind field text, _, j, hle, hlt => by
    rw [Tree.size] at hlt
    exact .inl (by omega)
  | .node kind field ts, h, j, hle, hlt => by
    obtain ⟨hc, hts⟩ := h.children_node
    rw [Tree.size] at hlt
    rcases Nat.eq_or_lt_of_le hle with rfl | hlt'
    · exact .inl rfl
    · right
      rcases hts.cases hlt' (by omega) with ⟨t', ht', hj⟩ | hbelow
      · exact ⟨i, t', ht', hc ▸ hj⟩
      · exact hbelow
theorem HoldAllAt.cases {parent : Option Nat} {i : Nat} :
    ∀ {ts : List Tree}, a.HoldAllAt parent i ts → ∀ {j : Nat}, i ≤ j → j < i + Tree.sizeAll ts →
      (∃ t', a.HoldsAt parent j t' ∧ j ∈ Tree.rootNumbers i ts) ∨
        ∃ p t', a.HoldsAt (some p) j t' ∧ j ∈ a.children p
  | [], _, j, hle, hlt => by
    rw [Tree.sizeAll] at hlt
    omega
  | t :: ts, h, j, hle, hlt => by
    obtain ⟨ht, hts⟩ := holdAllAt_cons.1 h
    rw [Tree.sizeAll] at hlt
    rcases Nat.lt_or_ge j (i + t.size) with hj | hj
    · rcases ht.cases hle hj with rfl | hbelow
      · exact .inl ⟨t, ht, List.mem_cons_self⟩
      · exact .inr hbelow
    · rcases hts.cases hj (by omega) with ⟨t', ht', hroot⟩ | hbelow
      · exact .inl ⟨t', ht', List.mem_cons_of_mem _ hroot⟩
      · exact .inr hbelow
end

end Arena

/-! ## Numbers in a layout -/

namespace Tree

theorem size_pos (t : Tree) : 0 < t.size := by
  cases t <;> (rw [size]; omega)

theorem le_of_mem_rootNumbers {ts : List Tree} {i j : Nat} (h : j ∈ rootNumbers i ts) : i ≤ j := by
  induction ts generalizing i with
  | nil => simp [rootNumbers] at h
  | cons t ts ih =>
    rcases List.mem_cons.1 h with rfl | h
    · exact Nat.le_refl _
    · exact Nat.le_trans (Nat.le_add_right _ _) (ih h)

theorem pairwise_rootNumbers (ts : List Tree) (i : Nat) : (rootNumbers i ts).Pairwise (· < ·) := by
  induction ts generalizing i with
  | nil => exact .nil
  | cons t ts ih =>
    refine .cons (fun j hj => ?_) (ih (i + t.size))
    have hle := le_of_mem_rootNumbers hj
    have hpos := t.size_pos
    omega

end Tree

/-! ## What the events add -/

/-- The node that an event adds: its kind, its role and its text. -/
def Event.added? : Event → Option (Kind × Option Field × Option String)
  | start kind field => some (kind, field, none)
  | token kind field text => some (kind, field, some text)
  | finish => none

def Entry.labels (e : Entry) : Kind × Option Field × Option String := (e.kind, e.field, e.text)

mutual
/-- The layout of a tree lists what its events add. -/
theorem Tree.labels_layout (parent : Option Nat) (i : Nat) :
    ∀ t : Tree, (t.layout parent i).map Entry.labels = t.events.filterMap Event.added?
  | token kind field text => rfl
  | node kind field ts => by
    rw [layout, events, List.map_cons, labels_layoutAll (some i) (i + 1) ts]
    simp [Event.added?, Entry.labels]
theorem Tree.labels_layoutAll (parent : Option Nat) (i : Nat) :
    ∀ ts : List Tree,
      (layoutAll parent i ts).map Entry.labels = (eventsAll ts).filterMap Event.added?
  | [] => rfl
  | t :: ts => by
    rw [layoutAll, eventsAll, List.map_append, List.filterMap_append, labels_layout parent i t,
      labels_layoutAll parent (i + t.size) ts]
end

/-! ## Well-formed arenas -/

/-- The links and the numbers of an arena are those of one tree in document order. -/
structure Arena.WellFormed (a : Arena) : Prop where
  root_eq : a.root = 0
  /-- The root is the only node without a parent. -/
  parent?_eq_none_iff : ∀ i, i < a.size → (a.parent? i = none ↔ i = a.root)
  parent_lt : ∀ i p, a.parent? i = some p → p < i
  /-- The parent lists the node once. -/
  count_children : ∀ i p, a.parent? i = some p → (a.children p).count i = 1
  pairwise_children : ∀ i, (a.children i).Pairwise (· < ·)
  parent?_child : ∀ i j, j ∈ a.children i → a.parent? j = some i
  children_token : ∀ i, a.isToken i = true → a.children i = []
  reachable : ∀ i, i < a.size → a.Below a.root i
  /-- The numbers are those of a walk through the document. -/
  preorder_root : a.preorder a.root = List.range a.size
  /-- What is at and below a node has the numbers from that of the node on. -/
  below_iff : ∀ i, i < a.size → ∀ j, a.Below i j ↔ i ≤ j ∧ j < i + a.treeSize i

namespace Arena

variable {a : Arena} {parent : Option Nat} {i : Nat} {t : Tree}

theorem HoldsAt.treeSize_eq (h : a.HoldsAt parent i t) : a.treeSize i = t.size := by
  rw [← length_preorder, h.preorder_eq, List.length_range']

theorem HoldsAt.below_iff (h : a.HoldsAt parent i t) {j : Nat} :
    a.Below i j ↔ i ≤ j ∧ j < i + a.treeSize i := by
  rw [← mem_preorder_iff, h.preorder_eq, List.mem_range'_1, h.treeSize_eq]

theorem HoldsAt.pairwise_children (h : a.HoldsAt parent i t) : (a.children i).Pairwise (· < ·) := by
  cases t with
  | token kind field text => rw [h.children_token]; exact .nil
  | node kind field ts => rw [h.children_node.1]; exact Tree.pairwise_rootNumbers ts (i + 1)

theorem HoldsAt.parent?_child (h : a.HoldsAt parent i t) {j : Nat} (hj : j ∈ a.children i) :
    a.parent? j = some i := by
  cases t with
  | token kind field text => simp [h.children_token] at hj
  | node kind field ts =>
    obtain ⟨hc, hts⟩ := h.children_node
    obtain ⟨t', ht'⟩ := hts.exists_of_mem (hc ▸ hj)
    exact ht'.parent?_eq

/-- Each node of the tree is the root of a part of it, and is listed by its parent. -/
theorem HoldsAt.exists_part (h : a.HoldsAt none 0 t) (hi : i < t.size) :
    ∃ parent part, a.HoldsAt parent i part ∧ (parent = none ↔ i = 0) ∧
      ∀ p ∈ parent, i ∈ a.children p := by
  rcases h.cases (Nat.zero_le i) (by omega) with rfl | ⟨p, part, hpart, hp⟩
  · exact ⟨none, t, h, by simp, by simp⟩
  · have hlt := (a.child_bounds hp).1
    refine ⟨some p, part, hpart, ?_, by simpa using hp⟩
    simp only [reduceCtorEq, false_iff]
    omega

theorem lt_size_of_parent? {p : Nat} (h : a.parent? i = some p) : i < a.size := by
  obtain ⟨e, he, -⟩ := Option.bind_eq_some_iff.1 h
  exact (Array.getElem?_eq_some_iff.1 he).1

theorem children_of_isToken (h : a.isToken i = true) : a.children i = [] := by
  obtain ⟨text, htext⟩ := Option.isSome_iff_exists.1 h
  obtain ⟨e, he, hte⟩ := Option.bind_eq_some_iff.1 htext
  rw [children, he]
  exact (a.linked i e he).leaf (by simp [hte])

/-- An arena that consists of the layout of a tree is well formed. -/
theorem wellFormed_of_layout (hroot : a.root = 0) (h : a.entries.toList = t.layout none 0) :
    a.WellFormed := by
  have hholds : a.HoldsAt none 0 t :=
    show t.layout none 0 <+: a.entries.toList from h ▸ List.prefix_rfl
  have hsize : a.size = t.size := size_of_layout h
  have hpart : ∀ i, i < a.size → ∃ parent part, a.HoldsAt parent i part ∧
      (parent = none ↔ i = 0) ∧ ∀ p ∈ parent, i ∈ a.children p :=
    fun i hi => hholds.exists_part (hsize ▸ hi)
  have hlt : ∀ i j, j ∈ a.children i → i < a.size := fun i j hj => by
    obtain ⟨hij, hj⟩ := a.child_bounds hj
    omega
  have hpairwise : ∀ i, (a.children i).Pairwise (· < ·) := fun i => by
    cases hc : a.children i with
    | nil => exact .nil
    | cons j js =>
      obtain ⟨parent, part, hat, -⟩ := hpart i (hlt i j (by simp [hc]))
      exact hc ▸ hat.pairwise_children
  refine ⟨hroot, ?_, fun i p => a.parent_lt, ?_, hpairwise, ?_, fun i => children_of_isToken,
    ?_, ?_, ?_⟩
  · intro i hi
    obtain ⟨parent, part, hat, hnone, -⟩ := hpart i hi
    rw [hroot, hat.parent?_eq, hnone]
  · intro i p hp
    obtain ⟨parent, part, hat, -, hlisted⟩ := hpart i (lt_size_of_parent? hp)
    have hmem := hlisted p (hat.parent?_eq.symm.trans hp)
    exact List.count_eq_one_of_mem ((hpairwise p).imp Nat.ne_of_lt) hmem
  · intro i j hj
    obtain ⟨parent, part, hat, -⟩ := hpart i (hlt i j hj)
    exact hat.parent?_child hj
  · intro i hi
    rw [hroot, hholds.below_iff, hholds.treeSize_eq]
    omega
  · rw [hroot, hholds.preorder_eq, ← hsize, List.range_eq_range']
  · intro i hi j
    obtain ⟨parent, part, hat, -⟩ := hpart i hi
    exact hat.below_iff

end Arena

/-! ## What is built -/

/-- What is built was told as a tree. -/
theorem exists_tree_of_build {es : List Event} {a : Arena} (h : build es = .ok a) :
    ∃ t : Tree, t.events = es ∧ a.entries.toList = t.layout none 0 ∧ a.root = 0 := by
  have htells : TellsTree es := by
    rcases faultless_or_firstFault es with hes | ⟨fault, hfault⟩
    · rcases (Builder.wasTold_of_faultless hes).close with ⟨htells, -⟩ | ⟨-, hclose⟩
      · exact htells
      · exact nomatch h.symm.trans hclose
    · exact nomatch h.symm.trans (Builder.close_of_fault (Builder.fault_of_firstFault hfault))
  obtain ⟨t, rfl⟩ := tellsTree_iff.1 htells
  obtain ⟨a', ha', hentries, hroot, -⟩ := t.build_events
  obtain rfl : a = a' := Except.ok.inj (h.symm.trans ha')
  exact ⟨t, rfl, hentries, hroot⟩

/-- **What is built is well formed**, and its nodes are those that the events add, in this order. -/
theorem wellFormed_of_build {es : List Event} {a : Arena} (h : build es = .ok a) :
    a.WellFormed ∧ a.entries.toList.map Entry.labels = es.filterMap Event.added? := by
  obtain ⟨t, rfl, hentries, hroot⟩ := exists_tree_of_build h
  refine ⟨Arena.wellFormed_of_layout hroot hentries, ?_⟩
  rw [hentries, Tree.labels_layout]

end AsyncIdioms.Code
