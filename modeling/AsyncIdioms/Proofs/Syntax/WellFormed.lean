/-
  Built trees are well formed, as they are stored.

  In a built tree of at most 2 ^ 32 nodes each node but the root has one parent, which lists it once, and
  the numbers of the nodes follow the document:

  * `Arena.WellFormed` : what holds of the links of all nodes; `Code.Arena.WellFormed.stored` : it holds as
    well of what is stored;
  * `build_wellFormed` : what is built is well formed, and lists what the events add.
-/
import AsyncIdioms.Proofs.Syntax.Traversal

namespace AsyncIdioms

namespace Syntax

open Code (Kind Field Event)

/-- What a node adds besides links. -/
def Entry.labels (e : Entry) : Kind × Option Field × Option String := (e.kind, e.field, e.text)

/-- Each node but the root has one parent, which lists it once, and the numbers follow the document. -/
structure Arena.WellFormed (a : Arena) : Prop where
  root_eq : a.root = 0
  /-- The root is the only node without a parent. -/
  parent?_eq_none_iff : ∀ i : UInt32, i.toNat < a.size → (a.parent? i = none ↔ i = a.root)
  parent_lt : ∀ i p, a.parent? i = some p → p < i
  /-- The parent lists the node once. -/
  count_children : ∀ i p, a.parent? i = some p → (a.children p).count i = 1
  pairwise_children : ∀ i, (a.children i).Pairwise (· < ·)
  parent?_child : ∀ i j, j ∈ a.children i → a.parent? j = some i
  children_token : ∀ i, a.isToken i = true → a.children i = []
  reachable : ∀ i : UInt32, i.toNat < a.size → a.Below a.root i
  /-- The numbers are those of a walk through the document. -/
  descendants_root : (a.descendants a.root).map (a.root :: ·) = some ((List.range a.size).map .ofNat)
  /-- What is at and below a node has the numbers from that of the node on. -/
  below_iff : ∀ i : UInt32, i.toNat < a.size → ∃ below, a.descendants i = some below ∧
    ∀ j, a.Below i j ↔ i ≤ j ∧ j.toNat < i.toNat + (below.length + 1)

end Syntax

namespace Code.Arena

variable {a : Arena} {i : Nat}

theorem WellFormed.mem_children (h : a.WellFormed) {p : Nat} (hp : a.parent? i = some p) :
    i ∈ a.children p := List.count_pos_iff.1 (by rw [h.count_children i p hp]; exact Nat.one_pos)

/-- The children have numbers that rise, as they are stored. -/
theorem WellFormed.pairwise_children_stored (h : a.WellFormed) (hfit : a.Fits) :
    ((a.children i).map UInt32.ofNat).Pairwise (· < ·) :=
  List.pairwise_map.2 ((h.pairwise_children i).imp_of_mem fun hj hk hlt =>
    (ofNat_lt (hfit.child_lt hj) (hfit.child_lt hk)).2 hlt)

/-- What is stored of a tree that fits is well formed. -/
theorem WellFormed.stored (h : a.WellFormed) (hfit : a.Fits) : a.stored.WellFormed := by
  have hnumber (i : UInt32) (hi : i.toNat < a.stored.size) :
      ∃ k, i = .ofNat k ∧ k < a.size ∧ k < 2 ^ 32 :=
    ⟨i.toNat, UInt32.ofNat_toNat.symm, by rwa [size_stored] at hi, i.toNat_lt⟩
  refine ⟨congrArg UInt32.ofNat h.root_eq, ?_, ?_, ?_, ?_, ?_, ?_, ?_, ?_, ?_⟩
  · intro i hi
    obtain ⟨k, rfl, hk, hlt⟩ := hnumber i hi
    rw [parent?_stored hlt, Option.map_eq_none_iff, h.parent?_eq_none_iff k hk]
    exact (ofNat_inj hlt hfit.root_lt).symm
  · intro i p hp
    exact UInt32.lt_iff_toNat_lt.2 (a.stored.parent_lt hp)
  · intro i p hp
    obtain ⟨k, hlt, rfl⟩ := Syntax.exists_ofNat i
    rw [parent?_stored hlt] at hp
    obtain ⟨q, hq, rfl⟩ := Option.map_eq_some_iff.1 hp
    rw [children_stored (Nat.lt_trans (a.parent_lt hq) hlt)]
    refine List.count_eq_one_of_mem ?_ (List.mem_map_of_mem (h.mem_children hq))
    exact (h.pairwise_children_stored hfit).imp UInt32.ne_of_lt
  · intro i
    obtain ⟨k, hlt, rfl⟩ := Syntax.exists_ofNat i
    rw [children_stored hlt]
    exact h.pairwise_children_stored hfit
  · intro i j hj
    obtain ⟨k, hlt, rfl⟩ := Syntax.exists_ofNat i
    rw [children_stored hlt] at hj
    obtain ⟨c, hc, rfl⟩ := List.mem_map.1 hj
    rw [parent?_stored (hfit.child_lt hc), h.parent?_child k c hc, Option.map_some]
  · intro i hi
    obtain ⟨k, hlt, rfl⟩ := Syntax.exists_ofNat i
    rw [Syntax.Arena.isToken, tokenText?_stored hlt] at hi
    rw [children_stored hlt, h.children_token k hi, List.map_nil]
  · intro i hi
    obtain ⟨k, rfl, hk, hlt⟩ := hnumber i hi
    exact (below_stored_ofNat hfit hfit.root_lt hlt).2 (h.reachable k hk)
  · have hroot : a.stored.descendants a.stored.root = some ((a.descendants a.root).map .ofNat) :=
      descendants_stored hfit hfit.root_lt
    rw [hroot, size_stored, ← h.preorder_root, preorder_eq_cons_descendants]
    rfl
  · intro i hi
    obtain ⟨k, rfl, hk, hlt⟩ := hnumber i hi
    refine ⟨_, descendants_stored hfit hlt, fun j => ?_⟩
    obtain ⟨j, hj, rfl⟩ := Syntax.exists_ofNat j
    rw [below_stored_ofNat hfit hlt hj, h.below_iff k hk, UInt32.le_iff_toNat_le, toNat_ofNat hlt,
      toNat_ofNat hj, ← length_preorder, preorder_eq_cons_descendants, List.length_map,
      List.length_cons]

end Code.Arena

namespace Syntax

open Code (Event)

/-- **What is built is well formed**, if it has at most 2 ^ 32 nodes, and its nodes are what the events
    add, in the order of the events. -/
theorem build_wellFormed {es : List Event} {t : Arena} (h : build es = .ok t) (hsize : t.size ≤ 2 ^ 32) :
    t.WellFormed ∧ t.entries.toList.map Entry.labels = es.filterMap Event.added? := by
  obtain ⟨a, ha, hfit, rfl⟩ := exists_stored_of_build h hsize
  obtain ⟨hwell, hlabels⟩ := Code.wellFormed_of_build ha
  refine ⟨hwell.stored hfit, ?_⟩
  rw [← hlabels, Code.Arena.stored, Array.toList_map, List.map_map]
  rfl

/-- A node with a token, a node without children and a token below it. -/
theorem build_wellFormed_block :
    let es : List Event := [.start .block none, .token .punctuation none "\x7b",
      .start .expressionStatement none, .finish, .token .punctuation none "\x7d", .finish]
    ∃ t, build es = .ok t ∧ t.size ≤ 2 ^ 32 ∧ t.WellFormed ∧
      t.entries.toList.map Entry.labels = es.filterMap Event.added? := by
  intro es
  have hsize : ∃ t, build es = .ok t ∧ t.size ≤ 2 ^ 32 := ⟨_, rfl, by decide⟩
  obtain ⟨t, ht, hsize⟩ := hsize
  exact ⟨t, ht, hsize, build_wellFormed ht hsize⟩

end Syntax

end AsyncIdioms
