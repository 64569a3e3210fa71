/-
  Going through a stored tree node by node.

  Below a node, the next node is taken from the end of a stack, and its children are put there in
  reverse; above a node, the next one is the parent of the last. In a built tree of at most 2 ^ 32 nodes
  both come to an end, and both meet the same pairs of nodes:

  * `Arena.below_stored` : the nodes that are reached by links to children;
  * `descendants_in_order` : down, a built tree is met in document order, number by number, and its text
    is that of the tokens that were told; `descendants_endless` : with one node more, there is no end;
  * `Forest.up_agrees_with_down` : up and down agree, and lying within a node is a partial order in which
    the nodes around a node form a chain; `Forest.up_differs_from_down` : with one node more, the root is
    below itself and not above.
-/
import AsyncIdioms.Proofs.Code.Traversal
import AsyncIdioms.Proofs.Syntax.Forest
import AsyncIdioms.Proofs.Syntax.Overflow

namespace AsyncIdioms

open Relation (ReflTransGen)

namespace Syntax.Arena

/-- Node `j` is reached from node `i` by links to children. -/
def Below (a : Arena) (i j : UInt32) : Prop := ReflTransGen (fun i j => j ∈ a.children i) i j

/-- Takes the node that is reached and goes to its parent. -/
def nextAbove (a : Arena) (reached : Option UInt32) : Option (UInt32 × Option UInt32) :=
  reached.map fun p => (p, a.parent? p)

theorem ancestors_of_root {a : Arena} {i : UInt32} (h : a.parent? i = none) : a.ancestors i = [] := by
  rw [ancestors]
  split
  · rfl
  next p hp => simp [h] at hp

theorem ancestors_of_parent {a : Arena} {i p : UInt32} (h : a.parent? i = some p) :
    a.ancestors i = p :: a.ancestors p := by
  rw [ancestors]
  split
  next hnone => simp [h] at hnone
  next q hq =>
    obtain rfl := Option.some.inj (h.symm.trans hq)
    rfl

/-- The steps up come to an end, and they give the nodes above the node. -/
theorem drains_ancestors (a : Arena) (i : UInt32) :
    Drains a.nextAbove (a.parent? i) (a.ancestors i) := by
  induction i using ancestors.induct a with
  | case1 i hnone =>
    rw [ancestors_of_root hnone, hnone]
    exact .done rfl
  | case2 i p hsome ih =>
    rw [ancestors_of_parent hsome, hsome]
    exact .more rfl ih

/-- Numbers fall on the way up. -/
theorem pairwise_ancestors (a : Arena) (i : UInt32) :
    (a.ancestors i).Pairwise (· > ·) ∧ ∀ j ∈ a.ancestors i, j < i := by
  induction i using ancestors.induct a with
  | case1 i hnone =>
    rw [ancestors_of_root hnone]
    exact ⟨.nil, by simp⟩
  | case2 i p hsome ih =>
    rw [ancestors_of_parent hsome]
    obtain ⟨hpairwise, hlt⟩ := ih
    have hp : p < i := UInt32.lt_iff_toNat_lt.2 (a.parent_lt hsome)
    exact ⟨.cons hlt hpairwise, List.forall_mem_cons.2 ⟨hp, fun j hj => UInt32.lt_trans (hlt j hj) hp⟩⟩

end Syntax.Arena

namespace Code.Arena

variable {a : Arena} {i : Nat} (hfit : a.Fits)

include hfit

theorem map_toNat_descendants :
    ((a.descendants i).map UInt32.ofNat).map UInt32.toNat = a.descendants i := by
  rw [List.map_map]
  exact (List.map_congr_left fun j hj => toNat_ofNat (descendant_lt hfit hj)).trans (List.map_id _)

variable (hi : i < 2 ^ 32)

include hi

/-- The same nodes are reached. -/
theorem below_stored {x : UInt32} :
    a.stored.Below (.ofNat i) x ↔ ∃ j < 2 ^ 32, a.Below i j ∧ .ofNat j = x := by
  constructor
  · intro h
    induction h with
    | refl => exact ⟨i, hi, below_refl i, rfl⟩
    | tail _ hchild ih =>
      obtain ⟨j, hj, hbelow, rfl⟩ := ih
      rw [children_stored hj] at hchild
      obtain ⟨k, hk, rfl⟩ := List.mem_map.1 hchild
      exact ⟨k, hfit.child_lt hk, hbelow.trans (below_child hk), rfl⟩
  · rintro ⟨j, -, hbelow, rfl⟩
    induction hbelow with
    | refl => exact .refl
    | @tail j k hbelow hk ih =>
      have hj : j < 2 ^ 32 := by
        rcases below_iff_eq_or_child.1 hbelow with rfl | ⟨c, hc, hdown⟩
        · exact hi
        · exact Nat.lt_trans (child_bounds a hk).1 (hfit.child_lt hk)
      refine .tail ih ?_
      rw [children_stored hj]
      exact List.mem_map_of_mem hk

theorem below_stored_ofNat {j : Nat} (hj : j < 2 ^ 32) :
    a.stored.Below (.ofNat i) (.ofNat j) ↔ a.Below i j := by
  rw [below_stored hfit hi]
  constructor
  · rintro ⟨k, hk, hbelow, heq⟩
    exact (ofNat_inj hk hj).1 heq ▸ hbelow
  · exact fun h => ⟨j, hj, h, rfl⟩

theorem mem_descendants_stored {x : UInt32} :
    x ∈ (a.descendants i).map UInt32.ofNat ↔ a.stored.Below (.ofNat i) x ∧ x ≠ .ofNat i := by
  rw [List.mem_map, below_stored hfit hi]
  simp only [mem_descendants_iff]
  constructor
  · rintro ⟨j, ⟨hj, hne⟩, rfl⟩
    have hlt := descendant_lt hfit (mem_descendants_iff.2 ⟨hj, hne⟩)
    exact ⟨⟨j, hlt, hj, rfl⟩, mt (ofNat_inj hlt hi).1 hne⟩
  · rintro ⟨⟨j, hlt, hj, rfl⟩, hne⟩
    exact ⟨j, ⟨hj, mt (ofNat_inj hlt hi).2 hne⟩, rfl⟩

/-- What is below a node are its children, each with what is below it. -/
theorem descendants_stored_of_children :
    ((a.stored.children (.ofNat i)).mapM fun c => (a.stored.descendants c).map (c :: ·)).map
      List.flatten = some ((a.descendants i).map UInt32.ofNat) := by
  have hchild : ∀ j ∈ a.children i, (a.stored.descendants (.ofNat j)).map (UInt32.ofNat j :: ·) =
      some ((a.preorder j).map UInt32.ofNat) := fun j hj => by
    rw [descendants_stored hfit (hfit.child_lt hj), preorder_eq_cons_descendants]
    rfl
  have hall : ((a.children i).map UInt32.ofNat).mapM
      (fun c => (a.stored.descendants c).map (c :: ·)) =
        some ((a.children i).map fun j => (a.preorder j).map UInt32.ofNat) := by
    rw [List.mapM_map]
    exact mapM_eq_some hchild
  rw [children_stored hi, hall, Option.map_some, descendants, walk_eq, List.map_flatMap,
    List.flatMap_def]

theorem text_stored_of_children (ht : a.tokenText? i = none) :
    ∃ parts, (a.stored.children (.ofNat i)).mapM a.stored.text = some parts ∧
      a.stored.text (.ofNat i) = some (String.join parts) := by
  refine ⟨(a.children i).map a.text, ?_, ?_⟩
  · rw [children_stored hi, List.mapM_map]
    exact mapM_eq_some fun j hj => text_stored hfit (hfit.child_lt hj)
  · rw [text_stored hfit hi, text_of_children ht]

end Code.Arena

namespace Code.Forest.Node

variable {f : Forest} {n m : f.Node} (hfit : f.Fits)

include hfit

theorem ancestors_stored :
    n.stored.arena.ancestors n.stored.id = (n.arena.ancestors n.id).map UInt32.ofNat :=
  Arena.ancestors_stored (id_lt_pow hfit)

theorem ancestor_lt {i : Nat} (hi : i ∈ n.arena.ancestors n.id) : i < 2 ^ 32 :=
  Nat.lt_trans (n.arena.lt_of_mem_ancestors hi) (id_lt_pow hfit)

theorem mem_ancestors_stored :
    m.stored.id ∈ n.stored.arena.ancestors n.stored.id ↔ m.id ∈ n.arena.ancestors n.id := by
  rw [ancestors_stored hfit]
  exact mem_map_ofNat (id_lt_pow hfit) fun _ => ancestor_lt hfit

theorem mem_descendants_stored :
    n.stored.id ∈ (m.arena.descendants m.id).map UInt32.ofNat ↔ n.id ∈ m.arena.descendants m.id :=
  mem_map_ofNat (id_lt_pow hfit) fun _ => Arena.descendant_lt (hfit m)

theorem root_stored : n.stored.id = n.stored.arena.root ↔ n.id = n.arena.root :=
  ofNat_inj (id_lt_pow hfit) (hfit n).root_lt

end Code.Forest.Node

/-! ## Down -/

namespace Syntax

open Code (Event)

/-- Each number is that of a place. -/
theorem exists_ofNat (i : UInt32) : ∃ k < 2 ^ 32, UInt32.ofNat k = i :=
  ⟨i.toNat, i.toNat_lt, UInt32.ofNat_toNat⟩

/-- **Going down meets a built tree in document order**, if it has at most 2 ^ 32 nodes. The way down
    from a node comes to an end; it gives the nodes properly below it, each once, in the order of the
    recursion, and these are the numbers that follow. The text of a node that is no token is put together
    from those of its children, and the text of the tree is that of the tokens in the order in which they
    were told. -/
theorem descendants_in_order {es : List Event} {t : Arena} (h : build es = .ok t)
    (hsize : t.size ≤ 2 ^ 32) :
    (∀ i : UInt32, i.toNat < t.size → ∃ below, t.descendants i = some below ∧
      (∀ j, j ∈ below ↔ t.Below i j ∧ j ≠ i) ∧
      below.Nodup ∧
      ((t.children i).mapM fun c => (t.descendants c).map (c :: ·)).map List.flatten = some below ∧
      below.map UInt32.toNat = List.range' (i.toNat + 1) below.length ∧
      (t.tokenText? i = none → ∃ parts, (t.children i).mapM t.text = some parts ∧
        t.text i = some (String.join parts))) ∧
    t.fullText = some (String.join (es.filterMap Event.text?)) := by
  obtain ⟨a, ha, hfit, rfl⟩ := exists_stored_of_build h hsize
  refine ⟨fun i hi => ?_, ?_⟩
  · obtain ⟨k, hk, rfl⟩ := exists_ofNat i
    rw [Code.toNat_ofNat hk, Code.Arena.size_stored] at hi
    have hrange := Code.Arena.Built.descendants_eq ⟨es, ha⟩ hi
    have hnumbers := Code.Arena.map_toNat_descendants (i := k) hfit
    have hnodup : (((a.descendants k).map UInt32.ofNat).map UInt32.toNat).Nodup := by
      rw [hnumbers, hrange]
      exact List.nodup_range'
    refine ⟨_, Code.Arena.descendants_stored hfit hk,
      fun j => Code.Arena.mem_descendants_stored hfit hk, List.Nodup.of_map _ hnodup,
      Code.Arena.descendants_stored_of_children hfit hk, ?_, fun ht => ?_⟩
    · rw [hnumbers, Code.toNat_ofNat hk, List.length_map]
      exact hrange
    · rw [Code.Arena.tokenText?_stored hk] at ht
      exact Code.Arena.text_stored_of_children hfit hk ht
  · rw [Code.Arena.fullText_stored hfit, Code.Arena.fullText_of_build ha]

/-- Below the second node are a call with its name and another name. -/
theorem descendants_in_order_twinEvents :
    ∃ t, build Code.twinEvents = .ok t ∧ t.size ≤ 2 ^ 32 ∧
      (∃ below, t.descendants 1 = some below ∧ below.map UInt32.toNat = [2, 3, 4]) ∧
      t.fullText = some "fxy" := by
  have hbuild : Code.build Code.twinEvents = .ok _ := rfl
  have hfit : (Code.Forest.twin 0 0).arena.Fits := by decide +kernel
  have hstored := build_stored hbuild hfit
  obtain ⟨hdown, htext⟩ := descendants_in_order hstored (by decide +kernel)
  obtain ⟨below, hbelow, -, -, -, hrange, -⟩ := hdown 1 (by decide +kernel)
  refine ⟨_, hstored, by decide +kernel, ⟨below, hbelow, hrange.trans ?_⟩, htext.trans ?_⟩
  · have hfound := Code.Arena.descendants_stored hfit (i := 1) (by decide)
    obtain rfl := Option.some.inj (hbelow.symm.trans hfound)
    decide +kernel
  · decide +kernel

/-- In a block with 2 ^ 32 tokens, the way down from the root does not end. -/
theorem descendants_endless :
    ∃ t, build (wide (2 ^ 32)).events = .ok t ∧ t.size = 2 ^ 32 + 1 ∧
      t.descendants t.root = none ∧ t.fullText = none := by
  obtain ⟨t, ht, hsize, hroot, hwide⟩ := exists_build_wide (2 ^ 32)
  have hcircular := hwide.circular (Nat.le_refl _)
  obtain ⟨-, -, htoken, -⟩ := hwide.extends.labels (i := 0) rfl
  refine ⟨t, ht, hsize, hroot ▸ hcircular.descendants_eq_none rfl, ?_⟩
  rw [Arena.fullText, hroot]
  exact hcircular.text_eq_none rfl htoken

/-! ## Up -/

namespace Forest

/-- **Up and down agree.** In trees that were built and have at most 2 ^ 32 nodes, a node is above another
    one exactly if that one is below it. The way up from a node comes to an end; its numbers fall, and it
    leads to the root, from where there is none. A node lies within another one exactly if it is that node
    or below it; this is a partial order, in which the nodes around a node form a chain, and no node lies
    within one of another tree. -/
theorem up_agrees_with_down (f : Forest) (hb : ∀ n : f.Node, ∃ es, build es = .ok n.arena)
    (hsize : ∀ n : f.Node, n.arena.size ≤ 2 ^ 32) :
    (∀ n m : f.Node, n.tree = m.tree → ∃ below, m.arena.descendants m.id = some below ∧
      (m.id ∈ n.arena.ancestors n.id ↔ n.id ∈ below) ∧
      (isWithin n m = true ↔ n = m ∨ n.id ∈ below)) ∧
    (∀ n : f.Node,
      Drains n.arena.nextAbove (n.arena.parent? n.id) (n.arena.ancestors n.id) ∧
      (n.arena.ancestors n.id).Pairwise (· > ·) ∧
      (n.arena.ancestors n.id = [] ↔ n.id = n.arena.root) ∧
      (n.id ≠ n.arena.root → (n.arena.ancestors n.id).getLast? = some n.arena.root)) ∧
    (IsPartialOrder f.Node fun n m => isWithin n m = true) ∧
    (∀ n m k : f.Node, isWithin k n = true → isWithin k m = true →
      isWithin n m = true ∨ isWithin m n = true) ∧
    ∀ n m : f.Node, n.tree ≠ m.tree → isWithin n m = false := by
  obtain ⟨f, rfl, hb, hfit⟩ := Code.Forest.exists_stored f hb hsize
  have hlt (n : f.Node) : n.id < 2 ^ 32 := Code.Forest.Node.id_lt_pow hfit
  have hwithin (n m : f.Node) : isWithin n.stored m.stored = f.isWithin n.ref m.ref :=
    Code.Forest.isWithin_stored hfit n m
  obtain ⟨hagree, hup, horder, hchain, hapart⟩ := f.ancestors_agree hb
  simp only [Code.Forest.forall_node_stored, hwithin]
  refine ⟨fun n m htree => ⟨_, Code.Arena.descendants_stored (hfit m) (hlt m), ?_, ?_⟩, fun n => ?_,
    ?_, hchain, fun n m hne => ?_⟩
  · rw [Code.Forest.Node.mem_ancestors_stored hfit, Code.Forest.Node.mem_descendants_stored hfit]
    exact (hagree n m htree).1
  · rw [Code.Forest.Node.stored_inj hfit, Code.Forest.Node.mem_descendants_stored hfit]
    exact (hagree n m htree).2
  · obtain ⟨-, hnil, hlast⟩ := hup n
    refine ⟨n.stored.arena.drains_ancestors n.stored.id,
      (n.stored.arena.pairwise_ancestors n.stored.id).1, ?_, fun hne => ?_⟩
    · rw [Code.Forest.Node.ancestors_stored hfit, List.map_eq_nil_iff, hnil,
        Code.Forest.Node.root_stored hfit]
    · rw [Code.Forest.Node.ancestors_stored hfit, List.getLast?_map,
        hlast (mt (Code.Forest.Node.root_stored hfit).2 hne)]
      rfl
  · refine { refl := ?_, trans := ?_, antisymm := ?_ }
    · simp only [Code.Forest.forall_node_stored, hwithin]
      exact horder.refl
    · simp only [Code.Forest.forall_node_stored, hwithin]
      exact horder.trans
    · simp only [Code.Forest.forall_node_stored, hwithin, Code.Forest.Node.stored_inj hfit]
      exact horder.antisymm
  · exact hapart n m hne

/-- The name of the call lies within the expression around it, and not within its twin. -/
theorem up_agrees_with_down_twins :
    let f := Code.Forest.twins.stored
    let twin := fun t i => (Code.Forest.twin t i).stored
    (∀ n : f.Node, ∃ es, build es = .ok n.arena) ∧ (∀ n : f.Node, n.arena.size ≤ 2 ^ 32) ∧
      (twin 0 1).id ∈ (twin 0 3).arena.ancestors (twin 0 3).id ∧
      isWithin (twin 0 3) (twin 0 1) = true ∧ isWithin (twin 0 3) (twin 1 1) = false := by
  intro f twin
  obtain ⟨hb, hsize⟩ := Code.Forest.twins_stored
  obtain ⟨hagree, -, -, -, hapart⟩ := f.up_agrees_with_down hb hsize
  obtain ⟨below, hbelow, habove, hwithin⟩ := hagree (twin 0 3) (twin 0 1) rfl
  have hfound : (twin 0 1).arena.descendants (twin 0 1).id = some [2, 3, 4] :=
    (Code.Arena.descendants_stored (Code.Forest.fits_twins (Code.Forest.twin 0 1)) (i := 1)
      (by decide)).trans (congrArg some (by decide +kernel))
  obtain rfl := Option.some.inj (hbelow.symm.trans hfound)
  have hmet : (twin 0 3).id ∈ [2, 3, 4] := by decide +kernel
  exact ⟨hb, hsize, habove.2 hmet, hwithin.2 (.inr hmet), hapart _ _ (by decide +kernel)⟩

/-- In a block with 2 ^ 32 tokens, the root is met below itself, and nothing is above it. -/
theorem up_differs_from_down :
    ∃ t, build (wide (2 ^ 32)).events = .ok t ∧ t.size = 2 ^ 32 + 1 ∧
      Gives t.nextBelow (t.stackBelow t.root) t.root ∧ t.ancestors t.root = [] := by
  obtain ⟨m, hm⟩ : ∃ m, m + 1 = 2 ^ 32 := ⟨2 ^ 32 - 1, by omega⟩
  rw [← hm]
  obtain ⟨t, ht, hsize, hroot, hwide⟩ := exists_build_wide (m + 1)
  refine ⟨t, ht, hsize, hroot ▸ hwide.gives_zero hm rfl, ?_⟩
  obtain ⟨-, -, -, hparent, -⟩ := hwide.extends.labels (i := 0) rfl
  rw [hroot]
  exact Arena.ancestors_of_root hparent

end Forest

end Syntax

end AsyncIdioms
