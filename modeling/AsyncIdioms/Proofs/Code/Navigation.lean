/-
  Going down and up in an arena.

  Down, nodes are met in the order of `Arena.preorder`, whatever stack they are taken from. Up, a
  well-formed arena has one way from each node, so that going up undoes going down:

  * `Arena.walk_eq`, `Arena.preorder_eq_cons_descendants` : the nodes below a node, by a stack and by
    recursion;
  * `Arena.Below.antisymm`, `Arena.WellFormed.comparable` : being below is a partial order, and of two
    nodes above a third one the one is below the other;
  * `Arena.WellFormed.mem_ancestors_iff`, `Arena.WellFormed.isWithin_iff` : the nodes above a node are
    those that it is below.
-/
import AsyncIdioms.Proofs.Code.WellFormed

namespace AsyncIdioms.Code.Arena

open Relation

variable {a : Arena} {i j k : Nat}

/-! ## Down -/

/-- A stack is worked off node by node, each with all that is below it. -/
theorem walk_eq (stack : List Nat) : a.walk stack = stack.flatMap a.preorder := by
  induction stack using walk.induct a with
  | case1 =>
    rw [walk]
    rfl
  | case2 i stack ih =>
    rw [walk, ih, List.flatMap_append, List.flatMap_cons, a.preorder_eq i, List.cons_append]

theorem preorder_eq_cons_descendants (i : Nat) : a.preorder i = i :: a.descendants i := by
  rw [descendants, walk_eq, preorder_eq]

/-- Nothing is below a token. -/
theorem children_of_tokenText? {text : String} (h : a.tokenText? i = some text) : a.children i = [] :=
  children_of_isToken (by rw [isToken, h, Option.isSome_some])

theorem below_refl (i : Nat) : a.Below i i := ReflTransGen.refl

theorem below_child (h : j ∈ a.children i) : a.Below i j := ReflTransGen.single h

theorem Below.trans (h : a.Below i j) (h' : a.Below j k) : a.Below i k := ReflTransGen.trans h h'

/-- Below a node is the node itself or what is below a child. -/
theorem below_iff_eq_or_child : a.Below i k ↔ i = k ∨ ∃ j ∈ a.children i, a.Below j k :=
  ReflTransGen.cases_head_iff

theorem Below.le (h : a.Below i j) : i ≤ j := by
  induction h with
  | refl => exact Nat.le_refl i
  | tail _ hchild ih => exact Nat.le_trans ih (Nat.le_of_lt (a.child_bounds hchild).1)

theorem Below.antisymm (h : a.Below i j) (h' : a.Below j i) : i = j := Nat.le_antisymm h.le h'.le

/-! ## Up -/

namespace WellFormed

variable (hw : a.WellFormed)

include hw

theorem parent?_eq_some_iff {p : Nat} : a.parent? i = some p ↔ i ∈ a.children p := by
  refine ⟨fun h => ?_, hw.parent?_child p i⟩
  have hcount := hw.count_children i p h
  exact List.count_pos_iff.1 (by omega)

/-- A child is listed by one node only. -/
theorem parent_unique {p q : Nat} (hp : i ∈ a.children p) (hq : i ∈ a.children q) : p = q := by
  have hparent := hw.parent?_child p i hp
  rw [hw.parent?_child q i hq] at hparent
  exact (Option.some.inj hparent).symm

/-- A node is properly below those nodes that its parent is below. -/
theorem below_parent {p : Nat} (hp : i ∈ a.children p) : (a.Below k i ∧ k ≠ i) ↔ a.Below k p := by
  constructor
  · rintro ⟨hbelow, hne⟩
    rcases ReflTransGen.cases_tail hbelow with heq | ⟨q, hq, hchild⟩
    · exact absurd heq.symm hne
    · rwa [hw.parent_unique hchild hp] at hq
  · intro hbelow
    refine ⟨hbelow.trans (below_child hp), ?_⟩
    have hle := hbelow.le
    have hlt := (a.child_bounds hp).1
    omega

/-- Of two nodes above a third one, the one is below the other. -/
theorem comparable (hi : a.Below i k) (hj : a.Below j k) : a.Below i j ∨ a.Below j i := by
  induction hi with
  | refl => exact .inr hj
  | @tail p k _ hchild ih =>
    by_cases hjk : j = k
    · subst hjk
      exact .inl (ReflTransGen.tail ‹_› hchild)
    · exact ih ((hw.below_parent hchild).1 ⟨hj, hjk⟩)

/-- Two children of a node have nothing in common below them. -/
theorem eq_of_children {c c' : Nat} (hc : c ∈ a.children i) (hc' : c' ∈ a.children i)
    (hk : a.Below c k) (hk' : a.Below c' k) : c = c' := by
  by_contra hne
  rcases hw.comparable hk hk' with h | h
  · have hle := ((hw.below_parent hc').1 ⟨h, hne⟩).le
    have hlt := (a.child_bounds hc).1
    omega
  · have hle := ((hw.below_parent hc).1 ⟨h, Ne.symm hne⟩).le
    have hlt := (a.child_bounds hc').1
    omega

/-- The nodes above a node are those that it is properly below. -/
theorem mem_ancestors_iff {p : Nat} : p ∈ a.ancestors i ↔ a.Below p i ∧ p ≠ i := by
  induction i using ancestors.induct a with
  | case1 i hnone =>
    have hroot : ∀ q, i ∉ a.children q := fun q hq => by
      rw [hw.parent?_child q i hq] at hnone
      contradiction
    rw [ancestors, hnone]
    refine iff_of_false List.not_mem_nil ?_
    rintro ⟨hbelow, hne⟩
    rcases ReflTransGen.cases_tail hbelow with heq | ⟨q, -, hq⟩
    · exact hne heq.symm
    · exact hroot q hq
  | case2 i q hsome ih =>
    have hchild := hw.parent?_eq_some_iff.1 hsome
    rw [ancestors, hsome, List.mem_cons, ih, hw.below_parent hchild]
    constructor
    · rintro (rfl | ⟨hbelow, -⟩)
      · exact below_refl p
      · exact hbelow
    · intro hbelow
      by_cases heq : p = q
      · exact .inl heq
      · exact .inr ⟨hbelow, heq⟩

theorem isWithin_iff : a.isWithin i j = true ↔ a.Below j i := by
  rw [isWithin, Bool.or_eq_true, beq_iff_eq, List.contains_iff_mem, hw.mem_ancestors_iff]
  constructor
  · rintro (rfl | ⟨hbelow, -⟩)
    · exact below_refl i
    · exact hbelow
  · intro hbelow
    by_cases heq : i = j
    · exact .inl heq
    · exact .inr ⟨hbelow, Ne.symm heq⟩

end WellFormed

end AsyncIdioms.Code.Arena
