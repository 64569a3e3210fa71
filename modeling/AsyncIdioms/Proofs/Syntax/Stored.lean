/-
  Arenas, as they are stored.

  The numbers of the nodes of an arena are stored in 32 bits (`Arena.stored`). Nothing is lost if there
  are at most 2 ^ 32 nodes (`Arena.Fits`): then each question about a node has the same answer, and the
  loops that go down come to an end:

  * `Arena.entry?_stored` : the same node is found;
  * `Arena.ancestors_stored`, `Arena.isWithin_stored` : the same nodes are above a node;
  * `Arena.descendants_stored`, `Arena.text_stored` : the same nodes are below a node, and their texts
    are read.
-/
import Mathlib.Algebra.Group.Nat.Defs
import Mathlib.Data.List.Basic
import Mathlib.Order.Basic
import AsyncIdioms.Code.Arena
import AsyncIdioms.Syntax.Arena

namespace AsyncIdioms.Code

/-! ## Numbers in 32 bits -/

theorem toNat_ofNat {i : Nat} (hi : i < 2 ^ 32) : (UInt32.ofNat i).toNat = i :=
  UInt32.toNat_ofNat_of_lt' hi

theorem toNat_ofNat_le (i : Nat) : (UInt32.ofNat i).toNat ≤ i := by
  rw [UInt32.toNat_ofNat']
  exact Nat.mod_le _ _

theorem ofNat_inj {i j : Nat} (hi : i < 2 ^ 32) (hj : j < 2 ^ 32) :
    UInt32.ofNat i = UInt32.ofNat j ↔ i = j := by
  rw [← UInt32.toNat_inj, toNat_ofNat hi, toNat_ofNat hj]

theorem ofNat_lt {i j : Nat} (hi : i < 2 ^ 32) (hj : j < 2 ^ 32) :
    UInt32.ofNat i < UInt32.ofNat j ↔ i < j := by
  rw [UInt32.lt_iff_toNat_lt, toNat_ofNat hi, toNat_ofNat hj]

theorem mem_map_ofNat {i : Nat} {is : List Nat} (hi : i < 2 ^ 32) (his : ∀ j ∈ is, j < 2 ^ 32) :
    UInt32.ofNat i ∈ is.map UInt32.ofNat ↔ i ∈ is := by
  rw [List.mem_map]
  constructor
  · rintro ⟨j, hj, hij⟩
    exact (ofNat_inj (his j hj) hi).1 hij ▸ hj
  · exact fun h => ⟨i, h, rfl⟩

/-! ## Storing -/

/-- The node, as it is stored: 32 bits of the numbers are kept. -/
def Entry.stored (e : Entry) : Syntax.Entry where
  kind := e.kind
  field := e.field
  text := e.text
  parent := e.parent.map UInt32.ofNat
  children := e.children.map UInt32.ofNat

theorem Entry.LinkedAt.inRange_stored {e : Entry} {i n : Nat} (h : e.LinkedAt i n) :
    e.stored.InRange i n where
  parent_lt p hp := by
    obtain ⟨q, hq, rfl⟩ := Option.map_eq_some_iff.1 hp
    exact Nat.lt_of_le_of_lt (toNat_ofNat_le q) (h.parent_lt q hq)
  child_lt j hj := by
    obtain ⟨k, hk, rfl⟩ := List.mem_map.1 hj
    exact Nat.lt_of_le_of_lt (toNat_ofNat_le k) (h.child_lt k hk)

namespace Arena

/-- The tree, as it is stored. -/
def stored (a : Arena) : Syntax.Arena where
  entries := a.entries.map Entry.stored
  root := .ofNat a.root
  inRange i e he := by
    rw [Array.getElem?_map] at he
    obtain ⟨e₀, he₀, rfl⟩ := Option.map_eq_some_iff.1 he
    rw [Array.size_map]
    exact (a.linked i e₀ he₀).inRange_stored
  root_lt := by
    rw [Array.size_map]
    exact Nat.lt_of_le_of_lt (toNat_ofNat_le a.root) a.root_lt

/-- 32 bits are enough for the numbers of all nodes. -/
def Fits (a : Arena) : Prop := a.size ≤ 2 ^ 32

instance (a : Arena) : Decidable a.Fits := inferInstanceAs (Decidable (a.size ≤ 2 ^ 32))

variable {a : Arena} {i j : Nat}

@[simp]
theorem size_stored : a.stored.size = a.size := Array.size_map

theorem Fits.lt (h : a.Fits) (hi : i < a.size) : i < 2 ^ 32 := Nat.lt_of_lt_of_le hi h

theorem Fits.child_lt (h : a.Fits) (hj : j ∈ a.children i) : j < 2 ^ 32 :=
  h.lt (a.child_bounds hj).2

theorem Fits.root_lt (h : a.Fits) : a.root < 2 ^ 32 := h.lt a.root_lt

/-! ## Single nodes -/

section
variable (hi : i < 2 ^ 32)

include hi

theorem entry?_stored : a.stored.entry? (.ofNat i) = (a.entry? i).map Entry.stored := by
  rw [Syntax.Arena.entry?, toNat_ofNat hi]
  exact Array.getElem?_map

theorem kind?_stored : a.stored.kind? (.ofNat i) = a.kind? i := by
  rw [Syntax.Arena.kind?, entry?_stored hi, Option.map_map]
  rfl

theorem field?_stored : a.stored.field? (.ofNat i) = a.field? i := by
  rw [Syntax.Arena.field?, entry?_stored hi, Option.bind_map]
  rfl

theorem tokenText?_stored : a.stored.tokenText? (.ofNat i) = a.tokenText? i := by
  rw [Syntax.Arena.tokenText?, entry?_stored hi, Option.bind_map]
  rfl

theorem parent?_stored : a.stored.parent? (.ofNat i) = (a.parent? i).map UInt32.ofNat := by
  rw [Syntax.Arena.parent?, entry?_stored hi, Option.bind_map, parent?]
  cases a.entry? i <;> rfl

theorem children_stored : a.stored.children (.ofNat i) = (a.children i).map UInt32.ofNat := by
  rw [Syntax.Arena.children, entry?_stored hi, children]
  cases a.entry? i <;> rfl

/-! ## Up -/

theorem ancestors_stored : a.stored.ancestors (.ofNat i) = (a.ancestors i).map UInt32.ofNat := by
  induction i using ancestors.induct a with
  | case1 i hnone =>
    have hstored := (parent?_stored (a := a) hi).trans (congrArg _ hnone)
    rw [Syntax.Arena.ancestors, ancestors]
    split
    next => split <;> simp_all
    next p hp => simp [hp] at hstored
  | case2 i p hsome ih =>
    have hstored := (parent?_stored (a := a) hi).trans (congrArg _ hsome)
    have hp := Nat.lt_trans (a.parent_lt hsome) hi
    rw [Syntax.Arena.ancestors, ancestors]
    split
    next h => simp [h] at hstored
    next q hq =>
      obtain rfl : UInt32.ofNat p = q := Option.some.inj (hstored.symm.trans hq)
      split
      next h => simp [hsome] at h
      next p' hp' =>
        obtain rfl := Option.some.inj (hsome.symm.trans hp')
        rw [ih hp, List.map_cons]

theorem isWithin_stored (hj : j < 2 ^ 32) :
    a.stored.isWithin (.ofNat i) (.ofNat j) = a.isWithin i j := by
  have habove : ∀ k ∈ a.ancestors i, k < 2 ^ 32 := fun k hk =>
    Nat.lt_trans (a.lt_of_mem_ancestors hk) hi
  rw [Syntax.Arena.isWithin, isWithin, ancestors_stored hi, Bool.eq_iff_iff]
  simp only [Bool.or_eq_true, beq_iff_eq, ofNat_inj hi hj, List.contains_iff_mem,
    mem_map_ofNat hj habove]

end

/-! ## Down -/

section
variable (hfit : a.Fits)

include hfit

/-- Whatever is still to be visited, each step down is the same. -/
theorem drains_stored (stack : List Nat) (hstack : ∀ i ∈ stack, i < 2 ^ 32) :
    Drains a.stored.nextBelow (stack.map UInt32.ofNat).reverse ((a.walk stack).map UInt32.ofNat) := by
  induction stack using walk.induct a with
  | case1 =>
    rw [walk]
    exact .done rfl
  | case2 i stack ih =>
    obtain ⟨hi, hstack⟩ := List.forall_mem_cons.1 hstack
    have hrest : ∀ j ∈ a.children i ++ stack, j < 2 ^ 32 :=
      List.forall_mem_append.2 ⟨fun j hj => hfit.child_lt hj, hstack⟩
    have hnext : a.stored.nextBelow ((i :: stack).map UInt32.ofNat).reverse =
        some (.ofNat i, ((a.children i ++ stack).map UInt32.ofNat).reverse) := by
      simp [Syntax.Arena.nextBelow, children_stored hi]
    rw [walk]
    exact .more hnext (ih hrest)

theorem drains_descendants_stored (hi : i < 2 ^ 32) :
    Drains a.stored.nextBelow (a.stored.stackBelow (.ofNat i))
      ((a.descendants i).map UInt32.ofNat) := by
  rw [Syntax.Arena.stackBelow, children_stored hi]
  exact drains_stored hfit (a.children i) fun j hj => hfit.child_lt hj

/-- The way down comes to an end, and the same nodes are met. -/
theorem descendants_stored (hi : i < 2 ^ 32) :
    a.stored.descendants (.ofNat i) = some ((a.descendants i).map UInt32.ofNat) :=
  collect_eq_some_iff.2 (drains_descendants_stored hfit hi)

theorem descendant_lt (hj : j ∈ a.descendants i) : j < 2 ^ 32 := by
  have hwalk : ∀ stack : List Nat, (∀ i ∈ stack, i < 2 ^ 32) → ∀ j ∈ a.walk stack, j < 2 ^ 32 := by
    intro stack
    induction stack using walk.induct a with
    | case1 => simp [walk]
    | case2 i stack ih =>
      intro hstack
      obtain ⟨hi, hstack⟩ := List.forall_mem_cons.1 hstack
      rw [walk]
      exact List.forall_mem_cons.2 ⟨hi, ih (List.forall_mem_append.2
        ⟨fun j hj => hfit.child_lt hj, hstack⟩)⟩
  exact hwalk (a.children i) (fun j hj => hfit.child_lt hj) j hj

/-! ## Texts -/

theorem text_stored (hi : i < 2 ^ 32) : a.stored.text (.ofNat i) = some (a.text i) := by
  have htexts : ((a.descendants i).map UInt32.ofNat).filterMap a.stored.tokenText? =
      (a.descendants i).filterMap a.tokenText? := by
    rw [List.filterMap_map]
    exact List.filterMap_congr fun j hj => tokenText?_stored (descendant_lt hfit hj)
  rw [Syntax.Arena.text, text, tokenText?_stored hi, descendants_stored hfit hi]
  cases a.tokenText? i with
  | some t => rfl
  | none =>
    simp only [Option.bind_eq_bind, Option.bind_some, htexts]
    rfl

theorem fullText_stored : a.stored.fullText = some a.fullText :=
  text_stored hfit hfit.root_lt

end

end Arena

end AsyncIdioms.Code
