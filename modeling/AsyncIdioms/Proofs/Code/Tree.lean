/-
  Code trees without numbers.

  A `Tree` is a code tree as a reader sees it, without the numbers and links of an arena. It is told
  by events, and it is laid out as a list of nodes:

  * `Tree.events` : the events that tell a tree, in document order;
  * `Tree.layout` : its nodes in an arena, numbered in document order;
  * `Arena.treeAt` : the tree that is read at a node of an arena, following the links to children;
  * `Arena.treeAt_of_layout` : where a tree is laid out, it is read.
-/
import AsyncIdioms.Code.Build

namespace AsyncIdioms.Code

/-- An ordered tree with labels. -/
inductive Tree where
  | token (kind : Kind) (field : Option Field) (text : String)
  | node (kind : Kind) (field : Option Field) (children : List Tree)

namespace Tree

/-- The role in the parent. -/
def field : Tree → Option Field
  | token _ field _ => field
  | node _ field _ => field

def children : Tree → List Tree
  | token _ _ _ => []
  | node _ _ ts => ts

/-- The tree in another role. -/
def withField (field : Option Field) : Tree → Tree
  | token kind _ text => token kind field text
  | node kind _ ts => node kind field ts

@[simp]
theorem field_withField (field : Option Field) (t : Tree) : (t.withField field).field = field := by
  cases t <;> rfl

@[simp]
theorem withField_field (t : Tree) : t.withField t.field = t := by
  cases t <;> rfl

@[simp]
theorem withField_withField (field field' : Option Field) (t : Tree) :
    (t.withField field).withField field' = t.withField field' := by
  cases t <;> rfl

mutual
/-- The number of nodes. -/
def size : Tree → Nat
  | token _ _ _ => 1
  | node _ _ ts => 1 + sizeAll ts
/-- The number of nodes of all trees in a list. -/
def sizeAll : List Tree → Nat
  | [] => 0
  | t :: ts => t.size + sizeAll ts
end

theorem sizeAll_append (ts us : List Tree) : sizeAll (ts ++ us) = sizeAll ts + sizeAll us := by
  induction ts with
  | nil => rw [List.nil_append, sizeAll, Nat.zero_add]
  | cons t ts ih => rw [List.cons_append, sizeAll, sizeAll, ih, Nat.add_assoc]

mutual
/-- The events that tell the tree. -/
def events : Tree → List Event
  | token kind field text => [.token kind field text]
  | node kind field ts => .start kind field :: (eventsAll ts ++ [.finish])
/-- The events that tell the trees one after the other. -/
def eventsAll : List Tree → List Event
  | [] => []
  | t :: ts => t.events ++ eventsAll ts
end

/-- The numbers of the roots of trees that are laid out one after the other from number `i` on. -/
def rootNumbers (i : Nat) : List Tree → List Nat
  | [] => []
  | t :: ts => i :: rootNumbers (i + t.size) ts

mutual
/-- The nodes of the tree from number `i` on, the first of them being a child of `parent`. -/
def layout (parent : Option Nat) (i : Nat) : Tree → List Entry
  | token kind field text => [⟨kind, field, some text, parent, []⟩]
  | node kind field ts =>
    ⟨kind, field, none, parent, rootNumbers (i + 1) ts⟩ :: layoutAll (some i) (i + 1) ts
/-- The nodes of trees one after the other from number `i` on, with one parent. -/
def layoutAll (parent : Option Nat) (i : Nat) : List Tree → List Entry
  | [] => []
  | t :: ts => t.layout parent i ++ layoutAll parent (i + t.size) ts
end

theorem eventsAll_eq (ts : List Tree) : eventsAll ts = ts.flatMap events := by
  induction ts with
  | nil => rfl
  | cons t ts ih => rw [eventsAll, ih, List.flatMap_cons]

@[simp]
theorem size_withField (field : Option Field) (t : Tree) : (t.withField field).size = t.size := by
  cases t <;> rfl

mutual
theorem length_layout (parent : Option Nat) (i : Nat) : ∀ t : Tree, (t.layout parent i).length = t.size
  | token _ _ _ => rfl
  | node _ _ ts => by
    rw [layout, size, List.length_cons, length_layoutAll, Nat.add_comm]
theorem length_layoutAll (parent : Option Nat) (i : Nat) :
    ∀ ts : List Tree, (layoutAll parent i ts).length = sizeAll ts
  | [] => rfl
  | t :: ts => by
    rw [layoutAll, sizeAll, List.length_append, length_layout _ _ t, length_layoutAll _ _ ts]
end

end Tree

/-! ## Reading a tree from an arena -/

namespace Arena

variable (a : Arena)

/-- The tree at and below node `i`. -/
def treeAt (i : Nat) : Tree :=
  let kind := (a.kind? i).getD .other
  match a.tokenText? i with
  | some text => .token kind (a.field? i) text
  | none => .node kind (a.field? i) ((a.children i).attach.map fun ⟨j, _⟩ => treeAt j)
termination_by a.size - i
decreasing_by
  have := a.child_bounds ‹_›
  omega

/-- The whole tree. -/
def tree : Tree := a.treeAt a.root

variable {a}

theorem treeAt_of_entry {i : Nat} {e : Entry} (h : a.entry? i = some e) :
    a.treeAt i = match e.text with
      | some text => .token e.kind e.field text
      | none => .node e.kind e.field (e.children.map a.treeAt) := by
  have hc : a.children i = e.children := by rw [children, h, Option.elim_some]
  rw [treeAt, List.attach_map_val (f := a.treeAt), tokenText?, kind?, field?, hc, h]
  rfl

end Arena

theorem cons_isPrefix_drop {α : Type} {x : α} {xs ys : List α} {i : Nat} :
    x :: xs <+: ys.drop i ↔ ys[i]? = some x ∧ xs <+: ys.drop (i + 1) := by
  rw [← List.head?_drop, ← List.tail_drop]
  cases ys.drop i with
  | nil => simp
  | cons y ys => simp [List.cons_prefix_cons, eq_comm]

theorem append_isPrefix_drop {α : Type} {xs ys zs : List α} {i : Nat} :
    xs ++ ys <+: zs.drop i ↔ xs <+: zs.drop i ∧ ys <+: zs.drop (i + xs.length) := by
  induction xs generalizing i with
  | nil => simp
  | cons x xs ih =>
    rw [List.cons_append, cons_isPrefix_drop, ih, cons_isPrefix_drop, and_assoc, List.length_cons,
      Nat.add_right_comm, Nat.add_assoc]

namespace Arena

variable {a : Arena}

theorem size_of_layout {t : Tree} (h : a.entries.toList = t.layout none 0) : a.size = t.size := by
  rw [size, ← Array.length_toList, h, Tree.length_layout]

mutual
/-- Where a tree is laid out, it is read. -/
theorem treeAt_of_layout {parent : Option Nat} {i : Nat} :
    ∀ {t : Tree}, t.layout parent i <+: a.entries.toList.drop i → a.treeAt i = t
  | .token kind field text, h => by
    obtain ⟨he, -⟩ := cons_isPrefix_drop.1 h
    rw [Array.getElem?_toList] at he
    rw [treeAt_of_entry he]
  | .node kind field ts, h => by
    obtain ⟨he, hts⟩ := cons_isPrefix_drop.1 h
    rw [Array.getElem?_toList] at he
    rw [treeAt_of_entry he]
    simp only [treeAt_of_layoutAll hts]
/-- Where trees are laid out, they are read at the numbers of their roots. -/
theorem treeAt_of_layoutAll {parent : Option Nat} {i : Nat} :
    ∀ {ts : List Tree}, Tree.layoutAll parent i ts <+: a.entries.toList.drop i →
      (Tree.rootNumbers i ts).map a.treeAt = ts
  | [], _ => rfl
  | t :: ts, h => by
    obtain ⟨ht, hts⟩ := append_isPrefix_drop.1 h
    rw [Tree.length_layout] at hts
    rw [Tree.rootNumbers, List.map_cons, treeAt_of_layout ht, treeAt_of_layoutAll hts]
end

end Arena

end AsyncIdioms.Code
