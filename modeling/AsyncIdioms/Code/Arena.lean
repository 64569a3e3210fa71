/-
  Code trees as arenas, with numbers that have no bound.

  An arena lists the nodes of one tree; the number of a node is its place in the list. Each entry
  holds the links to its parent and to its children. Parents stand before and children behind a
  node (`Entry.LinkedAt`), so that following links in one direction comes to an end. `Syntax.Arena`,
  the tree that is stored, keeps 32 bits of each number; it is this one up to 2 ^ 32 nodes
  (`Arena.stored`).

  * `Arena.children`, `Arena.descendants`, `Arena.ancestors` : the nodes below and above a node;
  * `Arena.treeSize` : how many nodes are met at and below a node;
  * `Arena.text` : the concatenated texts of the tokens of a node;
  * `Arena.isWithin` : whether a node is another one or lies below it.
-/
import AsyncIdioms.Code.Kind
import AsyncIdioms.Total

namespace AsyncIdioms.Code

/-- A node of a tree. -/
structure Entry where
  kind : Kind
  /-- The role in the parent. -/
  field : Option Field
  /-- The text of a token; nodes with children have none. -/
  text : Option String
  parent : Option Nat
  /-- The children, in document order. -/
  children : List Nat
  deriving DecidableEq, Repr

/-- The links of node `i` among `n` nodes: the parent stands before it, the children stand behind it,
    and a token has none. -/
structure Entry.LinkedAt (e : Entry) (i n : Nat) : Prop where
  parent_lt : ∀ p ∈ e.parent, p < i
  lt_child : ∀ j ∈ e.children, i < j
  child_lt : ∀ j ∈ e.children, j < n
  leaf : e.text ≠ none → e.children = []

/-- All links of a list of nodes are in order. -/
def Linked (entries : Array Entry) : Prop :=
  ∀ (i : Nat) (e : Entry), entries[i]? = some e → e.LinkedAt i entries.size

/-- A tree: its nodes, and the number of its root. -/
@[ext]
structure Arena where
  entries : Array Entry
  root : Nat
  linked : Linked entries
  root_lt : root < entries.size

namespace Arena

variable (a : Arena)

/-- The number of nodes. -/
def size : Nat := a.entries.size

def entry? (i : Nat) : Option Entry := a.entries[i]?

def kind? (i : Nat) : Option Kind := (a.entry? i).map (·.kind)

/-- The role of a node in its parent. -/
def field? (i : Nat) : Option Field := (a.entry? i).bind (·.field)

/-- The text of a token. -/
def tokenText? (i : Nat) : Option String := (a.entry? i).bind (·.text)

def parent? (i : Nat) : Option Nat := (a.entry? i).bind (·.parent)

/-- The children of a node, in document order. -/
def children (i : Nat) : List Nat := (a.entry? i).elim [] (·.children)

def isToken (i : Nat) : Bool := (a.tokenText? i).isSome

theorem parent_lt {i p : Nat} (h : a.parent? i = some p) : p < i := by
  obtain ⟨e, he, hp⟩ := Option.bind_eq_some_iff.1 h
  exact (a.linked i e he).parent_lt p hp

theorem child_bounds {i j : Nat} (h : j ∈ a.children i) : i < j ∧ j < a.size := by
  cases he : a.entry? i with
  | none => simp [children, he] at h
  | some e =>
    simp only [children, he, Option.elim_some] at h
    exact ⟨(a.linked i e he).lt_child j h, (a.linked i e he).child_lt j h⟩

/-! ## Up and down -/

/-- The number of nodes at and below node `i`. -/
def treeSize (i : Nat) : Nat := 1 + total ((a.children i).attach.map fun ⟨j, _⟩ => treeSize j)
termination_by a.size - i
decreasing_by
  have := a.child_bounds ‹_›
  omega

theorem treeSize_eq (i : Nat) : a.treeSize i = 1 + total ((a.children i).map a.treeSize) := by
  rw [treeSize, List.attach_map_val]

/-- The nodes met from a stack of nodes that are still to be visited: each one, and then its
    children before the rest. -/
def walk : List Nat → List Nat
  | [] => []
  | i :: stack => i :: walk (a.children i ++ stack)
termination_by stack => total (stack.map a.treeSize)
decreasing_by
  have := a.treeSize_eq i
  simp only [List.map_append, total_append, List.map_cons, total_cons]
  omega

/-- The nodes below node `i`, in document order. -/
def descendants (i : Nat) : List Nat := a.walk (a.children i)

/-- The nodes above a node, nearest first. -/
def ancestors (i : Nat) : List Nat :=
  match _h : a.parent? i with
  | none => []
  | some p => p :: ancestors p
termination_by i
decreasing_by exact a.parent_lt _h

theorem lt_of_mem_ancestors {i j : Nat} (h : j ∈ a.ancestors i) : j < i := by
  induction i using ancestors.induct a with
  | case1 i hnone =>
    rw [ancestors, hnone] at h
    simp at h
  | case2 i p hsome ih =>
    have hp := a.parent_lt hsome
    rw [ancestors, hsome] at h
    rcases List.mem_cons.1 h with rfl | h
    · exact hp
    · exact Nat.lt_trans (ih h) hp

/-- Is node `i` the node `j`, or below it? -/
def isWithin (i j : Nat) : Bool := i == j || (a.ancestors i).contains j

/-! ## Texts -/

/-- The text of a node: of a token its own, else that of the tokens below it. -/
def text (i : Nat) : String :=
  match a.tokenText? i with
  | some t => t
  | none => String.join ((a.descendants i).filterMap a.tokenText?)

/-- The text of the whole tree. -/
def fullText : String := a.text a.root

end Arena

end AsyncIdioms.Code
