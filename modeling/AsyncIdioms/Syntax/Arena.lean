/-
  Code trees as they are stored.

  An arena lists the nodes of one tree, and a node is known by its number, which has 32 bits. The number
  of a node is its place in the list as long as there are no more than 2 ^ 32 nodes; from there on,
  numbers begin again at 0 and mean the nodes in front. Links lead to nodes that there are, and the
  parent of a node has a smaller number than its place (`Entry.InRange`), but links to children may
  then lead in a circle. So the way up comes to an end, while the way down is a `Loop`:

  * `Arena.ancestors`, `Arena.isWithin` : the nodes above a node;
  * `Arena.nextBelow`, `Arena.descendants`, `Arena.text` : the nodes below a node, and their texts;
  * `Arena.childrenOfKind`, `Arena.childByField` : selected children.
-/
import AsyncIdioms.Code.Kind
import AsyncIdioms.Loop
import AsyncIdioms.Text.Blank

namespace AsyncIdioms.Syntax

open Code

/-- A node of a tree. -/
structure Entry where
  kind : Kind
  /-- The role in the parent. -/
  field : Option Field
  /-- The text of a token; nodes with children have none. -/
  text : Option String
  parent : Option UInt32
  /-- The children, in document order. -/
  children : List UInt32
  deriving DecidableEq, Repr

/-- The links of the node at place `i` among `n` nodes: they lead to nodes that there are, and that to
    the parent leads back. -/
structure Entry.InRange (e : Entry) (i n : Nat) : Prop where
  parent_lt : ∀ p ∈ e.parent, p.toNat < i
  child_lt : ∀ j ∈ e.children, j.toNat < n

/-- All links of a list of nodes lead to nodes in it. -/
def InRange (entries : Array Entry) : Prop :=
  ∀ (i : Nat) (e : Entry), entries[i]? = some e → e.InRange i entries.size

/-- A tree: its nodes, and the number of its root. -/
@[ext]
structure Arena where
  entries : Array Entry
  root : UInt32
  inRange : InRange entries
  root_lt : root.toNat < entries.size

namespace Arena

variable (a : Arena)

/-- The number of nodes. -/
def size : Nat := a.entries.size

def entry? (i : UInt32) : Option Entry := a.entries[i.toNat]?

def kind? (i : UInt32) : Option Kind := (a.entry? i).map (·.kind)

/-- The role of a node in its parent. -/
def field? (i : UInt32) : Option Field := (a.entry? i).bind (·.field)

/-- The text of a token. -/
def tokenText? (i : UInt32) : Option String := (a.entry? i).bind (·.text)

def parent? (i : UInt32) : Option UInt32 := (a.entry? i).bind (·.parent)

/-- The children of a node, in document order. -/
def children (i : UInt32) : List UInt32 := (a.entry? i).elim [] (·.children)

def isToken (i : UInt32) : Bool := (a.tokenText? i).isSome

theorem parent_lt {i p : UInt32} (h : a.parent? i = some p) : p.toNat < i.toNat := by
  obtain ⟨e, he, hp⟩ := Option.bind_eq_some_iff.1 h
  exact (a.inRange i.toNat e he).parent_lt p hp

theorem child_lt {i j : UInt32} (h : j ∈ a.children i) : j.toNat < a.size := by
  cases he : a.entry? i with
  | none => simp [children, he] at h
  | some e =>
    simp only [children, he, Option.elim_some] at h
    exact (a.inRange i.toNat e he).child_lt j h

/-! ## Up and down -/

/-- The nodes above a node, nearest first. -/
def ancestors (i : UInt32) : List UInt32 :=
  match _h : a.parent? i with
  | none => []
  | some p => p :: ancestors p
termination_by i.toNat
decreasing_by exact a.parent_lt _h

/-- Is node `i` the node `j`, or below it? -/
def isWithin (i j : UInt32) : Bool := i == j || (a.ancestors i).contains j

/-- One step down: takes the last node of the stack and puts its children there, the first of them
    last. -/
def nextBelow (stack : List UInt32) : Option (UInt32 × List UInt32) :=
  stack.getLast?.map fun i => (i, stack.dropLast ++ (a.children i).reverse)

/-- The stack from which the nodes below node `i` are taken. -/
def stackBelow (i : UInt32) : List UInt32 := (a.children i).reverse

/-- The nodes below node `i`, in document order. -/
def descendants (i : UInt32) : Loop (List UInt32) := collect a.nextBelow (a.stackBelow i)

/-! ## Texts -/

/-- The text of a node: of a token its own, else that of the tokens below it. -/
def text (i : UInt32) : Loop String :=
  match a.tokenText? i with
  | some t => some t
  | none => do return String.join ((← a.descendants i).filterMap a.tokenText?)

/-- The text of a node without the blanks around it. -/
def trimmedText (i : UInt32) : Loop String := do return Text.trim (← a.text i)

/-- The text of the whole tree. -/
def fullText : Loop String := a.text a.root

/-! ## Selected children -/

def childrenOfKind (i : UInt32) (k : Kind) : List UInt32 :=
  (a.children i).filter fun j => a.kind? j == some k

/-- The first child in that role. -/
def childByField (i : UInt32) (f : Field) : Option UInt32 :=
  (a.children i).find? fun j => a.field? j == some f

end Arena

end AsyncIdioms.Syntax
