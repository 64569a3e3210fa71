/-
  Building stored trees from events.

  A `Builder` takes the events of a tree one by one. The number of a new node is the number of nodes
  before it, of which 32 bits are kept (`appendEntry`). The first fault is kept: from then on no node
  is added, though nodes are still finished. `build` takes all events and gives the arena or the
  fault, which may be

  * `Fault.multipleRoots` : something is added after the root was closed;
  * `Fault.unbalancedFinish` : a node is finished while none is open;
  * `Fault.unclosed`, `Fault.empty` : at the end, nodes are open or there are none.
-/
import AsyncIdioms.Code.Event
import AsyncIdioms.Syntax.Arena

namespace AsyncIdioms.Syntax

open Code

/-! ## Adding a node to a list of nodes -/

/-- The number of the next node: how many there are, in 32 bits. -/
def nextNumber (entries : Array Entry) : UInt32 := .ofNat entries.size

/-- The nodes with a new one behind them, which becomes the last child of `parent`. -/
def appendEntry (entries : Array Entry) (kind : Kind) (field : Option Field) (text : Option String)
    (parent : Option UInt32) : Array Entry :=
  let extended := entries.push ⟨kind, field, text, parent, []⟩
  match parent with
  | some p =>
    extended.modify p.toNat fun e => { e with children := e.children ++ [nextNumber entries] }
  | none => extended

section
variable {entries : Array Entry} {kind : Kind} {field : Option Field} {text : Option String}
  {parent : Option UInt32}

@[simp]
theorem size_appendEntry : (appendEntry entries kind field text parent).size = entries.size + 1 := by
  cases parent <;> simp [appendEntry]

theorem nextNumber_le : (nextNumber entries).toNat ≤ entries.size := by
  rw [nextNumber, UInt32.toNat_ofNat']
  exact Nat.mod_le _ _

theorem getElem?_appendEntry_size (hp : ∀ p ∈ parent, p.toNat < entries.size) :
    (appendEntry entries kind field text parent)[entries.size]? =
      some ⟨kind, field, text, parent, []⟩ := by
  cases parent with
  | none => simp [appendEntry]
  | some p =>
    have : p.toNat ≠ entries.size := Nat.ne_of_lt (hp p rfl)
    simp only [appendEntry]
    rw [Array.getElem?_modify, if_neg this, Array.getElem?_push_size]

theorem getElem?_appendEntry_of_lt {i : Nat} (hi : i < entries.size) :
    (appendEntry entries kind field text parent)[i]? = (entries[i]?).map fun e =>
      if parent.map UInt32.toNat = some i then
        { e with children := e.children ++ [nextNumber entries] }
      else e := by
  have hne : i ≠ entries.size := Nat.ne_of_lt hi
  cases parent with
  | none => simp [appendEntry, Array.getElem?_push, hne]
  | some p =>
    by_cases h : p.toNat = i
    · subst h
      simp [appendEntry, Array.getElem?_modify, Array.getElem?_push, hne]
    · simp [appendEntry, Array.getElem?_modify, Array.getElem?_push, h, hne]

/-- Links stay in range when a node is added. -/
theorem InRange.append (h : InRange entries) (hp : ∀ p ∈ parent, p.toNat < entries.size) :
    InRange (appendEntry entries kind field text parent) := by
  intro i e he
  rw [size_appendEntry]
  have hi : i < entries.size + 1 := by simpa using (Array.getElem?_eq_some_iff.1 he).1
  rcases Nat.lt_or_eq_of_le (Nat.le_of_lt_succ hi) with hi | rfl
  · rw [getElem?_appendEntry_of_lt hi] at he
    obtain ⟨e₀, he₀, rfl⟩ := Option.map_eq_some_iff.1 he
    have hr := h i e₀ he₀
    have hchild (j : UInt32) (hj : j ∈ e₀.children) : j.toNat < entries.size + 1 :=
      Nat.lt_succ_of_lt (hr.child_lt j hj)
    split
    · refine ⟨hr.parent_lt, fun j hj => ?_⟩
      rcases List.mem_append.1 hj with hj | hj
      · exact hchild j hj
      · exact List.mem_singleton.1 hj ▸ Nat.lt_succ_of_le nextNumber_le
    · exact ⟨hr.parent_lt, hchild⟩
  · rw [getElem?_appendEntry_size hp] at he
    obtain rfl := Option.some.inj he
    exact ⟨hp, by simp⟩

end

/-! ## Builders -/

/-- A tree under construction: the nodes so far, and the open ones, innermost first. -/
structure Builder where
  entries : Array Entry
  path : List UInt32
  root : Option UInt32
  /-- The first fault. -/
  fault : Option Fault
  inRange : InRange entries
  path_lt : ∀ i ∈ path, i.toNat < entries.size
  root_lt : ∀ r ∈ root, r.toNat < entries.size

namespace Builder

def empty : Builder where
  entries := #[]
  path := []
  root := none
  fault := none
  inRange := by simp [InRange]
  path_lt := by simp
  root_lt := by simp

/-- Adds a node below the innermost open one and gives its number. -/
def push (b : Builder) (kind : Kind) (field : Option Field) (text : Option String) :
    Builder × Option UInt32 :=
  if b.fault.isSome then (b, none)
  else if b.path.isEmpty && b.root.isSome then ({ b with fault := some .multipleRoots }, none)
  else
    ({ b with
        entries := appendEntry b.entries kind field text b.path.head?
        root := if b.path.isEmpty then some (nextNumber b.entries) else b.root
        inRange := b.inRange.append fun p hp => b.path_lt p (List.mem_of_head? hp)
        path_lt := fun i hi => by
          rw [size_appendEntry]
          exact Nat.lt_succ_of_lt (b.path_lt i hi)
        root_lt := fun r hr => by
          rw [size_appendEntry]
          split at hr
          · exact Option.some.inj hr ▸ Nat.lt_succ_of_le nextNumber_le
          · exact Nat.lt_succ_of_lt (b.root_lt r hr) },
      some (nextNumber b.entries))

theorem lt_size_of_push {b b' : Builder} {kind : Kind} {field : Option Field} {text : Option String}
    {i : UInt32} (h : b.push kind field text = (b', some i)) : i.toNat < b'.entries.size := by
  rw [push] at h
  split at h
  · simp at h
  · split at h
    · simp at h
    · simp only [Prod.mk.injEq, Option.some.injEq] at h
      obtain ⟨rfl, rfl⟩ := h
      rw [size_appendEntry]
      exact Nat.lt_succ_of_le nextNumber_le

/-- Opens a node. -/
def start (b : Builder) (kind : Kind) (field : Option Field) : Builder :=
  match h : b.push kind field none with
  | (b', some i) =>
    { b' with
      path := i :: b'.path
      path_lt := fun j hj => by
        rcases List.mem_cons.1 hj with rfl | hj
        · exact lt_size_of_push h
        · exact b'.path_lt j hj }
  | (b', none) => b'

/-- Adds a token. -/
def token (b : Builder) (kind : Kind) (field : Option Field) (text : String) : Builder :=
  (b.push kind field (some text)).1

/-- Closes the innermost open node. -/
def finish (b : Builder) : Builder :=
  match h : b.path with
  | [] => if b.fault.isNone then { b with fault := some .unbalancedFinish } else b
  | _ :: path =>
    { b with path, path_lt := fun i hi => b.path_lt i (h ▸ List.mem_cons_of_mem _ hi) }

/-- Takes one event. -/
def step (b : Builder) : Event → Builder
  | .start kind field => b.start kind field
  | .token kind field text => b.token kind field text
  | .finish => b.finish

/-- The finished tree. -/
def close (b : Builder) : Except Fault Arena :=
  match b.fault with
  | some fault => .error fault
  | none =>
    if !b.path.isEmpty then .error (.unclosed b.path.length)
    else
      match h : b.root with
      | none => .error .empty
      | some root => .ok ⟨b.entries, root, b.inRange, b.root_lt root h⟩

end Builder

/-- The tree that the events tell. -/
def build (events : List Event) : Except Fault Arena := (events.foldl Builder.step .empty).close

end AsyncIdioms.Syntax
