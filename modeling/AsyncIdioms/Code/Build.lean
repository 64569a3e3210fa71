/-
  Building code trees from events, with numbers that have no bound.

  A tree is told in document order: a node starts, its children follow, it finishes; a token is one
  event. A `Builder` takes the events one by one. The first fault is kept: from then on no node is
  added, though nodes are still finished. `build` takes all events and gives the arena or the fault:

  * `Fault.multipleRoots` : something is added after the root was closed;
  * `Fault.unbalancedFinish` : a node is finished while none is open;
  * `Fault.unclosed`, `Fault.empty` : at the end, nodes are open or there are none.
-/
import AsyncIdioms.Code.Arena
import AsyncIdioms.Code.Event

namespace AsyncIdioms.Code

/-! ## Adding a node to a list of nodes -/

/-- The nodes with a new one behind them, which becomes the last child of `parent`. -/
def appendEntry (entries : Array Entry) (kind : Kind) (field : Option Field) (text : Option String)
    (parent : Option Nat) : Array Entry :=
  let extended := entries.push ⟨kind, field, text, parent, []⟩
  match parent with
  | some p => extended.modify p fun e => { e with children := e.children ++ [entries.size] }
  | none => extended

section
variable {entries : Array Entry} {kind : Kind} {field : Option Field} {text : Option String}
  {parent : Option Nat}

@[simp]
theorem size_appendEntry : (appendEntry entries kind field text parent).size = entries.size + 1 := by
  cases parent <;> simp [appendEntry]

theorem getElem?_appendEntry_size (hp : ∀ p ∈ parent, p < entries.size) :
    (appendEntry entries kind field text parent)[entries.size]? =
      some ⟨kind, field, text, parent, []⟩ := by
  cases parent with
  | none => simp [appendEntry]
  | some p =>
    have : p ≠ entries.size := Nat.ne_of_lt (hp p rfl)
    simp only [appendEntry]
    rw [Array.getElem?_modify, if_neg this, Array.getElem?_push_size]

theorem getElem?_appendEntry_of_lt {i : Nat} (hi : i < entries.size) :
    (appendEntry entries kind field text parent)[i]? = (entries[i]?).map fun e =>
      if parent = some i then { e with children := e.children ++ [entries.size] } else e := by
  have hne : i ≠ entries.size := Nat.ne_of_lt hi
  cases parent with
  | none => simp [appendEntry, Array.getElem?_push, hne]
  | some p =>
    by_cases h : p = i
    · subst h
      simp [appendEntry, Array.getElem?_modify, Array.getElem?_push, hne]
    · simp [appendEntry, Array.getElem?_modify, Array.getElem?_push, h, hne]

/-- Links stay in order when a node is added below one that is no token. -/
theorem Linked.append (h : Linked entries)
    (hp : ∀ p ∈ parent, ∃ e, entries[p]? = some e ∧ e.text = none) :
    Linked (appendEntry entries kind field text parent) := by
  have hlt : ∀ p ∈ parent, p < entries.size := fun p hpp => by
    obtain ⟨e, he, -⟩ := hp p hpp
    exact (Array.getElem?_eq_some_iff.1 he).1
  intro i e he
  rw [size_appendEntry]
  have hi : i < entries.size + 1 := by simpa using (Array.getElem?_eq_some_iff.1 he).1
  rcases Nat.lt_or_eq_of_le (Nat.le_of_lt_succ hi) with hi | rfl
  · rw [getElem?_appendEntry_of_lt hi] at he
    obtain ⟨e₀, he₀, rfl⟩ := Option.map_eq_some_iff.1 he
    have hl := h i e₀ he₀
    split
    next hpi =>
      obtain ⟨e₁, he₁, ht⟩ := hp i hpi
      obtain rfl : e₀ = e₁ := Option.some.inj (he₀.symm.trans he₁)
      refine ⟨hl.parent_lt, fun j hj => ?_, fun j hj => ?_, fun hne => absurd ht hne⟩
      · rcases List.mem_append.1 hj with hj | hj
        · exact hl.lt_child j hj
        · exact List.mem_singleton.1 hj ▸ hi
      · rcases List.mem_append.1 hj with hj | hj
        · exact Nat.lt_succ_of_lt (hl.child_lt j hj)
        · exact List.mem_singleton.1 hj ▸ Nat.lt_succ_self _
    next =>
      exact ⟨hl.parent_lt, hl.lt_child, fun j hj => Nat.lt_succ_of_lt (hl.child_lt j hj), hl.leaf⟩
  · rw [getElem?_appendEntry_size hlt] at he
    obtain rfl := Option.some.inj he
    exact ⟨hlt, by simp, by simp, by simp⟩

/-- What was no token stays none. -/
theorem isOpen_append {i : Nat} (h : ∃ e, entries[i]? = some e ∧ e.text = none) :
    ∃ e, (appendEntry entries kind field text parent)[i]? = some e ∧ e.text = none := by
  obtain ⟨e, he, ht⟩ := h
  rw [getElem?_appendEntry_of_lt (Array.getElem?_eq_some_iff.1 he).1, he]
  refine ⟨_, rfl, ?_⟩
  split <;> exact ht

end

/-! ## Builders -/

/-- A tree under construction: the nodes so far, and the open ones, innermost first. -/
structure Builder where
  entries : Array Entry
  path : List Nat
  root : Option Nat
  /-- The first fault. -/
  fault : Option Fault
  linked : Linked entries
  isOpen : ∀ i ∈ path, ∃ e, entries[i]? = some e ∧ e.text = none
  root_lt : ∀ r ∈ root, r < entries.size

namespace Builder

def empty : Builder where
  entries := #[]
  path := []
  root := none
  fault := none
  linked := by simp [Linked]
  isOpen := by simp
  root_lt := by simp

/-- Adds a node below the innermost open one and gives its number. -/
def push (b : Builder) (kind : Kind) (field : Option Field) (text : Option String) :
    Builder × Option Nat :=
  if b.fault.isSome then (b, none)
  else if b.path.isEmpty && b.root.isSome then ({ b with fault := some .multipleRoots }, none)
  else
    ({ b with
        entries := appendEntry b.entries kind field text b.path.head?
        root := if b.path.isEmpty then some b.entries.size else b.root
        linked := b.linked.append fun p hp => b.isOpen p (List.mem_of_head? hp)
        isOpen := fun i hi => isOpen_append (b.isOpen i hi)
        root_lt := fun r hr => by
          rw [size_appendEntry]
          split at hr
          · exact Option.some.inj hr ▸ Nat.lt_succ_self _
          · exact Nat.lt_succ_of_lt (b.root_lt r hr) },
      some b.entries.size)

theorem isOpen_of_push {b b' : Builder} {kind : Kind} {field : Option Field} {i : Nat}
    (h : b.push kind field none = (b', some i)) : ∃ e, b'.entries[i]? = some e ∧ e.text = none := by
  rw [push] at h
  split at h
  · simp at h
  · split at h
    · simp at h
    · simp only [Prod.mk.injEq, Option.some.injEq] at h
      obtain ⟨rfl, rfl⟩ := h
      refine ⟨_, getElem?_appendEntry_size fun p hp => ?_, rfl⟩
      obtain ⟨e, he, -⟩ := b.isOpen p (List.mem_of_head? hp)
      exact (Array.getElem?_eq_some_iff.1 he).1

/-- Opens a node. -/
def start (b : Builder) (kind : Kind) (field : Option Field) : Builder :=
  match h : b.push kind field none with
  | (b', some i) =>
    { b' with
      path := i :: b'.path
      isOpen := fun j hj => by
        rcases List.mem_cons.1 hj with rfl | hj
        · exact isOpen_of_push h
        · exact b'.isOpen j hj }
  | (b', none) => b'

/-- Adds a token. -/
def token (b : Builder) (kind : Kind) (field : Option Field) (text : String) : Builder :=
  (b.push kind field (some text)).1

/-- Closes the innermost open node. -/
def finish (b : Builder) : Builder :=
  match h : b.path with
  | [] => if b.fault.isNone then { b with fault := some .unbalancedFinish } else b
  | _ :: path =>
    { b with path, isOpen := fun i hi => b.isOpen i (h ▸ List.mem_cons_of_mem _ hi) }

/-- Takes one event. -/
def step (b : Builder) : Event → Builder
  | .start kind field => b.start kind field
  | .token kind field text => b.token kind field text
  | .finish => b.finish

/-- The finished tree. -/
def close (b : Builder) : Except Fault Arena :=
  match b.fault with
  | some fault => .error fault
  | none =>
    if !b.path.isEmpty then .error (.unclosed b.path.length)
    else
      match h : b.root with
      | none => .error .empty
      | some root => .ok ⟨b.entries, root, b.linked, b.root_lt root h⟩

end Builder

/-- The tree that the events tell. -/
def build (events : List Event) : Except Fault Arena := (events.foldl Builder.step .empty).close

end AsyncIdioms.Code
