/-
  The order in which rules are evaluated.

  Rules may look at the tags of other rules, so these come first; a tag without a rule is not waited
  for. Rules go by their numbers in the catalog. Each one has a count of the rules that it waits for;
  again and again, the first of the rules that wait for none is taken, and the counts of those that
  wait for it go down:

  * `Catalog.waiting` counts, `Agenda.work` takes the rules one after the other;
  * `Catalog.evaluationOrder` is the order in which they are taken. If some are left, the tags of
    those that still wait are reported (`OrderFault.cycle`);
  * `takeInOrder` arranges things by such an order.

  Numbers are checked where they are used, and so is each count that goes down.
-/
import AsyncIdioms.Catalog.Basic
import AsyncIdioms.Total

namespace AsyncIdioms

variable {α : Type}

/-- Why rules cannot be put in order. -/
inductive OrderFault where
  /-- Rules that wait for each other, or for such rules. -/
  | cycle (tags : List Tag)
  /-- Nothing has this number. -/
  | outOfRange (i : Nat)
  /-- The count of a rule that waits for none is to go down. -/
  | underflow (i : Nat)
  deriving DecidableEq, Repr

def OrderFault.message : OrderFault → String
  | cycle tags => "dependency cycle among rules: " ++ ", ".intercalate (tags.map (·.name))
  | outOfRange i => "no rule has the number " ++ toString i
  | underflow i => "rule number " ++ toString i ++ " waits for less than none"

/-- A computation in two parts gives a value if both parts do. -/
theorem bind_eq_ok_iff {ε α β : Type} {x : Except ε α} {f : α → Except ε β} {b : β} :
    (x >>= f) = .ok b ↔ ∃ a, x = .ok a ∧ f a = .ok b := by
  cases x with
  | error e => exact ⟨fun h => (nomatch h), fun ⟨_, h, _⟩ => (nomatch h)⟩
  | ok a => exact ⟨fun h => ⟨a, rfl, h⟩, fun ⟨_, h, hb⟩ => by cases h; exact hb⟩

/-! ## Numbers -/

/-- What has the number `i`. -/
def elementAt (xs : Array α) (i : Nat) : Except OrderFault α :=
  if h : i < xs.size then .ok xs[i] else .error (.outOfRange i)

/-- Puts `x` in the place of what has the number `i`. -/
def setAt (xs : Array α) (i : Nat) (x : α) : Except OrderFault (Array α) :=
  if h : i < xs.size then .ok (xs.set i x) else .error (.outOfRange i)

theorem elementAt_eq_ok_iff {xs : Array α} {i : Nat} {x : α} :
    elementAt xs i = .ok x ↔ ∃ h : i < xs.size, xs[i] = x := by
  by_cases h : i < xs.size <;> simp [elementAt, h]

theorem setAt_eq_ok_iff {xs ys : Array α} {i : Nat} {x : α} :
    setAt xs i x = .ok ys ↔ ∃ h : i < xs.size, xs.set i x = ys := by
  by_cases h : i < xs.size <;> simp [setAt, h]

/-- Adds a number to an increasing list, unless it is there. -/
def insertAscending (i : Nat) : List Nat → List Nat
  | [] => [i]
  | j :: rest =>
    if i < j then i :: j :: rest
    else if i = j then j :: rest
    else j :: insertAscending i rest

/-- The numbers in increasing order, each one once. -/
def ascending (is : List Nat) : List Nat := is.foldl (fun sorted i => insertAscending i sorted) []

/-- The number of the last one with a property: what comes later takes the place of what was found. -/
def lastIndex? (p : α → Bool) (xs : List α) : Option Nat :=
  xs.zipIdx.foldl (fun found x => if p x.1 then some x.2 else found) none

/-! ## Who waits for whom -/

/-- For each rule, how many rules it waits for, and the rules that wait for it. -/
structure Waiting where
  pending : Array Nat
  dependents : Array (List Nat)

/-- Rule `i` waits for the rules `dependencies`. -/
def Waiting.note (w : Waiting) (i : Nat) (dependencies : List Nat) : Except OrderFault Waiting := do
  let pending ← setAt w.pending i dependencies.length
  let dependents ← dependencies.foldlM (fun ds j => do setAt ds j ((← elementAt ds j) ++ [i]))
    w.dependents
  return ⟨pending, dependents⟩

namespace Catalog

/-- The number of the rule of a tag; of several rules with the same tag, the last one counts. -/
def index? (c : Catalog) (t : Tag) : Option Nat := lastIndex? (·.tag == t) c.rules

/-- The numbers of the rules that a rule looks at. -/
def dependencyIndices (c : Catalog) (r : Rule) : List Nat :=
  ascending (r.dependencies.filterMap c.index?)

def waiting (c : Catalog) : Except OrderFault Waiting :=
  c.rules.zipIdx.foldlM (fun w (r, i) => w.note i (c.dependencyIndices r))
    ⟨Array.replicate c.rules.length 0, Array.replicate c.rules.length []⟩

end Catalog

/-! ## Taking the rules -/

/-- The rules on the way: how many rules each one waits for, those that wait for none and are not
    taken yet, and those that are taken. -/
structure Agenda where
  pending : Array Nat
  ready : List Nat
  order : List Nat

/-- The rules that wait for none, at the beginning. -/
def initiallyReady (pending : Array Nat) (n : Nat) : Except OrderFault (List Nat) :=
  (List.range n).foldlM (fun ready i => do
    if (← elementAt pending i) = 0 then return insertAscending i ready else return ready) []

namespace Agenda

/-- Rule `i` waits for one rule less. -/
def release (a : Agenda) (i : Nat) : Except OrderFault Agenda := do
  match ← elementAt a.pending i with
  | 0 => throw (.underflow i)
  | left + 1 =>
    let pending ← setAt a.pending i left
    return { a with pending, ready := if left = 0 then insertAscending i a.ready else a.ready }

/-- How much there is to do. -/
def load (a : Agenda) : Nat := total a.pending.toList + a.ready.length

/-- Takes rule `i`, which was the first of those that wait for none; `ready` are the others. -/
def take (dependents : Array (List Nat)) (a : Agenda) (i : Nat) (ready : List Nat) :
    Except OrderFault Agenda := do
  (← elementAt dependents i).foldlM release { a with ready, order := a.order ++ [i] }

end Agenda

theorem length_insertAscending_le (i : Nat) : ∀ is : List Nat,
    (insertAscending i is).length ≤ is.length + 1
  | [] => by simp [insertAscending]
  | j :: rest => by
    have := length_insertAscending_le i rest
    rw [insertAscending]
    split
    · simp
    · split
      · simp
      · simpa using this

namespace Agenda

theorem release_eq_ok_iff {a a' : Agenda} {i : Nat} :
    a.release i = .ok a' ↔ ∃ (h : i < a.pending.size) (left : Nat), a.pending[i] = left + 1 ∧
      a' = ⟨a.pending.set i left, if left = 0 then insertAscending i a.ready else a.ready,
        a.order⟩ := by
  simp only [release, bind_eq_ok_iff, elementAt_eq_ok_iff]
  constructor
  · rintro ⟨count, ⟨h, hcount⟩, hr⟩
    cases count with
    | zero => exact nomatch hr
    | succ left =>
      obtain ⟨pending, hset, ha⟩ := bind_eq_ok_iff.1 hr
      obtain ⟨_, rfl⟩ := setAt_eq_ok_iff.1 hset
      exact ⟨h, left, hcount, (Except.ok.inj ha).symm⟩
  · rintro ⟨h, left, hcount, rfl⟩
    exact ⟨left + 1, ⟨h, hcount⟩, bind_eq_ok_iff.2 ⟨_, setAt_eq_ok_iff.2 ⟨h, rfl⟩, rfl⟩⟩

theorem load_release {a a' : Agenda} {i : Nat} (h : a.release i = .ok a') : a'.load ≤ a.load := by
  obtain ⟨hi, left, hcount, rfl⟩ := release_eq_ok_iff.1 h
  have hsum := total_set_add a.pending.toList i left (by simpa using hi)
  have hlen := length_insertAscending_le i a.ready
  simp only [Array.getElem_toList, hcount] at hsum
  simp only [load, Array.toList_set]
  split <;> omega

theorem load_foldlM_release : ∀ {is : List Nat} {a a' : Agenda},
    is.foldlM release a = .ok a' → a'.load ≤ a.load
  | [], a, a', h => by
    cases h
    exact Nat.le_refl _
  | i :: is, a, a', h => by
    rw [List.foldlM_cons] at h
    obtain ⟨b, hb, h⟩ := bind_eq_ok_iff.1 h
    exact Nat.le_trans (load_foldlM_release h) (load_release hb)

theorem load_take {dependents : Array (List Nat)} {a a' : Agenda} {i : Nat} {ready : List Nat}
    (hr : a.ready = i :: ready) (h : a.take dependents i ready = .ok a') : a'.load < a.load := by
  obtain ⟨next, -, h⟩ := bind_eq_ok_iff.1 h
  have := load_foldlM_release h
  simp only [load, hr, List.length_cons] at this ⊢
  omega

/-- Takes rules as long as some wait for none. -/
def work (dependents : Array (List Nat)) (a : Agenda) : Except OrderFault Agenda :=
  match _hr : a.ready with
  | [] => .ok a
  | i :: ready =>
    match _h : a.take dependents i ready with
    | .ok a' => work dependents a'
    | .error fault => .error fault
termination_by a.load
decreasing_by exact load_take _hr _h

end Agenda

/-- The tags of the rules that still wait. -/
def stuckTags (rules : Array Rule) (pending : Array Nat) : Except OrderFault (List Tag) :=
  (List.range rules.size).foldlM (fun tags i => do
    if 0 < (← elementAt pending i) then return tags ++ [(← elementAt rules i).tag] else return tags) []

/-- The numbers of the rules, in an order in which each one stands behind those it looks at. -/
def Catalog.evaluationOrder (c : Catalog) : Except OrderFault (List Nat) := do
  let w ← c.waiting
  let ready ← initiallyReady w.pending c.rules.length
  let done ← Agenda.work w.dependents ⟨w.pending, ready, []⟩
  if done.order.length = c.rules.length then return done.order
  else throw (.cycle (← stuckTags c.rules.toArray done.pending))

/-- Empties the slots one after the other; one that is empty already gives nothing. -/
def takeInOrder (slots : Array (Option α)) : List Nat → Except OrderFault (List α)
  | [] => .ok []
  | i :: is => do
    let slot ← elementAt slots i
    let rest ← takeInOrder (← setAt slots i none) is
    return slot.toList ++ rest

end AsyncIdioms
