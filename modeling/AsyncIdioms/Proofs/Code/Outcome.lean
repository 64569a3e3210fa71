/-
  How much work a replacement is, and how many nodes it gives.

  The steps are worked off, turn by turn: each turn tells one event of the new tree or makes one
  replacement, so the number of turns is known before:

  * `Work.turn` : one turn of the work; `Work.turnsLeft_turn` : it leaves one turn less to do;
  * `Forest.Node.size_substituted` : each target adds the size of its new node and takes away that of
    its old one;
  * `perm_made` : the replacements that are noted are the targets.
-/
import Mathlib.Algebra.BigOperators.Group.List.Basic
import Mathlib.Algebra.Ring.Int.Defs
import AsyncIdioms.Proofs.Code.RoundTrip
import AsyncIdioms.Proofs.Code.Targets

namespace AsyncIdioms.Code

variable {f : Forest}

/-! ## Turns -/

theorem Tree.length_events_pos (t : Tree) : 0 < t.events.length := by
  cases t with
  | token kind field text => exact Nat.one_pos
  | node kind field ts => exact Nat.succ_pos _

/-- One turn for each event that is still to be told, and one for each replacement to be made. -/
def turnsLeft (pairs : List f.Replacement) (stack : List (Step f)) : Nat :=
  (stack.flatMap (Step.events pairs)).length + (stack.flatMap (Step.met pairs)).length

theorem turnsLeft_cons (pairs : List f.Replacement) (s : Step f) (stack : List (Step f)) :
    turnsLeft pairs (s :: stack) =
      (s.events pairs).length + (s.met pairs).length + turnsLeft pairs stack := by
  simp only [turnsLeft, List.flatMap_cons, List.length_append]
  omega

/-- Each step has something to tell. -/
theorem turnsLeft_eq_zero_iff {pairs : List f.Replacement} {stack : List (Step f)} :
    turnsLeft pairs stack = 0 ↔ stack = [] := by
  cases stack with
  | nil => exact iff_of_true rfl rfl
  | cons s stack =>
    have hpos : 0 < (s.events pairs).length := by
      cases s with
      | exit => exact Nat.one_pos
      | enter n field lookup => exact Tree.length_events_pos _
    rw [turnsLeft_cons]
    refine iff_of_false (by omega) (List.cons_ne_nil s stack)

/-- What is left to do, and what is done. -/
structure Work (f : Forest) where
  stack : List (Step f)
  progress : Progress

namespace Work

variable {root : f.Node}

def start (root : f.Node) : Work f := ⟨[.enter root none true], {}⟩

/-- One turn: the topmost step is taken off the stack. Nothing changes when the stack is empty. -/
def turn (table : List (Nat × f.Node)) : Work f → Work f
  | ⟨[], p⟩ => ⟨[], p⟩
  | ⟨.exit :: stack, p⟩ => ⟨stack, { p with builder := p.builder.finish }⟩
  | ⟨.enter n field lookup :: stack, p⟩ =>
    match newNode? table n lookup with
    | some new => ⟨.enter new field false :: stack, { p with applied := p.applied.insert n.id }⟩
    | none =>
      match n.tokenText? with
      | some text => ⟨stack, { p with builder := p.builder.token n.kind field text }⟩
      | none =>
        ⟨Step.below n lookup ++ .exit :: stack, { p with builder := p.builder.start n.kind field }⟩

/-- Nodes are looked up in the tree of the root only. -/
def StaysIn (root : f.Node) (w : Work f) : Prop := ∀ s ∈ w.stack, s.StaysIn root

/-- A turn changes nothing in the end. -/
theorem runSteps_turn (table : List (Nat × f.Node)) (w : Work f) :
    runSteps table (w.turn table).stack (w.turn table).progress =
      runSteps table w.stack w.progress := by
  obtain ⟨stack, p⟩ := w
  cases stack with
  | nil => rfl
  | cons s stack =>
    cases s with
    | exit =>
      rw [runSteps]
      rfl
    | enter n field lookup =>
      rw [runSteps_enter, turn]
      cases newNode? table n lookup with
      | some new => rfl
      | none => cases n.tokenText? <;> rfl

/-- A turn tells one event or makes one replacement, and looks up no node of another tree. -/
theorem turnsLeft_turn (pairs : List f.Replacement) {w : Work f} (h : w.StaysIn root) :
    turnsLeft pairs (w.turn (replacementTable root pairs)).stack = turnsLeft pairs w.stack - 1 ∧
      (w.turn (replacementTable root pairs)).StaysIn root := by
  obtain ⟨stack, p⟩ := w
  cases stack with
  | nil => exact ⟨rfl, h⟩
  | cons s stack =>
    obtain ⟨hs, hstack⟩ := List.forall_mem_cons.1 h
    cases s with
    | exit =>
      rw [turn, turnsLeft_cons]
      exact ⟨(Nat.add_sub_cancel_left 1 _).symm, hstack⟩
    | enter n field lookup =>
      rw [turn, turnsLeft_cons]
      cases hnew : newNode? (replacementTable root pairs) n lookup with
      | some new =>
        obtain ⟨r, hr, rfl⟩ := Option.map_eq_some_iff.1 ((newNode?_eq hs).symm.trans hnew)
        refine ⟨?_, List.forall_mem_cons.2 ⟨fun h => absurd h Bool.false_ne_true, hstack⟩⟩
        -- The copy has the same events to tell, and one replacement less to make.
        have hcopy : (Step.enter r.new field false).met pairs = [] := rfl
        rw [Step.events_replaced hr, Step.met_replaced hr, turnsLeft_cons, hcopy, List.length_nil,
          List.length_singleton]
        omega
      | none =>
        have hkeep := Option.map_eq_none_iff.1 ((newNode?_eq hs).symm.trans hnew)
        rw [Step.met_of_kept hkeep]
        cases ht : n.tokenText? with
        | some text =>
          rw [Step.events_token hkeep ht, Step.below, Forest.Node.children_of_token ht]
          exact ⟨(Nat.add_sub_cancel_left 1 _).symm, hstack⟩
        | none =>
          refine ⟨?_, List.forall_mem_append.2
            ⟨Step.staysIn_below hs, List.forall_mem_cons.2 ⟨trivial, hstack⟩⟩⟩
          have hexit : turnsLeft pairs (.exit :: stack) = 1 + turnsLeft pairs stack := turnsLeft_cons ..
          simp only [turnsLeft, Step.events_node hkeep ht, List.flatMap_append, List.length_append,
            List.length_cons, List.length_nil] at hexit ⊢
          omega

end Work

/-! ## Sizes -/

/-- Numbers that grow one by one grow altogether by the sum of what each one grows by. -/
theorem total_map_add_sum {α : Type} {before after : α → Nat} {growths : α → List Int} {xs : List α}
    (h : ∀ x ∈ xs, (after x : Int) = before x + (growths x).sum) :
    (total (xs.map after) : Int) = total (xs.map before) + (xs.flatMap growths).sum := by
  induction xs with
  | nil => rfl
  | cons x xs ih =>
    obtain ⟨hx, hxs⟩ := List.forall_mem_cons.1 h
    have hrest := ih hxs
    rw [List.map_cons, List.map_cons, total_cons, total_cons, List.flatMap_cons, List.sum_append]
    omega

namespace Tree

theorem sizeAll_eq (ts : List Tree) : sizeAll ts = total (ts.map size) := by
  induction ts with
  | nil => rfl
  | cons t ts ih => rw [sizeAll, ih, List.map_cons, total_cons]

theorem size_eq (t : Tree) : t.size = 1 + total (t.children.map size) := by
  cases t with
  | token kind field text => rfl
  | node kind field ts => rw [size, sizeAll_eq, children]

end Tree

namespace Forest

/-- The node and its descendants, counted. -/
def Node.count (n : f.Node) : Nat := (n.id :: n.arena.descendants n.id).length

/-- How many nodes the replacement adds, if it is made. -/
def Replacement.growth (r : f.Replacement) : Int := r.new.count - r.old.count

namespace Node

variable {root n : f.Node} {pairs : List f.Replacement}

theorem count_eq_treeSize (n : f.Node) : n.count = n.treeSize := by
  rw [count, ← Arena.preorder_eq_cons_descendants, Arena.length_preorder]
  rfl

theorem count_eq (n : f.Node) : n.count = 1 + total (n.children.map count) := by
  have hcount : n.children.map count = n.children.map treeSize :=
    List.map_congr_left fun c _ => c.count_eq_treeSize
  rw [hcount, count_eq_treeSize, treeSize_eq]

/-- A node that is not replaced counts once, besides what becomes of its children. -/
theorem size_substituted_of_none (h : n.replacement? pairs = none) :
    (n.substituted pairs).size = 1 + total (n.children.map fun c => (c.substituted pairs).size) := by
  rw [Tree.size_eq, children_substituted h, List.map_map]
  rfl

theorem size_subtree (n : f.Node) : n.subtree.size = n.count := by
  induction n using pieces.induct [] with
  | case1 n r hr => cases hr
  | case2 n hnone ih =>
    have hbelow : n.children.map (fun c => c.subtree.size) = n.children.map count :=
      List.map_congr_left fun c hc => ih c hc
    have hsize := size_substituted_of_none hnone
    simp only [substituted_nil] at hsize
    rw [hsize, n.count_eq, hbelow]

/-- Each target adds what its new node has more than its old one. -/
theorem size_substituted (pairs : List f.Replacement) (n : f.Node) :
    ((n.substituted pairs).size : Int) = n.count + ((n.targets pairs).map Replacement.growth).sum := by
  induction n using pieces.induct pairs with
  | case1 n r hr =>
    rw [targets_of_some hr, substituted_eq, hr]
    simp [Replacement.growth, size_subtree, old_eq_of_replacement? hr]
  | case2 n hnone ih =>
    have hbelow := total_map_add_sum ih
    rw [size_substituted_of_none hnone, targets_of_none hnone, List.map_flatMap, n.count_eq]
    omega

end Node

end Forest

/-! ## Replacements that are noted -/

/-- The replacements whose old nodes are noted as met in the tree of the root. -/
def Progress.made (p : Progress) (root : f.Node) (pairs : List f.Replacement) : List f.Replacement :=
  pairs.filter fun r => r.old.tree == root.tree && p.applied.contains r.old.id

/-- The replacements that are noted are the targets. -/
theorem perm_made {root : f.Node} {pairs : List f.Replacement} (hb : root.arena.Built)
    (h : (pairs.map fun r => r.old.ref).Nodup) :
    ((runSteps (replacementTable root pairs) [.enter root none true] {}).made root pairs).Perm
      (root.targets pairs) := by
  have hmade : ((runSteps (replacementTable root pairs) [.enter root none true] {}).made root
      pairs).Nodup := (List.Nodup.of_map _ h).filter _
  have htargets : (root.targets pairs).Nodup :=
    List.Nodup.of_map _ (Forest.Node.nodup_targets hb pairs)
  have htree : ∀ r ∈ root.targets pairs, r.old.tree = root.tree := fun r hr =>
    ((Forest.Node.isMet_iff hb).1 ((Forest.Node.mem_targets_iff hb h).1 hr).2).1
  rw [List.perm_ext_iff_of_nodup hmade htargets]
  intro r
  rw [Progress.made, List.mem_filter, applied_runSteps root pairs _ {} (Step.staysIn_root root)]
  simp only [Bool.and_eq_true, beq_iff_eq, List.contains_iff_mem, List.mem_union_iff,
    List.mem_reverse, List.flatMap_singleton, Step.met, List.mem_map, List.not_mem_nil, or_false]
  constructor
  · rintro ⟨hr, hroot, s, hs, hid⟩
    have href : s.old.ref = r.old.ref := by
      rw [Forest.Node.ref, Forest.Node.ref, htree s hs, hroot, hid]
    have hmem := ((Forest.Node.mem_targets_iff hb h).1 hs).1
    exact List.inj_on_of_nodup_map h hmem hr href ▸ hs
  · intro hr
    exact ⟨((Forest.Node.mem_targets_iff hb h).1 hr).1, htree r hr, r, hr, rfl⟩

end AsyncIdioms.Code
