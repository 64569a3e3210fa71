/-
  Replacing nodes of stored trees.

  The work on stored trees goes turn by turn like the work on the trees themselves, if all trees that
  are there fit; the tree that is told need not. It is built of the same events, so that it is the same
  tree, as it is stored, if it fits:

  * `Work.Stores` : what the two works have in common; `Work.Stores.turn` : each turn keeps it;
  * `Work.Stores.afterSteps` : so the work is done after as many turns, and then there is no other;
  * `Forest.replace_stored_of_ok` : the outcome.
-/
import AsyncIdioms.Proofs.Code.Outcome
import AsyncIdioms.Proofs.Syntax.Forest
import AsyncIdioms.Syntax.Replace

namespace AsyncIdioms.Code

variable {f : Forest}

/-! ## Steps -/

/-- The replacement, as it is stored. -/
def Forest.Replacement.stored (r : f.Replacement) : f.stored.Replacement := ⟨r.old.stored, r.new.stored⟩

/-- The step, as it is stored. -/
def Step.stored : Step f → Syntax.Step f.stored
  | enter n field lookup => .enter n.stored field lookup
  | exit => .exit

/-- The table, as it is stored. -/
def storedTable (table : List (Nat × f.Node)) : List (UInt32 × f.stored.Node) :=
  table.map fun (i, n) => (.ofNat i, n.stored)

theorem replacementTable_stored (root : f.Node) (pairs : List f.Replacement) :
    Syntax.replacementTable root.stored (pairs.map (·.stored)) =
      storedTable (replacementTable root pairs) := by
  rw [Syntax.replacementTable, List.filter_map, List.map_map, storedTable, replacementTable,
    List.map_map]
  rfl

section
variable (hfit : f.Fits)

include hfit

theorem refs_stored (pairs : List f.Replacement) :
    (pairs.map (·.stored)).map (·.old.ref) = pairs.map (·.old.ref) := by
  rw [List.map_map]
  exact List.map_congr_left fun r _ => Forest.Node.ref_stored hfit

theorem lt_of_mem_replacementTable (root : f.Node) (pairs : List f.Replacement) :
    ∀ row ∈ replacementTable root pairs, row.1 < 2 ^ 32 := by
  intro row hrow
  obtain ⟨r, -, rfl⟩ := List.mem_map.1 hrow
  exact Forest.Node.id_lt_pow hfit

theorem below_stored (n : f.Node) (lookup : Bool) :
    Syntax.Step.below n.stored lookup = (Step.below n lookup).map Step.stored := by
  rw [Syntax.Step.below, Forest.Node.children_stored hfit, Step.below, List.map_map, List.map_map]
  refine List.map_congr_left fun c _ => ?_
  rw [Function.comp_apply, Function.comp_apply, Forest.Node.field_stored hfit, Step.stored]

theorem lookup_stored {table : List (Nat × f.Node)} (htable : ∀ row ∈ table, row.1 < 2 ^ 32)
    (n : f.Node) :
    (storedTable table).lookup n.stored.id = (table.lookup n.id).map Forest.Node.stored := by
  induction table with
  | nil => rfl
  | cons row table ih =>
    obtain ⟨hrow, htable⟩ := List.forall_mem_cons.1 htable
    have hkey : (n.stored.id == UInt32.ofNat row.1) = (n.id == row.1) := by
      rw [Bool.eq_iff_iff, beq_iff_eq, beq_iff_eq]
      exact ofNat_inj (Forest.Node.id_lt_pow hfit) hrow
    rw [storedTable, List.map_cons, List.lookup_cons, List.lookup_cons, hkey]
    cases n.id == row.1 with
    | false => exact ih htable
    | true => rfl

theorem newNode?_stored {table : List (Nat × f.Node)} (htable : ∀ row ∈ table, row.1 < 2 ^ 32)
    (n : f.Node) (lookup : Bool) : Syntax.newNode? (storedTable table) n.stored lookup =
      (newNode? table n lookup).map Forest.Node.stored := by
  cases lookup with
  | false => rfl
  | true => exact lookup_stored hfit htable n

end

/-! ## Turns -/

/-- What the work on stored trees has in common with the work on the trees: the steps on the stack and
    the nodes that are noted, and that the builders were told the same. -/
structure Work.Stores (w : Syntax.Work f.stored) (l : Work f) : Prop where
  stack : w.stack = l.stack.map Step.stored
  builder : ∃ es : List Event, w.builder = es.foldl Syntax.Builder.step .empty ∧
    l.progress.builder = es.foldl Builder.step .empty
  applied : w.applied = l.progress.applied.map UInt32.ofNat
  applied_lt : ∀ i ∈ l.progress.applied, i < 2 ^ 32

namespace Work

theorem stores_start (root : f.Node) : Stores (.start root.stored) (.start root) where
  stack := rfl
  builder := ⟨[], rfl, rfl⟩
  applied := rfl
  applied_lt := by simp [start]

theorem insert_stored {i : Nat} {is : List Nat} (hi : i < 2 ^ 32) (his : ∀ j ∈ is, j < 2 ^ 32) :
    (is.map UInt32.ofNat).insert (.ofNat i) = (is.insert i).map UInt32.ofNat := by
  by_cases h : i ∈ is
  · rw [List.insert_of_mem h, List.insert_of_mem ((mem_map_ofNat hi his).2 h)]
  · rw [List.insert_of_not_mem h, List.insert_of_not_mem (mt (mem_map_ofNat hi his).1 h),
      List.map_cons]

namespace Stores

variable {table : List (Nat × f.Node)} {w : Syntax.Work f.stored} {l : Work f}

/-- Both builders are told one event more. -/
theorem tell (h : Stores w l) (e : Event) : ∃ es : List Event,
    w.builder.step e = es.foldl Syntax.Builder.step .empty ∧
    l.progress.builder.step e = es.foldl Builder.step .empty := by
  obtain ⟨es, hw, hl⟩ := h.builder
  exact ⟨es ++ [e], by simp [hw], by simp [hl]⟩

/-- There is a turn if there is a step on the stack, and each turn keeps what the works have in
    common. -/
theorem turn (hfit : f.Fits) (htable : ∀ row ∈ table, row.1 < 2 ^ 32) (h : Stores w l)
    (hstack : l.stack ≠ []) :
    ∃ w', w.turn (storedTable table) = some w' ∧ Stores w' (l.turn table) := by
  obtain ⟨stack, p⟩ := l
  have hw := h.stack
  cases stack with
  | nil => contradiction
  | cons s stack =>
    cases s with
    | exit =>
      rw [Syntax.Work.turn, hw]
      exact ⟨_, rfl, rfl, h.tell .finish, h.applied, h.applied_lt⟩
    | enter n field lookup =>
      have hn := Forest.Node.id_lt_pow (n := n) hfit
      have hnew := newNode?_stored hfit htable n lookup
      rw [Syntax.Work.turn, hw, Code.Work.turn]
      simp only [List.map_cons, Step.stored, hnew, Forest.Node.tokenText?_stored hfit]
      cases newNode? table n lookup with
      | some new =>
        refine ⟨_, rfl, rfl, h.builder, ?_, ?_⟩
        · simp only [h.applied]
          exact insert_stored hn h.applied_lt
        · intro i hi
          rcases List.mem_insert_iff.1 hi with rfl | hi
          · exact hn
          · exact h.applied_lt i hi
      | none =>
        simp only [Option.map_none, Forest.Node.kind_stored hfit]
        cases n.tokenText? with
        | some text => exact ⟨_, rfl, rfl, h.tell (.token n.kind field text), h.applied, h.applied_lt⟩
        | none =>
          refine ⟨_, rfl, ?_, h.tell (.start n.kind field), h.applied, h.applied_lt⟩
          simp only [below_stored hfit, List.map_append, List.map_cons, Step.stored]

end Stores

variable {root : f.Node}

/-- After as many turns as there are left, the work on stored trees is done. -/
theorem Stores.afterSteps (hfit : f.Fits) (pairs : List f.Replacement) {w : Syntax.Work f.stored}
    {l : Work f} (h : Stores w l) (hstays : l.StaysIn root) :
    ∃ w', AsyncIdioms.afterSteps
        (Syntax.Work.turn (Syntax.replacementTable root.stored (pairs.map (·.stored))))
        (turnsLeft pairs l.stack) w = some w' ∧
      Stores w' ⟨[], runSteps (replacementTable root pairs) l.stack l.progress⟩ := by
  rw [replacementTable_stored]
  generalize hk : turnsLeft pairs l.stack = k
  induction k generalizing w l with
  | zero =>
    obtain ⟨stack, p⟩ := l
    obtain rfl : stack = [] := turnsLeft_eq_zero_iff.1 hk
    exact ⟨w, rfl, by rw [runSteps]; exact h⟩
  | succ k ih =>
    have hstack : l.stack ≠ [] := fun hnil => by simp [turnsLeft_eq_zero_iff.2 hnil] at hk
    obtain ⟨w', hw', h'⟩ := h.turn hfit (lt_of_mem_replacementTable hfit root pairs) hstack
    obtain ⟨hleft, hstays'⟩ := turnsLeft_turn pairs hstays
    obtain ⟨last, hlast, hstores⟩ := ih h' hstays' (by rw [hleft, hk, Nat.add_sub_cancel])
    rw [runSteps_turn] at hstores
    exact ⟨last, by rw [AsyncIdioms.afterSteps, hw', Option.bind_some, hlast], hstores⟩

end Work

/-! ## The outcome -/

namespace Forest

variable {root : f.Node} {pairs : List f.Replacement}

theorem exists_replacement_stored (r : f.stored.Replacement) :
    ∃ r' : f.Replacement, r'.stored = r := by
  obtain ⟨old, hold⟩ := exists_node_stored r.old
  obtain ⟨new, hnew⟩ := exists_node_stored r.new
  exact ⟨⟨old, new⟩, by rw [Replacement.stored, hold, hnew]⟩

/-- Each list of replacements in a stored forest is one as it is stored. -/
theorem exists_replacements_stored (pairs : List f.stored.Replacement) :
    ∃ pairs' : List f.Replacement, pairs'.map (·.stored) = pairs := by
  induction pairs with
  | nil => exact ⟨[], rfl⟩
  | cons r pairs ih =>
    obtain ⟨pairs', rfl⟩ := ih
    obtain ⟨r', rfl⟩ := exists_replacement_stored r
    exact ⟨r' :: pairs', rfl⟩

/-- Replacements are still told apart. -/
theorem Replacement.stored_injective (hfit : f.Fits) :
    Function.Injective (Replacement.stored : f.Replacement → f.stored.Replacement) := by
  rintro ⟨old, new⟩ ⟨old', new'⟩ h
  obtain ⟨hold, hnew⟩ := Syntax.Forest.Replacement.mk.inj h
  obtain rfl : old = old' := (Node.stored_inj hfit).1 hold
  obtain rfl : new = new' := (Node.stored_inj hfit).1 hnew
  rfl

/-- The work on stored trees comes to an end; what it builds are the same events, and it makes as many
    replacements. -/
theorem replace_stored_of_ok (hfit : f.Fits) {out : Arena} {stats : ReplaceStats}
    (h : f.replace root pairs = .ok (out, stats)) :
    ∃ t, f.stored.replace root.stored (pairs.map (·.stored)) = some (.ok (t, stats)) ∧
      Syntax.build out.events = .ok t := by
  have hnone : firstRepeated [] (pairs.map (·.old.ref)) = none := by
    rw [Option.eq_none_iff_forall_ne_some]
    intro node hsome
    simp [replace, hsome] at h
  obtain ⟨w, hturns, hstores⟩ :=
    (Work.stores_start root).afterSteps hfit pairs (Step.staysIn_root root)
  have hlast : w.turn (Syntax.replacementTable root.stored (pairs.map (·.stored))) = none := by
    rw [Syntax.Work.turn, hstores.stack]
    rfl
  have hrun := runToEnd_eq_some_iff.2 ⟨_, hturns, hlast⟩
  obtain ⟨es, hbuilder, hbuilder'⟩ := hstores.builder
  dsimp only [Work.start] at hbuilder'
  rw [replace, hnone] at h
  simp only [hbuilder'] at h
  rw [Syntax.Forest.replace, refs_stored hfit, hnone]
  simp only [hrun, Option.bind_eq_bind, Option.bind_some, hbuilder, hstores.applied,
    List.length_map]
  -- Both builders were told the same events, so they end alike.
  rcases Syntax.build_cases es with ⟨fault, -, h'⟩ | ⟨t, a, ht, ha, -⟩
  · rw [show (es.foldl Builder.step .empty).close = _ from h'] at h
    simp at h
  · rw [show (es.foldl Builder.step .empty).close = _ from ha] at h
    rw [show (es.foldl Syntax.Builder.step .empty).close = _ from ht]
    obtain ⟨rfl, rfl⟩ := Prod.mk.inj (Except.ok.inj h)
    exact ⟨t, rfl, events_of_build ha ▸ ht⟩

/-- If no node is to be replaced twice, the events of the substituted tree are built, and as many
    replacements are made as there are targets. -/
theorem replace_stored (hfit : f.Fits) (root : f.Node) (pairs : List f.Replacement)
    (hb : root.arena.Built) (h : (pairs.map (·.old.ref)).Nodup) :
    ∃ t, f.stored.replace root.stored (pairs.map (·.stored)) =
        some (.ok (t, ⟨(root.targets pairs).length, pairs.length - (root.targets pairs).length⟩)) ∧
      Syntax.build ((root.substituted pairs).withField none).events = .ok t := by
  obtain ⟨out, hout, -⟩ := ((root.substituted pairs).withField none).build_events
  obtain ⟨t, ht, hbuild⟩ := replace_stored_of_ok hfit (replace_of_build hb h hout)
  exact ⟨t, ht, events_of_build hout ▸ hbuild⟩

end Forest

end AsyncIdioms.Code
