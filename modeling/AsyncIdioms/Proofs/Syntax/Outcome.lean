/-
  How a replacement in stored trees ends.

  A list of replacements is refused if an old node is repeated in it, and for no other reason. All other
  lists are worked off, turn by turn, if all trees have at most 2 ^ 32 nodes: each turn tells one event of
  the new tree or makes one replacement, so the number of turns is known before:

  * `firstRepeated_eq_some_iff` : the node that is named as repeated;
  * `Forest.replace_refused_exactly` : when and why there is no outcome; `Forest.replace_unrefused` : a
    root with too many nodes;
  * `Forest.replace_turns` : how many turns the work takes, and how many nodes the outcome has;
    `Forest.replace_endless` : it takes no number of them, if the root has too many nodes.
-/
import AsyncIdioms.Proofs.Code.Outcome
import AsyncIdioms.Proofs.Syntax.Overflow
import AsyncIdioms.Proofs.Syntax.Replace

namespace AsyncIdioms

namespace Syntax

open Code (NodeRef ReplaceError firstRepeated firstRepeated_eq_none_iff)

variable {f : Forest}

/-! ## Lists that are refused -/

/-- The node that is named as repeated is the first one that was seen before. -/
theorem firstRepeated_eq_some_iff {seen refs : List NodeRef} {r : NodeRef} :
    firstRepeated seen refs = some r ↔ ∃ before after, refs = before ++ r :: after ∧
      (r ∈ seen ∨ r ∈ before) ∧ before.Nodup ∧ ∀ x ∈ before, x ∉ seen := by
  induction refs generalizing seen with
  | nil => simp [firstRepeated]
  | cons x refs ih =>
    rw [firstRepeated]
    split
    next h =>
      have hx : x ∈ seen := List.contains_iff_mem.1 h
      constructor
      · rintro ⟨⟩
        exact ⟨[], refs, rfl, .inl hx, List.nodup_nil, by simp⟩
      · rintro ⟨before, after, hrefs, -, -, hfresh⟩
        cases before with
        | nil => exact congrArg some (List.cons.inj hrefs).1
        | cons y before =>
          obtain rfl := (List.cons.inj hrefs).1
          exact absurd hx (hfresh x List.mem_cons_self)
    next h =>
      have hx : x ∉ seen := mt List.contains_iff_mem.2 h
      rw [ih]
      constructor
      · rintro ⟨before, after, rfl, hr, hnodup, hfresh⟩
        exact ⟨x :: before, after, rfl, by grind, by grind, by grind⟩
      · rintro ⟨before, after, hrefs, hr, hnodup, hfresh⟩
        cases before with
        | nil =>
          obtain rfl := (List.cons.inj hrefs).1
          exact absurd hr (by simp [hx])
        | cons y before =>
          obtain ⟨rfl, rfl⟩ := List.cons.inj hrefs
          exact ⟨before, after, rfl, by grind, by grind, by grind⟩

namespace Forest

variable {root : f.Node} {pairs : List f.Replacement}

/-- Two replacements, at different places of the list, have the same old node. -/
def RepeatsOld (pairs : List f.Replacement) : Prop :=
  ∃ (i j : Nat) (r s : f.Replacement), i < j ∧ pairs[i]? = some r ∧ pairs[j]? = some s ∧
    r.old.tree = s.old.tree ∧ r.old.id = s.old.id

/-- The replacement is the first one whose old node is also that of one before it. -/
def Replacement.IsFirstRepeat (r : f.Replacement) (pairs : List f.Replacement) : Prop :=
  ∃ before after, pairs = before ++ r :: after ∧
    (∃ s ∈ before, s.old.tree = r.old.tree ∧ s.old.id = r.old.id) ∧ ¬ RepeatsOld before

theorem not_repeatsOld_iff : ¬ RepeatsOld pairs ↔ (pairs.map (·.old.ref)).Nodup := by
  rw [List.nodup_iff_getElem?_ne_getElem?]
  constructor
  · intro h i j hij hj heq
    simp only [List.length_map] at hj
    refine h ⟨i, j, pairs[i], pairs[j], hij, by simp, by simp, Node.ref_inj.1 ?_⟩
    simpa [List.getElem?_map, hj, Nat.lt_trans hij hj] using heq
  · rintro h ⟨i, j, r, s, hij, hr, hs, hsame⟩
    refine h i j hij ?_ ?_
    · rw [List.length_map]
      exact (List.getElem?_eq_some_iff.1 hs).1
    · rw [List.getElem?_map, List.getElem?_map, hr, hs, Option.map_some, Option.map_some,
        Node.ref_inj.2 hsame]

/-- The node that is named as repeated is the old node of the first repeat. -/
theorem firstRepeated_old_iff {node : NodeRef} :
    firstRepeated [] (pairs.map (·.old.ref)) = some node ↔
      ∃ r : f.Replacement, r.IsFirstRepeat pairs ∧ r.old.ref = node := by
  rw [firstRepeated_eq_some_iff]
  constructor
  · rintro ⟨before, after, hsplit, hnode, hnodup, -⟩
    obtain ⟨ps, qs, rfl, rfl, hqs⟩ := List.map_eq_append_iff.1 hsplit
    obtain ⟨r, rs, rfl, rfl, rfl⟩ := List.map_eq_cons_iff.1 hqs
    refine ⟨r, ⟨ps, rs, rfl, ?_, not_repeatsOld_iff.2 hnodup⟩, rfl⟩
    simpa [Node.ref_inj] using hnode
  · rintro ⟨r, ⟨ps, rs, rfl, ⟨s, hs, hsame⟩, hfresh⟩, rfl⟩
    refine ⟨ps.map (·.old.ref), rs.map (·.old.ref), by simp, .inr ?_, not_repeatsOld_iff.1 hfresh,
      by simp⟩
    exact List.mem_map.2 ⟨s, hs, Node.ref_inj.2 hsame⟩

/-- **A list is refused exactly if it repeats an old node**, wherever this node is. Then the old node of
    the first repeat is named; else there is an outcome, if all trees were built and have at most 2 ^ 32
    nodes, so that the events of the new tree are never at fault. -/
theorem replace_refused_exactly (f : Forest) (root : f.Node) (pairs : List f.Replacement)
    (hb : ∀ n : f.Node, ∃ es, build es = .ok n.arena) (hsize : ∀ n : f.Node, n.arena.size ≤ 2 ^ 32) :
    ((∃ error, f.replace root pairs = some (.error error)) ↔ RepeatsOld pairs) ∧
    (∀ error, f.replace root pairs = some (.error error) ↔
      ∃ r : f.Replacement, r.IsFirstRepeat pairs ∧ error = .duplicateTarget r.old.id.toNat) ∧
    (¬ RepeatsOld pairs → ∃ t stats, f.replace root pairs = some (.ok (t, stats))) ∧
    ∀ fault, f.replace root pairs ≠ some (.error (.malformed fault)) := by
  have hok (h : ¬ RepeatsOld pairs) : ∃ t stats, f.replace root pairs = some (.ok (t, stats)) := by
    rw [not_repeatsOld_iff] at h
    obtain ⟨f, rfl, hb, hfit⟩ := Code.Forest.exists_stored f hb hsize
    obtain ⟨root, rfl⟩ := Code.Forest.exists_node_stored root
    obtain ⟨pairs, rfl⟩ := Code.Forest.exists_replacements_stored pairs
    rw [Code.refs_stored hfit] at h
    obtain ⟨t, ht, -⟩ := Code.Forest.replace_stored hfit root pairs (hb root) h
    exact ⟨t, _, ht⟩
  have herror (error : ReplaceError) : f.replace root pairs = some (.error error) ↔
      ∃ r : f.Replacement, r.IsFirstRepeat pairs ∧ error = .duplicateTarget r.old.id.toNat := by
    cases hfirst : firstRepeated [] (pairs.map (·.old.ref)) with
    | none =>
      obtain ⟨t, stats, h⟩ := hok (not_repeatsOld_iff.2 (firstRepeated_eq_none_iff.1 hfirst).1)
      refine iff_of_false (by simp [h]) ?_
      rintro ⟨r, hr, -⟩
      have hsome := firstRepeated_old_iff.2 ⟨r, hr, rfl⟩
      simp [hfirst] at hsome
    | some node =>
      have hrefused : f.replace root pairs = some (.error (.duplicateTarget node.id)) := by
        rw [replace, hfirst]
      rw [hrefused, Option.some.injEq, Except.error.injEq]
      constructor
      · rintro rfl
        obtain ⟨r, hr, rfl⟩ := firstRepeated_old_iff.1 hfirst
        exact ⟨r, hr, rfl⟩
      · rintro ⟨r, hr, rfl⟩
        have hsome := firstRepeated_old_iff.2 ⟨r, hr, rfl⟩
        rw [hfirst] at hsome
        rw [Option.some.inj hsome]
        rfl
  refine ⟨⟨?_, ?_⟩, herror, hok, ?_⟩
  · rintro ⟨error, h⟩
    by_contra hfresh
    obtain ⟨t, stats, h'⟩ := hok hfresh
    simp [h'] at h
  · intro hrepeats
    cases hfirst : firstRepeated [] (pairs.map (·.old.ref)) with
    | none => exact absurd hrepeats (not_repeatsOld_iff.2 (firstRepeated_eq_none_iff.1 hfirst).1)
    | some node => exact ⟨.duplicateTarget node.id, by rw [replace, hfirst]⟩
  · intro fault h
    obtain ⟨r, -, h⟩ := (herror _).1 h
    contradiction

/-- A node of the other tree is repeated, and named; without the repetition, there is an outcome. -/
theorem replace_refused_exactly_twins :
    let f := Code.Forest.twins.stored
    let twin := fun t i => (Code.Forest.twin t i).stored
    let pairs : List f.Replacement := [⟨twin 0 2, twin 0 5⟩, ⟨twin 1 3, twin 0 1⟩]
    (∀ n : f.Node, ∃ es, build es = .ok n.arena) ∧ (∀ n : f.Node, n.arena.size ≤ 2 ^ 32) ∧
      f.replace (twin 0 1) (pairs ++ [⟨twin 1 3, twin 0 2⟩]) = some (.error (.duplicateTarget 3)) ∧
      ∃ t stats, f.replace (twin 0 1) pairs = some (.ok (t, stats)) := by
  intro f twin pairs
  obtain ⟨hb, hsize⟩ := Code.Forest.twins_stored
  obtain ⟨-, herror, -, -⟩ :=
    f.replace_refused_exactly (twin 0 1) (pairs ++ [⟨twin 1 3, twin 0 2⟩]) hb hsize
  obtain ⟨-, -, hok, -⟩ := f.replace_refused_exactly (twin 0 1) pairs hb hsize
  have hfresh : ¬ RepeatsOld pairs := not_repeatsOld_iff.2 (by decide +kernel)
  refine ⟨hb, hsize, (herror _).2 ⟨⟨twin 1 3, twin 0 2⟩, ⟨pairs, [], rfl, ?_, hfresh⟩, rfl⟩, hok hfresh⟩
  exact ⟨⟨twin 1 3, twin 0 1⟩, by simp [pairs], rfl, rfl⟩

/-- On a block with 2 ^ 32 tokens, there is no outcome, even where nothing is to be replaced. -/
theorem replace_unrefused : ∃ (f : Forest) (root : f.Node),
    build (wide (2 ^ 32)).events = .ok root.arena ∧ root.id = root.arena.root ∧
      ¬ RepeatsOld ([] : List f.Replacement) ∧ f.replace root [] = none := by
  obtain ⟨f, root, leaf, hbuild, hroot, -, hne, hendless⟩ := exists_endless (2 ^ 32) (Nat.le_refl _)
  exact ⟨f, root, hbuild, hroot, not_repeatsOld_iff.2 List.nodup_nil, (hendless [] (by simp)).2 (by simp)⟩

end Forest

end Syntax

/-! ## Turns -/

/-- The replacements whose old nodes are noted as met in the tree of the root. -/
def Syntax.Work.made {f : Syntax.Forest} (w : Syntax.Work f) (root : f.Node)
    (pairs : List f.Replacement) : List f.Replacement :=
  pairs.filter fun r => r.old.tree == root.tree && w.applied.contains r.old.id

namespace Code

variable {f : Forest} {root : f.Node} {pairs : List f.Replacement} (hfit : f.Fits)

include hfit

theorem Work.Stores.made_eq {w : Syntax.Work f.stored} {l : Work f} (h : Stores w l) (root : f.Node)
    (pairs : List f.Replacement) :
    w.made root.stored (pairs.map (·.stored)) = (l.progress.made root pairs).map (·.stored) := by
  rw [Syntax.Work.made, Progress.made, List.filter_map]
  refine congrArg _ (List.filter_congr fun r _ => ?_)
  have hnoted : w.applied.contains r.stored.old.id = l.progress.applied.contains r.old.id := by
    rw [Bool.eq_iff_iff, List.contains_iff_mem, List.contains_iff_mem, h.applied]
    exact mem_map_ofNat (Forest.Node.id_lt_pow hfit) h.applied_lt
  exact congrArg _ hnoted

/-- The work is done after as many turns as there are events to be told and replacements to be made;
    what was told are the events of the substituted tree. -/
theorem Work.exists_done (root : f.Node) (pairs : List f.Replacement) (hb : root.arena.Built)
    (h : (pairs.map (·.old.ref)).Nodup) :
    let table := Syntax.replacementTable root.stored (pairs.map (·.stored))
    let tree := (root.substituted pairs).withField none
    ∃ done, afterSteps (Syntax.Work.turn table) (tree.events.length + (root.targets pairs).length)
        (.start root.stored) = some done ∧
      done.turn table = none ∧ done.builder.close = Syntax.build tree.events ∧
      ((done.made root.stored (pairs.map (·.stored))).Perm ((root.targets pairs).map (·.stored))) := by
  intro table tree
  obtain ⟨done, hturns, hstores⟩ :=
    (Work.stores_start root).afterSteps hfit pairs (Step.staysIn_root root)
  have hleft : turnsLeft pairs (Work.start root).stack =
      tree.events.length + (root.targets pairs).length := by
    rw [Work.start, turnsLeft, List.flatMap_singleton, List.flatMap_singleton, Step.met,
      List.length_map]
    rfl
  rw [hleft] at hturns
  refine ⟨done, hturns, ?_, ?_, ?_⟩
  · rw [Syntax.Work.turn, hstores.stack]
    rfl
  · -- The builders were told the same, and a tree is built of one list of events only.
    obtain ⟨es, hbuilder, hbuilder'⟩ := hstores.builder
    obtain ⟨out, hout, -⟩ := tree.build_events
    have hclose : build es = .ok out := by
      rw [← hout, ← close_runSteps root pairs]
      exact congrArg Builder.close hbuilder'.symm
    rw [hbuilder, ← events_of_build hout, events_of_build hclose]
    rfl
  · rw [hstores.made_eq hfit root pairs]
    exact (perm_made hb h).map _

/-- A node and what is below it, counted. -/
theorem Forest.Node.count_stored (n : f.Node) :
    (n.stored.arena.descendants n.stored.id).map (·.length + 1) = some n.count := by
  have hdown := Arena.descendants_stored (hfit n) (Forest.Node.id_lt_pow (n := n) hfit)
  rw [Forest.Node.stored, hdown, Option.map_some, List.length_map]
  rfl

omit hfit in
/-- What the replacements made add is what the targets add. -/
theorem sum_growth_stored {count : f.stored.Node → Nat} (hcount : ∀ n : f.Node, count n.stored = n.count)
    {made : List f.stored.Replacement} (hperm : made.Perm ((root.targets pairs).map (·.stored))) :
    (made.map fun r => (count r.new - count r.old : Int)).sum =
      ((root.targets pairs).map Forest.Replacement.growth).sum := by
  rw [(hperm.map _).sum_eq, List.map_map]
  refine congrArg List.sum (List.map_congr_left fun r _ => ?_)
  exact congrArg₂ (fun x y : Nat => (x - y : Int)) (hcount r.new) (hcount r.old)

end Code

namespace Syntax.Forest

/-- **The work ends, and the outcome has as many nodes as it should have**, where all trees were built and
    have at most 2 ^ 32 nodes: there is no turn left after one turn for each event of the outcome and one
    for each replacement made; and each replacement made adds the size of its new node and takes away that
    of its old one. -/
theorem replace_turns (f : Forest) (root : f.Node) (pairs : List f.Replacement)
    (hb : ∀ n : f.Node, ∃ es, build es = .ok n.arena) (hsize : ∀ n : f.Node, n.arena.size ≤ 2 ^ 32)
    (h : (pairs.map (·.old.ref)).Nodup) :
    let table := replacementTable root pairs
    ∃ t stats es done, f.replace root pairs = some (.ok (t, stats)) ∧ build es = .ok t ∧
      afterSteps (Work.turn table) (es.length + stats.applied) (.start root) = some done ∧
      done.turn table = none ∧ done.builder.close = .ok t ∧
      stats.applied = (done.made root pairs).length ∧
      ∃ count : f.Node → Nat, (∀ n, (n.arena.descendants n.id).map (·.length + 1) = some (count n)) ∧
        (t.size : Int) = count root +
          ((done.made root pairs).map fun r => (count r.new - count r.old : Int)).sum := by
  intro table
  obtain ⟨f, rfl, hb, hfit⟩ := Code.Forest.exists_stored f hb hsize
  obtain ⟨root, rfl⟩ := Code.Forest.exists_node_stored root
  obtain ⟨pairs, rfl⟩ := Code.Forest.exists_replacements_stored pairs
  rw [Code.refs_stored hfit] at h
  obtain ⟨t, ht, hbuild⟩ := Code.Forest.replace_stored hfit root pairs (hb root) h
  obtain ⟨done, hturns, hlast, hclose, hperm⟩ := Code.Work.exists_done hfit root pairs (hb root) h
  refine ⟨t, _, _, done, ht, hbuild, hturns, hlast, hclose.trans hbuild, ?_, ?_⟩
  · rw [hperm.length_eq, List.length_map]
  · let count (n : f.stored.Node) : Nat := ((n.arena.descendants n.id).map (·.length + 1)).getD 0
    have hcount (n : f.Node) : count n.stored = n.count :=
      congrArg (Option.getD · 0) (n.count_stored hfit)
    obtain ⟨out, hout, hentries, -⟩ := ((root.substituted pairs).withField none).build_events
    obtain ⟨t', ht', hsize'⟩ := exists_build hout
    obtain rfl := Except.ok.inj (hbuild.symm.trans ht')
    refine ⟨count, Code.Forest.forall_node_stored.2 fun n => ?_, ?_⟩
    · rw [n.count_stored hfit, hcount]
    · rw [Code.sum_growth_stored hcount hperm, hcount, hsize', Code.Arena.size_of_layout hentries,
        Code.Tree.size_withField]
      exact Code.Forest.Node.size_substituted pairs root

/-- The call becomes a copy of the whole tree, in which it stands, and two names change places. The name
    of the call is not met. -/
theorem replace_turns_twins :
    let f := Code.Forest.twins.stored
    let twin := fun t i => (Code.Forest.twin t i).stored
    let pairs : List f.Replacement := [⟨twin 0 2, twin 0 0⟩, ⟨twin 0 4, twin 0 5⟩,
      ⟨twin 0 5, twin 0 4⟩, ⟨twin 0 3, twin 0 1⟩]
    (∀ n : f.Node, ∃ es, build es = .ok n.arena) ∧ (∀ n : f.Node, n.arena.size ≤ 2 ^ 32) ∧
      (pairs.map (·.old.ref)).Nodup ∧
      ∃ t stats, f.replace (twin 0 0) pairs = some (.ok (t, stats)) ∧ t.size = 10 := by
  intro f twin pairs
  obtain ⟨hb, hsize⟩ := Code.Forest.twins_stored
  have hnodup : (pairs.map (·.old.ref)).Nodup := by decide +kernel
  obtain ⟨t, stats, es, done, ht, -, hturns, hlast, -, -, count, hcount, hgrown⟩ :=
    f.replace_turns (twin 0 0) pairs hb hsize hnodup
  -- The replacements made are those of the only work that is done.
  have hfit := Code.Forest.fits_twins
  let root := Code.Forest.twin 0 0
  let inner := Code.Forest.twin
  let listed : List Code.Forest.twins.Replacement := [⟨inner 0 2, inner 0 0⟩, ⟨inner 0 4, inner 0 5⟩,
    ⟨inner 0 5, inner 0 4⟩, ⟨inner 0 3, inner 0 1⟩]
  obtain ⟨done', hturns', hlast', -, hperm⟩ := Code.Work.exists_done hfit root listed
    (Code.Forest.built_twins root) (by decide +kernel)
  have hrun := runToEnd_eq_some_iff.2 ⟨_, hturns, hlast⟩
  obtain rfl := Option.some.inj (hrun.symm.trans (runToEnd_eq_some_iff.2 ⟨_, hturns', hlast'⟩))
  have hcounts (n : Code.Forest.twins.Node) : count n.stored = n.count :=
    Option.some.inj ((hcount n.stored).symm.trans (n.count_stored hfit))
  have hroot : count (twin 0 0) = 6 := (hcounts root).trans (by decide +kernel)
  have hgrowth : ((root.targets listed).map Code.Forest.Replacement.growth).sum = 4 := by decide +kernel
  have hadded := (Code.sum_growth_stored hcounts hperm).trans hgrowth
  refine ⟨hb, hsize, hnodup, t, stats, ht, Int.ofNat_inj.1 (hgrown.trans ?_)⟩
  exact congrArg₂ (fun (x : Nat) (y : Int) => x + y) hroot hadded

/-- On a block with 2 ^ 32 tokens, the work has a turn after each turn, and so no end. -/
theorem replace_endless : ∃ (f : Forest) (root : f.Node),
    build (wide (2 ^ 32)).events = .ok root.arena ∧ root.id = root.arena.root ∧
      (∀ k, ∃ w, afterSteps (Work.turn (replacementTable root [])) k (.start root) = some w) ∧
      runToEnd (Work.turn (replacementTable root [])) (.start root) = none := by
  obtain ⟨f, root, leaf, hbuild, hroot, -, -, hendless⟩ := exists_endless (2 ^ 32) (Nat.le_refl _)
  have hrun := (hendless [] (by simp)).1
  exact ⟨f, root, hbuild, hroot, exists_afterSteps_eq hrun, hrun⟩

end Syntax.Forest

end AsyncIdioms
