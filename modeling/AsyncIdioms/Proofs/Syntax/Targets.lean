/-
  Which replacements are made in stored trees.

  Of the old nodes at and below the root, those are replaced above which no other one stands, as far up as
  the root; the others are not met:

  * `Forest.Node.IsMet` : such nodes; `Forest.Node.isMet_stored` : they are met in the trees and in what
    is stored of them;
  * `Forest.replace_counts_exactly` : the counts are those of old nodes that are met and that are not;
  * `Forest.Node.SameTargets` : lists with the same old nodes met and the same new nodes for them;
  * `Forest.replace_by_met_pairs` : the outcome depends on these only;
  * `Forest.replace_uncounted`, `Forest.replace_without_copy` : roots that have too many nodes.
-/
import AsyncIdioms.Proofs.Code.Independence
import AsyncIdioms.Proofs.Syntax.Overflow
import AsyncIdioms.Proofs.Syntax.Replace

namespace AsyncIdioms

open Code (NodeRef)

namespace Syntax.Forest

variable {f : Forest}

/-- The node is at or below the root, and no node above it, as far up as the root, is to be
    replaced. -/
def Node.IsMet (n root : f.Node) (pairs : List f.Replacement) : Prop :=
  isWithin n root = true ∧
    ∀ p ∈ n.arena.ancestors n.id, n.arena.isWithin p root.id = true →
      (⟨n.tree, p.toNat⟩ : NodeRef) ∉ pairs.map (·.old.ref)

instance {n root : f.Node} {pairs : List f.Replacement} : Decidable (n.IsMet root pairs) :=
  @instDecidableAnd _ _ inferInstance (List.decidableBAll _ _)

/-- The old nodes that are met, and the new nodes for them, are the same in two lists. -/
def Node.SameTargets (root : f.Node) (pairs pairs' : List f.Replacement) : Prop :=
  ∀ r : f.Replacement,
    (r ∈ pairs ∧ r.old.IsMet root pairs) ↔ (r ∈ pairs' ∧ r.old.IsMet root pairs')

end Syntax.Forest

namespace Code.Forest

variable {f : Forest} {n root : f.Node} {pairs pairs' : List f.Replacement} (hfit : f.Fits)

include hfit

/-- The same nodes are met. -/
theorem Node.isMet_stored :
    n.stored.IsMet root.stored (pairs.map (·.stored)) ↔ n.IsMet root pairs := by
  have hn : n.id < 2 ^ 32 := id_lt_pow hfit
  rw [Syntax.Forest.Node.IsMet, IsMet, Forest.isWithin_stored hfit, refs_stored hfit]
  refine and_congr_right fun hwithin => ?_
  have htree : n.tree = root.tree := beq_iff_eq.1 (Bool.and_eq_true_iff.1 hwithin).1
  have habove : n.stored.arena.ancestors n.stored.id = (n.arena.ancestors n.id).map UInt32.ofNat :=
    Arena.ancestors_stored hn
  rw [habove, List.forall_mem_map]
  refine forall₂_congr fun p hp => ?_
  have hp : p < 2 ^ 32 := Nat.lt_trans (n.arena.lt_of_mem_ancestors hp) hn
  have hup : n.stored.arena.isWithin (.ofNat p) root.stored.id = f.isWithin ⟨n.tree, p⟩ root.ref := by
    have hstored : n.arena.stored.isWithin (.ofNat p) (.ofNat root.id) = n.arena.isWithin p root.id :=
      Arena.isWithin_stored hp (id_lt_pow hfit)
    have hsame : (n.tree == root.ref.tree) = true := beq_iff_eq.2 htree
    rw [Forest.isWithin, n.isTree, Option.any_some, hsame, Bool.true_and]
    exact hstored
  rw [hup, toNat_ofNat hp]
  rfl

theorem Node.mem_and_isMet_stored {r : f.Replacement} :
    (r.stored ∈ pairs.map (·.stored) ∧ r.stored.old.IsMet root.stored (pairs.map (·.stored))) ↔
      (r ∈ pairs ∧ r.old.IsMet root pairs) :=
  and_congr (List.mem_map_of_injective (Replacement.stored_injective hfit)) (isMet_stored hfit)

/-- The same lists have the same targets. -/
theorem Node.sameTargets_stored :
    root.stored.SameTargets (pairs.map (·.stored)) (pairs'.map (·.stored)) ↔
      root.SameTargets pairs pairs' := by
  constructor
  · intro h r
    have hr := h r.stored
    rwa [mem_and_isMet_stored hfit, mem_and_isMet_stored hfit] at hr
  · intro h r
    obtain ⟨r, rfl⟩ := exists_replacement_stored r
    rw [mem_and_isMet_stored hfit, mem_and_isMet_stored hfit]
    exact h r

/-- As many targets are there as old nodes that are met. -/
theorem Node.countP_isMet_stored (hb : root.arena.Built) (h : (pairs.map (·.old.ref)).Nodup) :
    (pairs.map (·.stored)).countP (fun r => r.old.IsMet root.stored (pairs.map (·.stored))) =
      (root.targets pairs).length := by
  rw [length_targets hb h, List.countP_map]
  refine List.countP_congr fun r _ => ?_
  simp only [Function.comp_apply, decide_eq_true_eq]
  exact isMet_stored hfit

/-- Lists with the same targets give the same tree, and as many replacements are made. -/
theorem replace_stored_of_sameTargets (hsame : root.SameTargets pairs pairs') (hb : root.arena.Built)
    (h : (pairs.map (·.old.ref)).Nodup) (h' : (pairs'.map (·.old.ref)).Nodup) :
    ∃ t made, f.stored.replace root.stored (pairs.map (·.stored)) =
        some (.ok (t, ⟨made, pairs.length - made⟩)) ∧
      f.stored.replace root.stored (pairs'.map (·.stored)) =
        some (.ok (t, ⟨made, pairs'.length - made⟩)) := by
  obtain ⟨t, ht, hbuild⟩ := replace_stored hfit root pairs hb h
  obtain ⟨t', ht', hbuild'⟩ := replace_stored hfit root pairs' hb h'
  -- The substituted tree is the same, and so are its events.
  rw [hsame.substituted_eq hb h h', hbuild'] at hbuild
  obtain rfl := Except.ok.inj hbuild
  rw [← hsame.length_targets_eq hb h h'] at ht'
  exact ⟨t', _, ht, ht'⟩

end Code.Forest

namespace Syntax.Forest

variable {f : Forest}

/-- **The counts are exact**, where all trees were built and have at most 2 ^ 32 nodes: the replacements
    made are those whose old node is at or below the root and below no other old node, as far up as the
    root; all others are skipped, and together they are all there are. -/
theorem replace_counts_exactly (f : Forest) (root : f.Node) (pairs : List f.Replacement)
    (hb : ∀ n : f.Node, ∃ es, build es = .ok n.arena) (hsize : ∀ n : f.Node, n.arena.size ≤ 2 ^ 32)
    (h : (pairs.map (·.old.ref)).Nodup) :
    ∃ t stats, f.replace root pairs = some (.ok (t, stats)) ∧
      stats.applied = pairs.countP (fun r => r.old.IsMet root pairs) ∧
      stats.skipped = pairs.countP (fun r => ¬ r.old.IsMet root pairs) ∧
      stats.applied + stats.skipped = pairs.length := by
  obtain ⟨f, rfl, hb, hfit⟩ := Code.Forest.exists_stored f hb hsize
  obtain ⟨root, rfl⟩ := Code.Forest.exists_node_stored root
  obtain ⟨pairs, rfl⟩ := Code.Forest.exists_replacements_stored pairs
  rw [Code.refs_stored hfit] at h
  obtain ⟨t, ht, -⟩ := Code.Forest.replace_stored hfit root pairs (hb root) h
  have hmet := Code.Forest.Node.countP_isMet_stored hfit (hb root) h
  have hlen := List.length_eq_countP_add_countP (l := pairs.map (·.stored))
    fun r => decide (r.old.IsMet root.stored (pairs.map (·.stored)))
  simp only [decide_eq_true_eq, List.length_map] at hlen
  refine ⟨t, _, ht, ?_⟩
  rw [List.length_map]
  dsimp only
  omega

/-- Below node 1, nodes 2 and 4 are replaced. Node 3 is below node 2, node 5 beside the root, node 0
    above it, and a node with number 2 in the other tree is not met either. -/
theorem replace_counts_exactly_twins :
    let f := Code.Forest.twins.stored
    let twin := fun t i => (Code.Forest.twin t i).stored
    let pairs : List f.Replacement := [⟨twin 0 2, twin 1 0⟩, ⟨twin 0 3, twin 0 1⟩,
      ⟨twin 0 4, twin 0 3⟩, ⟨twin 0 5, twin 0 1⟩, ⟨twin 0 0, twin 0 1⟩, ⟨twin 1 2, twin 0 1⟩]
    (∀ n : f.Node, ∃ es, build es = .ok n.arena) ∧ (∀ n : f.Node, n.arena.size ≤ 2 ^ 32) ∧
      (pairs.map (·.old.ref)).Nodup ∧
      ∃ t stats, f.replace (twin 0 1) pairs = some (.ok (t, stats)) ∧ stats = ⟨2, 4⟩ := by
  intro f twin pairs
  obtain ⟨hb, hsize⟩ := Code.Forest.twins_stored
  have hnodup : (pairs.map (·.old.ref)).Nodup := by decide +kernel
  obtain ⟨t, stats, ht, happlied, hskipped, -⟩ :=
    f.replace_counts_exactly (twin 0 1) pairs hb hsize hnodup
  have hmet : pairs.countP (fun r => r.old.IsMet (twin 0 1) pairs) = 2 := by decide +kernel
  have hmissed : pairs.countP (fun r => ¬ r.old.IsMet (twin 0 1) pairs) = 4 := by decide +kernel
  refine ⟨hb, hsize, hnodup, t, stats, ht, ?_⟩
  obtain ⟨applied, skipped⟩ := stats
  exact Code.ReplaceStats.mk.injEq .. ▸ ⟨happlied.trans hmet, hskipped.trans hmissed⟩

/-- Below a block with 2 ^ 32 tokens, one of which is to be replaced by itself, nothing is counted: the
    work does not end. -/
theorem replace_uncounted : ∃ (f : Forest) (root leaf : f.Node),
    build (wide (2 ^ 32)).events = .ok root.arena ∧ root.id = root.arena.root ∧
      leaf.tree = root.tree ∧ leaf.id ≠ root.id ∧ f.replace root [⟨leaf, leaf⟩] = none := by
  obtain ⟨f, root, leaf, hbuild, hroot, htree, hne, hendless⟩ :=
    exists_endless (2 ^ 32) (Nat.le_refl _)
  refine ⟨f, root, leaf, hbuild, hroot, htree, hne, (hendless _ ?_).2 (by simp)⟩
  simpa using hne

/-- The order of the replacements does not matter. -/
theorem replace_of_perm {pairs pairs' : List f.Replacement} (root : f.Node)
    (hb : ∀ n : f.Node, ∃ es, build es = .ok n.arena) (hsize : ∀ n : f.Node, n.arena.size ≤ 2 ^ 32)
    (hperm : pairs'.Perm pairs) (h : (pairs.map (·.old.ref)).Nodup) :
    f.replace root pairs' = f.replace root pairs := by
  obtain ⟨f, rfl, hb, hfit⟩ := Code.Forest.exists_stored f hb hsize
  obtain ⟨root, rfl⟩ := Code.Forest.exists_node_stored root
  obtain ⟨pairs, rfl⟩ := Code.Forest.exists_replacements_stored pairs
  obtain ⟨pairs', rfl⟩ := Code.Forest.exists_replacements_stored pairs'
  rw [Code.refs_stored hfit] at h
  have hperm : pairs'.Perm pairs :=
    (List.map_perm_map_iff (Code.Forest.Replacement.stored_injective hfit)).1 hperm
  obtain ⟨t, made, ht, ht'⟩ := Code.Forest.replace_stored_of_sameTargets hfit
    (Code.Forest.Node.sameTargets_of_perm hperm) (hb root) ((hperm.map _).nodup_iff.2 h) h
  rw [ht, ht', hperm.length_eq]

/-- **The outcome depends on the old nodes that are met**, where all trees were built and have at most
    2 ^ 32 nodes. Lists with the same old nodes met, and the same new nodes for them, give the same tree;
    so the order of a list does not matter, and replacements whose old node is not met can be left
    out. -/
theorem replace_by_met_pairs (f : Forest) (root : f.Node) (pairs : List f.Replacement)
    (hb : ∀ n : f.Node, ∃ es, build es = .ok n.arena) (hsize : ∀ n : f.Node, n.arena.size ≤ 2 ^ 32)
    (h : (pairs.map (·.old.ref)).Nodup) :
    (∀ pairs' : List f.Replacement, (pairs'.map (·.old.ref)).Nodup →
      root.SameTargets pairs pairs' →
      ∃ t stats stats', f.replace root pairs = some (.ok (t, stats)) ∧
        f.replace root pairs' = some (.ok (t, stats'))) ∧
    (∀ pairs' : List f.Replacement, pairs'.Perm pairs → f.replace root pairs' = f.replace root pairs) ∧
    ∀ kept : List f.Replacement, kept.Sublist pairs →
      (∀ r ∈ pairs, r.old.IsMet root pairs → r ∈ kept) →
      ∃ t stats stats', f.replace root pairs = some (.ok (t, stats)) ∧
        f.replace root kept = some (.ok (t, stats')) := by
  have horder (pairs' : List f.Replacement) (hperm : pairs'.Perm pairs) :=
    replace_of_perm root hb hsize hperm h
  obtain ⟨f, rfl, hb, hfit⟩ := Code.Forest.exists_stored f hb hsize
  obtain ⟨root, rfl⟩ := Code.Forest.exists_node_stored root
  obtain ⟨pairs, rfl⟩ := Code.Forest.exists_replacements_stored pairs
  rw [Code.refs_stored hfit] at h
  refine ⟨fun pairs' h' hsame => ?_, horder, fun kept hkept hall => ?_⟩
  · obtain ⟨pairs', rfl⟩ := Code.Forest.exists_replacements_stored pairs'
    rw [Code.refs_stored hfit] at h'
    rw [Code.Forest.Node.sameTargets_stored hfit] at hsame
    obtain ⟨t, made, ht, ht'⟩ := Code.Forest.replace_stored_of_sameTargets hfit hsame (hb root) h h'
    exact ⟨t, _, _, ht, ht'⟩
  · obtain ⟨kept, hsub, rfl⟩ := List.sublist_map_iff.1 hkept
    have hsame : root.SameTargets pairs kept := by
      refine Code.Forest.Node.sameTargets_of_subset (hb root) hsub.subset fun r hr hmet => ?_
      have hmem := hall r.stored (List.mem_map_of_mem hr) ((Code.Forest.Node.isMet_stored hfit).2 hmet)
      exact (List.mem_map_of_injective (Code.Forest.Replacement.stored_injective hfit)).1 hmem
    obtain ⟨t, made, ht, ht'⟩ := Code.Forest.replace_stored_of_sameTargets hfit hsame (hb root) h
      (h.sublist (hsub.map _))
    exact ⟨t, _, _, ht, ht'⟩

/-- Below node 1, nodes 2 and 4 are replaced, and the order of both does not matter. It makes no
    difference that nodes 3 and 5 were to be replaced as well, and node 4 of the other tree. -/
theorem replace_by_met_pairs_twins :
    let f := Code.Forest.twins.stored
    let twin := fun t i => (Code.Forest.twin t i).stored
    let root := twin 0 1
    let pairs : List f.Replacement := [⟨twin 0 3, twin 0 0⟩, ⟨twin 0 4, twin 0 2⟩,
      ⟨twin 1 4, twin 0 3⟩, ⟨twin 0 5, twin 0 3⟩, ⟨twin 0 2, twin 1 1⟩]
    let kept : List f.Replacement := [⟨twin 0 4, twin 0 2⟩, ⟨twin 0 2, twin 1 1⟩]
    (∀ n : f.Node, ∃ es, build es = .ok n.arena) ∧ (∀ n : f.Node, n.arena.size ≤ 2 ^ 32) ∧
      (pairs.map (·.old.ref)).Nodup ∧
      (∃ t stats stats', f.replace root pairs = some (.ok (t, stats)) ∧
        f.replace root kept = some (.ok (t, stats'))) ∧
      f.replace root pairs.reverse = f.replace root pairs := by
  intro f twin root pairs kept
  obtain ⟨hb, hsize⟩ := Code.Forest.twins_stored
  have hnodup : (pairs.map (·.old.ref)).Nodup := by decide +kernel
  have hmissed : ¬ (twin 0 3).IsMet root pairs ∧ ¬ (twin 1 4).IsMet root pairs ∧
      ¬ (twin 0 5).IsMet root pairs := by decide +kernel
  have hsub : kept.Sublist pairs :=
    .cons _ (.cons_cons _ (.cons _ (.cons _ (.cons_cons _ (.refl _)))))
  have hall : ∀ r ∈ pairs, r.old.IsMet root pairs → r ∈ kept := by
    intro r hr hmet
    simp only [pairs, List.mem_cons, List.not_mem_nil, or_false] at hr
    rcases hr with rfl | rfl | rfl | rfl | rfl
    · exact absurd hmet hmissed.1
    · simp [kept]
    · exact absurd hmet hmissed.2.1
    · exact absurd hmet hmissed.2.2
    · simp [kept]
  obtain ⟨-, horder, hout⟩ := f.replace_by_met_pairs root pairs hb hsize hnodup
  exact ⟨hb, hsize, hnodup, hout kept hsub hall, horder _ (List.reverse_perm pairs)⟩

/-- For a block with 2 ^ 32 tokens, a list whose only old node is the first of them gives no tree, and so
    not the one that it gives itself. -/
theorem replace_without_copy : ∃ (f : Forest) (root leaf : f.Node),
    build (wide (2 ^ 32)).events = .ok root.arena ∧ root.id = root.arena.root ∧
      leaf.id ≠ root.id ∧ ¬ ∃ t stats, f.replace root [⟨leaf, root⟩] = some (.ok (t, stats)) := by
  obtain ⟨f, root, leaf, hbuild, hroot, -, hne, hendless⟩ := exists_endless (2 ^ 32) (Nat.le_refl _)
  have hnone : f.replace root [⟨leaf, root⟩] = none := (hendless _ (by simpa using hne)).2 (by simp)
  refine ⟨f, root, leaf, hbuild, hroot, hne, ?_⟩
  rw [hnone]
  simp

end Syntax.Forest

end AsyncIdioms
