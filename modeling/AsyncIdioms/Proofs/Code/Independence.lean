/-
  What a substituted tree depends on.

  Replacements whose old node is not met make no difference, and neither does the order of those whose
  old node is met. All of it follows from two facts: a substituted tree depends on what is found at the
  nodes that are met, and which nodes are met depends on the targets:

  * `Forest.Node.substituted_congr` : lists that find the same at all nodes that are met give the same
    tree;
  * `Forest.Node.exists_isMet_above` : above each old node, or at it, there is one that is met;
  * `Forest.Node.isMet_iff_targets` : a node is met if no old node that is met stands above it;
  * `Forest.Node.SameTargets.substituted_eq` : lists with the same targets give the same tree.
-/
import AsyncIdioms.Proofs.Code.Targets

namespace AsyncIdioms.Code

variable {f : Forest}

namespace Forest.Node

variable {root n m : f.Node} {pairs pairs' : List f.Replacement} {r : f.Replacement}

/-- Only what is found at nodes that are met makes a difference. -/
theorem substituted_congr (hb : n.arena.Built)
    (h : ∀ m : f.Node, m.IsMet n pairs → m.replacement? pairs = m.replacement? pairs') :
    n.substituted pairs = n.substituted pairs' := by
  induction n using substituted.induct pairs with
  | case1 n r hr =>
    have hfound := h n (isMet_self hb)
    rw [substituted_eq, substituted_eq, ← hfound, hr]
  | case2 n hnone text ht =>
    have hfound := h n (isMet_self hb)
    rw [substituted_eq, substituted_eq, ← hfound, hnone, ht]
  | case3 n hnone ht ih =>
    have hfound := h n (isMet_self hb)
    have hkept := replacement?_eq_none_iff.1 hnone
    have hbelow : n.children.map (substituted pairs) = n.children.map (substituted pairs') := by
      refine List.map_congr_left fun c hc => ih c hc ((of_mem_children hc).2.1 ▸ hb) ?_
      intro m hm
      exact h m ((isMet_iff_child hb hkept).2 (.inr ⟨c, hc, hm⟩))
    rw [substituted_eq, substituted_eq, ← hfound, hnone, ht]
    simp only [hbelow]

theorem replacement?_eq_some_iff (hnodup : (pairs.map fun r => r.old.ref).Nodup) :
    n.replacement? pairs = some r ↔ r ∈ pairs ∧ r.old = n := by
  constructor
  · intro h
    exact ⟨List.mem_of_find?_eq_some h, old_eq_of_replacement? h⟩
  · rintro ⟨hr, rfl⟩
    exact replacement?_old hnodup hr

/-! ## Which nodes are met -/

/-- Going up from an old node, one comes to one that is met. -/
theorem exists_isMet_above (hb : root.arena.Built) (hold : m.ref ∈ pairs.map fun r => r.old.ref)
    (htree : m.tree = root.tree) (hbelow : root.arena.Below root.id m.id) :
    ∃ r ∈ pairs, r.old.IsMet root pairs ∧ root.arena.Below r.old.id m.id := by
  -- Nodes above have smaller numbers, so the way up comes to an end.
  induction hi : m.id using Nat.strongRecOn generalizing m with
  | ind i ih =>
    subst hi
    obtain ⟨r, hr, href⟩ := List.mem_map.1 hold
    obtain rfl := eq_of_ref_eq href
    by_cases hmet : r.old.IsMet root pairs
    · exact ⟨r, hr, hmet, Arena.below_refl _⟩
    · rw [isMet_iff hb] at hmet
      push Not at hmet
      obtain ⟨p, hdown, hup, hne, hp⟩ := hmet htree hbelow
      obtain ⟨s, hs, hsref⟩ := List.mem_map.1 hp
      obtain ⟨hstree, rfl⟩ := NodeRef.mk.inj hsref
      have hlt : s.old.id < r.old.id := Nat.lt_of_le_of_ne hup.le hne
      obtain ⟨t, ht, htmet, htbelow⟩ :=
        ih s.old.id hlt (List.mem_map_of_mem hs) hstree hdown rfl
      exact ⟨t, ht, htmet, htbelow.trans hup⟩

/-- A node is met if no other node that is met and is to be replaced stands above it. -/
theorem isMet_iff_targets (hb : root.arena.Built) : m.IsMet root pairs ↔
    m.tree = root.tree ∧ root.arena.Below root.id m.id ∧
      ∀ r ∈ pairs, r.old.IsMet root pairs → root.arena.Below r.old.id m.id → r.old.id = m.id := by
  rw [isMet_iff hb]
  refine and_congr_right fun htree => and_congr_right fun hbelow => ?_
  constructor
  · intro hfree r hr hmet hup
    obtain ⟨hrtree, hdown, -⟩ := (isMet_iff hb).1 hmet
    by_contra hne
    refine hfree r.old.id hdown hup hne ?_
    exact hrtree ▸ List.mem_map_of_mem (f := fun r : f.Replacement => r.old.ref) hr
  · intro hfree p hdown hup hne hp
    obtain ⟨s, hs, hsref⟩ := List.mem_map.1 hp
    obtain ⟨hstree, rfl⟩ := NodeRef.mk.inj hsref
    obtain ⟨r, hr, hmet, hrup⟩ := exists_isMet_above hb (List.mem_map_of_mem hs) hstree hdown
    have hid := hfree r hr hmet (hrup.trans hup)
    exact hne (Nat.le_antisymm hup.le (hid ▸ hrup.le))

/-! ## Lists with the same targets -/

/-- The old nodes that are met, and the new nodes for them, are the same in two lists. -/
def SameTargets (root : f.Node) (pairs pairs' : List f.Replacement) : Prop :=
  ∀ r : f.Replacement,
    (r ∈ pairs ∧ r.old.IsMet root pairs) ↔ (r ∈ pairs' ∧ r.old.IsMet root pairs')

namespace SameTargets

variable (hsame : root.SameTargets pairs pairs')

include hsame

theorem isMet_iff (hb : root.arena.Built) : m.IsMet root pairs ↔ m.IsMet root pairs' := by
  rw [isMet_iff_targets hb, isMet_iff_targets hb]
  refine and_congr_right fun _ => and_congr_right fun _ => ?_
  constructor
  · intro hfree r hr hmet
    obtain ⟨hr', hmet'⟩ := (hsame r).2 ⟨hr, hmet⟩
    exact hfree r hr' hmet'
  · intro hfree r hr hmet
    obtain ⟨hr', hmet'⟩ := (hsame r).1 ⟨hr, hmet⟩
    exact hfree r hr' hmet'

/-- At nodes that are met, the same is found. -/
theorem replacement?_eq (hb : root.arena.Built) (h : (pairs.map fun r => r.old.ref).Nodup)
    (h' : (pairs'.map fun r => r.old.ref).Nodup) (hmet : m.IsMet root pairs) :
    m.replacement? pairs = m.replacement? pairs' := by
  have hmet' := (hsame.isMet_iff hb).1 hmet
  ext r
  rw [replacement?_eq_some_iff h, replacement?_eq_some_iff h']
  constructor
  · rintro ⟨hr, rfl⟩
    exact ⟨((hsame r).1 ⟨hr, hmet⟩).1, rfl⟩
  · rintro ⟨hr, rfl⟩
    exact ⟨((hsame r).2 ⟨hr, hmet'⟩).1, rfl⟩

/-- Lists with the same targets give the same tree. -/
theorem substituted_eq (hb : root.arena.Built) (h : (pairs.map fun r => r.old.ref).Nodup)
    (h' : (pairs'.map fun r => r.old.ref).Nodup) :
    root.substituted pairs = root.substituted pairs' :=
  substituted_congr hb fun _ hmet => hsame.replacement?_eq hb h h' hmet

theorem length_targets_eq (hb : root.arena.Built) (h : (pairs.map fun r => r.old.ref).Nodup)
    (h' : (pairs'.map fun r => r.old.ref).Nodup) :
    (root.targets pairs).length = (root.targets pairs').length := by
  have hnodup : ∀ ps : List f.Replacement, (root.targets ps).Nodup :=
    fun ps => List.Nodup.of_map _ (nodup_targets hb ps)
  refine List.Perm.length_eq ((List.perm_ext_iff_of_nodup (hnodup _) (hnodup _)).2 fun r => ?_)
  rw [mem_targets_iff hb h, mem_targets_iff hb h']
  exact hsame r

end SameTargets

/-- The order of a list makes no difference to its targets. -/
theorem sameTargets_of_perm (h : pairs.Perm pairs') : root.SameTargets pairs pairs' := by
  intro r
  simp only [IsMet, h.mem_iff, (h.map fun r => r.old.ref).mem_iff]

/-- With fewer replacements, no fewer nodes are met. -/
theorem IsMet.of_subset (hsub : pairs' ⊆ pairs) (h : m.IsMet root pairs) : m.IsMet root pairs' := by
  obtain ⟨hwithin, hfree⟩ := h
  refine ⟨hwithin, fun p hp hroot hold => hfree p hp hroot ?_⟩
  exact List.map_subset _ hsub hold

/-- A part of a list has the same targets if it holds all of them. -/
theorem sameTargets_of_subset (hb : root.arena.Built) (hsub : pairs' ⊆ pairs)
    (hall : ∀ r ∈ pairs, r.old.IsMet root pairs → r ∈ pairs') : root.SameTargets pairs pairs' := by
  intro r
  constructor
  · rintro ⟨hr, hmet⟩
    exact ⟨hall r hr hmet, hmet.of_subset hsub⟩
  · rintro ⟨hr, hmet⟩
    obtain ⟨htree, hbelow, hfree⟩ := (isMet_iff_targets hb).1 hmet
    refine ⟨hsub hr, (isMet_iff_targets hb).2 ⟨htree, hbelow, fun s hs hsmet => ?_⟩⟩
    exact hfree s (hall s hs hsmet) (hsmet.of_subset hsub)

end Forest.Node

end AsyncIdioms.Code
