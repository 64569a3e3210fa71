/-
  Replacing nothing in a stored tree.

  Where no old node is at or below the root, the outcome is a copy of the tree at and below it, node by
  node. Its numbers start at 0 and those of the original at the number of the root:

  * `Arena.IsCopyAt` : an arena is a copy of the nodes of another one from a number on;
  * `Forest.replace_copies_untouched` : the outcome is one; `Forest.replace_uncopied` : not so for a root
    with too many nodes.
-/
import AsyncIdioms.Proofs.Code.Copy
import AsyncIdioms.Proofs.Syntax.Outcome

namespace AsyncIdioms

namespace Syntax

/-- The arena is a copy of nodes of `a`, from number `r` on, and these are there. Numbers count from
    there, and the root has no parent and no role. -/
structure Arena.IsCopyAt (out a : Arena) (r : UInt32) : Prop where
  size_le : r.toNat + out.size ≤ a.size
  root_eq : out.root = 0
  kind?_eq : ∀ i : UInt32, i.toNat < out.size → out.kind? i = a.kind? (r + i)
  tokenText?_eq : ∀ i : UInt32, i.toNat < out.size → out.tokenText? i = a.tokenText? (r + i)
  children_eq : ∀ i : UInt32, i.toNat < out.size → a.children (r + i) = (out.children i).map (r + ·)
  field?_eq : ∀ i : UInt32, i.toNat < out.size → i ≠ 0 → out.field? i = a.field? (r + i)
  /-- Below the root, each node has a parent. -/
  parent?_eq : ∀ i : UInt32, i.toNat < out.size → i ≠ 0 →
    ∃ p, out.parent? i = some p ∧ a.parent? (r + i) = some (r + p)
  field?_root : out.field? 0 = none
  parent?_root : out.parent? 0 = none

end Syntax

namespace Code

/-- A copy is stored as a copy. -/
theorem Arena.IsCopyAt.stored {out a : Arena} {r : Nat} (h : out.IsCopyAt a r) (hfit : a.Fits)
    (hle : r + out.size ≤ a.size) : out.stored.IsCopyAt a.stored (.ofNat r) := by
  have hpow : r + out.size ≤ 2 ^ 32 := Nat.le_trans hle hfit
  have hr : r < 2 ^ 32 := by
    have hpos : 0 < out.size := Nat.zero_lt_of_lt out.root_lt
    omega
  -- Numbers of the copy, and the sums with `r`, are those of the unbounded copy.
  have hnumber (i : UInt32) (hi : i.toNat < out.stored.size) : ∃ k, i = .ofNat k ∧ k < out.size ∧
      k < 2 ^ 32 ∧ r + k < 2 ^ 32 ∧ UInt32.ofNat r + i = .ofNat (r + k) := by
    rw [size_stored] at hi
    refine ⟨i.toNat, UInt32.ofNat_toNat.symm, hi, i.toNat_lt, by omega, ?_⟩
    rw [UInt32.ofNat_add, UInt32.ofNat_toNat]
  have hne {k : Nat} (hk : UInt32.ofNat k ≠ 0) : k ≠ 0 := fun h => hk (h ▸ rfl)
  refine ⟨?_, congrArg UInt32.ofNat h.root_eq, ?_, ?_, ?_, ?_, ?_, ?_, ?_⟩
  · rw [size_stored, size_stored, toNat_ofNat hr]
    exact hle
  · intro i hi
    obtain ⟨k, rfl, hk, hlt, hlt', hsum⟩ := hnumber i hi
    rw [hsum, kind?_stored hlt, kind?_stored hlt', h.kind?_eq k hk]
  · intro i hi
    obtain ⟨k, rfl, hk, hlt, hlt', hsum⟩ := hnumber i hi
    rw [hsum, tokenText?_stored hlt, tokenText?_stored hlt', h.tokenText?_eq k hk]
  · intro i hi
    obtain ⟨k, rfl, hk, hlt, hlt', hsum⟩ := hnumber i hi
    rw [hsum, children_stored hlt, children_stored hlt', h.children_eq k hk, List.map_map, List.map_map]
    exact List.map_congr_left fun j _ => UInt32.ofNat_add r j
  · intro i hi hzero
    obtain ⟨k, rfl, hk, hlt, hlt', hsum⟩ := hnumber i hi
    rw [hsum, field?_stored hlt, field?_stored hlt', h.field?_eq k hk (hne hzero)]
  · intro i hi hzero
    obtain ⟨k, rfl, hk, hlt, hlt', hsum⟩ := hnumber i hi
    obtain ⟨p, hp, hp'⟩ := h.parent?_eq k hk (hne hzero)
    refine ⟨.ofNat p, by rw [parent?_stored hlt, hp, Option.map_some], ?_⟩
    rw [hsum, parent?_stored hlt', hp', Option.map_some, UInt32.ofNat_add]
  · exact (field?_stored (i := 0) (by decide)).trans h.field?_root
  · exact (parent?_stored (i := 0) (by decide)).trans (congrArg _ h.parent?_root)

end Code

namespace Syntax.Forest

/-- **A replacement that meets no old node copies**, where all trees were built and have at most 2 ^ 32
    nodes. Where no old node is at or below the root, in its tree, the outcome is a copy of the nodes from
    the root on, as many as there are at and below it; no replacement is made. -/
theorem replace_copies_untouched (f : Forest) (root : f.Node) (pairs : List f.Replacement)
    (hb : ∀ n : f.Node, ∃ es, build es = .ok n.arena) (hsize : ∀ n : f.Node, n.arena.size ≤ 2 ^ 32)
    (h : (pairs.map (·.old.ref)).Nodup) (houtside : ∀ r ∈ pairs, isWithin r.old root = false) :
    ∃ t, f.replace root pairs = some (.ok (t, ⟨0, pairs.length⟩)) ∧
      t.IsCopyAt root.arena root.id ∧
      (root.arena.descendants root.id).map (·.length + 1) = some t.size := by
  obtain ⟨f, rfl, hb, hfit⟩ := Code.Forest.exists_stored f hb hsize
  obtain ⟨root, rfl⟩ := Code.Forest.exists_node_stored root
  obtain ⟨pairs, rfl⟩ := Code.Forest.exists_replacements_stored pairs
  rw [Code.refs_stored hfit] at h
  have houtside : ∀ r ∈ pairs, f.isWithin r.old.ref root.ref = false := fun r hr =>
    (Code.Forest.isWithin_stored hfit r.old root).symm.trans (houtside _ (List.mem_map_of_mem hr))
  obtain ⟨htargets, out, hout, hcopy, hcount, hle⟩ :=
    Code.Forest.Node.exists_copy (hb root) h houtside
  obtain ⟨t, ht, hbuild⟩ := Code.Forest.replace_stored hfit root pairs (hb root) h
  rw [← hcount] at hle
  have hout_fit : out.Fits := Nat.le_trans (Nat.le_trans (Nat.le_add_left _ _) hle) (hfit root)
  obtain rfl := Except.ok.inj ((build_stored hout hout_fit).symm.trans hbuild)
  refine ⟨out.stored, ?_, hcopy.stored (hfit root) hle, ?_⟩
  · rw [ht, htargets, List.length_map]
    rfl
  · rw [root.count_stored hfit, Code.Arena.size_stored, hcount]

/-- The tree below node 1, without the block around it. The other nodes are in the block, or in the
    other tree. -/
theorem replace_copies_untouched_twins :
    let f := Code.Forest.twins.stored
    let twin := fun t i => (Code.Forest.twin t i).stored
    let root := twin 0 1
    let pairs : List f.Replacement := [⟨twin 0 0, twin 0 5⟩, ⟨twin 0 5, twin 0 2⟩,
      ⟨twin 1 1, twin 0 0⟩, ⟨twin 1 3, root⟩]
    (∀ n : f.Node, ∃ es, build es = .ok n.arena) ∧ (∀ n : f.Node, n.arena.size ≤ 2 ^ 32) ∧
      (pairs.map (·.old.ref)).Nodup ∧ (∀ r ∈ pairs, isWithin r.old root = false) ∧
      ∃ t, f.replace root pairs = some (.ok (t, ⟨0, 4⟩)) ∧ t.IsCopyAt root.arena 1 ∧ t.size = 4 := by
  intro f twin root pairs
  obtain ⟨hb, hsize⟩ := Code.Forest.twins_stored
  have hnodup : (pairs.map (·.old.ref)).Nodup := by decide +kernel
  have houtside : ∀ r ∈ pairs, isWithin r.old root = false := by decide +kernel
  obtain ⟨t, ht, hcopy, hcount⟩ := f.replace_copies_untouched root pairs hb hsize hnodup houtside
  have hfour : (Code.Forest.twin 0 1).count = 4 := by decide +kernel
  rw [(Code.Forest.twin 0 1).count_stored Code.Forest.fits_twins, hfour] at hcount
  exact ⟨hb, hsize, hnodup, houtside, t, ht, hcopy, (Option.some.inj hcount).symm⟩

/-- Of a block with 2 ^ 32 tokens, no copy is made. -/
theorem replace_uncopied : ∃ (f : Forest) (root : f.Node),
    build (wide (2 ^ 32)).events = .ok root.arena ∧ root.id = root.arena.root ∧
      ¬ ∃ t stats, f.replace root [] = some (.ok (t, stats)) := by
  obtain ⟨f, root, leaf, hbuild, hroot, -, -, hendless⟩ := exists_endless (2 ^ 32) (Nat.le_refl _)
  have hnone : f.replace root [] = none := (hendless [] (by simp)).2 List.nodup_nil
  refine ⟨f, root, hbuild, hroot, ?_⟩
  rw [hnone]
  simp

end Syntax.Forest

end AsyncIdioms
