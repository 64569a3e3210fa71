/-
  Replacing at once and one after the other, in stored trees.

  An outcome has numbers of its own, so a node is found again by the places at which one goes down to it
  (`Forest.Node.follow?`). If the outcome has no more nodes than there are numbers, it is one tree more
  (`Forest.push`), in which the next replacement is made:

  * `Forest.exists_replace_at` : a replacement puts a tree at these places;
  * `Forest.replace_append` : one more replacement is made in the outcome of the others;
  * `OneByOne` : replacements that are made one after the other, each in the outcome of those before;
  * `Forest.replace_one_by_one` : the outcome is the same as of all at once; `Forest.replace_stuck` : after
    an outcome with too many nodes there is no other one.
-/
import AsyncIdioms.Proofs.Code.OneByOne
import AsyncIdioms.Proofs.Syntax.Substitution
import AsyncIdioms.Proofs.Syntax.Targets

namespace AsyncIdioms

open Code (Tree ReplaceStats)

namespace Syntax

variable {f : Forest} {a : Arena}

namespace Forest

/-- The node that is reached by going down, each time to the child at the next place. -/
def Node.follow? (n : f.Node) : List Nat → Option f.Node
  | [] => some n
  | k :: path => n.children[k]?.bind fun c => c.follow? path

/-! ## One tree more -/

theorem tree?_push_of_some {t : Nat} {b : Arena} (h : f.tree? t = some b) :
    (f.push a).1.tree? t = some b := by
  have hsome : f.trees[t]? = some (some b) := Option.join_eq_some_iff.1 h
  have hlt := (Array.getElem?_eq_some_iff.1 hsome).1
  have hpush : (f.trees.push (some a))[t]? = some (some b) := by
    rw [Array.getElem?_push_lt hlt, ← Array.getElem?_eq_getElem hlt, hsome]
  exact Option.join_eq_some_iff.2 hpush

theorem tree?_push_size : (f.push a).1.tree? f.trees.size = some a := by
  simp [push, tree?]

/-- A node is still there when a tree is added. -/
def Node.pushed (n : f.Node) (a : Arena) : (f.push a).1.Node :=
  { n with isTree := tree?_push_of_some n.isTree }

/-- The root of the tree that is added. -/
def pushedRoot (f : Forest) (a : Arena) : (f.push a).1.Node :=
  ⟨(f.push a).2, a, tree?_push_size, a.root, a.root_lt⟩

/-- What is known of all trees and of the one that is added is known of all trees then. -/
theorem forall_push {P : Arena → Prop} (h : ∀ n : f.Node, P n.arena) (ha : P a)
    (n : (f.push a).1.Node) : P n.arena := by
  have htree : (f.trees.push (some a))[n.tree]?.join = some n.arena := n.isTree
  rw [Array.getElem?_push] at htree
  split at htree
  · exact Option.some.inj htree ▸ ha
  · exact h ⟨n.tree, n.arena, htree, n.id, n.id_lt⟩

end Forest

/-- Neither of the nodes is the other one or below it. -/
def Forest.Node.Apart (n m : f.Node) : Prop :=
  isWithin n m = false ∧ isWithin m n = false

instance (n m : f.Node) : Decidable (n.Apart m) := inferInstanceAs (Decidable (_ ∧ _))

/-- The tree at and below the root is copied, and the replacements of the list, of which the last one
    is made first, are made one after the other, each one in the outcome of those before. There its
    old node is the one at the same places. -/
inductive OneByOne (root : f.Node) : List f.Replacement → Arena → Prop where
  | copy {out : Arena} {stats : ReplaceStats} :
      f.replace root [] = some (.ok (out, stats)) → OneByOne root [] out
  | next {made : List f.Replacement} {q : f.Replacement} {mid out : Arena} {stats : ReplaceStats}
      {path : List Nat} {place : (f.push mid).1.Node} :
      OneByOne root made mid → root.follow? path = some q.old →
      (f.pushedRoot mid).follow? path = some place →
      (f.push mid).1.replace (f.pushedRoot mid) [⟨place, q.new.pushed mid⟩] =
        some (.ok (out, stats)) →
      OneByOne root (q :: made) out

end Syntax

/-! ## Places -/

namespace Code.Forest

variable {f : Forest} {root : f.Node} {pairs : List f.Replacement} {q : f.Replacement} (hfit : f.Fits)

include hfit

theorem Node.follow?_stored (n : f.Node) (path : List Nat) :
    n.stored.follow? path = (n.follow? path).map stored := by
  induction path generalizing n with
  | nil => rfl
  | cons k path ih =>
    rw [Syntax.Forest.Node.follow?, children_stored hfit, List.getElem?_map, follow?]
    cases n.children[k]? with
    | none => rfl
    | some c => exact ih c

/-- A node that is below no old node is met. -/
theorem Node.isMet_of_isWithin_stored (hb : root.arena.Built)
    (hroot : Syntax.Forest.isWithin q.old.stored root.stored = true)
    (h : ∀ r ∈ pairs, Syntax.Forest.isWithin q.old.stored r.old.stored = false) :
    q.old.IsMet root pairs ∧ q.old.ref ∉ pairs.map (·.old.ref) := by
  rw [isWithin_stored hfit] at hroot
  exact isMet_of_forall hb hroot fun r hr => (isWithin_stored hfit _ _).symm.trans (h r hr)

end Code.Forest

namespace Syntax.Forest

variable {f : Forest} {root : f.Node} {pairs : List f.Replacement} {q : f.Replacement} {path : List Nat}

theorem substituted_nil (hb : ∀ n : f.Node, ∃ es, build es = .ok n.arena)
    (hsize : ∀ n : f.Node, n.arena.size ≤ 2 ^ 32) : root.substituted [] = root.subtree := by
  obtain ⟨f, rfl, -, hfit⟩ := Code.Forest.exists_stored f hb hsize
  obtain ⟨root, rfl⟩ := Code.Forest.exists_node_stored root
  have hnone : root.stored.substituted [] = some (root.substituted []) :=
    Code.Forest.Node.substituted_stored hfit [] root
  rw [hnone, Code.Forest.Node.substituted_nil, Code.Forest.Node.subtree_stored hfit]

/-- Where there is a part of the tree of a node, there is a node, and its replacement puts another tree
    there. -/
theorem exists_replace_at {tree : Tree} (path : List Nat)
    (hb : ∀ n : f.Node, ∃ es, build es = .ok n.arena) (hsize : ∀ n : f.Node, n.arena.size ≤ 2 ^ 32)
    (htree : root.subtree = some tree) :
    (tree.follow? path).isSome = (root.follow? path).isSome ∧ ∀ (place new : f.Node) (part : Tree),
      root.follow? path = some place → new.subtree = some part →
        ∃ t stats, f.replace root [⟨place, new⟩] = some (.ok (t, stats)) ∧
          build ((tree.putAt path part).withField none).events = .ok t := by
  obtain ⟨f, rfl, hb, hfit⟩ := Code.Forest.exists_stored f hb hsize
  obtain ⟨root, rfl⟩ := Code.Forest.exists_node_stored root
  obtain rfl := Option.some.inj ((Code.Forest.Node.subtree_stored hfit).symm.trans htree)
  rw [Code.Forest.Node.follow?_subtree, Code.Forest.Node.follow?_stored hfit, Option.isSome_map,
    Option.isSome_map]
  refine ⟨rfl, fun place new part hplace hpart => ?_⟩
  obtain ⟨place, rfl⟩ := Code.Forest.exists_node_stored place
  obtain ⟨m, hm, heq⟩ := Option.map_eq_some_iff.1 hplace
  obtain rfl := (Code.Forest.Node.stored_inj hfit).1 heq
  obtain ⟨new, rfl⟩ := Code.Forest.exists_node_stored new
  obtain rfl := Option.some.inj ((Code.Forest.Node.subtree_stored hfit).symm.trans hpart)
  let q : Code.Forest.Replacement f := ⟨m, new⟩
  obtain ⟨t, ht, hbuild⟩ := Code.Forest.replace_stored hfit root [q] (hb root) (List.nodup_singleton _)
  have hput : root.substituted ([] ++ [q]) = (root.substituted []).putAt path new.subtree :=
    Code.Forest.Node.substituted_append (hb root) hm (Code.Forest.Node.isMet_nil (hb root) hm)
      List.not_mem_nil
  rw [List.nil_append, Code.Forest.Node.substituted_nil] at hput
  exact ⟨t, _, ht, hput ▸ hbuild⟩

/-- One more replacement, whose old node is below no other one, puts its new tree at the places of its
    old node. -/
theorem substituted_append (hb : ∀ n : f.Node, ∃ es, build es = .ok n.arena)
    (hsize : ∀ n : f.Node, n.arena.size ≤ 2 ^ 32) (h : (pairs.map (·.old.ref)).Nodup)
    (hq : isWithin q.old root = true) (hfree : ∀ r ∈ pairs, isWithin q.old r.old = false) :
    ((pairs ++ [q]).map (·.old.ref)).Nodup ∧ (∃ path, root.follow? path = some q.old) ∧
      ∀ path, root.follow? path = some q.old → ∃ tree part, root.substituted pairs = some tree ∧
        q.new.subtree = some part ∧ (tree.follow? path).isSome ∧
        root.substituted (pairs ++ [q]) = some (tree.putAt path part) := by
  obtain ⟨f, rfl, hb, hfit⟩ := Code.Forest.exists_stored f hb hsize
  obtain ⟨root, rfl⟩ := Code.Forest.exists_node_stored root
  obtain ⟨pairs, rfl⟩ := Code.Forest.exists_replacements_stored pairs
  obtain ⟨q, rfl⟩ := Code.Forest.exists_replacement_stored q
  have hlist : pairs.map (·.stored) ++ [q.stored] = (pairs ++ [q]).map (·.stored) := by simp
  obtain ⟨hmet, hfresh⟩ := Code.Forest.Node.isMet_of_isWithin_stored hfit (hb root) hq fun r hr =>
    hfree _ (List.mem_map_of_mem hr)
  rw [Code.refs_stored hfit] at h
  rw [hlist, Code.refs_stored hfit, List.map_append, List.map_singleton]
  obtain ⟨htree, hbelow, -⟩ := (Code.Forest.Node.isMet_iff (hb root)).1 hmet
  refine ⟨List.nodup_append_comm.1 (List.nodup_cons.2 ⟨hfresh, h⟩), ?_, fun path hpath => ?_⟩
  · obtain ⟨path, hpath⟩ := Code.Forest.Node.exists_follow? htree hbelow
    exact ⟨path, by rw [Code.Forest.Node.follow?_stored hfit, hpath]; rfl⟩
  · rw [Code.Forest.Node.follow?_stored hfit] at hpath
    obtain ⟨m, hm, heq⟩ := Option.map_eq_some_iff.1 hpath
    obtain rfl := (Code.Forest.Node.stored_inj hfit).1 heq
    refine ⟨_, _, Code.Forest.Node.substituted_stored hfit pairs root,
      Code.Forest.Node.subtree_stored hfit, ?_, ?_⟩
    · rw [Code.Forest.Node.follow?_substituted (hb root) hm hmet]
      rfl
    · rw [Code.Forest.Node.substituted_stored hfit (pairs ++ [q]) root,
        Code.Forest.Node.substituted_append (hb root) hm hmet hfresh]

/-- One more replacement can be made in the outcome of the others, if this has at most 2 ^ 32 nodes. -/
theorem replace_append (hb : ∀ n : f.Node, ∃ es, build es = .ok n.arena)
    (hsize : ∀ n : f.Node, n.arena.size ≤ 2 ^ 32) (h : (pairs.map (·.old.ref)).Nodup)
    (hq : isWithin q.old root = true) (hfree : ∀ r ∈ pairs, isWithin q.old r.old = false)
    (hpath : root.follow? path = some q.old) :
    ∃ mid stats, f.replace root pairs = some (.ok (mid, stats)) ∧ (mid.size ≤ 2 ^ 32 →
      ∃ place, (f.pushedRoot mid).follow? path = some place ∧
        ∃ out stats₁ stats₂, f.replace root (pairs ++ [q]) = some (.ok (out, stats₁)) ∧
          (f.push mid).1.replace (f.pushedRoot mid) [⟨place, q.new.pushed mid⟩] =
            some (.ok (out, stats₂))) := by
  obtain ⟨hnodup, -, hput⟩ := substituted_append hb hsize h hq hfree
  obtain ⟨tree, part, htree, hpart, hfound, hput⟩ := hput path hpath
  obtain ⟨mid, stats, tree', hmid, htree', hbuild⟩ := exists_replace_eq root pairs hb hsize h
  obtain rfl := Option.some.inj (htree.symm.trans htree')
  refine ⟨mid, stats, hmid, fun hle => ?_⟩
  obtain ⟨out, stats₁, tree', hout, htree', hall⟩ :=
    exists_replace_eq root (pairs ++ [q]) hb hsize hnodup
  obtain rfl := Option.some.inj (hput.symm.trans htree')
  -- The outcome of the others is a tree like all others, and the new tree is put there.
  have hmidTree : (f.pushedRoot mid).subtree = some (tree.withField none) :=
    (reading_of_build hbuild).2 hle
  rw [← Tree.isSome_follow?_withField none] at hfound
  obtain ⟨hsame, hlast⟩ := exists_replace_at path
    (forall_push (P := fun a => ∃ es, build es = .ok a) hb ⟨_, hbuild⟩)
    (forall_push (P := fun a => a.size ≤ 2 ^ 32) hsize hle) hmidTree
  obtain ⟨place, hplace⟩ := Option.isSome_iff_exists.1 (hsame.symm.trans hfound)
  obtain ⟨out', stats₂, hout', hbuild'⟩ := hlast place (q.new.pushed mid) part hplace hpart
  rw [Tree.putAt_withField, Tree.withField_withField, hall] at hbuild'
  obtain rfl := Except.ok.inj hbuild'
  exact ⟨place, hplace, out, stats₁, stats₂, hout, hout'⟩

/-- No node is apart from itself. -/
theorem nodup_of_apart (h : pairs.Pairwise fun r s => r.old.Apart s.old) :
    (pairs.map (·.old.ref)).Nodup := by
  refine List.pairwise_map.2 (h.imp ?_)
  rintro r s ⟨hwithin, -⟩ href
  obtain ⟨htree, hid⟩ := Node.ref_inj.1 href
  rw [Node.eq_of_tree_of_id htree hid, isWithin] at hwithin
  simp [Arena.isWithin] at hwithin

/-- What is made one after the other is what is made at once, if each outcome in which another
    replacement is made has at most 2 ^ 32 nodes. -/
theorem oneByOne_iff (hb : ∀ n : f.Node, ∃ es, build es = .ok n.arena)
    (hsize : ∀ n : f.Node, n.arena.size ≤ 2 ^ 32) (hroot : ∀ r ∈ pairs, isWithin r.old root = true)
    (h : pairs.Pairwise fun r s => r.old.Apart s.old)
    (hfits : ∀ q made mid, q :: made <:+ pairs → OneByOne root made mid → mid.size ≤ 2 ^ 32)
    {out : Arena} :
    OneByOne root pairs out ↔ ∃ stats, f.replace root pairs = some (.ok (out, stats)) := by
  induction pairs generalizing out with
  | nil =>
    constructor
    · rintro ⟨hout⟩
      exact ⟨_, hout⟩
    · rintro ⟨stats, hout⟩
      exact .copy hout
  | cons q made ih =>
    obtain ⟨hapart, hmade⟩ := List.pairwise_cons.1 h
    obtain ⟨hq, hroot⟩ := List.forall_mem_cons.1 hroot
    have hnodup := nodup_of_apart hmade
    have hfree : ∀ r ∈ made, isWithin q.old r.old = false := fun r hr => (hapart r hr).1
    have ih {mid : Arena} : OneByOne root made mid ↔
        ∃ stats, f.replace root made = some (.ok (mid, stats)) :=
      ih hroot hmade fun q' made' mid' hsuffix =>
        hfits q' made' mid' (hsuffix.trans (List.suffix_cons q made))
    have horder : f.replace root (made ++ [q]) = f.replace root (q :: made) :=
      replace_of_perm root hb hsize (List.perm_append_singleton q made) (nodup_of_apart h)
    constructor
    · intro hout
      cases hout with
      | next hmid hpath hplace hout =>
        obtain ⟨mid, stats, hmid', hlast⟩ := replace_append hb hsize hnodup hq hfree hpath
        -- There is one outcome of the others, and one node at these places in it.
        obtain ⟨stats', hreplace⟩ := ih.1 hmid
        rw [hreplace] at hmid'
        obtain ⟨rfl, -⟩ := Prod.mk.inj (Except.ok.inj (Option.some.inj hmid'))
        obtain ⟨place, hplace', out', stats₁, stats₂, hall, hlast⟩ :=
          hlast (hfits q made _ (List.suffix_refl _) hmid)
        obtain rfl := Option.some.inj (hplace.symm.trans hplace')
        rw [hlast] at hout
        obtain ⟨rfl, -⟩ := Prod.mk.inj (Except.ok.inj (Option.some.inj hout))
        exact ⟨stats₁, horder ▸ hall⟩
    · rintro ⟨stats, hout⟩
      obtain ⟨-, ⟨path, hpath⟩, -⟩ := substituted_append hb hsize hnodup hq hfree
      obtain ⟨mid, stats₀, hmid, hlast⟩ := replace_append hb hsize hnodup hq hfree hpath
      have hmid := ih.2 ⟨stats₀, hmid⟩
      obtain ⟨place, hplace, out', stats₁, stats₂, hall, hlast⟩ :=
        hlast (hfits q made mid (List.suffix_refl _) hmid)
      rw [horder, hout] at hall
      obtain ⟨rfl, -⟩ := Prod.mk.inj (Except.ok.inj (Option.some.inj hall))
      exact .next hmid hpath hplace hlast

/-- What is made one after the other is told as a tree, which has at most as many nodes as the root and the
    new nodes together, each with what is below it. -/
theorem exists_tree_of_oneByOne (hb : ∀ n : f.Node, ∃ es, build es = .ok n.arena)
    (hsize : ∀ n : f.Node, n.arena.size ≤ 2 ^ 32) {count : f.Node → Nat}
    (hcount : ∀ n : f.Node, n.subtree.map Tree.size = some (count n)) {last : Arena}
    (h : OneByOne root pairs last)
    (hle : count root + total (pairs.map fun r => count r.new) ≤ 2 ^ 32) :
    ∃ tree : Tree, build tree.events = .ok last ∧
      tree.size ≤ count root + total (pairs.map fun r => count r.new) := by
  induction h with
  | copy hout =>
    obtain ⟨out, stats, tree, hout', htree, hbuild⟩ := exists_replace_eq root [] hb hsize List.nodup_nil
    obtain ⟨rfl, -⟩ := Prod.mk.inj (Except.ok.inj (Option.some.inj (hout'.symm.trans hout)))
    have hroot := hcount root
    rw [← substituted_nil hb hsize, htree] at hroot
    refine ⟨_, hbuild, ?_⟩
    rw [Tree.size_withField]
    exact (Option.some.inj hroot).le
  | @next made q mid out stats path place hmade hpath hplace hout ih =>
    rw [List.map_cons, total_cons] at hle ⊢
    obtain ⟨tree, hbuild, hbound⟩ := ih (by omega)
    obtain ⟨hnodes, hread⟩ := reading_of_build hbuild
    have hle' : mid.size ≤ 2 ^ 32 := by omega
    obtain ⟨part, hpart, hpartSize⟩ := Option.map_eq_some_iff.1 (hcount q.new)
    have hmidTree : (f.pushedRoot mid).subtree = some tree := hread hle'
    obtain ⟨-, hlast⟩ := exists_replace_at path
      (forall_push (P := fun a => ∃ es, build es = .ok a) hb ⟨_, hbuild⟩)
      (forall_push (P := fun a => a.size ≤ 2 ^ 32) hsize hle') hmidTree
    obtain ⟨t, stats', ht, hbuild'⟩ := hlast place (q.new.pushed mid) part hplace hpart
    obtain ⟨rfl, -⟩ := Prod.mk.inj (Except.ok.inj (Option.some.inj (ht.symm.trans hout)))
    have hput := tree.size_putAt_le path part
    refine ⟨_, hbuild', ?_⟩
    rw [Tree.size_withField]
    omega

/-- So none of them has too many nodes, if these have not too many together. -/
theorem size_le_of_oneByOne (hb : ∀ n : f.Node, ∃ es, build es = .ok n.arena)
    (hsize : ∀ n : f.Node, n.arena.size ≤ 2 ^ 32) {count : f.Node → Nat}
    (hcount : ∀ n : f.Node, n.subtree.map Tree.size = some (count n))
    (hle : count root + total (pairs.map fun r => count r.new) ≤ 2 ^ 32) :
    ∀ q made mid, q :: made <:+ pairs → OneByOne root made mid → mid.size ≤ 2 ^ 32 := by
  rintro q made mid ⟨others, rfl⟩ h
  rw [List.map_append, List.map_cons, total_append, total_cons] at hle
  obtain ⟨tree, hbuild, hbound⟩ := exists_tree_of_oneByOne hb hsize hcount h (by omega)
  have hnodes := (reading_of_build hbuild).1
  omega

/-- **Replacing at once is replacing one after the other**, where all trees were built and have at most
    2 ^ 32 nodes. Let the old node of one more replacement be at or below the root and at or below no other
    old node. Then there are places at which one goes down to it; going down to them in the outcome of the
    others, if this has at most 2 ^ 32 nodes as well, one comes to a node whose replacement gives the same
    tree as all replacements at once. So replacements whose old nodes are apart can be made one after the
    other, in any order, if no outcome on the way has more nodes than that. -/
theorem replace_one_by_one (f : Forest) (root : f.Node)
    (hb : ∀ n : f.Node, ∃ es, build es = .ok n.arena) (hsize : ∀ n : f.Node, n.arena.size ≤ 2 ^ 32) :
    (∀ (pairs : List f.Replacement) (q : f.Replacement), (pairs.map (·.old.ref)).Nodup →
      isWithin q.old root = true → (∀ r ∈ pairs, isWithin q.old r.old = false) →
      (∃ path, root.follow? path = some q.old) ∧
      ∀ path, root.follow? path = some q.old →
        ∃ mid stats, f.replace root pairs = some (.ok (mid, stats)) ∧ (mid.size ≤ 2 ^ 32 →
          ∃ place, (f.pushedRoot mid).follow? path = some place ∧
            ∃ out stats₁ stats₂, f.replace root (pairs ++ [q]) = some (.ok (out, stats₁)) ∧
              (f.push mid).1.replace (f.pushedRoot mid) [⟨place, q.new.pushed mid⟩] =
                some (.ok (out, stats₂)))) ∧
    ∀ pairs : List f.Replacement, (∀ r ∈ pairs, isWithin r.old root = true) →
      pairs.Pairwise (fun r s => r.old.Apart s.old) →
      ∃ out stats, f.replace root pairs = some (.ok (out, stats)) ∧
        ∀ order : List f.Replacement, order.Perm pairs →
          (∀ q made mid, q :: made <:+ order → OneByOne root made mid → mid.size ≤ 2 ^ 32) →
          ∀ last, OneByOne root order last ↔ last = out := by
  constructor
  · intro pairs q hnodup hq hfree
    obtain ⟨-, hplaces, -⟩ := substituted_append hb hsize hnodup hq hfree
    exact ⟨hplaces, fun path hpath => replace_append hb hsize hnodup hq hfree hpath⟩
  · intro pairs hroot hapart
    have hnodup := nodup_of_apart hapart
    obtain ⟨out, stats, tree, hout, -⟩ := exists_replace_eq root pairs hb hsize hnodup
    refine ⟨out, stats, hout, fun order horder hfits last => ?_⟩
    have hroot' : ∀ r ∈ order, isWithin r.old root = true := fun r hr => hroot r (horder.mem_iff.1 hr)
    have hapart' : order.Pairwise fun r s => r.old.Apart s.old :=
      (horder.pairwise_iff fun h => And.symm h).2 hapart
    rw [oneByOne_iff hb hsize hroot' hapart' hfits, replace_of_perm root hb hsize horder hnodup, hout]
    constructor
    · rintro ⟨stats, h⟩
      exact (Prod.mk.inj (Except.ok.inj (Option.some.inj h))).1.symm
    · rintro rfl
      exact ⟨_, rfl⟩

/-- The call becomes a copy of the other tree, so that behind it all nodes get other numbers. The name
    beside it is still the second child of the first one, and is replaced there. -/
theorem replace_one_by_one_twins :
    let f := Code.Forest.twins.stored
    let twin := fun t i => (Code.Forest.twin t i).stored
    let root := twin 0 0
    let pairs : List f.Replacement := [⟨twin 0 2, twin 1 0⟩, ⟨twin 0 5, twin 0 3⟩]
    let q : f.Replacement := ⟨twin 0 4, twin 0 1⟩
    (∀ n : f.Node, ∃ es, build es = .ok n.arena) ∧ (∀ n : f.Node, n.arena.size ≤ 2 ^ 32) ∧
      (∀ r ∈ pairs ++ [q], isWithin r.old root = true) ∧
      (pairs ++ [q]).Pairwise (fun r s => r.old.Apart s.old) ∧
      (∃ mid stats, f.replace root pairs = some (.ok (mid, stats)) ∧ mid.size ≤ 2 ^ 32 ∧
        ∃ place, (f.pushedRoot mid).follow? [0, 1] = some place ∧
          ∃ out stats₁ stats₂, f.replace root (pairs ++ [q]) = some (.ok (out, stats₁)) ∧
            (f.push mid).1.replace (f.pushedRoot mid) [⟨place, q.new.pushed mid⟩] =
              some (.ok (out, stats₂))) ∧
      ∃ out stats, f.replace root (pairs ++ [q]) = some (.ok (out, stats)) ∧
        OneByOne root (q :: pairs) out ∧ OneByOne root (pairs ++ [q]) out := by
  intro f twin root pairs q
  have hfit := Code.Forest.fits_twins
  obtain ⟨hb, hsize⟩ := Code.Forest.twins_stored
  have hnodup : (pairs.map (·.old.ref)).Nodup := by decide +kernel
  have hroot : ∀ r ∈ pairs ++ [q], isWithin r.old root = true := by decide +kernel
  have hapart : (pairs ++ [q]).Pairwise fun r s => r.old.Apart s.old := by decide +kernel
  have hfree : ∀ r ∈ pairs, isWithin q.old r.old = false := by decide +kernel
  have hplaces : (root.follow? [0, 1]).map Node.ref = some q.old.ref := by decide +kernel
  obtain ⟨n, hn, href⟩ := Option.map_eq_some_iff.1 hplaces
  have hpath : root.follow? [0, 1] = some q.old := by
    obtain ⟨htree, hid⟩ := Node.ref_inj.1 href
    rw [hn, Node.eq_of_tree_of_id htree hid]
  -- All nodes together are few enough.
  let count (n : f.Node) : Nat := ((n.subtree).map Tree.size).getD 0
  have hsubtree (n : Code.Forest.twins.Node) : n.stored.subtree.map Tree.size = some n.subtree.size := by
    rw [Code.Forest.Node.subtree_stored hfit, Option.map_some]
  have hcount : ∀ n : f.Node, n.subtree.map Tree.size = some (count n) :=
    Code.Forest.forall_node_stored.2 fun n => by simp only [count, hsubtree, Option.getD_some]
  have hsix (t : Fin 2) (i : Fin 6) : count (twin t i) ≤ 6 := by
    have hsizes : ∀ (t : Fin 2) (i : Fin 6), (Code.Forest.twin t i).subtree.size ≤ 6 := by decide +kernel
    exact (congrArg (Option.getD · 0) (hsubtree (Code.Forest.twin t i))).trans_le (hsizes t i)
  have hall : count root + (count (twin 0 1) + (count (twin 1 0) + count (twin 0 3))) ≤ 2 ^ 32 := by
    have hwhole : count root ≤ 6 := hsix 0 0
    have hfirst := hsix 0 1
    have hsecond := hsix 1 0
    have hthird := hsix 0 3
    omega
  have hlastFits : ∀ q' made mid, q' :: made <:+ q :: pairs → OneByOne root made mid →
      mid.size ≤ 2 ^ 32 := size_le_of_oneByOne hb hsize hcount (by simpa [pairs, q] using hall)
  have hfirstFits : ∀ q' made mid, q' :: made <:+ pairs ++ [q] → OneByOne root made mid →
      mid.size ≤ 2 ^ 32 := by
    refine size_le_of_oneByOne hb hsize hcount ?_
    simp only [pairs, q, List.cons_append, List.nil_append, List.map_cons, List.map_nil, total_cons,
      total_nil]
    omega
  obtain ⟨hlast, hboth⟩ := f.replace_one_by_one root hb hsize
  obtain ⟨out, stats, hout, hmade⟩ := hboth (pairs ++ [q]) hroot hapart
  have horder : (q :: pairs).Perm (pairs ++ [q]) := (List.perm_append_singleton q pairs).symm
  -- The outcome of the first two is one on the way.
  obtain ⟨mid, stats₀, hmid, hthird⟩ := (hlast pairs q hnodup (hroot q (by simp)) hfree).2 [0, 1] hpath
  have hmidMade : OneByOne root pairs mid :=
    (oneByOne_iff hb hsize (fun r hr => hroot r (List.mem_append_left _ hr)) (List.pairwise_append.1 hapart).1
      fun q' made' mid' hsuffix => hlastFits q' made' mid' (hsuffix.trans (List.suffix_cons q pairs))).2
      ⟨stats₀, hmid⟩
  have hmidFits := hlastFits q pairs mid (List.suffix_refl _) hmidMade
  exact ⟨hb, hsize, hroot, hapart, ⟨mid, stats₀, hmid, hmidFits, hthird hmidFits⟩, out, stats, hout,
    (hmade _ horder hlastFits out).2 rfl, (hmade _ (.refl _) hfirstFits out).2 rfl⟩

/-- A name becomes a copy of a block with 2 ^ 32 nodes, and then the work on the other name does not end.
    Both at once give a tree. -/
theorem replace_stuck : ∃ (f : Forest) (root : f.Node) (r q : f.Replacement) (path : List Nat),
    (∀ n : f.Node, ∃ es, build es = .ok n.arena) ∧ (∀ n : f.Node, n.arena.size ≤ 2 ^ 32) ∧
      isWithin q.old root = true ∧ q.old ≠ root ∧ r.old.Apart q.old ∧
      root.follow? path = some q.old ∧
      (∃ out stats, f.replace root [r, q] = some (.ok (out, stats))) ∧
      ∃ mid stats place, f.replace root [r] = some (.ok (mid, stats)) ∧
        (f.pushedRoot mid).follow? path = some place ∧
        (f.push mid).1.replace (f.pushedRoot mid) [⟨place, q.new.pushed mid⟩] = none := by
  obtain ⟨w, hb, hsize, mid, stats, tree, hmid, -, hroot, ⟨more, hchildren⟩, hcircular, htoken⟩ :=
    besideNames.exists_circular
  let x := besideNames.node w 2
  let y := besideNames.node w 1
  have hbelow : isWithin y (besideNames.node w 0) = true := by
    have hin : twoNames.isWithin 1 0 = true := by decide +kernel
    exact hin
  have hapart : x.Apart y := by
    have hout : twoNames.isWithin 2 1 = false ∧ twoNames.isWithin 1 2 = false := by decide +kernel
    exact hout
  have hne : y ≠ besideNames.node w 0 := fun h => absurd (congrArg (·.id.toNat) h) Nat.one_ne_zero
  obtain ⟨out, stats', tree', hall, -⟩ := exists_replace_eq (besideNames.node w 0)
    [⟨x, besideNames.other w⟩, ⟨y, y⟩] hb hsize (nodup_of_apart (List.pairwise_pair.2 hapart))
  -- The name is still the first child, and has the same number.
  have hids : ((besideNames w).pushedRoot mid).children.map (·.id) = 1 :: 2 :: more :=
    (Node.map_id_children _).trans ((congrArg mid.children hroot).trans hchildren)
  obtain ⟨place, rest, hplace, hone, -⟩ := List.map_eq_cons_iff.1 hids
  have hpath : ((besideNames w).pushedRoot mid).follow? [0] = some place := by
    rw [Node.follow?, hplace]
    rfl
  have hkept : ¬ (place.id = 0 ∨ place.id = 2) := by
    rw [hone]
    decide
  refine ⟨besideNames w, besideNames.node w 0, ⟨x, besideNames.other w⟩, ⟨y, y⟩, [0], hb, hsize, hbelow,
    hne, hapart, rfl, ⟨out, stats', hall⟩, mid, stats, place, hmid, hpath, ?_⟩
  refine Arena.Circular.replace_eq_none hcircular htoken (.inl hroot) ?_ (List.nodup_singleton _)
  exact List.forall_mem_singleton.2 fun _ => hkept

end Syntax.Forest

end AsyncIdioms
