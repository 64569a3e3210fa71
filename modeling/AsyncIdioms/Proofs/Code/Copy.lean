/-
  Replacing nothing.

  Where no old node is at or below the root, the outcome is a copy of the tree at and below it, node by
  node. The numbers of the copy start at 0 and those of the original at the number of the root, and this
  is the only difference between their links:

  * `Tree.layout_add`, `Tree.layoutAll_add` : laid out further on, a tree has the same nodes, with all
    links shifted;
  * `Tree.layout_eq_cons` : a tree laid out on its own, and as a part of another one;
  * `Arena.IsCopyAt` : an arena is a copy of the nodes of another one from a number on;
    `Arena.HoldsAt.isCopyAt` : it is, where its tree is laid out there;
  * `Forest.Node.exists_copy` : where nothing is replaced, the tree that is told is a copy.
-/
import AsyncIdioms.Proofs.Code.Independence
import AsyncIdioms.Proofs.Code.Outcome

namespace AsyncIdioms.Code

variable {f : Forest}

/-! ## Shifted layouts -/

/-- The node with links to nodes that stand `k` numbers further on. -/
def Entry.shift (k : Nat) (e : Entry) : Entry :=
  { e with parent := e.parent.map (k + ·), children := e.children.map (k + ·) }

namespace Tree

theorem rootNumbers_add (k i : Nat) (ts : List Tree) :
    rootNumbers (k + i) ts = (rootNumbers i ts).map (k + ·) := by
  induction ts generalizing i with
  | nil => rfl
  | cons t ts ih => rw [rootNumbers, rootNumbers, List.map_cons, Nat.add_assoc, ih]

mutual
/-- Laid out further on, a tree has the same nodes with all links shifted. -/
theorem layout_add (k : Nat) (parent : Option Nat) (i : Nat) :
    ∀ t : Tree, t.layout (parent.map (k + ·)) (k + i) = (t.layout parent i).map (Entry.shift k)
  | token kind field text => rfl
  | node kind field ts => by
    rw [layout, layout, Nat.add_assoc, rootNumbers_add, List.map_cons,
      ← layoutAll_add k (some i) (i + 1) ts]
    rfl
theorem layoutAll_add (k : Nat) (parent : Option Nat) (i : Nat) :
    ∀ ts : List Tree,
      layoutAll (parent.map (k + ·)) (k + i) ts = (layoutAll parent i ts).map (Entry.shift k)
  | [] => rfl
  | t :: ts => by
    rw [layoutAll, layoutAll, List.map_append, layout_add k parent i t, Nat.add_assoc,
      layoutAll_add k parent (i + t.size) ts]
end

/-- On its own, a tree is laid out as in another tree, but for the numbers and for the role and the
    parent of its root. -/
theorem layout_eq_cons (t : Tree) (parent : Option Nat) (k : Nat) :
    ∃ e rest, (t.withField none).layout none 0 = e :: rest ∧ e.field = none ∧ e.parent = none ∧
      t.layout parent k =
        { e.shift k with field := t.field, parent := parent } :: rest.map (Entry.shift k) := by
  cases t with
  | token kind field text => exact ⟨_, _, rfl, rfl, rfl, rfl⟩
  | node kind field ts =>
    refine ⟨_, _, rfl, rfl, rfl, ?_⟩
    rw [layout, ← layoutAll_add k (some 0) (0 + 1) ts, ← Nat.add_assoc, rootNumbers_add]
    rfl

end Tree

/-! ## Copies -/

/-- The arena is a copy of nodes of `a`, from number `r` on. Numbers count from there, and the root has
    no parent and no role. -/
structure Arena.IsCopyAt (out a : Arena) (r : Nat) : Prop where
  root_eq : out.root = 0
  kind?_eq : ∀ i < out.size, out.kind? i = a.kind? (r + i)
  tokenText?_eq : ∀ i < out.size, out.tokenText? i = a.tokenText? (r + i)
  children_eq : ∀ i < out.size, a.children (r + i) = (out.children i).map (r + ·)
  field?_eq : ∀ i < out.size, i ≠ 0 → out.field? i = a.field? (r + i)
  /-- Below the root, each node has a parent. -/
  parent?_eq : ∀ i < out.size, i ≠ 0 →
    ∃ p, out.parent? i = some p ∧ a.parent? (r + i) = some (r + p)
  field?_root : out.field? 0 = none
  parent?_root : out.parent? 0 = none

namespace Arena.HoldsAt

variable {a out : Arena} {parent : Option Nat} {r : Nat} {t : Tree}

/-- The nodes of a tree on its own, and where it is a part of another one. Below the root, only the links
    are shifted. -/
theorem entry?_add (h : a.HoldsAt parent r t)
    (hout : out.entries.toList = (t.withField none).layout none 0) :
    (∃ e, out.entry? 0 = some e ∧ e.field = none ∧ e.parent = none ∧
      a.entry? r = some { e.shift r with field := t.field, parent := parent }) ∧
    ∀ i < out.size, i ≠ 0 →
      ∃ e, out.entry? i = some e ∧ a.entry? (r + i) = some (e.shift r) := by
  obtain ⟨e, rest, hlayout, hfield, hparent, hpart⟩ := t.layout_eq_cons parent r
  rw [hlayout] at hout
  rw [HoldsAt, hpart, cons_isPrefix_drop, Array.getElem?_toList] at h
  obtain ⟨hroot, more, hmore⟩ := h
  unfold entry?
  constructor
  · refine ⟨e, ?_, hfield, hparent, hroot⟩
    rw [← Array.getElem?_toList, hout]
    rfl
  · intro i hi hne
    obtain ⟨j, rfl⟩ := Nat.exists_eq_add_one_of_ne_zero hne
    have hj : j < rest.length := by
      rw [size, ← Array.length_toList, hout, List.length_cons] at hi
      omega
    obtain ⟨x, hx⟩ : ∃ x, rest[j]? = some x := ⟨_, List.getElem?_eq_getElem hj⟩
    refine ⟨x, ?_, ?_⟩
    · rw [← Array.getElem?_toList, hout, List.getElem?_cons_succ, hx]
    · rw [← Array.getElem?_toList, Nat.add_comm j, ← Nat.add_assoc, ← List.getElem?_drop, ← hmore,
        List.getElem?_append_left (by simpa using hj), List.getElem?_map, hx, Option.map_some]

/-- Where the tree of an arena is laid out as a part of another one, the arena is a copy. -/
theorem isCopyAt (h : a.HoldsAt parent r t) (hroot : out.root = 0)
    (hout : out.entries.toList = (t.withField none).layout none 0) : out.IsCopyAt a r := by
  have hwell := wellFormed_of_layout hroot hout
  obtain ⟨⟨e, he, hfield, hparent, he'⟩, hbelow⟩ := h.entry?_add hout
  -- The root and the other nodes have this much in common.
  have hnode : ∀ i < out.size, ∃ x y, out.entry? i = some x ∧ a.entry? (r + i) = some y ∧
      x.kind = y.kind ∧ x.text = y.text ∧ y.children = x.children.map (r + ·) := by
    intro i hi
    by_cases hzero : i = 0
    · subst hzero
      exact ⟨e, _, he, he', rfl, rfl, rfl⟩
    · obtain ⟨x, hx, hy⟩ := hbelow i hi hzero
      exact ⟨x, _, hx, hy, rfl, rfl, rfl⟩
  refine ⟨hroot, ?_, ?_, ?_, ?_, ?_, ?_, ?_⟩
  · intro i hi
    obtain ⟨x, y, hx, hy, hkind, -⟩ := hnode i hi
    rw [kind?, kind?, hx, hy, Option.map_some, Option.map_some, hkind]
  · intro i hi
    obtain ⟨x, y, hx, hy, -, htext, -⟩ := hnode i hi
    rw [tokenText?, tokenText?, hx, hy, Option.bind_some, Option.bind_some, htext]
  · intro i hi
    obtain ⟨x, y, hx, hy, -, -, hchildren⟩ := hnode i hi
    rw [children, children, hx, hy, Option.elim_some, Option.elim_some, hchildren]
  · intro i hi hne
    obtain ⟨x, hx, hy⟩ := hbelow i hi hne
    rw [field?, field?, hx, hy]
    rfl
  · intro i hi hne
    obtain ⟨x, hx, hy⟩ := hbelow i hi hne
    have hsome : out.parent? i ≠ none := by
      rw [ne_eq, hwell.parent?_eq_none_iff i hi, hroot]
      exact hne
    obtain ⟨p, hp⟩ := Option.ne_none_iff_exists'.1 hsome
    refine ⟨p, hp, ?_⟩
    rw [parent?, hx, Option.bind_some] at hp
    rw [parent?, hy, Option.bind_some, Entry.shift, hp, Option.map_some]
  · rw [field?, he, Option.bind_some, hfield]
  · rw [parent?, he, Option.bind_some, hparent]

end Arena.HoldsAt

/-! ## Where nothing is replaced -/

theorem Arena.HoldsAt.add_size_le {a : Arena} {parent : Option Nat} {r : Nat} {t : Tree}
    (h : a.HoldsAt parent r t) : r + t.size ≤ a.size := by
  have hle := h.length_le
  have hpos := t.size_pos
  rw [Tree.length_layout, List.length_drop, Array.length_toList] at hle
  rw [size]
  omega

/-- Where no old node is at or below the root, in its tree, nothing is replaced, and the tree that is
    told is a copy of the nodes from the root on, as many as there are at and below it. -/
theorem Forest.Node.exists_copy {root : f.Node} {pairs : List f.Replacement} (hb : root.arena.Built)
    (h : (pairs.map fun r => r.old.ref).Nodup)
    (houtside : ∀ r ∈ pairs, f.isWithin r.old.ref root.ref = false) :
    root.targets pairs = [] ∧
      ∃ out, build ((root.substituted pairs).withField none).events = .ok out ∧
        out.IsCopyAt root.arena root.id ∧ out.size = root.count ∧
        root.id + root.count ≤ root.arena.size := by
  -- The empty list has the same targets: none.
  have hsame : root.SameTargets pairs [] := by
    refine sameTargets_of_subset hb (List.nil_subset pairs) fun r hr hmet => ?_
    exact absurd hmet.1 (by simp [houtside r hr])
  have htree : root.substituted pairs = root.subtree := by
    rw [hsame.substituted_eq hb h List.nodup_nil, substituted_nil]
  have htargets : (root.targets pairs).length = 0 := by
    rw [hsame.length_targets_eq hb h List.nodup_nil]
    exact length_targets hb List.nodup_nil
  obtain ⟨out, hout, hentries, hroot, -⟩ := (root.subtree.withField none).build_events
  obtain ⟨parent, hholds⟩ := exists_holdsAt hb
  refine ⟨List.eq_nil_of_length_eq_zero htargets, out, htree ▸ hout, hholds.isCopyAt hroot hentries,
    ?_, root.size_subtree ▸ hholds.add_size_le⟩
  rw [Arena.size_of_layout hentries, Tree.size_withField, size_subtree]

end AsyncIdioms.Code
