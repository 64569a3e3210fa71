/-
  Replacing nodes of stored trees is substitution.

  `Forest.Node.substituted` says by recursion on the tree what becomes of a node: a copy of its new node if
  it is to be replaced, and else the node with its children substituted. It is a `Loop`, which comes to an
  end if all trees fit:

  * `Forest.Node.substituted_stored` : it is the substituted tree;
  * `Forest.exists_replace_eq` : the events of the substituted tree are built;
  * `Forest.replace_substitutes` : so the outcome is read as the substituted tree, if it has at most
    2 ^ 32 nodes;
  * `besideNames.exists_circular` : a name is replaced by a tree that fits, and the outcome does not;
    `Forest.replace_unreadable` : then it cannot be read.
-/
import AsyncIdioms.Proofs.Syntax.Overflow
import AsyncIdioms.Proofs.Syntax.Reading
import AsyncIdioms.Proofs.Syntax.Replace

namespace AsyncIdioms

open Code (Kind Event Tree)

/-! ## Substitution -/

namespace Syntax.Forest.Node

variable {f : Forest}

/-- The tree at and below the node. -/
def subtree (n : f.Node) : Loop Tree := n.arena.treeAt n.id

/-- The replacement of the node, if it is the old node of one. -/
def replacement? (pairs : List f.Replacement) (n : f.Node) : Option f.Replacement :=
  pairs.find? fun r => r.old.ref == n.ref

/-- The tree at and below the node, with replacements made: an old node becomes a copy of its new one, in
    the role of the old one, and in the copy nothing is replaced. -/
def substituted (pairs : List f.Replacement) (n : f.Node) : Loop Tree :=
  match n.replacement? pairs with
  | some r => do return (← r.new.subtree).withField n.field
  | none =>
    match n.tokenText? with
    | some text => some (.token n.kind n.field text)
    | none => do return .node n.kind n.field (← n.children.mapM (by apply substituted; exact pairs))
partial_fixpoint

end Syntax.Forest.Node

namespace Code.Forest.Node

variable {f : Forest} {n : f.Node} (hfit : f.Fits)

include hfit

theorem subtree_stored : n.stored.subtree = some n.subtree :=
  Arena.treeAt_stored (hfit n) (id_lt_pow hfit)

theorem replacement?_stored (pairs : List f.Replacement) (n : f.Node) :
    n.stored.replacement? (pairs.map (·.stored)) = (n.replacement? pairs).map (·.stored) := by
  rw [Syntax.Forest.Node.replacement?, List.find?_map, replacement?]
  refine congrArg (Option.map _) (congrArg (List.find? · pairs) (funext fun r => ?_))
  exact congrArg₂ (· == ·) (ref_stored (n := r.old) hfit) (ref_stored hfit)

theorem substituted_stored (pairs : List f.Replacement) (n : f.Node) :
    n.stored.substituted (pairs.map (·.stored)) = some (n.substituted pairs) := by
  have hreplaced := replacement?_stored hfit pairs n
  induction n using substituted.induct pairs with
  | case1 n r hr =>
    have hnew : r.stored.new.subtree = some r.new.subtree := subtree_stored hfit
    rw [Syntax.Forest.Node.substituted, hreplaced, hr, substituted_eq, hr, Option.map_some]
    simp only [hnew, field_stored hfit]
    rfl
  | case2 n hnone text ht =>
    rw [Syntax.Forest.Node.substituted, hreplaced, hnone, substituted_eq, hnone, ht,
      Option.map_none, tokenText?_stored hfit, ht, kind_stored hfit, field_stored hfit]
  | case3 n hnone ht ih =>
    have hbelow : n.stored.children.mapM (Syntax.Forest.Node.substituted (pairs.map (·.stored))) =
        some (n.children.map (substituted pairs)) := by
      rw [children_stored hfit, List.mapM_map]
      exact mapM_eq_some fun c hc => ih c hc (replacement?_stored hfit pairs c)
    rw [Syntax.Forest.Node.substituted, hreplaced, hnone, substituted_eq, hnone, ht,
      Option.map_none, tokenText?_stored hfit, ht, kind_stored hfit, field_stored hfit]
    simp only [hbelow, Option.bind_eq_bind, Option.bind_some]
    rfl

end Code.Forest.Node

/-! ## The outcome -/

namespace Syntax.Forest

variable {f : Forest}

/-- If no node is to be replaced twice, the substituted tree is told, without a role. -/
theorem exists_replace_eq (root : f.Node) (pairs : List f.Replacement)
    (hb : ∀ n : f.Node, ∃ es, build es = .ok n.arena) (hsize : ∀ n : f.Node, n.arena.size ≤ 2 ^ 32)
    (h : (pairs.map (·.old.ref)).Nodup) :
    ∃ t stats tree, f.replace root pairs = some (.ok (t, stats)) ∧
      root.substituted pairs = some tree ∧ build (tree.withField none).events = .ok t := by
  obtain ⟨f, rfl, hb, hfit⟩ := Code.Forest.exists_stored f hb hsize
  obtain ⟨root, rfl⟩ := Code.Forest.exists_node_stored root
  obtain ⟨pairs, rfl⟩ := Code.Forest.exists_replacements_stored pairs
  rw [Code.refs_stored hfit] at h
  obtain ⟨t, ht, hbuild⟩ := Code.Forest.replace_stored hfit root pairs (hb root) h
  exact ⟨t, _, _, ht, Code.Forest.Node.substituted_stored hfit pairs root, hbuild⟩

/-- **Replacing is substitution**, where all trees were built and have at most 2 ^ 32 nodes: if no node is
    to be replaced twice, a tree is made, which has as many nodes as the substituted one; and it is the
    substituted one, the root of which has no role, if these are again at most 2 ^ 32. -/
theorem replace_substitutes (f : Forest) (root : f.Node) (pairs : List f.Replacement)
    (hb : ∀ n : f.Node, ∃ es, build es = .ok n.arena) (hsize : ∀ n : f.Node, n.arena.size ≤ 2 ^ 32)
    (h : (pairs.map (·.old.ref)).Nodup) :
    ∃ t stats tree, f.replace root pairs = some (.ok (t, stats)) ∧
      root.substituted pairs = some tree ∧ t.size = tree.size ∧
      (tree.size ≤ 2 ^ 32 → t.tree = some (tree.withField none)) := by
  obtain ⟨t, stats, tree, ht, htree, hbuild⟩ := exists_replace_eq root pairs hb hsize h
  obtain ⟨hcount, hread⟩ := reading_of_build hbuild
  rw [Code.Tree.size_withField] at hcount
  exact ⟨t, stats, tree, ht, htree, hcount, fun hle => hread (hcount ▸ hle)⟩

/-- The call becomes a copy of the whole tree, in the role that it had; the last name becomes a copy of the
    name in front of it. -/
theorem replace_substitutes_twins :
    let f := Code.Forest.twins.stored
    let twin := fun t i => (Code.Forest.twin t i).stored
    let root := twin 0 1
    let pairs : List f.Replacement := [⟨twin 0 2, twin 0 0⟩, ⟨twin 0 4, twin 0 3⟩]
    (∀ n : f.Node, ∃ es, build es = .ok n.arena) ∧ (∀ n : f.Node, n.arena.size ≤ 2 ^ 32) ∧
      (pairs.map (·.old.ref)).Nodup ∧
      ∃ t stats, f.replace root pairs = some (.ok (t, stats)) ∧
        t.tree.map Tree.events = some
          [.start .binaryExpression none,
            .start .block (some .left),
              .start .binaryExpression (some .left),
                .start .invocationExpression (some .left), .token .identifierName none "f", .finish,
                .token .identifierName (some .right) "x", .finish,
              .token .identifierName (some .right) "y", .finish,
            .token .identifierName (some .right) "f", .finish] := by
  intro f twin root pairs
  obtain ⟨hb, hsize⟩ := Code.Forest.twins_stored
  have hnodup : (pairs.map (·.old.ref)).Nodup := by decide +kernel
  obtain ⟨t, stats, tree, ht, htree, -, hread⟩ := f.replace_substitutes root pairs hb hsize hnodup
  -- The loop has the substituted tree as its result, which is worked out.
  let inner := Code.Forest.twin
  let listed : List Code.Forest.twins.Replacement := [⟨inner 0 2, inner 0 0⟩, ⟨inner 0 4, inner 0 3⟩]
  have hsubstituted : root.substituted pairs = some ((inner 0 1).substituted listed) :=
    Code.Forest.Node.substituted_stored Code.Forest.fits_twins listed (inner 0 1)
  obtain rfl := Option.some.inj (htree.symm.trans hsubstituted)
  have hcount : ((inner 0 1).substituted listed).size = 8 := by decide +kernel
  refine ⟨hb, hsize, hnodup, t, stats, ht, ?_⟩
  rw [hread (by rw [hcount]; decide), Option.map_some]
  exact congrArg some (by decide +kernel)

end Syntax.Forest

/-! ## An outcome that has too many nodes -/

namespace Syntax

/-- A block with two names. -/
def twoNames : Arena where
  entries := #[⟨.block, none, none, none, [1, 2]⟩, ⟨.identifier, none, some "y", some 0, []⟩,
    ⟨.identifier, none, some "x", some 0, []⟩]
  root := 0
  inRange := by
    intro i e he
    have hi : i < 3 := (Array.getElem?_eq_some_iff.1 he).1
    match i, hi, he with
    | 0, _, rfl | 1, _, rfl | 2, _, rfl => constructor <;> simp
  root_lt := by decide

/-- What becomes of it if so many tokens in a block take the place of the second name. -/
def outgrown (n : Nat) : Tree := .node .block none [.token .identifier none "y", wide n]

theorem events_outgrown (n : Nat) : (outgrown n).events =
    [.start .block none, .token .identifier none "y", .start .block none] ++
      (List.replicate n filler ++ List.replicate 2 .finish) := by
  have hwide : (wide n).events = _ := events_crowded .block [] [] n
  rw [outgrown, Tree.events, Tree.eventsAll, Tree.eventsAll, hwide]
  simp [Tree.events, Tree.eventsAll, List.replicate]

/-- In the outcome, the outer block is a child of the inner one, if this has too many tokens. -/
theorem circular_outgrown {n : Nat} {t : Arena} (h : build (outgrown n).events = .ok t)
    (hn : 2 ^ 32 < n + 3) :
    t.root = 0 ∧ (∃ more, t.children 0 = [1, 2] ++ more) ∧
      t.Circular (fun i => i = 0 ∨ i = 2) ∧ ∀ i, i = 0 ∨ i = 2 → t.tokenText? i = none := by
  rw [events_outgrown] at h
  obtain ⟨hwide, hroot⟩ := widened_of_build h rfl rfl
  have hextends := hwide.extends
  obtain ⟨-, -, houter, -, more, hchildren⟩ := hextends.labels (i := 0) rfl
  obtain ⟨-, -, hinner, -⟩ := hextends.labels (i := 2) rfl
  refine ⟨(Option.some.inj hroot).symm, ⟨more, hchildren⟩, ?_, ?_⟩
  · obtain ⟨e, he, hzero⟩ := hwide.exists_zero_mem (by decide) (by decide) (by rw [Nat.add_comm]; exact hn)
    obtain ⟨-, -, -, -, more', hchildren'⟩ := (Extends.refl t.entries).labels he
    rintro i (rfl | rfl)
    · exact ⟨2, hchildren ▸ List.mem_append_left _ (by decide), .inr rfl⟩
    · exact ⟨0, hchildren' ▸ List.mem_append_left _ hzero, .inl rfl⟩
  · rintro i (rfl | rfl)
    · exact houter
    · exact hinner

/-- The block with two names, and another tree. -/
def besideNames (w : Arena) : Forest := ⟨#[some twoNames, some w]⟩

namespace besideNames

variable (w : Arena)

/-- A node of the block: 1 and 2 are the names. -/
def node (i : Fin 3) : (besideNames w).Node := ⟨0, twoNames, rfl, .ofNat i, by
  revert i
  decide⟩

/-- The root of the other tree. -/
def other : (besideNames w).Node := ⟨1, w, rfl, w.root, w.root_lt⟩

theorem arena_cases {w : Arena} (n : (besideNames w).Node) : n.arena = twoNames ∨ n.arena = w :=
  match n.tree, n.isTree with
  | 0, h => .inl (Option.some.inj h).symm
  | 1, h => .inr (Option.some.inj h).symm

theorem built {w : Arena} (hw : ∃ es, build es = .ok w) (n : (besideNames w).Node) :
    ∃ es, build es = .ok n.arena := by
  rcases arena_cases n with h | h
  · rw [h]
    exact ⟨[.start .block none, .token .identifier none "y", .token .identifier none "x", .finish], rfl⟩
  · rw [h]
    exact hw

theorem size_le {w : Arena} (hw : w.size ≤ 2 ^ 32) (n : (besideNames w).Node) :
    n.arena.size ≤ 2 ^ 32 := by
  rcases arena_cases n with h | h
  · rw [h]
    decide
  · rw [h]
    exact hw

theorem substituted_node {tree : Tree} (h : w.tree = some tree) :
    (node w 0).substituted [⟨node w 2, other w⟩] =
      some (.node .block none [.token .identifier none "y", tree.withField none]) := by
  have hnew : (other w).subtree = some tree := h
  have hy : (node w 1).substituted [⟨node w 2, other w⟩] = some (.token .identifier none "y") := by
    rw [Forest.Node.substituted]
    rfl
  have hx : (node w 2).substituted [⟨node w 2, other w⟩] = some (tree.withField none) := by
    have hfound : (node w 2).replacement? [⟨node w 2, other w⟩] = some ⟨node w 2, other w⟩ := rfl
    rw [Forest.Node.substituted, hfound]
    simp only [hnew]
    rfl
  have hnone : (node w 0).replacement? [⟨node w 2, other w⟩] = none := rfl
  have ht : (node w 0).tokenText? = none := rfl
  have hchildren : (node w 0).children = [node w 1, node w 2] := rfl
  rw [Forest.Node.substituted, hnone, ht, hchildren]
  simp only [List.mapM_cons, List.mapM_nil, hy, hx]
  rfl

/-- The other tree may be a block with tokens that has 2 ^ 32 nodes. If its copy takes the place of the
    second name, the outer block is at and below the inner one of the outcome, and the other way
    round. -/
theorem exists_circular : ∃ w : Arena, (∀ n : (besideNames w).Node, ∃ es, build es = .ok n.arena) ∧
    (∀ n : (besideNames w).Node, n.arena.size ≤ 2 ^ 32) ∧
    ∃ t stats tree, (besideNames w).replace (node w 0) [⟨node w 2, other w⟩] = some (.ok (t, stats)) ∧
      (node w 0).substituted [⟨node w 2, other w⟩] = some tree ∧ t.root = 0 ∧
      (∃ more, t.children 0 = [1, 2] ++ more) ∧ t.Circular (fun i => i = 0 ∨ i = 2) ∧
      ∀ i, i = 0 ∨ i = 2 → t.tokenText? i = none := by
  obtain ⟨n, hn⟩ : ∃ n, n + 1 = 2 ^ 32 := ⟨2 ^ 32 - 1, Nat.sub_add_cancel Nat.one_le_two_pow⟩
  obtain ⟨w, hw, hcount, -⟩ := exists_build_wide n
  have hle : w.size ≤ 2 ^ 32 := (hcount.trans hn).le
  have hb := built ⟨_, hw⟩
  obtain ⟨t, stats, tree, ht, htree, hbuild⟩ := Forest.exists_replace_eq (node w 0)
    [⟨node w 2, other w⟩] hb (size_le hle) (List.nodup_singleton _)
  -- The copy has no role, like the name whose place it takes.
  obtain rfl : outgrown n = tree :=
    Option.some.inj ((substituted_node w ((reading_of_build hw).2 hle)).symm.trans htree)
  exact ⟨w, hb, size_le hle, t, stats, _, ht, htree, circular_outgrown hbuild (by omega)⟩

end besideNames

/-- A name becomes a copy of a block with 2 ^ 32 nodes. A tree is made, but it is not the substituted one:
    it cannot be read to its end. -/
theorem Forest.replace_unreadable : ∃ (f : Forest) (root : f.Node) (r : f.Replacement),
    (∀ n : f.Node, ∃ es, build es = .ok n.arena) ∧ (∀ n : f.Node, n.arena.size ≤ 2 ^ 32) ∧
      ∃ t stats tree, f.replace root [r] = some (.ok (t, stats)) ∧
        root.substituted [r] = some tree ∧ t.tree = none := by
  obtain ⟨w, hb, hsize, t, stats, tree, ht, htree, hroot, -, hcircular, htoken⟩ :=
    besideNames.exists_circular
  exact ⟨besideNames w, _, _, hb, hsize, t, stats, tree, ht, htree,
    hcircular.treeAt_eq_none htoken (.inl hroot)⟩

end Syntax

end AsyncIdioms
