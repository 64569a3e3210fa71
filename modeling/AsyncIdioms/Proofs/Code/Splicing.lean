/-
  The text of a tree after replacements.

  The targets cut a tree. What stands outside of them is kept, in the order in which it stood, and a
  `Cut` lists these nodes before, between and behind the targets:

  * `Tree.texts` : the texts of the tokens of a tree, in document order; joined they are the text of a
    node (`Arena.text_eq`);
  * `Forest.Node.texts_subtree`, `Forest.Node.texts_substituted` : the tokens of a tree and those of
    the substituted tree, piece by piece;
  * `Cut.nodes`, `Cut.text` : a cut tree put together again, with the targets as they were or with
    other texts in their place;
  * `Forest.Node.text_cut`, `Forest.Node.text_cut_substituted` : with the texts of the old nodes, the cut has
    the text of the node, and with those of the new nodes that of the substituted tree.
-/
import AsyncIdioms.Proofs.Code.Targets

namespace AsyncIdioms.Code

variable {f : Forest}

/-! ## The texts of tokens -/

def Event.text? : Event → Option String
  | token _ _ text => some text
  | start _ _ | finish => none

namespace Tree

/-- The texts of the tokens, in document order. -/
def texts (t : Tree) : List String := t.events.filterMap Event.text?

theorem texts_token (kind : Kind) (field : Option Field) (text : String) :
    (token kind field text).texts = [text] := by
  rw [texts, events]
  rfl

theorem texts_node (kind : Kind) (field : Option Field) (ts : List Tree) :
    (node kind field ts).texts = ts.flatMap texts := by
  rw [texts, events, eventsAll_eq, List.filterMap_cons, List.filterMap_append,
    List.filterMap_flatMap]
  exact List.append_nil _

theorem texts_withField (field : Option Field) (t : Tree) : (t.withField field).texts = t.texts := by
  cases t with
  | token kind field' text => rw [withField, texts_token, texts_token]
  | node kind field' ts => rw [withField, texts_node, texts_node]

end Tree

namespace Arena

variable (a : Arena)

/-- The text of the tokens among some nodes. -/
def textOf (ids : List Nat) : String := String.join (ids.filterMap a.tokenText?)

theorem texts_treeAt (i : Nat) : (a.treeAt i).texts = (a.preorder i).filterMap a.tokenText? := by
  induction i using preorder.induct a with
  | case1 i ih =>
    rw [treeAt, List.attach_map_val (f := a.treeAt), preorder_eq]
    cases ht : a.tokenText? i with
    | some text =>
      rw [children_of_tokenText? ht, List.filterMap_cons_some ht]
      exact Tree.texts_token _ _ _
    | none =>
      dsimp only
      rw [Tree.texts_node, List.flatMap_map, List.flatMap_congr ih, List.filterMap_cons_none ht,
        List.filterMap_flatMap]

/-- The text of a node, by its own token or by the tokens below it, is that of its tree. -/
theorem text_eq (i : Nat) : a.text i = String.join (a.treeAt i).texts := by
  rw [texts_treeAt, preorder_eq_cons_descendants, text]
  cases ht : a.tokenText? i with
  | some text =>
    rw [List.filterMap_cons_some ht, descendants, children_of_tokenText? ht, walk]
    simp
  | none => rw [List.filterMap_cons_none ht]

end Arena

/-! ## Piece by piece -/

/-- The texts of the tokens of a piece, if each target has its own. -/
def Piece.texts (a : Arena) (part : f.Replacement → List String) : Piece f → List String
  | kept i => (a.tokenText? i).toList
  | replaced r => part r

namespace Forest.Node

variable {n : f.Node} {pairs : List f.Replacement}

theorem text_eq_join (n : f.Node) : n.arena.text n.id = String.join n.subtree.texts :=
  n.arena.text_eq n.id

/-- Where nothing is replaced, a node has its own text and then that of its children. -/
theorem texts_substituted_of_none (h : n.replacement? pairs = none) :
    (n.substituted pairs).texts =
      (n.arena.tokenText? n.id).toList ++ n.children.flatMap fun c => (c.substituted pairs).texts := by
  rw [substituted_eq, h, ← n.tokenText?_eq]
  cases ht : n.tokenText? with
  | some text =>
    rw [children_of_token ht]
    exact Tree.texts_token _ _ _
  | none =>
    dsimp only
    rw [Tree.texts_node, List.flatMap_map]
    rfl

/-- Texts that are told node by node, and for a target at once, are told piece by piece. -/
theorem eq_flatMap_pieces (told : f.Node → List String) {part : f.Replacement → List String}
    (hpart : ∀ n r, replacement? pairs n = some r → told n = part r)
    (hkept : ∀ n, replacement? pairs n = none →
      told n = (n.arena.tokenText? n.id).toList ++ n.children.flatMap told) (n : f.Node) :
    told n = (n.pieces pairs).flatMap (Piece.texts n.arena part) := by
  induction n using pieces.induct pairs with
  | case1 n r hr =>
    rw [pieces_of_some hr, List.flatMap_singleton]
    exact hpart n r hr
  | case2 n hnone ih =>
    have hbelow : n.children.flatMap told =
        n.children.flatMap fun c => (c.pieces pairs).flatMap (Piece.texts n.arena part) := by
      refine List.flatMap_congr fun c hc => ?_
      rw [ih c hc, (of_mem_children hc).2.1]
    rw [pieces_of_none hnone, List.flatMap_cons, List.flatMap_assoc, hkept n hnone, hbelow]
    rfl

theorem texts_subtree (pairs : List f.Replacement) (n : f.Node) :
    n.subtree.texts =
      (n.pieces pairs).flatMap (Piece.texts n.arena fun r => r.old.subtree.texts) := by
  refine eq_flatMap_pieces (fun n => n.subtree.texts) ?_ ?_ n
  · intro n r hr
    rw [old_eq_of_replacement? hr]
  · intro n _
    have hnone : n.replacement? [] = none := rfl
    simpa only [substituted_nil] using texts_substituted_of_none hnone

theorem texts_substituted (pairs : List f.Replacement) (n : f.Node) :
    (n.substituted pairs).texts =
      (n.pieces pairs).flatMap (Piece.texts n.arena fun r => r.new.subtree.texts) := by
  refine eq_flatMap_pieces (fun n => (n.substituted pairs).texts) ?_ ?_ n
  · intro n r hr
    rw [substituted_eq, hr]
    exact Tree.texts_withField _ _
  · intro n hnone
    exact texts_substituted_of_none hnone

end Forest.Node

/-! ## Cuts -/

/-- A tree that is cut at its targets. -/
structure Cut (f : Forest) where
  /-- The nodes before the first target. -/
  before : List Nat
  /-- The targets, each one with the nodes between it and the next one. -/
  rest : List (f.Replacement × List Nat)

namespace Cut

def targets (c : Cut f) : List f.Replacement := c.rest.map Prod.fst

/-- All nodes, those at and below the old nodes included. -/
def nodes (c : Cut f) : List Nat :=
  c.before ++ c.rest.flatMap fun t => t.1.old.id :: t.1.old.arena.descendants t.1.old.id ++ t.2

/-- The text of the nodes outside of the targets, with a text in place of each target. -/
def text (a : Arena) (part : f.Replacement → String) (c : Cut f) : String :=
  a.textOf c.before ++ String.join (c.rest.map fun t => part t.1 ++ a.textOf t.2)

def ofPieces : List (Piece f) → Cut f
  | [] => ⟨[], []⟩
  | .kept i :: ps => ⟨i :: (ofPieces ps).before, (ofPieces ps).rest⟩
  | .replaced r :: ps => ⟨[], (r, (ofPieces ps).before) :: (ofPieces ps).rest⟩

theorem targets_ofPieces (ps : List (Piece f)) :
    (ofPieces ps).targets = ps.filterMap Piece.replacement? := by
  induction ps with
  | nil => rfl
  | cons p ps ih =>
    cases p with
    | kept i => exact ih
    | replaced r => exact congrArg (List.cons r) ih

theorem nodes_ofPieces (ps : List (Piece f)) : (ofPieces ps).nodes = ps.flatMap Piece.nodes := by
  induction ps with
  | nil => rfl
  | cons p ps ih =>
    rw [List.flatMap_cons, ← ih]
    cases p with
    | kept i => rfl
    | replaced r =>
      rw [Piece.nodes, Arena.preorder_eq_cons_descendants, nodes, ofPieces, nodes, List.flatMap_cons,
        List.append_assoc]
      rfl

theorem text_ofPieces (a : Arena) (part : f.Replacement → List String) (ps : List (Piece f)) :
    (ofPieces ps).text a (fun r => String.join (part r)) =
      String.join (ps.flatMap (Piece.texts a part)) := by
  induction ps with
  | nil => rfl
  | cons p ps ih =>
    rw [List.flatMap_cons, String.join_append, ← ih]
    cases p with
    | kept i =>
      cases h : a.tokenText? i <;>
        simp [ofPieces, text, Arena.textOf, Piece.texts, h, String.append_assoc]
    | replaced r => simp [ofPieces, text, Arena.textOf, Piece.texts, String.append_assoc]

end Cut

/-- The tree at and below the node, cut at its targets. -/
def Forest.Node.cut (pairs : List f.Replacement) (n : f.Node) : Cut f := .ofPieces (n.pieces pairs)

namespace Forest.Node

variable (pairs : List f.Replacement) (n : f.Node)

theorem targets_cut : (n.cut pairs).targets = n.targets pairs := Cut.targets_ofPieces _

/-- The cut holds all nodes at and below the node. -/
theorem nodes_cut : (n.cut pairs).nodes = n.id :: n.arena.descendants n.id := by
  rw [cut, Cut.nodes_ofPieces, flatMap_nodes_pieces, Arena.preorder_eq_cons_descendants]

/-- With the texts of the old nodes, the cut has the text of the node. -/
theorem text_cut :
    (n.cut pairs).text n.arena (fun r => r.old.arena.text r.old.id) = n.arena.text n.id := by
  simp only [text_eq_join]
  rw [cut, Cut.text_ofPieces, ← texts_subtree]

/-- With those of the new nodes, it has the text of the substituted tree. -/
theorem text_cut_substituted :
    (n.cut pairs).text n.arena (fun r => r.new.arena.text r.new.id) =
      String.join (n.substituted pairs).texts := by
  simp only [text_eq_join]
  rw [texts_substituted, cut, Cut.text_ofPieces]

end Forest.Node

end AsyncIdioms.Code
