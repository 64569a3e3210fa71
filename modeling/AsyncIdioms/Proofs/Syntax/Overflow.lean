/-
  Trees that have more nodes than there are numbers.

  Node 2 ^ 32 gets the number 0 again, so that a child of the innermost open node is the root. Then the
  way down leads in a circle, and no loop that goes down comes to an end:

  * `Arena.Circular` : from each of some nodes one comes to another one of them;
    `Arena.Circular.descendants_eq_none`, `Arena.Circular.text_eq_none`,
    `Arena.Circular.treeAt_eq_none`, `Arena.Circular.replace_eq_none` : what does not end there;
  * `Widened` : nodes with so many tokens behind them, as `Builder.foldl_fillers` adds them;
    `Widened.exists_zero_mem` : from node 2 ^ 32 on, the root is a child;
  * `Extends` : nodes that may have got more children; `Builder.extends_foldl` : no event does more;
  * `exists_build_crowded`, `exists_build_wide` : nodes with so many tokens.
-/
import AsyncIdioms.Proofs.Syntax.Forest
import AsyncIdioms.Proofs.Syntax.Reading
import AsyncIdioms.Syntax.Replace

namespace AsyncIdioms.Syntax

open Code (Kind Field Event Fault ReplaceError ReplaceStats Tree)

/-! ## Circles -/

namespace Arena

variable {a : Arena} {S : UInt32 → Prop} {i : UInt32}

/-- From each of these nodes, a child is one of them again. -/
def Circular (a : Arena) (S : UInt32 → Prop) : Prop := ∀ i, S i → ∃ j ∈ a.children i, S j

namespace Circular

variable (h : a.Circular S)

include h

/-- If such a node is still to be visited, there is a next node, and then such a node is still to be
    visited. -/
theorem nextBelow {stack : List UInt32} (hstack : ∃ i ∈ stack, S i) :
    ∃ j rest, a.nextBelow stack = some (j, rest) ∧ ∃ i ∈ rest, S i := by
  obtain ⟨i, hi, hS⟩ := hstack
  obtain ⟨front, j, rfl⟩ := (List.eq_nil_or_concat stack).resolve_left (List.ne_nil_of_mem hi)
  refine ⟨j, front ++ (a.children j).reverse, by simp [Arena.nextBelow], ?_⟩
  rw [List.concat_eq_append, List.mem_append, List.mem_singleton] at hi
  rcases hi with hi | rfl
  · exact ⟨i, List.mem_append_left _ hi, hS⟩
  · obtain ⟨k, hk, hSk⟩ := h i hS
    exact ⟨k, List.mem_append_right _ (List.mem_reverse.2 hk), hSk⟩

theorem stackBelow (hi : S i) : ∃ j ∈ a.stackBelow i, S j := by
  obtain ⟨j, hj, hS⟩ := h i hi
  exact ⟨j, List.mem_reverse.2 hj, hS⟩

theorem descendants_eq_none (hi : S i) : a.descendants i = none :=
  collect_eq_none (P := fun stack => ∃ i ∈ stack, S i) (h.stackBelow hi) fun _ => h.nextBelow

theorem text_eq_none (hi : S i) (ht : a.tokenText? i = none) : a.text i = none := by
  rw [text, ht, h.descendants_eq_none hi]
  rfl

theorem treeAt_eq_none (ht : ∀ i, S i → a.tokenText? i = none) (hi : S i) : a.treeAt i = none := by
  rw [Option.eq_none_iff_forall_ne_some]
  intro t hread
  refine treeAt.partial_correctness a (fun i _ => ¬ S i) ?_ i t hread hi
  intro go ih i t hread hi
  -- All children were read before, and one of them is in the circle.
  simp only [ht i hi] at hread
  obtain ⟨ts, hts, -⟩ := Option.bind_eq_some_iff.1 hread
  obtain ⟨j, hj, hSj⟩ := h i hi
  obtain ⟨u, hu⟩ := exists_of_mapM_eq_some hts j hj
  exact ih j u hu hSj

theorem anyItem_eq_none {p : UInt32 → Loop Bool} (hp : ∀ j, p j ≠ some true) (hi : S i) :
    anyItem a.nextBelow p (a.stackBelow i) = none := by
  refine AsyncIdioms.anyItem_eq_none (P := fun stack => ∃ i ∈ stack, S i) (h.stackBelow hi) ?_
  intro stack hstack
  obtain ⟨j, rest, hnext, hrest⟩ := h.nextBelow hstack
  exact ⟨j, rest, hnext, hp j, hrest⟩

end Circular

end Arena

/-- A node on the stack is met, once those above it on the stack have been, if these have no children. -/
theorem Arena.gives_of_leaves {a : Arena} {j : UInt32} {leaves : List UInt32} (rest : List UInt32)
    (hleaves : ∀ i ∈ leaves, a.children i = []) : Gives a.nextBelow (rest ++ j :: leaves) j := by
  induction leaves using List.reverseRecOn with
  | nil => exact .now (by rw [nextBelow, List.getLast?_concat]; rfl)
  | append_singleton leaves i ih =>
    obtain ⟨hleaves, hi⟩ := List.forall_mem_append.1 hleaves
    refine .later (y := i) ?_ (ih hleaves)
    have hstack : rest ++ j :: (leaves ++ [i]) = (rest ++ j :: leaves) ++ [i] := by simp
    rw [hstack, nextBelow, List.getLast?_concat, List.dropLast_concat, Option.map_some,
      hi i List.mem_cons_self, List.reverse_nil, List.append_nil]

/-! ## Work without end -/

section
variable {f : Forest} {a : Arena} {S : UInt32 → Prop}

/-- One of the nodes is still to be copied. -/
def Work.Meets (a : Arena) (S : UInt32 → Prop) (w : Work f) : Prop :=
  ∃ n field lookup, Step.enter n field lookup ∈ w.stack ∧ n.arena = a ∧ S n.id

variable (h : a.Circular S) (ht : ∀ i, S i → a.tokenText? i = none)
  {table : List (UInt32 × f.Node)} (htable : ∀ i, S i → table.lookup i = none)

include h ht htable

/-- Nodes in a circle that are not replaced are copied over and over again. -/
theorem Work.Meets.turn {w : Work f} (hw : w.Meets a S) :
    ∃ w', w.turn table = some w' ∧ w'.Meets a S := by
  obtain ⟨stack, builder, applied⟩ := w
  obtain ⟨n, field, lookup, hn, rfl, hS⟩ := hw
  simp only at hn
  cases stack with
  | nil => simp at hn
  | cons s stack =>
    rcases List.mem_cons.1 hn with rfl | hrest
    · -- The step for the node is the topmost one: its child in the circle is next.
      have hnew : newNode? table n lookup = none := by
        cases lookup with
        | false => rfl
        | true => exact htable n.id hS
      have htoken : n.tokenText? = none := n.tokenText?_eq.trans (ht n.id hS)
      obtain ⟨j, hj, hSj⟩ := h n.id hS
      obtain ⟨c, hc, rfl⟩ := Forest.Node.exists_child hj
      simp only [Work.turn, hnew, htoken]
      refine ⟨_, rfl, c, c.field, lookup, ?_, (Forest.Node.of_mem_children hc).2, hSj⟩
      exact List.mem_append_left _ (List.mem_map.2 ⟨c, hc, rfl⟩)
    · -- Whatever is topmost, the step for the node stays on the stack.
      cases s with
      | exit => exact ⟨_, rfl, n, field, lookup, hrest, rfl, hS⟩
      | enter m field' lookup' =>
        simp only [Work.turn]
        cases newNode? table m lookup' with
        | some new => exact ⟨_, rfl, n, field, lookup, List.mem_cons_of_mem _ hrest, rfl, hS⟩
        | none =>
          cases m.tokenText? with
          | some text => exact ⟨_, rfl, n, field, lookup, hrest, rfl, hS⟩
          | none =>
            refine ⟨_, rfl, n, field, lookup, ?_, rfl, hS⟩
            exact List.mem_append_right _ (List.mem_cons_of_mem _ hrest)

theorem Work.Meets.runToEnd_eq_none {w : Work f} (hw : w.Meets a S) :
    runToEnd (Work.turn table) w = none :=
  AsyncIdioms.runToEnd_eq_none hw fun _ => Work.Meets.turn h ht htable

end

namespace Arena.Circular

variable {f : Forest} {root : f.Node} {pairs : List f.Replacement} {S : UInt32 → Prop}
  (h : root.arena.Circular S) (ht : ∀ i, S i → root.arena.tokenText? i = none) (hS : S root.id)
  (hkept : ∀ r ∈ pairs, r.old.tree = root.tree → ¬ S r.old.id)

include h ht hS hkept

/-- The work on a root that is in a circle does not end, if no node in the circle is replaced. -/
theorem run_eq_none : runToEnd (Work.turn (replacementTable root pairs)) (.start root) = none := by
  have htable : ∀ i, S i → (replacementTable root pairs).lookup i = none := by
    intro i hi
    rw [List.lookup_eq_none_iff]
    intro row hrow
    obtain ⟨r, hr, rfl⟩ := List.mem_map.1 hrow
    obtain ⟨hr, htree⟩ := List.mem_filter.1 hr
    rw [bne_iff_ne]
    rintro rfl
    exact hkept r hr (beq_iff_eq.1 htree) hi
  have hstart : (Work.start root).Meets root.arena S :=
    ⟨root, none, true, List.mem_singleton.2 rfl, rfl, hS⟩
  exact Work.Meets.runToEnd_eq_none h ht htable hstart

/-- So no tree is made of it. -/
theorem replace_eq_none (hpairs : (pairs.map (·.old.ref)).Nodup) : f.replace root pairs = none := by
  rw [Forest.replace, (Code.firstRepeated_eq_none_iff.2 ⟨hpairs, fun _ _ => List.not_mem_nil⟩)]
  simp only [h.run_eq_none ht hS hkept]
  rfl

end Arena.Circular

/-! ## Too many nodes -/

/-- If a tree has more than 2 ^ 32 nodes, a node gets the number of the root, and from each node around it
    one comes back to the root. -/
theorem exists_circular_of_build {es : List Event} {t : Arena} (h : build es = .ok t)
    (hsize : 2 ^ 32 < t.size) :
    ∃ S : UInt32 → Prop, t.Circular S ∧ (∀ i, S i → t.tokenText? i = none) ∧ S t.root := by
  obtain ⟨a, ha, hcount, hroot, hcovers⟩ := exists_covers_of_build h
  have hwell := (Code.wellFormed_of_build ha).1
  have hzero : a.Below 0 (2 ^ 32) := hwell.root_eq ▸ hwell.reachable _ (hcount ▸ hsize)
  let S (i : UInt32) : Prop := ∃ k < 2 ^ 32, i = .ofNat k ∧ a.Below k (2 ^ 32)
  have hnext : ∀ i, S i → t.tokenText? i = none ∧ ∃ j ∈ t.children i, S j := by
    rintro i ⟨k, hk, rfl, hbelow⟩
    obtain ⟨c, hc, hdown⟩ := (Code.Arena.below_iff_eq_or_child.1 hbelow).resolve_left (Nat.ne_of_lt hk)
    have htoken : a.tokenText? k = none := by
      cases ht : a.tokenText? k with
      | none => rfl
      | some text => simp [Code.Arena.children_of_tokenText? ht] at hc
    obtain ⟨e, he⟩ : ∃ e, a.entries[k]? = some e := by
      cases he : a.entries[k]? with
      | none => simp [Code.Arena.children, Code.Arena.entry?, he] at hc
      | some e => exact ⟨e, rfl⟩
    obtain ⟨e', he', htext, hchildren⟩ := hcovers k hk e he
    have hentry : t.entry? (.ofNat k) = some e' := by
      rw [Arena.entry?, Code.toNat_ofNat hk]
      exact he'
    have hce : c ∈ e.children := by simpa [Code.Arena.children, Code.Arena.entry?, he] using hc
    refine ⟨?_, .ofNat c, ?_, ?_⟩
    · rw [Arena.tokenText?, hentry, Option.bind_some, htext]
      simpa [Code.Arena.tokenText?, Code.Arena.entry?, he] using htoken
    · rw [Arena.children, hentry, Option.elim_some]
      exact hchildren c hce
    · rcases Nat.lt_or_eq_of_le hdown.le with hlt | rfl
      · exact ⟨c, hlt, rfl, hdown⟩
      · exact ⟨0, by decide, rfl, hzero⟩
  refine ⟨S, fun i hi => (hnext i hi).2, fun i hi => (hnext i hi).1, 0, by decide, ?_, hzero⟩
  rw [hroot, hwell.root_eq]

/-! ## Many tokens -/

/-- A token of which there may be many. -/
def filler : Event := .token .identifier none "x"

/-- The node that is added for it. -/
def fillerEntry (parent : UInt32) : Entry := ⟨.identifier, none, some "x", some parent, []⟩

/-- The nodes with so many tokens behind them, all of them children of node `p`. -/
structure Widened (entries entries' : Array Entry) (p : UInt32) (n : Nat) : Prop where
  size : entries'.size = entries.size + n
  front : ∀ i < entries.size, entries'[i]? = (entries[i]?).map fun e =>
    if p.toNat = i then
      { e with children := e.children ++ (List.range' entries.size n).map UInt32.ofNat }
    else e
  behind : ∀ i, entries.size ≤ i → i < entries.size + n → entries'[i]? = some (fillerEntry p)

namespace Widened

variable {entries entries' : Array Entry} {p : UInt32} {n : Nat}

theorem zero (entries : Array Entry) (p : UInt32) : Widened entries entries p 0 := by
  refine ⟨rfl, fun i _ => ?_, fun i hi hi' => by omega⟩
  simp

/-- One token more. -/
theorem append (h : Widened entries entries' p n) (hp : p.toNat < entries.size) :
    Widened entries (appendEntry entries' .identifier none (some "x") (some p)) p (n + 1) := by
  have hsize := h.size
  refine ⟨by rw [size_appendEntry, hsize, Nat.add_assoc], fun i hi => ?_, fun i hi hi' => ?_⟩
  · have hnumber : nextNumber entries' = .ofNat (entries.size + n) := by rw [nextNumber, hsize]
    rw [getElem?_appendEntry_of_lt (by omega), h.front i hi, Option.map_map]
    refine congrFun (congrArg _ (funext fun e => ?_)) _
    by_cases hpi : p.toNat = i
    · simp [hpi, hnumber, List.range'_concat]
    · simp [hpi]
  · have hle : i ≤ entries.size + n := Nat.le_of_lt_succ hi'
    rcases Nat.lt_or_eq_of_le hle with hlt | rfl
    · have hne : ¬ some p.toNat = some i := fun heq => by
        have := Option.some.inj heq
        omega
      rw [getElem?_appendEntry_of_lt (by omega), h.behind i hi hlt, Option.map_some]
      exact congrArg some (if_neg hne)
    · rw [← hsize]
      refine getElem?_appendEntry_size fun q hq => ?_
      obtain rfl := Option.some.inj hq
      omega

/-- The kinds of the nodes. -/
theorem kind_ne (h : Widened entries entries' p n) {kind : Kind} (hfront : ∀ e ∈ entries, e.kind ≠ kind)
    (hkind : Kind.identifier ≠ kind) {i : Nat} {e : Entry} (he : entries'[i]? = some e) :
    e.kind ≠ kind := by
  rcases Nat.lt_or_ge i entries.size with hi | hi
  · rw [h.front i hi] at he
    obtain ⟨e₀, he₀, rfl⟩ := Option.map_eq_some_iff.1 he
    have hne := hfront e₀ (Array.mem_of_getElem? he₀)
    split <;> exact hne
  · have hlt : i < entries.size + n := h.size ▸ (Array.getElem?_eq_some_iff.1 he).1
    rw [h.behind i hi hlt] at he
    exact Option.some.inj he ▸ hkind

/-- If there are more than 2 ^ 32 nodes, the root is among the children. -/
theorem exists_zero_mem (h : Widened entries entries' p n) (hp : p.toNat < entries.size)
    (hsize : entries.size ≤ 2 ^ 32) (hn : 2 ^ 32 < entries.size + n) :
    ∃ e, entries'[p.toNat]? = some e ∧ 0 ∈ e.children := by
  rw [h.front _ hp, Array.getElem?_eq_getElem hp, Option.map_some, if_pos rfl]
  refine ⟨_, rfl, List.mem_append_right _ (List.mem_map.2 ⟨2 ^ 32, ?_, rfl⟩)⟩
  rw [List.mem_range'_1]
  exact ⟨hsize, hn⟩

end Widened

/-- The nodes are still there, and may have more children. -/
def Extends (entries entries' : Array Entry) : Prop :=
  ∀ (i : Nat) (e : Entry), entries[i]? = some e →
    ∃ more, entries'[i]? = some { e with children := e.children ++ more }

namespace Extends

variable {entries entries' entries'' : Array Entry}

theorem refl (entries : Array Entry) : Extends entries entries := fun i e he =>
  ⟨[], by rw [he, List.append_nil]⟩

theorem trans (h : Extends entries entries') (h' : Extends entries' entries'') :
    Extends entries entries'' := by
  intro i e he
  obtain ⟨more, he'⟩ := h i e he
  obtain ⟨more', he''⟩ := h' i _ he'
  exact ⟨more ++ more', by simpa using he''⟩

/-- What is known of a node does not change, but for its children. -/
theorem labels {t : Arena} (h : Extends entries t.entries) {i : UInt32} {e : Entry}
    (he : entries[i.toNat]? = some e) :
    t.kind? i = some e.kind ∧ t.field? i = e.field ∧ t.tokenText? i = e.text ∧
      t.parent? i = e.parent ∧ ∃ more, t.children i = e.children ++ more := by
  obtain ⟨more, hmore⟩ := h _ e he
  have hentry : t.entry? i = some { e with children := e.children ++ more } := hmore
  simp [Arena.kind?, Arena.field?, Arena.tokenText?, Arena.parent?, Arena.children, hentry]

theorem append (entries : Array Entry) (kind : Kind) (field : Option Field) (text : Option String)
    (parent : Option UInt32) : Extends entries (appendEntry entries kind field text parent) := by
  intro i e he
  rw [getElem?_appendEntry_of_lt (Array.getElem?_eq_some_iff.1 he).1, he, Option.map_some]
  split
  · exact ⟨_, rfl⟩
  · exact ⟨[], by rw [List.append_nil]⟩

end Extends

theorem Widened.extends {entries entries' : Array Entry} {p : UInt32} {n : Nat}
    (h : Widened entries entries' p n) : Extends entries entries' := by
  intro i e he
  rw [h.front i (Array.getElem?_eq_some_iff.1 he).1, he, Option.map_some]
  split
  · exact ⟨_, rfl⟩
  · exact ⟨[], by rw [List.append_nil]⟩

namespace Builder

variable {b : Builder} {p : UInt32} {ps : List UInt32}

theorem token_fields (hf : b.fault = none) (hp : b.path = p :: ps) (kind : Kind)
    (field : Option Field) (text : String) :
    (b.token kind field text).entries = appendEntry b.entries kind field (some text) (some p) ∧
    (b.token kind field text).path = p :: ps ∧ (b.token kind field text).root = b.root ∧
    (b.token kind field text).fault = none := by
  have hfault : ¬ b.fault.isSome := by simp [hf]
  have hclosed : ¬ (b.path.isEmpty && b.root.isSome) := by simp [hp]
  rw [token, push, if_neg hfault, if_neg hclosed]
  simp [hp, hf]

theorem foldl_fillers (hf : b.fault = none) (hp : b.path = p :: ps) (n : Nat) :
    let b' := (List.replicate n filler).foldl step b
    Widened b.entries b'.entries p n ∧ b'.path = p :: ps ∧ b'.root = b.root ∧ b'.fault = none := by
  induction n with
  | zero => exact ⟨.zero _ _, hp, rfl, hf⟩
  | succ n ih =>
    obtain ⟨hwide, hpath, hroot, hfault⟩ := ih
    rw [List.replicate_succ', List.foldl_append]
    generalize (List.replicate n filler).foldl step b = b' at hwide hpath hroot hfault
    obtain ⟨he, hp', hr', hf'⟩ := token_fields hfault hpath .identifier none "x"
    have hlt : p.toNat < b.entries.size := b.path_lt p (hp ▸ List.mem_cons_self)
    exact ⟨he ▸ hwide.append hlt, hp', hr'.trans hroot, hf'⟩

theorem extends_push (b : Builder) (kind : Kind) (field : Option Field) (text : Option String) :
    Extends b.entries (b.push kind field text).1.entries := by
  rw [push]
  split
  · exact .refl _
  · split
    · exact .refl _
    · exact Extends.append b.entries kind field text b.path.head?

/-- Whatever is told, nodes are added, and links to them. -/
theorem extends_foldl (b : Builder) (es : List Event) :
    Extends b.entries (es.foldl step b).entries := by
  induction es generalizing b with
  | nil => exact .refl _
  | cons e es ih =>
    refine Extends.trans ?_ (ih (b.step e))
    cases e with
    | start kind field =>
      rw [step, (b.start_fields kind field).1]
      exact b.extends_push kind field none
    | token kind field text => exact b.extends_push kind field (some text)
    | finish =>
      rw [step, b.finish_fields.1]
      exact .refl _

theorem foldl_finish (b : Builder) (k : Nat) :
    ((List.replicate k .finish).foldl step b).entries = b.entries ∧
      ((List.replicate k .finish).foldl step b).root = b.root := by
  induction k generalizing b with
  | zero => exact ⟨rfl, rfl⟩
  | succ k ih =>
    obtain ⟨he, -, hr, -⟩ := b.finish_fields
    obtain ⟨he', hr'⟩ := ih b.finish
    exact ⟨he'.trans he, hr'.trans hr⟩

end Builder

/-- A tree is built of the nodes and the root that the builder has in the end. -/
theorem fields_of_build {es : List Event} {t : Arena} (h : build es = .ok t) :
    t.entries = (es.foldl Builder.step .empty).entries ∧
      (es.foldl Builder.step .empty).root = some t.root := by
  rw [build, Builder.close] at h
  split at h
  · contradiction
  · split at h
    · contradiction
    · split at h
      · contradiction
      next hr =>
        obtain rfl := Except.ok.inj h
        exact ⟨rfl, hr⟩

/-- What is built of some events that leave node `p` open, then so many tokens, and then the ends of all
    open nodes. -/
theorem widened_of_build {front : List Event} {n k : Nat} {t : Arena} {p : UInt32} {ps : List UInt32}
    (h : build (front ++ (List.replicate n filler ++ List.replicate k .finish)) = .ok t)
    (hf : (front.foldl Builder.step .empty).fault = none)
    (hp : (front.foldl Builder.step .empty).path = p :: ps) :
    Widened (front.foldl Builder.step .empty).entries t.entries p n ∧
      (front.foldl Builder.step .empty).root = some t.root := by
  obtain ⟨hentries, hroot⟩ := fields_of_build h
  rw [List.foldl_append, List.foldl_append] at hentries hroot
  generalize front.foldl Builder.step .empty = b at hf hp hentries hroot
  obtain ⟨hwide, -, hroot', -⟩ := Builder.foldl_fillers hf hp n
  obtain ⟨he, hr⟩ := ((List.replicate n filler).foldl Builder.step b).foldl_finish k
  exact ⟨hentries.trans he ▸ hwide, hroot'.symm.trans (hr.symm.trans hroot)⟩

/-- Whatever comes behind the tokens, they and what was told in front are there. -/
theorem exists_extends_of_build {front rest : List Event} {n : Nat} {t : Arena} {p : UInt32}
    {ps : List UInt32} (h : build (front ++ (List.replicate n filler ++ rest)) = .ok t)
    (hf : (front.foldl Builder.step .empty).fault = none)
    (hp : (front.foldl Builder.step .empty).path = p :: ps) :
    ∃ entries, Widened (front.foldl Builder.step .empty).entries entries p n ∧
      Extends entries t.entries := by
  obtain ⟨hentries, -⟩ := fields_of_build h
  rw [List.foldl_append, List.foldl_append] at hentries
  exact ⟨_, (Builder.foldl_fillers hf hp n).1, hentries ▸ Builder.extends_foldl _ rest⟩

namespace Widened

variable {entries : Array Entry} {t : Arena} {p i : UInt32} {n : Nat} {e : Entry}
  (h : Widened entries t.entries p n)

include h

/-- The tokens are children of node `p`, with the numbers that 32 bits have for them. -/
theorem children_eq (he : entries[p.toNat]? = some e) :
    t.children p = e.children ++ (List.range' entries.size n).map UInt32.ofNat := by
  rw [Arena.children, Arena.entry?, h.front _ (Array.getElem?_eq_some_iff.1 he).1, he,
    Option.map_some, if_pos rfl]
  rfl

theorem entry?_behind (hi : entries.size ≤ i.toNat) (hi' : i.toNat < t.size) :
    t.entry? i = some (fillerEntry p) := h.behind _ hi (h.size ▸ hi')

end Widened

/-- A root with so many tokens is its own child. -/
theorem Widened.circular {t : Arena} {e : Entry} {n : Nat}
    (h : Widened #[e] t.entries 0 n) (hn : 2 ^ 32 ≤ n) : t.Circular (· = 0) := by
  rintro i rfl
  obtain ⟨e', he', hzero⟩ := h.exists_zero_mem Nat.one_pos (Nat.one_le_two_pow : 1 ≤ 2 ^ 32)
    (Nat.lt_of_le_of_lt hn (Nat.lt_add_of_pos_left Nat.one_pos))
  obtain ⟨-, -, -, -, more, hchildren⟩ := (Extends.refl t.entries).labels (i := 0) he'
  exact ⟨0, hchildren ▸ List.mem_append_left _ hzero, rfl⟩

/-- All of its tokens are met below it, and then the root itself. -/
theorem Widened.gives_zero {t : Arena} {e : Entry} {m : Nat}
    (h : Widened #[e] t.entries 0 (m + 1)) (hm : m + 1 = 2 ^ 32) (he : e.children = []) :
    Gives t.nextBelow (t.stackBelow 0) 0 := by
  have hchildren : t.children 0 = (List.range' 1 m).map UInt32.ofNat ++ [0] := by
    have hlast : UInt32.ofNat (1 + 1 * m) = 0 := by
      rw [Nat.one_mul, Nat.add_comm, hm]
      rfl
    rw [h.children_eq (e := e) rfl, he, List.nil_append, List.size_toArray, List.length_singleton,
      List.range'_concat, List.map_append, List.map_singleton, hlast]
  have hleaves : ∀ i ∈ ((List.range' 1 m).map UInt32.ofNat).reverse, t.children i = [] := by
    intro i hi
    obtain ⟨k, hk, rfl⟩ := List.mem_map.1 (List.mem_reverse.1 hi)
    rw [List.mem_range'_1] at hk
    have hnat : (UInt32.ofNat k).toNat = k := Code.toNat_ofNat (by omega)
    have hsize : t.size = 1 + (m + 1) := h.size
    rw [Arena.children, h.entry?_behind (by rw [hnat]; exact hk.1) (by rw [hnat, hsize]; omega)]
    rfl
  rw [Arena.stackBelow, hchildren, List.reverse_append]
  exact Arena.gives_of_leaves [] hleaves

/-! ## Nodes with too many tokens -/

/-- A node with so many tokens between its other children. -/
def crowded (kind : Kind) (before : List Tree) (n : Nat) (after : List Tree) : Tree :=
  .node kind none (before ++ (List.replicate n (.token .identifier none "x") ++ after))

/-- A block with so many tokens and nothing else. -/
def wide (n : Nat) : Tree := crowded .block [] n []

section
variable (kind : Kind) (before after : List Tree) (n : Nat)

theorem events_crowded : (crowded kind before n after).events =
    (.start kind none :: Tree.eventsAll before) ++
      (List.replicate n filler ++ (Tree.eventsAll after ++ [.finish])) := by
  have hfillers : (List.replicate n (.token .identifier none "x")).flatMap Tree.events =
      List.replicate n filler := by
    rw [List.flatMap_replicate]
    exact List.flatten_replicate_singleton
  rw [crowded, Tree.events]
  simp only [Tree.eventsAll_eq, List.flatMap_append, hfillers, List.cons_append, List.append_assoc]

theorem size_crowded :
    (crowded kind before n after).size = 1 + Tree.sizeAll before + n + Tree.sizeAll after := by
  have htokens : Tree.sizeAll (List.replicate n (.token .identifier none "x")) = n := by
    induction n with
    | zero => rfl
    | succ n ih => rw [List.replicate_succ, Tree.sizeAll, ih, Tree.size, Nat.add_comm]
  rw [crowded, Tree.size, Tree.sizeAll_append, Tree.sizeAll_append, htokens]
  omega

theorem exists_build_crowded : ∃ t, build (crowded kind before n after).events = .ok t ∧
    t.size = 1 + Tree.sizeAll before + n + Tree.sizeAll after := by
  obtain ⟨a, ha, hentries, -⟩ := (crowded kind before n after).build_events
  obtain ⟨t, ht, hsize⟩ := exists_build ha
  exact ⟨t, ht, by rw [hsize, Code.Arena.size_of_layout hentries, size_crowded]⟩

end

/-- The nodes of a block with so many tokens. -/
theorem exists_build_wide (n : Nat) : ∃ t, build (wide n).events = .ok t ∧ t.size = n + 1 ∧
    t.root = 0 ∧ Widened #[⟨.block, none, none, none, []⟩] t.entries 0 n := by
  obtain ⟨t, ht, hsize⟩ := exists_build_crowded .block [] [] n
  have hbuild := ht
  rw [events_crowded] at hbuild
  obtain ⟨hwide, hroot⟩ := widened_of_build (k := 1) hbuild rfl rfl
  exact ⟨t, ht, hsize.trans (Nat.add_comm 1 n), (Option.some.inj hroot).symm, hwide⟩

/-- A forest of one tree, which is a block with so many tokens; the work on its root does not end, unless
    the root is replaced. -/
theorem exists_endless (n : Nat) (hn : 2 ^ 32 ≤ n) : ∃ (f : Forest) (root leaf : f.Node),
    build (wide n).events = .ok root.arena ∧ root.id = root.arena.root ∧ leaf.tree = root.tree ∧
      leaf.id ≠ root.id ∧ ∀ pairs : List f.Replacement, (∀ r ∈ pairs, r.old.id ≠ root.id) →
      runToEnd (Work.turn (replacementTable root pairs)) (.start root) = none ∧
        ((pairs.map (·.old.ref)).Nodup → f.replace root pairs = none) := by
  obtain ⟨t, ht, hsize, hroot, hwide⟩ := exists_build_wide n
  obtain ⟨-, -, htoken, -⟩ := hwide.extends.labels (i := 0) rfl
  have hcircular := hwide.circular hn
  have hone : (1 : UInt32).toNat < t.size := by
    rw [hsize]
    exact Nat.lt_add_of_pos_left (Nat.lt_of_lt_of_le (by decide) hn)
  let f : Forest := ⟨#[some t]⟩
  let root : f.Node := ⟨0, t, rfl, t.root, t.root_lt⟩
  let leaf : f.Node := ⟨0, t, rfl, 1, hone⟩
  have hzero : root.id = 0 := hroot
  have hleaf : leaf.id ≠ root.id := hzero ▸ (by decide : (1 : UInt32) ≠ 0)
  refine ⟨f, root, leaf, ht, rfl, rfl, hleaf, fun pairs hpairs => ?_⟩
  have hkept : ∀ r ∈ pairs, r.old.tree = root.tree → ¬ r.old.id = 0 := fun r hr _ hid =>
    hpairs r hr (hid.trans hzero.symm)
  have hnone : ∀ i : UInt32, i = 0 → root.arena.tokenText? i = none := fun i hi => hi ▸ htoken
  exact ⟨hcircular.run_eq_none hnone hzero hkept, hcircular.replace_eq_none hnone hzero hkept⟩

end AsyncIdioms.Syntax
