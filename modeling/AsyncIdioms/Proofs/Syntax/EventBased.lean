/-
  The event-based idiom at a call is decided by the outermost method around it.

  A call is looked at in each method declaration around it. These are nested, and what is below an inner
  one is below all outer ones, so that one look below the outermost one is enough:

  * `Arena.IsFirstChild`, `Arena.MentionsCompletion` : what is searched, said of the tree;
  * `Arena.MentionsCompletion.of_below` : what an inner node has below it, an outer one has too;
  * `Arena.IsOutermostMethod` : a method declaration around a node that is around all others;
  * `Arena.Ordered` : the way down and the way up, as they are in built trees;
    `Arena.Ordered.isOutermostMethod_of_getLast?` : the last declaration on the way up is the outermost;
  * `Invocation.isEventBased_iff_outermost` : the call is event-based exactly if its name and the outermost
    method around it say so; `Invocation.isEventBased_endless` : a tree with too many nodes.
-/
import AsyncIdioms.Proofs.Syntax.Traversal
import AsyncIdioms.Syntax.Invocation

namespace AsyncIdioms.Syntax

open Code (Kind Field Event Tree)
open Text

namespace Arena

variable {a : Arena} {i j k m : UInt32}

/-! ## What is searched -/

/-- Node `c` is the first child of node `i` in that role. -/
def IsFirstChild (a : Arena) (i : UInt32) (role : Field) (c : UInt32) : Prop :=
  ∃ front back, a.children i = front ++ c :: back ∧ a.field? c = some role ∧
    ∀ d ∈ front, a.field? d ≠ some role

/-- The text of the node, without blanks around it and in lower case, has that ending. -/
def EndsIn (a : Arena) (i : UInt32) (ending : String) : Prop :=
  ∃ text, a.text i = some text ∧ ending.toList <:+ (lowercase (trim text)).toList

/-- Below node `i` there is a binary expression with a `...Completed` member on its left. -/
def MentionsCompletion (a : Arena) (i : UInt32) : Prop :=
  ∃ j, a.Below i j ∧ j ≠ i ∧ a.kind? j = some .binaryExpression ∧
    ∃ left, a.IsFirstChild j .left left ∧ a.EndsIn left "completed"

theorem childByField_eq_some_iff {role : Field} {c : UInt32} :
    a.childByField i role = some c ↔ a.IsFirstChild i role c := by
  rw [childByField, List.find?_eq_some_iff_append]
  simp only [beq_iff_eq, Bool.not_eq_true', beq_eq_false_iff_ne]
  constructor
  · rintro ⟨hrole, front, back, hchildren, hfront⟩
    exact ⟨front, back, hchildren, hrole, hfront⟩
  · rintro ⟨front, back, hchildren, hrole, hfront⟩
    exact ⟨hrole, front, back, hchildren, hfront⟩

theorem endsInLowercase_iff {ending : String} :
    a.endsInLowercase i ending = some true ↔ a.EndsIn i ending := by
  rw [endsInLowercase, trimmedText, EndsIn]
  cases a.text i with
  | none => simp
  | some text => simp [endsWith_iff]

/-- What is asked of the first child in a role. -/
theorem childByField_endsIn_iff {role : Field} {ending : String} :
    (∃ c, a.childByField i role = some c ∧ a.endsInLowercase c ending = some true) ↔
      ∃ c, a.IsFirstChild i role c ∧ a.EndsIn c ending := by
  simp only [childByField_eq_some_iff, endsInLowercase_iff]

theorem isCompletion_iff : a.isCompletion i = some true ↔ a.kind? i = some .binaryExpression ∧
    ∃ left, a.IsFirstChild i .left left ∧ a.EndsIn left "completed" := by
  rw [← childByField_endsIn_iff, isCompletion]
  by_cases hkind : a.kind? i = some .binaryExpression
  · cases a.childByField i .left <;> simp [hkind]
  · simp [hkind]

/-! ## Ways down and up -/

/-- As it is in built trees: each way down comes to an end, the way up leads past all nodes from which a
    way leads down, numbers grow downwards, and there is one way down to a node. -/
structure Ordered (a : Arena) : Prop where
  down : ∀ i, ∃ below, a.descendants i = some below ∧ ∀ j, j ∈ below ↔ a.Below i j ∧ j ≠ i
  read : ∀ i, ∃ text, a.text i = some text
  up : ∀ i j, j ∈ a.ancestors i ↔ a.Below j i ∧ j ≠ i
  le : ∀ i j, a.Below i j → i ≤ j
  chain : ∀ i j k, a.Below i k → a.Below j k → a.Below i j ∨ a.Below j i

theorem ordered_of_build {es : List Event} {t : Arena} (h : build es = .ok t)
    (hsize : t.size ≤ 2 ^ 32) : t.Ordered := by
  obtain ⟨a, ha, hfit, rfl⟩ := exists_stored_of_build h hsize
  have hw := Code.Arena.Built.wellFormed ⟨es, ha⟩
  refine ⟨fun i => ?_, fun i => ?_, fun i j => ?_, fun i j => ?_, fun i j k => ?_⟩
  · obtain ⟨i, hi, rfl⟩ := exists_ofNat i
    exact ⟨_, Code.Arena.descendants_stored hfit hi, fun j => Code.Arena.mem_descendants_stored hfit hi⟩
  · obtain ⟨i, hi, rfl⟩ := exists_ofNat i
    exact ⟨_, Code.Arena.text_stored hfit hi⟩
  · obtain ⟨i, hi, rfl⟩ := exists_ofNat i
    obtain ⟨j, hj, rfl⟩ := exists_ofNat j
    have habove : ∀ k ∈ a.ancestors i, k < 2 ^ 32 := fun k hk =>
      Nat.lt_trans (a.lt_of_mem_ancestors hk) hi
    rw [Code.Arena.ancestors_stored hi, Code.mem_map_ofNat hj habove,
      Code.Arena.below_stored_ofNat hfit hj hi, hw.mem_ancestors_iff, ne_eq, ne_eq,
      Code.ofNat_inj hj hi]
  · obtain ⟨i, hi, rfl⟩ := exists_ofNat i
    obtain ⟨j, hj, rfl⟩ := exists_ofNat j
    rw [Code.Arena.below_stored_ofNat hfit hi hj, UInt32.le_iff_toNat_le, Code.toNat_ofNat hi,
      Code.toNat_ofNat hj]
    exact Code.Arena.Below.le
  · obtain ⟨i, hi, rfl⟩ := exists_ofNat i
    obtain ⟨j, hj, rfl⟩ := exists_ofNat j
    obtain ⟨k, hk, rfl⟩ := exists_ofNat k
    simp only [Code.Arena.below_stored_ofNat hfit, hi, hj, hk]
    exact hw.comparable

/-! ## The methods around a node -/

/-- Node `m` is a method declaration around node `i`. -/
structure IsMethodAround (a : Arena) (i m : UInt32) : Prop where
  isMethod : a.kind? m = some .methodDeclaration
  around : a.Below m i
  ne : m ≠ i

/-- All other method declarations around node `i` are below node `m`. -/
structure IsOutermostMethod (a : Arena) (i m : UInt32) : Prop extends IsMethodAround a i m where
  outermost : ∀ m', a.IsMethodAround i m' → a.Below m m'

namespace Ordered

variable (h : a.Ordered)

include h

/-- What an inner node has below it, an outer one has too. -/
theorem mentionsCompletion_of_below (hbelow : a.Below i j) (hj : a.MentionsCompletion j) :
    a.MentionsCompletion i := by
  obtain ⟨k, hk, hne, hrest⟩ := hj
  refine ⟨k, hbelow.trans hk, ?_, hrest⟩
  rintro rfl
  -- There and back there is no way but the empty one.
  exact hne (UInt32.le_antisymm (h.le _ _ hbelow) (h.le _ _ hk))

theorem exists_endsInLowercase (i : UInt32) (ending : String) :
    ∃ b, a.endsInLowercase i ending = some b := by
  obtain ⟨text, htext⟩ := h.read i
  rw [endsInLowercase, trimmedText, htext]
  exact ⟨_, rfl⟩

theorem exists_isCompletion (i : UInt32) : ∃ b, a.isCompletion i = some b := by
  rw [isCompletion]
  split
  · split
    next left _ => exact h.exists_endsInLowercase left "completed"
    next => exact ⟨false, rfl⟩
  · exact ⟨false, rfl⟩

/-- The search below a node comes to an end, and finds what there is. -/
theorem exists_mentionsCompletion (i : UInt32) :
    ∃ b, a.mentionsCompletion i = some b ∧ (b = true ↔ a.MentionsCompletion i) := by
  obtain ⟨below, hbelow, hmem⟩ := h.down i
  obtain ⟨b, hb, hiff⟩ :=
    (collect_eq_some_iff.1 hbelow).exists_anyItem_eq fun j _ => h.exists_isCompletion j
  refine ⟨b, hb, hiff.trans ?_⟩
  simp only [hmem, isCompletion_iff, MentionsCompletion, and_assoc]

theorem outermost_unique (hm : a.IsOutermostMethod i m) (hk : a.IsOutermostMethod i k) : m = k :=
  UInt32.le_antisymm (h.le _ _ (hm.outermost k hk.toIsMethodAround))
    (h.le _ _ (hk.outermost m hm.toIsMethodAround))

end Ordered

end Arena

namespace Invocation

variable {v : Invocation} {m : UInt32} (h : v.arena.Ordered)

include h

theorem mem_enclosingMethods_iff : m ∈ v.enclosingMethods ↔ v.arena.IsMethodAround v.id m := by
  rw [enclosingMethods, List.mem_filter, h.up, beq_iff_eq]
  constructor
  · rintro ⟨⟨haround, hne⟩, hmethod⟩
    exact ⟨hmethod, haround, hne⟩
  · rintro ⟨hmethod, haround, hne⟩
    exact ⟨⟨haround, hne⟩, hmethod⟩

/-- The last method declaration on the way up is around all others. -/
theorem isOutermostMethod_of_getLast? (hlast : v.enclosingMethods.getLast? = some m) :
    v.arena.IsOutermostMethod v.id m := by
  have hm := (mem_enclosingMethods_iff h).1 (List.mem_of_getLast? hlast)
  obtain ⟨inner, hinner⟩ := List.getLast?_eq_some_iff.1 hlast
  have hpairwise : v.enclosingMethods.Pairwise (· > ·) :=
    (v.arena.pairwise_ancestors v.id).1.sublist List.filter_sublist
  rw [hinner, List.pairwise_append] at hpairwise
  refine ⟨hm, fun m' hm' => ?_⟩
  -- Both are around the call, so one is below the other, and numbers grow downwards.
  have hmem := (mem_enclosingMethods_iff h).2 hm'
  rw [hinner, List.mem_append, List.mem_singleton] at hmem
  rcases hmem with hmem | rfl
  · have hlt : m < m' := hpairwise.2.2 m' hmem m List.mem_cons_self
    rcases h.chain m m' v.id hm.around hm'.around with hdown | hup
    · exact hdown
    · exact absurd (h.le _ _ hup) (UInt32.not_le.2 hlt)
  · exact .refl

theorem exists_isOutermostMethod (hm : v.arena.IsMethodAround v.id m) :
    ∃ outer, v.arena.IsOutermostMethod v.id outer := by
  cases hlast : v.enclosingMethods.getLast? with
  | none =>
    have hmem := (mem_enclosingMethods_iff h).2 hm
    rw [List.getLast?_eq_none_iff.1 hlast] at hmem
    contradiction
  | some outer => exact ⟨outer, isOutermostMethod_of_getLast? h hlast⟩

/-- Whichever methods around the call are looked at, the outermost one among them decides. -/
theorem exists_anyM_mentionsCompletion {looked : List UInt32} (hsub : looked ⊆ v.enclosingMethods)
    (houter : ∀ m, v.arena.IsOutermostMethod v.id m → m ∈ looked) :
    ∃ b, looked.anyM v.arena.mentionsCompletion = some b ∧
      (b = true ↔ ∃ m, v.arena.IsOutermostMethod v.id m ∧ v.arena.MentionsCompletion m) := by
  have hdecided : ∀ m, v.arena.mentionsCompletion m = some true ↔ v.arena.MentionsCompletion m := by
    intro m
    obtain ⟨b, hb, hiff⟩ := h.exists_mentionsCompletion m
    rw [hb, Option.some.injEq, hiff]
  have hended : ∀ m ∈ looked, ∃ b, v.arena.mentionsCompletion m = some b := fun m _ =>
    (h.exists_mentionsCompletion m).imp fun b hb => hb.1
  obtain ⟨b, hb, hiff⟩ := exists_anyM_eq hended
  refine ⟨b, hb, hiff.trans ?_⟩
  simp only [hdecided]
  constructor
  · rintro ⟨m, hm, hmentions⟩
    have haround := (mem_enclosingMethods_iff h).1 (hsub hm)
    obtain ⟨outer, hout⟩ := exists_isOutermostMethod h haround
    exact ⟨outer, hout, h.mentionsCompletion_of_below (hout.outermost m haround) hmentions⟩
  · rintro ⟨m, hm, hmentions⟩
    exact ⟨m, houter m hm, hmentions⟩

theorem exists_callsAsync :
    ∃ b, v.callsAsync = some b ∧
      (b = true ↔ ∃ e, v.arena.IsFirstChild v.id .expression e ∧ v.arena.EndsIn e "async") := by
  rw [callsAsync, expression?, ← Arena.childByField_endsIn_iff]
  cases v.arena.childByField v.id .expression with
  | none => exact ⟨false, rfl, by simp⟩
  | some e =>
    obtain ⟨b, hb⟩ := h.exists_endsInLowercase e "async"
    exact ⟨b, hb, by simp [hb]⟩

end Invocation

/-! ## The outcome -/

/-- **The outermost method decides**, in a built tree of at most 2 ^ 32 nodes. The search comes to an end,
    and a call is event-based exactly if the text of what is called ends with `async` and, below the
    outermost method declaration around the call, some binary expression has a text on its left that ends
    with `completed`. If there is a declaration around the call, then one is the outermost, and whether
    inner ones are looked at or not makes no difference. -/
theorem Invocation.isEventBased_iff_outermost {es : List Event} {v : Invocation}
    (hb : build es = .ok v.arena) (hsize : v.arena.size ≤ 2 ^ 32) :
    (∃ b, v.isEventBased = some b ∧ (b = true ↔
      (∃ e, v.arena.IsFirstChild v.id .expression e ∧ v.arena.EndsIn e "async") ∧
      ∃ m, v.arena.IsOutermostMethod v.id m ∧ v.arena.MentionsCompletion m)) ∧
    (∀ m, v.arena.IsMethodAround v.id m → ∃! outer, v.arena.IsOutermostMethod v.id outer) ∧
    ∀ looked : List UInt32, looked ⊆ v.enclosingMethods →
      (∀ m, v.arena.IsOutermostMethod v.id m → m ∈ looked) →
      looked.anyM v.arena.mentionsCompletion = v.enclosingMethods.anyM v.arena.mentionsCompletion := by
  have h := Arena.ordered_of_build hb hsize
  obtain ⟨b, hall, hiff⟩ := exists_anyM_mentionsCompletion h (List.Subset.refl _)
    fun m hm => (mem_enclosingMethods_iff h).2 hm.toIsMethodAround
  refine ⟨?_, fun m hm => ?_, fun looked hsub houter => ?_⟩
  · obtain ⟨called, hcalled, hname⟩ := exists_callsAsync h
    rw [isEventBased, hcalled, ← hname, ← hiff, hall]
    cases called with
    | false => exact ⟨false, rfl, by simp⟩
    | true => exact ⟨b, rfl, by simp⟩
  · obtain ⟨outer, hout⟩ := exists_isOutermostMethod h hm
    exact ⟨outer, hout, fun other hother => h.outermost_unique hother hout⟩
  · obtain ⟨b', hb', hiff'⟩ := exists_anyM_mentionsCompletion h hsub houter
    rw [hall, hb', Option.some.injEq, Bool.eq_iff_iff, hiff, hiff']

/-- A method in a method: the outer one has a `...Completed` member, and the call is in the inner
    one. -/
def nestedEvents : List Event :=
  [.start .methodDeclaration none,
    .start .binaryExpression none, .token .identifierName (some .left) "c.GetCompleted ",
      .token .operator (some .operator) "+=", .finish,
    .start .methodDeclaration none,
      .start .invocationExpression none, .token .identifierName (some .expression) "c.GetAsync",
        .finish, .finish, .finish]

theorem Invocation.isEventBased_iff_outermost_nested :
    ∃ v : Invocation, build nestedEvents = .ok v.arena ∧ v.arena.size ≤ 2 ^ 32 ∧
      v.enclosingMethods = [4, 0] ∧ v.arena.IsOutermostMethod v.id 0 ∧ v.isEventBased = some true := by
  have hbuild : build nestedEvents = .ok _ := rfl
  refine ⟨⟨_, 5, rfl⟩, hbuild, by decide +kernel, by decide +kernel, ?_⟩
  obtain ⟨⟨b, hb, hiff⟩, -, -⟩ :=
    isEventBased_iff_outermost (v := ⟨_, 5, rfl⟩) hbuild (by decide +kernel)
  have houter := isOutermostMethod_of_getLast? (v := ⟨_, 5, rfl⟩) (m := 0)
    (Arena.ordered_of_build hbuild (by decide +kernel)) (by decide +kernel)
  refine ⟨houter, hb.trans (congrArg some (hiff.2 ⟨?_, 0, houter, ?_⟩))⟩
  · exact ⟨6, ⟨[], [], by decide +kernel, by decide +kernel, by simp⟩, _, rfl, by decide +kernel⟩
  · exact ⟨1, .single (by decide +kernel), by decide, by decide +kernel, 2,
      ⟨[], [3], by decide +kernel, by decide +kernel, by simp⟩, _, rfl, by decide +kernel⟩

/-- A method with the call of `c.GetAsync`, so many tokens and, behind them, the member
    `c.GetCompleted`. -/
def crowdedMethod (n : Nat) : Tree :=
  crowded .methodDeclaration
    [.node .invocationExpression none [.token .identifierName (some .expression) "c.GetAsync"]] n
    [.node .binaryExpression none [.token .identifierName (some .left) "c.GetCompleted"]]

/-- With 2 ^ 32 tokens between the call and the member, the search for the member does not end. -/
theorem Invocation.isEventBased_endless :
    ∃ v : Invocation, build (crowdedMethod (2 ^ 32)).events = .ok v.arena ∧ v.id = 1 ∧
      v.isEventBased = none := by
  obtain ⟨t, ht, -⟩ := exists_build_crowded .methodDeclaration
    [.node .invocationExpression none [.token .identifierName (some .expression) "c.GetAsync"]]
    [.node .binaryExpression none [.token .identifierName (some .left) "c.GetCompleted"]] (2 ^ 32)
  have hbuild := ht
  rw [events_crowded] at hbuild
  obtain ⟨entries, hwide, hext⟩ := exists_extends_of_build hbuild rfl rfl
  have hfront := hwide.extends.trans hext
  obtain ⟨hmethod, -, -, hroot, -⟩ :=
    hfront.labels (i := 0) (e := ⟨.methodDeclaration, none, none, none, [1]⟩) rfl
  obtain ⟨hcall, -, -, hparent, more, hchildren⟩ :=
    hfront.labels (i := 1) (e := ⟨.invocationExpression, none, none, some 0, [2]⟩) rfl
  obtain ⟨-, hfield, htext, -⟩ :=
    hfront.labels (i := 2) (e := ⟨.identifierName, some .expression, some "c.GetAsync", some 1, []⟩) rfl
  obtain ⟨e, he, hzero⟩ := hwide.exists_zero_mem (p := 0) (by decide) (by decide) (by decide)
  obtain ⟨-, -, -, -, more', hroot'⟩ := hext.labels (i := 0) he
  have hcircular : t.Circular (· = 0) := by
    rintro i rfl
    exact ⟨0, hroot' ▸ List.mem_append_left _ hzero, rfl⟩
  -- All numbers are those of the first nodes, among which there is no binary expression.
  have hkind (j : UInt32) : t.kind? j ≠ some .binaryExpression := by
    have hlt : j.toNat < entries.size := by
      rw [hwide.size]
      exact Nat.lt_of_lt_of_le j.toNat_lt (Nat.le_add_left _ _)
    have he' := Array.getElem?_eq_getElem hlt
    rw [(hext.labels he').1, ne_eq, Option.some.injEq]
    exact hwide.kind_ne (by decide +kernel) (by decide) he'
  refine ⟨⟨t, 1, hcall⟩, ht, rfl, ?_⟩
  have hexpression : t.childByField 1 .expression = some 2 := by
    rw [Arena.childByField, hchildren]
    simp [hfield]
  have hcalls : t.endsInLowercase 2 "async" = some true := by
    have hending : endsWith (lowercase (trim "c.GetAsync")) "async" = true := by decide +kernel
    rw [Arena.endsInLowercase, Arena.trimmedText, Arena.text, htext]
    exact congrArg some hending
  have haround : (t.ancestors 1).filter (fun i => t.kind? i == some .methodDeclaration) = [0] := by
    rw [Arena.ancestors_of_parent hparent, Arena.ancestors_of_root hroot]
    simp [hmethod]
  have hsearch : t.mentionsCompletion 0 = none :=
    hcircular.anyItem_eq_none (fun j hj => hkind j (Arena.isCompletion_iff.1 hj).1) rfl
  simp [isEventBased, callsAsync, expression?, hexpression, hcalls, enclosingMethods, haround, hsearch]

end AsyncIdioms.Syntax
