/-
  Which catalogs can be used, and in which order their rules are evaluated.

  * `Catalog.DependsOn` : a rule looks at the tag of another one; `Catalog.Acyclic` : no rule
    depends on itself, be it through others;
  * `Catalog.leadsToCycle_of_not_mem` : from a rule that is not taken, one comes to one that does;
  * `Catalog.compile_spec` : the result of preparing a catalog whose shape and regular expressions
    are fine;
  * `Catalog.Respects` : an order of tags in which each rule stands behind those it depends on;
  * `Catalog.compile_iff_acyclic` : such a catalog can be used if and only if it is acyclic, and its
    order lists each rule once, behind those it depends on;
  * `compile_builtinCatalog` : the built-in catalog can be used.

  All of it holds whatever library regular expressions are left to.
-/
import Mathlib.Data.Fintype.Card
import Mathlib.Data.Set.Finite.List
import Mathlib.Logic.Relation
import AsyncIdioms.Catalog.Builtin
import AsyncIdioms.Classifier.Basic
import AsyncIdioms.Proofs.Classifier.Order
import AsyncIdioms.Regex.Pattern

namespace AsyncIdioms

open Relation

variable {α β ε : Type}

/-! ## Lists of computations -/

theorem mapM_eq_ok_iff {f : α → Except ε β} : ∀ {xs : List α} {ys : List β},
    xs.mapM f = .ok ys ↔ List.Forall₂ (fun x y => f x = .ok y) xs ys
  | [], ys => by
    rw [List.mapM_nil, List.forall₂_nil_left_iff]
    exact ⟨fun h => (Except.ok.inj h).symm, fun h => h ▸ rfl⟩
  | x :: xs, ys => by
    simp only [List.mapM_cons, bind_eq_ok_iff, mapM_eq_ok_iff, List.forall₂_cons_left_iff]
    constructor
    · rintro ⟨y, hy, zs, hzs, h⟩
      exact ⟨y, zs, hy, hzs, (Except.ok.inj h).symm⟩
    · rintro ⟨y, zs, hy, hzs, rfl⟩
      exact ⟨y, hy, zs, hzs, rfl⟩

theorem exists_mapM_ok {f : α → Except ε β} : ∀ {xs : List α}, (∀ x ∈ xs, ∃ y, f x = .ok y) →
    ∃ ys, xs.mapM f = .ok ys
  | [], _ => ⟨[], rfl⟩
  | x :: xs, h => by
    obtain ⟨y, hy⟩ := h x (List.mem_cons_self ..)
    obtain ⟨ys, hys⟩ := exists_mapM_ok fun z hz => h z (List.mem_cons_of_mem _ hz)
    exact ⟨y :: ys, mapM_eq_ok_iff.2 (.cons hy (mapM_eq_ok_iff.1 hys))⟩

theorem forall₂_getElem? {R : α → β → Prop} {xs : List α} {ys : List β} (h : List.Forall₂ R xs ys) :
    ∀ i : Nat, (xs[i]? = none ∧ ys[i]? = none) ∨ ∃ x y, xs[i]? = some x ∧ ys[i]? = some y ∧ R x y := by
  induction h with
  | nil => simp
  | cons hxy _ ih =>
    intro i
    cases i with
    | zero => exact Or.inr ⟨_, _, rfl, rfl, hxy⟩
    | succ i => simpa using ih i

theorem mem_mapM_iff {f : α → Except ε β} {xs : List α} {ys : List β} (h : xs.mapM f = .ok ys) {y : β} :
    y ∈ ys ↔ ∃ x ∈ xs, f x = .ok y := by
  have hf := mapM_eq_ok_iff.1 h
  clear h
  induction hf with
  | nil => simp
  | cons hxy _ ih => simp [ih, hxy, eq_comm]

theorem exists_of_mem_mapM {f : α → Except ε β} {xs : List α} {ys : List β} (h : xs.mapM f = .ok ys)
    {x : α} (hx : x ∈ xs) : ∃ y ∈ ys, f x = .ok y := by
  obtain ⟨i, hi⟩ := List.mem_iff_getElem?.1 hx
  rcases forall₂_getElem? (mapM_eq_ok_iff.1 h) i with ⟨hnone, -⟩ | ⟨x', y, hx', hy, hxy⟩
  · simp [hi] at hnone
  · obtain rfl : x = x' := Option.some.inj (hi.symm.trans hx')
    exact ⟨y, List.mem_of_getElem? hy, hxy⟩

theorem filterMap_getElem?_range : ∀ xs : List α, (List.range xs.length).filterMap (xs[·]?) = xs
  | [] => rfl
  | x :: xs => by
    rw [List.length_cons, List.range_succ_eq_map, List.filterMap_cons, List.filterMap_map]
    exact congrArg (x :: ·) (filterMap_getElem?_range xs)

/-- Slots are emptied in the given order, each one once. -/
theorem takeInOrder_ok : ∀ (order : List Nat) (slots : Array (Option α)), order.Nodup →
    (∀ i ∈ order, i < slots.size) →
    takeInOrder slots order = .ok (order.filterMap fun i => (slots[i]?).join)
  | [], _, _, _ => rfl
  | i :: order, slots, hnd, hlt => by
    obtain ⟨hi, hnd⟩ := List.nodup_cons.1 hnd
    have hsize := hlt i (List.mem_cons_self ..)
    obtain ⟨slots', hset, hsize', hget⟩ := setAt_of_lt hsize (none : Option α)
    have hsame : (order.filterMap fun k => (slots'[k]?).join) =
        order.filterMap fun k => (slots[k]?).join := by
      refine List.filterMap_congr fun k hk => ?_
      have hik : i ≠ k := fun h => hi (h ▸ hk)
      rw [hget, if_neg hik]
    have hrest := takeInOrder_ok order slots' hnd fun k hk =>
      hsize' ▸ hlt k (List.mem_cons_of_mem _ hk)
    have hslot : slots[i]? = some slots[i] := Array.getElem?_eq_getElem hsize
    refine bind_eq_ok_iff.2 ⟨_, elementAt_of_getElem? hslot, bind_eq_ok_iff.2 ⟨_, hset,
      bind_eq_ok_iff.2 ⟨_, hrest, ?_⟩⟩⟩
    rw [hsame, List.filterMap_cons, hslot]
    cases slots[i] <;> rfl

/-! ## Shape -/

/-- The clause has constraints, and its text conditions have values. -/
def Clause.WellShaped (clause : Clause) : Prop :=
  clause.isUnconstrained = false ∧ ∀ t ∈ clause.text, t.allValues ≠ []

/-- The rule has clauses, and these are fine. -/
def Rule.WellShaped (r : Rule) : Prop := r.clauses ≠ [] ∧ ∀ clause ∈ r.clauses, clause.WellShaped

theorem Clause.shapeFault?_eq_none_iff {clause : Clause} {t : Tag} :
    clause.shapeFault? t = none ↔ clause.WellShaped := by
  rw [Clause.shapeFault?, Clause.WellShaped]
  split
  next h => simp [h]
  next h => simp [h]

theorem Rule.shapeFault?_eq_none_iff {r : Rule} {earlier : List Tag} :
    r.shapeFault? earlier = none ↔ r.tag ∉ earlier ∧ r.WellShaped := by
  rw [Rule.shapeFault?, Rule.WellShaped]
  split
  next h => simp [h]
  next h =>
    split
    next hnil => simp [List.isEmpty_iff.1 hnil]
    next hcons =>
      rw [List.isEmpty_iff] at hcons
      simp only [List.findSome?_eq_none_iff, Clause.shapeFault?_eq_none_iff, h, hcons, ne_eq,
        not_false_eq_true, true_and]

theorem shapeFaultFrom_eq_none_iff {rules : List Rule} {earlier : List Tag} :
    shapeFaultFrom earlier rules = none ↔
      (rules.map (·.tag)).Nodup ∧ ∀ r ∈ rules, r.tag ∉ earlier ∧ r.WellShaped := by
  induction rules generalizing earlier with
  | nil => simp [shapeFaultFrom]
  | cons r rules ih =>
    rw [shapeFaultFrom]
    cases hr : r.shapeFault? earlier with
    | some fault =>
      have hno : ¬ (r.tag ∉ earlier ∧ r.WellShaped) := by
        rw [← Rule.shapeFault?_eq_none_iff, hr]
        simp
      simp only [reduceCtorEq, List.forall_mem_cons, hno, false_and, and_false]
    | none =>
      have hyes := Rule.shapeFault?_eq_none_iff.1 hr
      simp only [ih, List.map_cons, List.nodup_cons, List.mem_map, List.mem_cons, not_or,
        forall_eq_or_imp, hyes]
      grind

namespace Catalog

variable {c : Catalog}

theorem nodup_tags (h : c.shapeFault? = none) : (c.rules.map (·.tag)).Nodup :=
  (shapeFaultFrom_eq_none_iff.1 h).1

/-! ## Regular expressions -/

section
variable [RegexLibrary]

variable (c) in
/-- Every value that is used as a regular expression is one. -/
def RegexesCompile : Prop :=
  ∀ r ∈ c.rules, ∀ clause ∈ r.clauses, ∀ t ∈ clause.text, t.op = .regex →
    ∀ pattern ∈ t.allValues, (RegexLibrary.compile? t.ignoreCase pattern).isSome

theorem regexesCompile_of_no_regex
    (h : ∀ r ∈ c.rules, ∀ clause ∈ r.clauses, ∀ t ∈ clause.text, t.op ≠ .regex) : c.RegexesCompile :=
  fun r hr clause hclause t ht hop => absurd hop (h r hr clause hclause t ht)

theorem exists_prepare_text {t : TextCondition} (h : t.op = .regex →
    ∀ pattern ∈ t.allValues, (RegexLibrary.compile? t.ignoreCase pattern).isSome) :
    ∃ test, t.prepare = .ok test := by
  have hmatcher : ∃ m, t.matcher = .ok m := by
    by_cases hop : t.op = .regex
    · have hpatterns : ∀ pattern ∈ t.allValues, ∃ regex, compileRegex t.ignoreCase pattern = .ok regex :=
        fun pattern hmem => by
          obtain ⟨regex, hr⟩ := Option.isSome_iff_exists.1 (h hop pattern hmem)
          exact ⟨regex, by rw [compileRegex, hr]⟩
      obtain ⟨patterns, hp⟩ := exists_mapM_ok hpatterns
      refine ⟨.regexes patterns, ?_⟩
      rw [TextCondition.matcher, hop]
      exact bind_eq_ok_iff.2 ⟨_, hp, rfl⟩
    · rw [TextCondition.matcher]
      split
      · contradiction
      · exact ⟨_, rfl⟩
  obtain ⟨m, hm⟩ := hmatcher
  exact ⟨_, bind_eq_ok_iff.2 ⟨m, hm, rfl⟩⟩

theorem RegexesCompile.exists_prepared (h : c.RegexesCompile) :
    ∃ prepared, c.rules.mapM Rule.prepare = .ok prepared := by
  refine exists_mapM_ok fun r hr => ?_
  have hclauses : ∃ cs, r.clauses.mapM Clause.prepare = .ok cs := by
    refine exists_mapM_ok fun clause hc => ?_
    obtain ⟨tests, ht⟩ := exists_mapM_ok (f := TextCondition.prepare) fun t ht =>
      exists_prepare_text (h r hr clause hc t ht)
    exact ⟨_, bind_eq_ok_iff.2 ⟨tests, ht, rfl⟩⟩
  obtain ⟨cs, hcs⟩ := hclauses
  exact ⟨⟨r.tag, cs⟩, by rw [Rule.prepare, hcs]⟩

/-! ## The rules in order -/

/-- With the shape and the regular expressions in order, what is left is the order of the rules. -/
theorem compile_eq_map_arrange {prepared : List PreparedRule} (hshape : c.shapeFault? = none)
    (hprepared : c.rules.mapM Rule.prepare = .ok prepared) :
    c.compile = ((c.arrange prepared).map Classifier.mk).mapError CompileError.order := by
  rw [compile, hshape]
  simp only [hprepared, bind, Except.bind]
  cases c.arrange prepared <;> rfl

/-- The prepared rules are taken in the order of evaluation. -/
theorem compile_eq_map_evaluationOrder {prepared : List PreparedRule} (hshape : c.shapeFault? = none)
    (hprepared : c.rules.mapM Rule.prepare = .ok prepared) :
    c.compile = (c.evaluationOrder.map fun order => ⟨order.filterMap (prepared[·]?)⟩).mapError
      CompileError.order := by
  obtain ⟨order, hex, horder⟩ := c.evaluationOrder_spec
  have hlen : prepared.length = c.rules.length := (mapM_eq_ok_iff.1 hprepared).length_eq.symm
  rw [compile_eq_map_arrange hshape hprepared, arrange, horder]
  by_cases hall : order.length = c.rules.length
  · have htake := takeInOrder_ok order (prepared.map some).toArray hex.nodup fun i hi => by
      simpa [hlen] using hex.subset_range hi
    have hslots : (order.filterMap fun i => ((prepared.map some).toArray[i]?).join) =
        order.filterMap (prepared[·]?) :=
      List.filterMap_congr fun i _ => by
        cases h : prepared[i]? <;> simp [h]
    rw [hslots] at htake
    simp only [if_pos hall, bind, Except.bind, htake]
    rfl
  · simp only [if_neg hall, bind, Except.bind]
    rfl

/-- **The result of preparing a catalog.** -/
theorem compile_spec {prepared : List PreparedRule} (hshape : c.shapeFault? = none)
    (hprepared : c.rules.mapM Rule.prepare = .ok prepared) :
    ∃ order, c.Exhausted order ∧
      c.compile = if order.length = c.rules.length then .ok ⟨order.filterMap (prepared[·]?)⟩
        else .error (.order (.cycle (c.tagsOutside order))) := by
  obtain ⟨order, hex, horder⟩ := c.evaluationOrder_spec
  refine ⟨order, hex, ?_⟩
  rw [compile_eq_map_evaluationOrder hshape hprepared, horder]
  split <;> rfl

theorem shapeFault?_of_compile {k : Classifier} (h : c.compile = .ok k) : c.shapeFault? = none := by
  cases hs : c.shapeFault? with
  | none => rfl
  | some fault => simp [compile, hs] at h

theorem exists_prepared_of_compile {k : Classifier} (h : c.compile = .ok k) :
    ∃ prepared, c.rules.mapM Rule.prepare = .ok prepared := by
  rw [compile, shapeFault?_of_compile h] at h
  obtain ⟨prepared, hp, -⟩ := bind_eq_ok_iff.1 h
  exact ⟨prepared, hp⟩

theorem exists_compile_of_isSome (h : c.compile.toOption.isSome = true) : ∃ k, c.compile = .ok k := by
  cases hk : c.compile with
  | error e => simp [hk, Except.toOption] at h
  | ok k => exact ⟨k, rfl⟩

/-- What is known when a catalog can be used. -/
theorem compile_eq_ok {k : Classifier} (h : c.compile = .ok k) :
    ∃ prepared order, c.rules.mapM Rule.prepare = .ok prepared ∧ c.Exhausted order ∧
      order.length = c.rules.length ∧ k.rules = order.filterMap (prepared[·]?) := by
  obtain ⟨prepared, hp⟩ := exists_prepared_of_compile h
  obtain ⟨order, hex, hcompile⟩ := compile_spec (shapeFault?_of_compile h) hp
  rw [h] at hcompile
  split at hcompile
  · rename_i hlen
    exact ⟨prepared, order, hp, hex, hlen, congrArg Classifier.rules (Except.ok.inj hcompile)⟩
  · exact nomatch hcompile

theorem tag_of_prepare {r : Rule} {p : PreparedRule} (h : r.prepare = .ok p) : p.tag = r.tag := by
  rw [Rule.prepare] at h
  split at h
  · exact (congrArg PreparedRule.tag (Except.ok.inj h)).symm
  · exact nomatch h

theorem tags_of_prepared {prepared : List PreparedRule} (h : c.rules.mapM Rule.prepare = .ok prepared)
    (order : List Nat) :
    (order.filterMap (prepared[·]?)).map (·.tag) = order.filterMap c.tagAt? := by
  have hf := mapM_eq_ok_iff.1 h
  rw [List.map_filterMap]
  refine List.filterMap_congr fun i _ => ?_
  rcases forall₂_getElem? hf i with ⟨hr, hp⟩ | ⟨r, p, hr, hp, hrp⟩
  · simp [tagAt?, hr, hp]
  · simp [tagAt?, hr, hp, tag_of_prepare hrp]

/-- A classifier evaluates its rules in the order of evaluation. -/
theorem evaluationOrder_of_compile {k : Classifier} (hk : c.compile = .ok k) :
    ∃ order, c.evaluationOrder = .ok order ∧ k.evaluationOrder = order.filterMap c.tagAt? := by
  obtain ⟨prepared, hp⟩ := exists_prepared_of_compile hk
  rw [compile_eq_map_evaluationOrder (shapeFault?_of_compile hk) hp] at hk
  cases horder : c.evaluationOrder with
  | error fault =>
    rw [horder] at hk
    exact nomatch hk
  | ok order =>
    rw [horder] at hk
    obtain rfl := Except.ok.inj hk
    exact ⟨order, rfl, tags_of_prepared hp order⟩

theorem compile_of_evaluationOrder (hshape : c.shapeFault? = none) (hregex : c.RegexesCompile)
    {order : List Nat} (horder : c.evaluationOrder = .ok order) :
    ∃ k, c.compile = .ok k ∧ k.evaluationOrder = order.filterMap c.tagAt? := by
  obtain ⟨prepared, hp⟩ := hregex.exists_prepared
  refine ⟨_, ?_, tags_of_prepared hp order⟩
  rw [compile_eq_map_evaluationOrder hshape hp, horder]
  rfl

end

theorem filterMap_tagAt?_range (c : Catalog) :
    (List.range c.rules.length).filterMap c.tagAt? = c.rules.map (·.tag) := by
  have h : c.tagAt? = fun i => (c.rules[i]?).map (·.tag) := rfl
  rw [h, ← List.map_filterMap, filterMap_getElem?_range]

/-! ## Dependencies between rules -/

variable (c) in
/-- Some clause of rule `r` looks at the tag of rule `s`. -/
def DependsOn (r s : Rule) : Prop :=
  r ∈ c.rules ∧ s ∈ c.rules ∧ ∃ clause ∈ r.clauses, ∃ t ∈ clause.tagged, t.tag = s.tag

variable (c) in
/-- No rule depends on itself, be it through others. -/
def Acyclic : Prop := ∀ r, ¬ TransGen c.DependsOn r r

variable (c) in
/-- Each rule stands behind those it depends on. -/
def Respects (tags : List Tag) : Prop :=
  ∀ before t after, tags = before ++ t :: after → ∀ r s, c.DependsOn r s → r.tag = t → s.tag ∈ before

/-- A rule for methods without a result that have the tags `us`. -/
def lookingAt (t : Tag) (us : List Tag) : Rule :=
  { tag := t, clauses := [{ returnsVoid := some true, tagged := us.map fun u => { tag := u } }] }

section
variable (hnd : (c.rules.map (·.tag)).Nodup)
include hnd

theorem eq_of_tag_eq {i j : Nat} {r s : Rule} (hr : c.rules[i]? = some r) (hs : c.rules[j]? = some s)
    (h : r.tag = s.tag) : i = j := by
  have hi : i < (c.rules.map (·.tag)).length := by
    simpa using (List.getElem?_eq_some_iff.1 hr).1
  exact (List.getElem?_inj hi hnd).1 (by simp [hr, hs, h])

theorem index?_tag {j : Nat} {s : Rule} (hs : c.rules[j]? = some s) : c.index? s.tag = some j := by
  obtain ⟨hj, rfl⟩ := List.getElem?_eq_some_iff.1 hs
  refine index?_eq_some_iff.2 ⟨hj, rfl, fun k hk hlt htag => ?_⟩
  exact absurd (eq_of_tag_eq hnd (List.getElem?_eq_getElem hk) hs htag) (by omega)

/-- Rules depend on each other as their numbers do. -/
theorem dependsOn_iff {i j : Nat} {r s : Rule} (hr : c.rules[i]? = some r)
    (hs : c.rules[j]? = some s) : c.DependsOn r s ↔ j ∈ c.dependenciesAt i := by
  have hindex : ∀ t, c.index? t = some j ↔ t = s.tag := fun t => by
    constructor
    · intro ht
      obtain ⟨hj, htag, -⟩ := index?_eq_some_iff.1 ht
      rw [List.getElem?_eq_getElem hj, Option.some.injEq] at hs
      rw [← htag, hs]
    · rintro rfl
      exact index?_tag hnd hs
  simp only [mem_dependenciesAt, hr, Option.some.injEq, exists_eq_left', hindex, DependsOn,
    List.mem_of_getElem? hr, List.mem_of_getElem? hs, true_and, Rule.dependencies, List.mem_flatMap,
    List.mem_map]
  aesop

theorem respects_of_exhausted {order : List Nat} (hex : c.Exhausted order) :
    c.Respects (order.filterMap c.tagAt?) := by
  intro before t after heq r s hdep hrt
  obtain ⟨l₁, l, rfl, rfl, hl⟩ := List.filterMap_eq_append_iff.1 heq
  obtain ⟨l₂, i, l₃, rfl, hnone, hi, -⟩ := List.filterMap_eq_cons_iff.1 hl
  obtain ⟨r', hr', hrt'⟩ := Option.map_eq_some_iff.1 hi
  obtain ⟨i', hr⟩ := List.mem_iff_getElem?.1 hdep.1
  obtain ⟨j, hs⟩ := List.mem_iff_getElem?.1 hdep.2.1
  obtain rfl : i' = i := eq_of_tag_eq hnd hr hr' (hrt.trans hrt'.symm)
  have hj : j ∈ l₁ ++ l₂ :=
    (hex.behind (l₁ ++ l₂) i' l₃ (by simp)).2 j ((dependsOn_iff hnd hr hs).1 hdep)
  have htag : c.tagAt? j = some s.tag := by simp [tagAt?, hs]
  rcases List.mem_append.1 hj with hj | hj
  · exact List.mem_filterMap.2 ⟨j, hj, htag⟩
  · simp [hnone j hj] at htag

end

/-! ## Cycles -/

/-- A rule stands behind a rule it depends on. -/
theorem Respects.idxOf_lt {tags : List Tag} (h : c.Respects tags)
    (hall : ∀ r ∈ c.rules, r.tag ∈ tags) {r s : Rule} (hdep : c.DependsOn r s) :
    tags.idxOf s.tag < tags.idxOf r.tag := by
  obtain ⟨before, after, heq, hnot⟩ := List.eq_append_cons_of_mem (hall r hdep.1)
  have hmem := h before _ after heq r s hdep rfl
  rw [heq, List.idxOf_append_of_mem hmem, List.idxOf_append_of_notMem hnot, List.idxOf_cons_self]
  exact Nat.lt_of_lt_of_le (List.idxOf_lt_length_of_mem hmem) (Nat.le_add_right ..)

theorem Respects.idxOf_lt_of_transGen {tags : List Tag} (h : c.Respects tags)
    (hall : ∀ r ∈ c.rules, r.tag ∈ tags) {r s : Rule} (hdep : TransGen c.DependsOn r s) :
    tags.idxOf s.tag < tags.idxOf r.tag := by
  induction hdep with
  | single hrs => exact h.idxOf_lt hall hrs
  | tail _ hst ih => exact Nat.lt_trans (h.idxOf_lt hall hst) ih

theorem acyclic_of_respects {tags : List Tag} (h : c.Respects tags)
    (hall : ∀ r ∈ c.rules, r.tag ∈ tags) : c.Acyclic :=
  fun _ hcycle => Nat.lt_irrefl _ (h.idxOf_lt_of_transGen hall hcycle)

/-- Where everything leads on to something, there is a cycle. -/
theorem exists_cycle {R : α → α → Prop} {S : Set α} (hfin : S.Finite) (hne : S.Nonempty)
    (h : ∀ x ∈ S, ∃ y ∈ S, R x y) : ∃ x ∈ S, TransGen R x x := by
  by_contra hno
  have : Finite S := hfin
  have : IsTrans S fun x y => TransGen R y.1 x.1 := ⟨fun _ _ _ hxy hyz => hyz.trans hxy⟩
  have : Std.Irrefl fun x y : S => TransGen R y.1 x.1 := ⟨fun x hx => hno ⟨x.1, x.2, hx⟩⟩
  have hwf := Finite.wellFounded_of_trans_of_irrefl fun x y : S => TransGen R y.1 x.1
  obtain ⟨x₀, hx₀⟩ := hne
  obtain ⟨m, -, hmin⟩ := hwf.has_min Set.univ ⟨⟨x₀, hx₀⟩, trivial⟩
  obtain ⟨y, hy, hmy⟩ := h m.1 m.2
  exact hmin ⟨y, hy⟩ trivial (.single hmy)

variable (c) in
/-- Following dependencies, any number of them, one comes from the rule to one that depends on
    itself. -/
def LeadsToCycle (r : Rule) : Prop := ∃ s, ReflTransGen c.DependsOn r s ∧ TransGen c.DependsOn s s

/-- From a rule that is left, one comes to a cycle. -/
theorem leadsToCycle_of_not_mem (hnd : (c.rules.map (·.tag)).Nodup) {order : List Nat}
    (hex : c.Exhausted order) {i : Nat} {r : Rule} (hr : c.rules[i]? = some r) (hi : i ∉ order) :
    c.LeadsToCycle r := by
  let left : Set Rule := {s | ReflTransGen c.DependsOn r s ∧ ∃ j, j ∉ order ∧ c.rules[j]? = some s}
  have hfin : left.Finite := (List.finite_toSet c.rules).subset
    fun s ⟨_, j, _, hs⟩ => List.mem_of_getElem? hs
  have hnext : ∀ s ∈ left, ∃ t ∈ left, c.DependsOn s t := by
    rintro s ⟨hrs, j, hj, hs⟩
    obtain ⟨k, hk, hko⟩ := hex.stuck j (List.getElem?_eq_some_iff.1 hs).1 hj
    have hklt := (dependenciesAt_lt hk).2
    have ht : c.rules[k]? = some c.rules[k] := List.getElem?_eq_getElem hklt
    have hdep := (dependsOn_iff hnd hs ht).2 hk
    exact ⟨_, ⟨hrs.tail hdep, k, hko, ht⟩, hdep⟩
  obtain ⟨s, ⟨hrs, -⟩, hs⟩ := exists_cycle hfin ⟨r, .refl, i, hi, hr⟩ hnext
  exact ⟨s, hrs, hs⟩

theorem not_acyclic_of_exhausted (hnd : (c.rules.map (·.tag)).Nodup) {order : List Nat}
    (hex : c.Exhausted order) (hlen : order.length ≠ c.rules.length) : ¬ c.Acyclic := by
  intro hacyclic
  obtain ⟨i, hi, horder⟩ := hex.exists_left hlen
  obtain ⟨s, -, hs⟩ := leadsToCycle_of_not_mem hnd hex (List.getElem?_eq_getElem hi) horder
  exact hacyclic s hs

section
variable [RegexLibrary]

theorem order_of_compile {k : Classifier} (h : c.compile = .ok k) :
    k.evaluationOrder.Perm (c.rules.map (·.tag)) ∧ c.Respects k.evaluationOrder := by
  have hnd := nodup_tags (shapeFault?_of_compile h)
  obtain ⟨prepared, order, hp, hex, hlen, hrules⟩ := compile_eq_ok h
  rw [Classifier.evaluationOrder, hrules, tags_of_prepared hp, ← filterMap_tagAt?_range]
  exact ⟨(hex.perm_range hlen).filterMap _, respects_of_exhausted hnd hex⟩

/-- A catalog whose shape and regular expressions are fine can be used, or its cycles are reported. -/
theorem compile_outcome (hshape : c.shapeFault? = none) (hregex : c.RegexesCompile) :
    c.Acyclic ∧ (∃ k, c.compile = .ok k) ∨
      ¬ c.Acyclic ∧ ∃ tags, c.compile = .error (.order (.cycle tags)) := by
  obtain ⟨prepared, hp⟩ := hregex.exists_prepared
  obtain ⟨order, hex, hcompile⟩ := compile_spec hshape hp
  by_cases hlen : order.length = c.rules.length
  · have hk := hcompile.trans (if_pos hlen)
    obtain ⟨hperm, hresp⟩ := order_of_compile hk
    exact .inl ⟨acyclic_of_respects hresp fun r hr => hperm.mem_iff.2 (List.mem_map_of_mem hr), _, hk⟩
  · exact .inr ⟨not_acyclic_of_exhausted (nodup_tags hshape) hex hlen, _,
      hcompile.trans (if_neg hlen)⟩

/-- **A catalog whose shape and regular expressions are fine can be used if and only if it is
    acyclic.** Then its order lists the tags of its rules, each rule behind those it depends on. If
    it cannot be used, rules that wait for each other are reported: no rule number is ever out of
    range, and no count of rules to wait for is lowered below zero. -/
theorem compile_iff_acyclic (hshape : c.shapeFault? = none) (hregex : c.RegexesCompile) :
    ((∃ k, c.compile = .ok k) ↔ c.Acyclic) ∧
      (∀ k, c.compile = .ok k →
        k.evaluationOrder.Perm (c.rules.map (·.tag)) ∧ c.Respects k.evaluationOrder) ∧
      ∀ e, c.compile = .error e → ∃ tags, e = .order (.cycle tags) := by
  have hnd := nodup_tags hshape
  obtain ⟨prepared, hp⟩ := hregex.exists_prepared
  obtain ⟨order, hex, hcompile⟩ := compile_spec hshape hp
  refine ⟨⟨fun ⟨k, hk⟩ => ?_, fun hacyclic => ?_⟩, fun k hk => order_of_compile hk, fun e he => ?_⟩
  · obtain ⟨hperm, hresp⟩ := order_of_compile hk
    exact acyclic_of_respects hresp fun r hr => hperm.mem_iff.2 (List.mem_map_of_mem hr)
  · have hlen : order.length = c.rules.length := by
      by_contra hlen
      exact not_acyclic_of_exhausted hnd hex hlen hacyclic
    exact ⟨_, by rw [hcompile, if_pos hlen]⟩
  · rw [hcompile] at he
    split at he
    · exact nomatch he
    · exact ⟨_, (Except.error.inj he).symm⟩

end

/-- The shape of the built-in catalog is fine, and it has no regular expressions. -/
theorem compile_iff_acyclic_builtin :
    (builtinCatalog.shapeFault? = none ∧ builtinCatalog.RegexesCompile) ∧
      ((∃ k, builtinCatalog.compile = .ok k) ↔ builtinCatalog.Acyclic) ∧
      (∀ k, builtinCatalog.compile = .ok k →
        k.evaluationOrder.Perm (builtinCatalog.rules.map (·.tag)) ∧
          builtinCatalog.Respects k.evaluationOrder) ∧
      ∀ e, builtinCatalog.compile = .error e → ∃ tags, e = .order (.cycle tags) := by
  have hshape : builtinCatalog.shapeFault? = none := by decide
  have hregex : builtinCatalog.RegexesCompile := regexesCompile_of_no_regex (by decide)
  exact ⟨⟨hshape, hregex⟩, compile_iff_acyclic hshape hregex⟩

end Catalog

/-- The built-in catalog can be used, whatever the library. -/
theorem compile_builtinCatalog [RegexLibrary] : builtinCatalog.compile = .ok builtinClassifier := by
  have horder : builtinCatalog.evaluationOrder.toOption.isSome = true := by decide +kernel
  cases h : builtinCatalog.evaluationOrder with
  | error fault => simp [h, Except.toOption] at horder
  | ok order =>
    obtain ⟨k, hk, -⟩ := Catalog.compile_of_evaluationOrder (c := builtinCatalog) (by decide)
      (Catalog.regexesCompile_of_no_regex (by decide)) h
    rw [builtinClassifier, hk]

end AsyncIdioms
