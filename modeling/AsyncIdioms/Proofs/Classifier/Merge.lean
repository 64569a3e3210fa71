/-
  What merged catalogs say, and when they can be used.

  A merged catalog gives a tag where one of the two does, the conditions on other tags being read
  against the same set (`Catalog.gives_merge`). What it adds to the first catalog reaches the tags of
  the second, and from there the tags whose rules look at them (`Catalog.Affected`):

  * `Catalog.classify_merge_of_not_affected` : all other tags are assigned as before;
  * `Catalog.acyclic_merge_iff` : a merged catalog has a cycle where the two dependency graphs have
    one together (`Catalog.JointlyDependsOn`);
  * `Catalog.evaluationOrder_congr` : the order of evaluation is a matter of tags and dependencies;
  * `Catalog.compile_merge` : two catalogs that can be used can be merged unless there is a cycle, and
    rules that look at nothing and bring no tag leave the order as it is.
-/
import AsyncIdioms.Proofs.Catalog.Merge
import AsyncIdioms.Proofs.Classifier.Rearrangement

namespace AsyncIdioms

open Relation

/-! ## Rules with more clauses -/

namespace Rule

theorem WellShaped.extend {e r : Rule} (he : e.WellShaped) (hr : r.WellShaped) :
    (e.extend r).WellShaped := by
  refine ⟨fun hnil => he.1 (List.append_eq_nil_iff.1 hnil).1, fun clause hclause => ?_⟩
  rcases List.mem_append.1 hclause with hclause | hclause
  · exact he.2 clause hclause
  · exact hr.2 clause hclause

/-- What the order of evaluation depends on: the tag, and the tags that the rule looks at. -/
def outline (r : Rule) : Tag × List Tag := (r.tag, r.dependencies)

theorem outline_extend {r : Rule} (h : ∀ clause ∈ r.clauses, clause.tagged = []) (e : Rule) :
    (e.extend r).outline = e.outline := by
  have hnone : r.dependencies = [] := by
    rw [dependencies, List.flatMap_eq_nil_iff]
    intro clause hclause
    rw [h clause hclause, List.map_nil]
  rw [outline, outline, dependencies_extend, hnone, List.append_nil, tag_extend]

end Rule

namespace Catalog

variable {a b c d : Catalog} {f : Facts} {T : TagSet} {t u : Tag}

theorem hasRule_iff : c.HasRule t ↔ ∃ r ∈ c.rules, r.tag = t := List.mem_map

/-! ## What is not affected -/

section
variable [RegexLibrary]

theorem gives_iff : c.Gives f T t ↔ ∃ clause, c.HasClause t clause ∧ clause.Holds f T := by
  constructor
  · rintro ⟨r, hr, hrt, clause, hclause, hholds⟩
    exact ⟨clause, ⟨r, hr, hrt, hclause⟩, hholds⟩
  · rintro ⟨clause, ⟨r, hr, hrt, hclause⟩, hholds⟩
    exact ⟨r, hr, hrt, clause, hclause, hholds⟩

/-- A merged catalog gives what either one gives. -/
theorem gives_merge : (a.merge b).Gives f T t ↔ a.Gives f T t ∨ b.Gives f T t := by
  simp only [gives_iff, hasClause_merge, or_and_right, exists_or]

variable (a b) in
/-- Adding `b` to `a` can change the tag: `b` has a rule for it, or its rule looks at a tag that can
    be changed. -/
inductive Affected : Tag → Prop
  | ofRule {t : Tag} (h : b.HasRule t) : Affected t
  | ofDependency {r : Rule} {u : Tag} (hr : r ∈ (a.merge b).rules) (hu : u ∈ r.dependencies)
      (h : Affected u) : Affected r.tag

theorem gives_merge_of_not_affected (h : ¬ Affected a b t) :
    (a.merge b).Gives f T t ↔ a.Gives f T t := by
  rw [gives_merge]
  refine or_iff_left ?_
  rintro ⟨r, hr, hrt, -⟩
  exact h (.ofRule (hasRule_iff.2 ⟨r, hr, hrt⟩))

/-- **Merging changes affected tags only**: all others are assigned as the first catalog assigns
    them. -/
theorem classify_merge_of_not_affected {k m : Classifier} (hk : a.compile = .ok k)
    (hm : (a.merge b).compile = .ok m) (s : Symbol) (ht : ¬ Affected a b t) : t ∈ m.classify s ↔ t ∈ k.classify s := by
  have hall : ∀ r ∈ (a.merge b).rules, r.tag ∈ m.evaluationOrder := fun r hr =>
    (mem_evaluationOrder_iff hm).2 ⟨r, hr, rfl⟩
  refine (describes_tagsOf hm).mem_iff_of_agree (S := fun t => ¬ Affected a b t)
    (order_of_compile hm).2 hall (describes_tagsOf hk) (fun t ht U => ?_) (fun r hr hrt u hu hau => ?_)
    t ht
  · exact gives_merge_of_not_affected ht
  · exact hrt (.ofDependency hr hu hau)

end

/-- One more name for a wrapper that creates tasks. -/
def schedulerAlias : Catalog := ⟨[Builtin.fragmentRule .taskCreation "Scheduler.Spawn"]⟩

/-- With one more name for the creation of tasks, the task-based idiom is affected too, and no other
    tag of the built-in catalog is. -/
theorem classify_merge_of_not_affected_alias :
    Affected builtinCatalog schedulerAlias .tap ∧
      ∃ m, (builtinCatalog.merge schedulerAlias).compile = .ok m ∧
        ∀ t, t ≠ .taskCreation → t ≠ .tap → ¬ Affected builtinCatalog schedulerAlias t ∧
          ∀ s : Symbol, t ∈ m.classify s ↔ t ∈ builtinClassifier.classify s := by
  have hstart : Affected builtinCatalog schedulerAlias .taskCreation := .ofRule (by decide)
  have hclosed : ∀ r ∈ (builtinCatalog.merge schedulerAlias).rules, ∀ u ∈ r.dependencies,
      u = .taskCreation ∨ u = .tap → r.tag = .taskCreation ∨ r.tag = .tap := by decide
  have honly : ∀ t, Affected builtinCatalog schedulerAlias t → t = .taskCreation ∨ t = .tap := by
    intro t ht
    induction ht with
    | ofRule h => exact .inl (by simpa [HasRule, schedulerAlias, Builtin.fragmentRule] using h)
    | ofDependency hr hu _ ih => exact hclosed _ hr _ hu ih
  obtain ⟨m, hm⟩ := exists_compile_of_isSome (c := builtinCatalog.merge schedulerAlias)
    (by decide +kernel)
  refine ⟨.ofDependency (r := Builtin.tap) (by decide) (by decide) hstart, m, hm, fun t h₁ h₂ => ?_⟩
  have ht : ¬ Affected builtinCatalog schedulerAlias t := fun h => (honly t h).elim h₁ h₂
  exact ⟨ht, fun s => classify_merge_of_not_affected compile_builtinCatalog hm s ht⟩

/-! ## Cycles -/

/-- A rule for `t` looks at `u`. -/
def LooksAt (c : Catalog) (t u : Tag) : Prop := ∃ r ∈ c.rules, r.tag = t ∧ u ∈ r.dependencies

theorem looksAt_iff :
    c.LooksAt t u ↔ ∃ clause, c.HasClause t clause ∧ ∃ x ∈ clause.tagged, x.tag = u := by
  constructor
  · rintro ⟨r, hr, hrt, hu⟩
    obtain ⟨clause, hclause, hx⟩ := Rule.mem_dependencies.1 hu
    exact ⟨clause, ⟨r, hr, hrt, hclause⟩, hx⟩
  · rintro ⟨clause, ⟨r, hr, hrt, hclause⟩, hx⟩
    exact ⟨r, hr, hrt, Rule.mem_dependencies.2 ⟨clause, hclause, hx⟩⟩

theorem looksAt_merge : (a.merge b).LooksAt t u ↔ a.LooksAt t u ∨ b.LooksAt t u := by
  simp only [looksAt_iff, hasClause_merge, or_and_right, exists_or]

/-- The dependency graphs of two catalogs put together, on the tags that have a rule in either. -/
def JointlyDependsOn (a b : Catalog) (t u : Tag) : Prop :=
  (a.LooksAt t u ∨ b.LooksAt t u) ∧ (a.HasRule t ∨ b.HasRule t) ∧ (a.HasRule u ∨ b.HasRule u)

/-- Rules of the merged catalog depend on each other as their tags do. -/
theorem dependsOn_merge_iff {r s : Rule} (hnd : (a.rules.map (·.tag)).Nodup)
    (hr : r ∈ (a.merge b).rules) (hs : s ∈ (a.merge b).rules) :
    (a.merge b).DependsOn r s ↔ JointlyDependsOn a b r.tag s.tag := by
  have hlooks : (a.merge b).LooksAt r.tag s.tag ↔ s.tag ∈ r.dependencies := by
    constructor
    · rintro ⟨r', hr', htag, hs'⟩
      obtain rfl : r' = r := List.inj_on_of_nodup_map (nodup_tags_merge hnd) hr' hr htag
      exact hs'
    · intro hs'
      exact ⟨r, hr, rfl, hs'⟩
  rw [JointlyDependsOn, ← looksAt_merge, ← hasRule_merge, ← hasRule_merge, hlooks,
    Rule.mem_dependencies]
  constructor
  · rintro ⟨-, -, hdep⟩
    exact ⟨hdep, hasRule_iff.2 ⟨r, hr, rfl⟩, hasRule_iff.2 ⟨s, hs, rfl⟩⟩
  · rintro ⟨hdep, -, -⟩
    exact ⟨hr, hs, hdep⟩

theorem transGen_of_jointly (hnd : (a.rules.map (·.tag)).Nodup)
    (h : TransGen (JointlyDependsOn a b) t u) {r s : Rule} (hr : r ∈ (a.merge b).rules)
    (hs : s ∈ (a.merge b).rules) (hrt : r.tag = t) (hsu : s.tag = u) :
    TransGen (a.merge b).DependsOn r s := by
  induction h generalizing s with
  | single h =>
    subst hrt hsu
    exact .single ((dependsOn_merge_iff hnd hr hs).2 h)
  | tail _ h ih =>
    subst hsu
    obtain ⟨s', hs', rfl⟩ := hasRule_iff.1 (hasRule_merge.2 h.2.1)
    exact (ih hs' rfl).tail ((dependsOn_merge_iff hnd hs' hs).2 h)

/-- A merged catalog has a cycle where the two graphs have one together. -/
theorem acyclic_merge_iff (hnd : (a.rules.map (·.tag)).Nodup) :
    (a.merge b).Acyclic ↔ ¬ ∃ t, TransGen (JointlyDependsOn a b) t t := by
  constructor
  · rintro hacyclic ⟨t, ht⟩
    obtain ⟨u, -, hut⟩ := TransGen.tail'_iff.1 ht
    obtain ⟨r, hr, hrt⟩ := hasRule_iff.1 (hasRule_merge.2 hut.2.2)
    exact hacyclic r (transGen_of_jointly hnd ht hr hr hrt hrt)
  · intro hno r hr
    refine hno ⟨r.tag, TransGen.lift (·.tag) (fun r s hrs => ?_) r r hr⟩
    exact (dependsOn_merge_iff hnd hrs.1 hrs.2.1).1 hrs

/-! ## Shape and regular expressions -/

theorem shapeFault?_merge (ha : a.shapeFault? = none) (hb : b.shapeFault? = none) :
    (a.merge b).shapeFault? = none := by
  rw [Catalog.shapeFault?, shapeFaultFrom_eq_none_iff] at ha hb ⊢
  refine ⟨nodup_tags_merge ha.1, fun r hr => ⟨List.not_mem_nil, ?_⟩⟩
  exact forall_mem_merge (fun r hr => (ha.2 r hr).2) (fun r hr => (hb.2 r hr).2)
    (fun _ _ => .extend) r hr

theorem regexesCompile_merge [RegexLibrary] (ha : a.RegexesCompile) (hb : b.RegexesCompile) :
    (a.merge b).RegexesCompile := by
  refine forall_mem_merge ha hb fun e r he hr clause hclause => ?_
  rcases List.mem_append.1 hclause with hclause | hclause
  · exact he clause hclause
  · exact hr clause hclause

/-! ## The order of evaluation -/

theorem index?_eq_lastIndex?_outline (c : Catalog) (t : Tag) :
    c.index? t = lastIndex? (·.1 == t) (c.rules.map Rule.outline) := by
  rw [index?, lastIndex?_map]
  rfl

theorem tagAt?_eq_outline (c : Catalog) (i : Nat) :
    c.tagAt? i = ((c.rules.map Rule.outline)[i]?).map (·.1) := by
  rw [tagAt?, List.getElem?_map, Option.map_map]
  rfl

theorem waiting_eq_foldlM_indices (c : Catalog) :
    c.waiting = (c.rules.map c.dependencyIndices).zipIdx.foldlM
      (fun w (x : List Nat × Nat) => w.note x.2 x.1)
      ⟨Array.replicate c.rules.length 0, Array.replicate c.rules.length []⟩ := by
  rw [waiting, List.zipIdx_map, List.foldlM_map]
  rfl

section
variable (h : c.rules.map Rule.outline = d.rules.map Rule.outline)
include h

theorem length_eq_of_outline : c.rules.length = d.rules.length := by
  simpa using congrArg List.length h

theorem waiting_congr : c.waiting = d.waiting := by
  have hindex : c.index? = d.index? := by
    funext t
    rw [index?_eq_lastIndex?_outline, h, ← index?_eq_lastIndex?_outline]
  have hmap (e : Catalog) : e.rules.map e.dependencyIndices =
      (e.rules.map Rule.outline).map fun o => ascending (o.2.filterMap e.index?) := by
    rw [List.map_map]
    rfl
  rw [waiting_eq_foldlM_indices, waiting_eq_foldlM_indices, hmap, hmap, h, hindex,
    length_eq_of_outline h]

/-- Catalogs with the same tags and dependencies have the same order. -/
theorem evaluationOrder_congr {order : List Nat} (hc : c.evaluationOrder = .ok order) :
    d.evaluationOrder = .ok order := by
  have hlen := length_eq_of_outline h
  obtain ⟨w, hw, hc⟩ := bind_eq_ok_iff.1 hc
  obtain ⟨ready, hready, hc⟩ := bind_eq_ok_iff.1 hc
  obtain ⟨done, hdone, hc⟩ := bind_eq_ok_iff.1 hc
  refine bind_eq_ok_iff.2 ⟨w, waiting_congr h ▸ hw, bind_eq_ok_iff.2 ⟨ready, hlen ▸ hready,
    bind_eq_ok_iff.2 ⟨done, hdone, ?_⟩⟩⟩
  split at hc
  · rename_i hall
    rw [if_pos (hlen ▸ hall)]
    exact hc
  · obtain ⟨tags, -, hc⟩ := bind_eq_ok_iff.1 hc
    exact nomatch hc

end

/-- A catalog with the tags and dependencies of one that can be used is evaluated in its order. -/
theorem compile_of_outline [RegexLibrary] {k : Classifier}
    (h : c.rules.map Rule.outline = d.rules.map Rule.outline) (hk : c.compile = .ok k) (hshape : d.shapeFault? = none) (hregex : d.RegexesCompile) :
    ∃ m, d.compile = .ok m ∧ m.evaluationOrder = k.evaluationOrder := by
  obtain ⟨order, horder, hko⟩ := evaluationOrder_of_compile hk
  obtain ⟨m, hm, hmo⟩ := compile_of_evaluationOrder hshape hregex (evaluationOrder_congr h horder)
  refine ⟨m, hm, ?_⟩
  rw [hmo, hko]
  refine List.filterMap_congr fun i _ => ?_
  rw [tagAt?_eq_outline, tagAt?_eq_outline, h]

/-! ## Merging catalogs that can be used -/

theorem outline_merge (h : ∀ r ∈ b.rules, a.HasRule r.tag ∧ ∀ clause ∈ r.clauses, clause.tagged = []) :
    (a.merge b).rules.map Rule.outline = a.rules.map Rule.outline :=
  map_merge fun r hr => ⟨(h r hr).1, Rule.outline_extend (h r hr).2⟩

/-- **Merged catalogs are well shaped if both are. If both can be used, nothing but a cycle is in
    the way of the merged one, and there is one exactly if the two dependency graphs have one
    together. Rules for known tags that look at no tag leave the order of evaluation as it is.** -/
theorem compile_merge [RegexLibrary] (ha : a.shapeFault? = none) (hb : b.shapeFault? = none) :
    (a.merge b).shapeFault? = none ∧
    ∀ k l, a.compile = .ok k → b.compile = .ok l →
      (∀ e, (a.merge b).compile = .error e → ∃ tags, e = .order (.cycle tags)) ∧
      ((∃ tags, (a.merge b).compile = .error (.order (.cycle tags))) ↔
        ∃ t, TransGen (JointlyDependsOn a b) t t) ∧
      ((∀ r ∈ b.rules, a.HasRule r.tag ∧ ∀ clause ∈ r.clauses, clause.tagged = []) →
        ∃ m, (a.merge b).compile = .ok m ∧ m.evaluationOrder = k.evaluationOrder) := by
  have hshape := shapeFault?_merge ha hb
  refine ⟨hshape, fun k l hk hl => ?_⟩
  have hregex := regexesCompile_merge (regexesCompile_of_compile hk) (regexesCompile_of_compile hl)
  have hacyclic := acyclic_merge_iff (b := b) (nodup_tags ha)
  refine ⟨?_, ?_, fun h => compile_of_outline (outline_merge h).symm hk hshape hregex⟩
  · intro e he
    rcases compile_outcome hshape hregex with ⟨-, m, hm⟩ | ⟨-, tags, herr⟩
    · exact nomatch he.symm.trans hm
    · exact ⟨tags, Except.error.inj (he.symm.trans herr)⟩
  · rcases compile_outcome hshape hregex with ⟨hyes, m, hm⟩ | ⟨hno, herr⟩
    · refine iff_of_false ?_ (hacyclic.1 hyes)
      rintro ⟨tags, herr⟩
      exact nomatch hm.symm.trans herr
    · exact iff_of_true herr (not_not.1 fun h => hno (hacyclic.2 h))

/-- One rule, for methods with the tag `u`. -/
def following (t u : Tag) : Catalog := ⟨[{ tag := t, clauses := [{ tagged := [{ tag := u }] }] }]⟩

/-- One more name for a wrapper keeps the built-in order. Two rules of which each looks at the tag of
    the other can be used one by one, but not together. -/
theorem compile_merge_alias_and_ring :
    (∃ m, (builtinCatalog.merge schedulerAlias).compile = .ok m ∧
      m.evaluationOrder = builtinClassifier.evaluationOrder) ∧
    (∃ k l, (following .tap .eap).compile = .ok k ∧ (following .eap .tap).compile = .ok l) ∧
      ∃ tags, ((following .tap .eap).merge (following .eap .tap)).compile =
        .error (.order (.cycle tags)) := by
  constructor
  · obtain ⟨l, hl⟩ := exists_compile_of_isSome (c := schedulerAlias) (by decide +kernel)
    obtain ⟨-, hmerge⟩ := compile_merge (a := builtinCatalog) (b := schedulerAlias) (by decide)
      (by decide)
    exact (hmerge _ l compile_builtinCatalog hl).2.2 (by decide)
  · obtain ⟨k, hk⟩ := exists_compile_of_isSome (c := following .tap .eap) (by decide +kernel)
    obtain ⟨l, hl⟩ := exists_compile_of_isSome (c := following .eap .tap) (by decide +kernel)
    obtain ⟨-, hmerge⟩ := compile_merge (a := following .tap .eap) (b := following .eap .tap)
      (by decide) (by decide)
    have hforth : JointlyDependsOn (following .tap .eap) (following .eap .tap) .tap .eap := by
      simp [JointlyDependsOn, LooksAt, HasRule, following, Rule.dependencies]
    have hback : JointlyDependsOn (following .tap .eap) (following .eap .tap) .eap .tap := by
      simp [JointlyDependsOn, LooksAt, HasRule, following, Rule.dependencies]
    exact ⟨⟨k, l, hk, hl⟩, (hmerge k l hk hl).2.1.2 ⟨.tap, .tail (.single hforth) hback⟩⟩

end Catalog

end AsyncIdioms
