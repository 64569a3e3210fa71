/-
  The order in which a catalog is written does not count.

  A catalog is rearranged by writing its rules in another order, and in these the clauses, the
  conditions and the values (`Catalog.Rearranged`). What preparing and evaluating ask about a catalog
  are questions of membership, and have the same answer for a rearranged one:

  * `PermBy` : lists with related members in any order;
  * `Catalog.Rearranged.shapeFault?`, `.regexesCompile`, `.respects` : what a catalog needs to be used;
  * `Catalog.compile_ok_iff` : and nothing else is needed;
  * `Catalog.Rearranged.describes` : the sets of tags that a catalog describes;
  * `Catalog.analyze_rearranged` : rearranged catalogs can be used alike, and classify alike.
-/
import AsyncIdioms.Proofs.Classifier.Meaning

namespace AsyncIdioms

variable {α β : Type}

/-! ## Rearranged lists -/

/-- The second list has the members of the first one in any order, each one in a related form. -/
def PermBy (R : α → α → Prop) (xs ys : List α) : Prop := ∃ zs, xs.Perm zs ∧ List.Forall₂ R zs ys

namespace PermBy

variable {R : α → α → Prop} {xs ys : List α}

theorem symm (hR : ∀ {x y}, R x y → R y x) (h : PermBy R xs ys) : PermBy R ys xs := by
  obtain ⟨zs, hperm, hrel⟩ := h
  obtain ⟨ws, hrel', hperm'⟩ := List.perm_comp_forall₂ hperm hrel
  refine ⟨ws, hperm'.symm, List.Forall₂.flip (hrel'.imp fun x y hxy => ?_)⟩
  exact hR hxy

theorem exists_of_mem (h : PermBy R xs ys) {x : α} (hx : x ∈ xs) : ∃ y ∈ ys, R x y := by
  obtain ⟨zs, hperm, hrel⟩ := h
  obtain ⟨i, hi⟩ := List.mem_iff_getElem?.1 (hperm.mem_iff.1 hx)
  rcases forall₂_getElem? hrel i with ⟨hnone, -⟩ | ⟨z, y, hz, hy, hzy⟩
  · simp [hi] at hnone
  · obtain rfl : x = z := Option.some.inj (hi.symm.trans hz)
    exact ⟨y, List.mem_of_getElem? hy, hzy⟩

theorem length_eq (h : PermBy R xs ys) : xs.length = ys.length := by
  obtain ⟨zs, hperm, hrel⟩ := h
  rw [hperm.length_eq, hrel.length_eq]

theorem isEmpty_eq (h : PermBy R xs ys) : xs.isEmpty = ys.isEmpty := by
  rw [Bool.eq_iff_iff, List.isEmpty_iff, List.isEmpty_iff, ← List.length_eq_zero_iff,
    ← List.length_eq_zero_iff, h.length_eq]

/-- What related members have in common is permuted. -/
theorem map_perm {g : α → β} (hg : ∀ x y, R x y → g x = g y) (h : PermBy R xs ys) :
    (xs.map g).Perm (ys.map g) := by
  obtain ⟨zs, hperm, hrel⟩ := h
  have hmap : zs.map g = ys.map g := by
    clear hperm
    induction hrel with
    | nil => rfl
    | cons hxy _ ih => rw [List.map_cons, List.map_cons, hg _ _ hxy, ih]
  exact hmap ▸ hperm.map g

theorem reverse_map {g : α → α} (hg : ∀ x, R x (g x)) : PermBy R xs (xs.map g).reverse := by
  refine ⟨xs.reverse, (List.reverse_perm xs).symm, ?_⟩
  rw [← List.map_reverse, List.forall₂_map_right_iff, List.forall₂_same]
  exact fun x _ => hg x

end PermBy

/-! ## Rearranged catalogs -/

/-- The values stand in any order. -/
structure TextCondition.Rearranged (t u : TextCondition) : Prop where
  subject : t.subject = u.subject
  op : t.op = u.op
  value : t.value = u.value
  values : t.values.Perm u.values
  negate : t.negate = u.negate
  ignoreCase : t.ignoreCase = u.ignoreCase

/-- The conditions stand in any order. -/
structure Clause.Rearranged (p q : Clause) : Prop where
  returnsVoid : p.returnsVoid = q.returnsVoid
  returnsTask : p.returnsTask = q.returnsTask
  hasDeclaration : p.hasDeclaration = q.hasDeclaration
  text : PermBy TextCondition.Rearranged p.text q.text
  tagged : p.tagged.Perm q.tagged

/-- The clauses stand in any order. -/
structure Rule.Rearranged (r s : Rule) : Prop where
  tag : r.tag = s.tag
  description : r.description = s.description
  clauses : PermBy Clause.Rearranged r.clauses s.clauses

/-- The rules stand in any order. -/
def Catalog.Rearranged (c d : Catalog) : Prop := PermBy Rule.Rearranged c.rules d.rules

theorem TextCondition.Rearranged.symm {t u : TextCondition} (h : t.Rearranged u) : u.Rearranged t :=
  ⟨h.subject.symm, h.op.symm, h.value.symm, h.values.symm, h.negate.symm, h.ignoreCase.symm⟩

theorem Clause.Rearranged.symm {p q : Clause} (h : p.Rearranged q) : q.Rearranged p :=
  ⟨h.returnsVoid.symm, h.returnsTask.symm, h.hasDeclaration.symm,
    h.text.symm TextCondition.Rearranged.symm, h.tagged.symm⟩

theorem Rule.Rearranged.symm {r s : Rule} (h : r.Rearranged s) : s.Rearranged r :=
  ⟨h.tag.symm, h.description.symm, h.clauses.symm Clause.Rearranged.symm⟩

theorem Catalog.Rearranged.symm {c d : Catalog} (h : c.Rearranged d) : d.Rearranged c :=
  PermBy.symm Rule.Rearranged.symm h

theorem TextCondition.Rearranged.mem_allValues {t u : TextCondition} (h : t.Rearranged u)
    {s : String} : s ∈ u.allValues ↔ s ∈ t.allValues := by
  rw [TextCondition.allValues, TextCondition.allValues, List.mem_append, List.mem_append, h.value,
    h.values.mem_iff]

/-! ## What a catalog needs -/

theorem Clause.Rearranged.wellShaped {p q : Clause} (h : p.Rearranged q) (hp : p.WellShaped) :
    q.WellShaped := by
  refine ⟨?_, fun u hu hnil => ?_⟩
  · rw [← hp.1, Clause.isUnconstrained, Clause.isUnconstrained, h.returnsVoid, h.returnsTask,
      h.hasDeclaration, h.text.isEmpty_eq, h.tagged.isEmpty_eq]
  · obtain ⟨t, ht, hut⟩ := (h.text.symm TextCondition.Rearranged.symm).exists_of_mem hu
    obtain ⟨s, hs⟩ := List.exists_mem_of_ne_nil _ (hp.2 t ht)
    have hmem := hut.mem_allValues.1 hs
    simp [hnil] at hmem

theorem Rule.Rearranged.wellShaped {r s : Rule} (h : r.Rearranged s) (hr : r.WellShaped) :
    s.WellShaped := by
  refine ⟨fun hnil => hr.1 ?_, fun q hq => ?_⟩
  · rw [← List.isEmpty_iff] at hnil ⊢
    rw [h.clauses.isEmpty_eq, hnil]
  · obtain ⟨p, hp, hqp⟩ := (h.clauses.symm Clause.Rearranged.symm).exists_of_mem hq
    exact hqp.symm.wellShaped (hr.2 p hp)

namespace Catalog

variable {c d : Catalog} {f : Facts} {T : TagSet}

theorem Rearranged.shapeFault? (h : c.Rearranged d) (hc : c.shapeFault? = none) :
    d.shapeFault? = none := by
  rw [Catalog.shapeFault?, shapeFaultFrom_eq_none_iff] at hc ⊢
  have htags : (c.rules.map (·.tag)).Perm (d.rules.map (·.tag)) :=
    PermBy.map_perm (R := Rule.Rearranged) (fun _ _ hrs => hrs.tag) h
  refine ⟨htags.nodup_iff.1 hc.1, fun s hs => ?_⟩
  obtain ⟨r, hr, hsr⟩ := PermBy.exists_of_mem h.symm hs
  exact ⟨List.not_mem_nil, hsr.symm.wellShaped (hc.2 r hr).2⟩

/-- Dependencies are a matter of tags, so that an order of tags serves both catalogs. -/
theorem Rearranged.respects (h : c.Rearranged d) {tags : List Tag} (hc : c.Respects tags) :
    d.Respects tags := by
  rintro before t after heq s s' ⟨hs, hs', q, hq, x, hx, htag⟩ hst
  obtain ⟨r, hr, hsr⟩ := PermBy.exists_of_mem h.symm hs
  obtain ⟨r', hr', hsr'⟩ := PermBy.exists_of_mem h.symm hs'
  obtain ⟨p, hp, hqp⟩ := hsr.clauses.exists_of_mem hq
  rw [hsr'.tag] at htag ⊢
  exact hc before t after heq r r' ⟨hr, hr', p, hp, x, hqp.tagged.mem_iff.1 hx, htag⟩
    (hsr.tag ▸ hst)

section
variable [RegexLibrary]

theorem Rearranged.regexesCompile (h : c.Rearranged d) (hc : c.RegexesCompile) :
    d.RegexesCompile := by
  intro s hs q hq u hu hop pattern hpattern
  obtain ⟨r, hr, hsr⟩ := PermBy.exists_of_mem h.symm hs
  obtain ⟨p, hp, hqp⟩ := hsr.clauses.exists_of_mem hq
  obtain ⟨t, ht, hut⟩ := hqp.text.exists_of_mem hu
  rw [hut.ignoreCase]
  exact hc r hr p hp t ht (hut.op ▸ hop) pattern (hut.mem_allValues.2 hpattern)

theorem regexesCompile_of_compile {k : Classifier} (h : c.compile = .ok k) : c.RegexesCompile := by
  intro r hr clause hclause t ht hop pattern hpattern
  obtain ⟨p, -, hp⟩ := exists_prepared_rule h hr
  rw [Rule.prepare] at hp
  split at hp
  · rename_i clauses hclauses
    obtain ⟨pc, -, hpc⟩ := exists_of_mem_mapM hclauses hclause
    obtain ⟨tests, htests, -⟩ := bind_eq_ok_iff.1 hpc
    obtain ⟨test, -, htest⟩ := exists_of_mem_mapM htests ht
    obtain ⟨m, hm, -⟩ := bind_eq_ok_iff.1 htest
    rw [TextCondition.matcher, hop] at hm
    obtain ⟨patterns, hpatterns, -⟩ := bind_eq_ok_iff.1 hm
    obtain ⟨regex, -, hregex⟩ := exists_of_mem_mapM hpatterns hpattern
    rw [compileRegex_eq_ok_iff.1 hregex]
    rfl
  · contradiction

/-- A catalog can be used if its shape and its regular expressions are fine, and if there is an
    order of tags in which each rule stands behind those it depends on. -/
theorem compile_ok_iff : (∃ k, c.compile = .ok k) ↔ c.shapeFault? = none ∧ c.RegexesCompile ∧
    ∃ tags, c.Respects tags ∧ ∀ r ∈ c.rules, r.tag ∈ tags := by
  constructor
  · rintro ⟨k, hk⟩
    obtain ⟨hperm, hresp⟩ := order_of_compile hk
    exact ⟨shapeFault?_of_compile hk, regexesCompile_of_compile hk, k.evaluationOrder, hresp,
      fun r hr => hperm.mem_iff.2 (List.mem_map_of_mem hr)⟩
  · rintro ⟨hshape, hregex, tags, hresp, hall⟩
    rcases compile_outcome hshape hregex with ⟨-, hk⟩ | ⟨hcyclic, -⟩
    · exact hk
    · exact absurd (acyclic_of_respects hresp hall) hcyclic

theorem Rearranged.exists_compile (h : c.Rearranged d) (hc : ∃ k, c.compile = .ok k) :
    ∃ k, d.compile = .ok k := by
  obtain ⟨hshape, hregex, tags, hresp, hall⟩ := compile_ok_iff.1 hc
  refine compile_ok_iff.2 ⟨h.shapeFault? hshape, h.regexesCompile hregex, tags, h.respects hresp, ?_⟩
  intro s hs
  obtain ⟨r, hr, hsr⟩ := PermBy.exists_of_mem h.symm hs
  exact hsr.tag ▸ hall r hr

end

end Catalog

/-! ## What a catalog describes -/

section
variable [RegexLibrary] {c d : Catalog} {f : Facts} {T : TagSet}

theorem TextCondition.Rearranged.relates {t u : TextCondition} (h : t.Rearranged u)
    {text value : String} (hrel : t.Relates text value) : u.Relates text value := by
  have hfold : t.fold = u.fold := by
    funext s
    rw [TextCondition.fold, TextCondition.fold, h.ignoreCase]
  rw [TextCondition.Relates] at hrel ⊢
  rw [← h.op, ← h.ignoreCase, ← hfold]
  exact hrel

theorem TextCondition.Rearranged.holds {t u : TextCondition} (h : t.Rearranged u) (ht : t.Holds f) :
    u.Holds f := by
  rw [TextCondition.Holds] at ht ⊢
  rw [← h.subject, ← h.negate, ← ht]
  constructor
  · rintro ⟨text, htext, value, hvalue, hrel⟩
    exact ⟨text, htext, value, h.mem_allValues.1 hvalue, h.symm.relates hrel⟩
  · rintro ⟨text, htext, value, hvalue, hrel⟩
    exact ⟨text, htext, value, h.mem_allValues.2 hvalue, h.relates hrel⟩

theorem Clause.Rearranged.holds {p q : Clause} (h : p.Rearranged q) (hp : p.Holds f T) :
    q.Holds f T where
  returnsVoid := h.returnsVoid ▸ hp.returnsVoid
  returnsTask := h.returnsTask ▸ hp.returnsTask
  hasDeclaration := h.hasDeclaration ▸ hp.hasDeclaration
  text u hu := by
    obtain ⟨t, ht, hut⟩ := h.symm.text.exists_of_mem hu
    exact hut.symm.holds (hp.text t ht)
  tagged x hx := hp.tagged x (h.tagged.mem_iff.2 hx)

theorem Catalog.Rearranged.gives (h : c.Rearranged d) {t : Tag} (hc : c.Gives f T t) :
    d.Gives f T t := by
  obtain ⟨r, hr, hrt, p, hp, hholds⟩ := hc
  obtain ⟨s, hs, hrs⟩ := PermBy.exists_of_mem h hr
  obtain ⟨q, hq, hpq⟩ := hrs.clauses.exists_of_mem hp
  exact ⟨s, hs, hrs.tag ▸ hrt, q, hq, hpq.holds hholds⟩

theorem Catalog.Rearranged.describes (h : c.Rearranged d) (hc : c.Describes f T) :
    d.Describes f T :=
  fun t => (hc t).trans ⟨h.gives, h.symm.gives⟩

end

/-! ## Rearranged catalogs classify alike -/

/-- **The order in which a catalog is written does not count**: a rearranged catalog can be used
    exactly if the catalog can, and then it says the same of every method. -/
theorem Catalog.analyze_rearranged [RegexLibrary] {c d : Catalog} (h : c.Rearranged d) :
    ((∃ k, c.compile = .ok k) ↔ ∃ l, d.compile = .ok l) ∧
      ∀ k l, c.compile = .ok k → d.compile = .ok l → ∀ s : Symbol, k.analyze s = l.analyze s := by
  refine ⟨⟨h.exists_compile, h.symm.exists_compile⟩, fun k l hk hl s => ?_⟩
  -- both sets of tags are described by `d`, which describes one only
  have htags : k.tagsOf s.facts = l.tagsOf s.facts :=
    (h.describes (describes_tagsOf hk)).unique hl (describes_tagsOf hl)
  rw [Classifier.analyze, Classifier.analyze, htags]

/-- The catalog with its rules, clauses, conditions and values in reverse. -/
def Catalog.reversed (c : Catalog) : Catalog where
  rules := (c.rules.map fun r =>
    { r with
      clauses := (r.clauses.map fun p =>
        { p with
          text := (p.text.map fun t => { t with values := t.values.reverse }).reverse
          tagged := p.tagged.reverse }).reverse }).reverse

theorem Catalog.rearranged_reversed (c : Catalog) : c.Rearranged c.reversed :=
  .reverse_map fun _ => ⟨rfl, rfl, .reverse_map fun p => ⟨rfl, rfl, rfl,
    .reverse_map fun t => ⟨rfl, rfl, rfl, (List.reverse_perm t.values).symm, rfl, rfl⟩,
    (List.reverse_perm p.tagged).symm⟩⟩

/-- In the built-in catalog rules stand before those that they look at, in reverse behind them. -/
theorem Catalog.analyze_rearranged_builtin :
    builtinCatalog.Rearranged builtinCatalog.reversed ∧
      ∃ l, builtinCatalog.reversed.compile = .ok l ∧
        ∀ s : Symbol, builtinClassifier.analyze s = l.analyze s := by
  have hre := builtinCatalog.rearranged_reversed
  obtain ⟨hiff, hsame⟩ := analyze_rearranged hre
  obtain ⟨l, hl⟩ := hiff.1 ⟨_, compile_builtinCatalog⟩
  exact ⟨hre, l, hl, hsame _ l compile_builtinCatalog hl⟩

end AsyncIdioms
