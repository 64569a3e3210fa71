/-
  What a catalog means.

  A catalog describes sets of tags: a tag belongs to the set exactly if some clause of a rule for it
  holds, where conditions on other tags are read against the same set (`Catalog.Describes`). Nothing
  is said about an order of evaluation, and for a catalog with cycles there may be no such set or
  several.

  * `TextCondition.Holds`, `TagCondition.Holds`, `Clause.Holds` : when conditions hold;
  * `Clause.holds_iff` : prepared clauses are evaluated accordingly;
  * `Catalog.Describes.mem_iff_of_agree` : what two catalogs describe is the same where they agree;
  * `Catalog.Describes.unique` : an order that respects the dependencies leaves room for one set only;
  * `Classifier.tagsOf_iff` : the tags that are found rule by rule are what the rules say of all of
    them together, since no rule changes the answer of an earlier one;
  * `Catalog.classify_describes_unique` : classification finds the one set that the catalog describes.
-/
import AsyncIdioms.Catalog.Builtin
import AsyncIdioms.Proofs.Classifier.Compile

namespace AsyncIdioms

open Text Relation

section
variable [RegexLibrary] {c : Catalog} {f : Facts} {T : TagSet}

/-! ## Conditions -/

/-- The text as the condition compares it. -/
def TextCondition.fold (t : TextCondition) (s : String) : String :=
  if t.ignoreCase then lowercase s else s

/-- The text stands in the relation of the condition to the value. -/
def TextCondition.Relates (t : TextCondition) (text value : String) : Prop :=
  match t.op with
  | .contains => (t.fold value).toList <:+: (t.fold text).toList
  | .startsWith => (t.fold value).toList <+: (t.fold text).toList
  | .endsWith => (t.fold value).toList <:+ (t.fold text).toList
  | .equals => t.fold text = t.fold value
  | .regex => ∃ regex, RegexLibrary.compile? t.ignoreCase value = some regex ∧
      RegexLibrary.isMatch regex text = true

/-- Some text of the subject stands in the relation to some value, or none does if the condition is
    negated. -/
def TextCondition.Holds (t : TextCondition) (f : Facts) : Prop :=
  (∃ text ∈ f.texts t.subject, ∃ value ∈ t.allValues, t.Relates text value) ↔ ¬ t.negate

/-- The tag is in the set, or is not if the condition is negated. -/
def TagCondition.Holds (d : TagCondition) (T : TagSet) : Prop := d.tag ∈ T ↔ ¬ d.negate

/-- All constraints of the clause hold, given the set of all tags. -/
structure Clause.Holds (clause : Clause) (f : Facts) (T : TagSet) : Prop where
  returnsVoid : ∀ wanted ∈ clause.returnsVoid, f.returnsVoid = wanted
  returnsTask : ∀ wanted ∈ clause.returnsTask, f.returnsTask = wanted
  hasDeclaration : ∀ wanted ∈ clause.hasDeclaration, f.hasDeclaration = wanted
  text : ∀ t ∈ clause.text, t.Holds f
  tagged : ∀ d ∈ clause.tagged, d.Holds T

/-- The catalog has a rule for the tag, and one of its clauses holds. -/
def Catalog.Gives (c : Catalog) (f : Facts) (T : TagSet) (t : Tag) : Prop :=
  ∃ r ∈ c.rules, r.tag = t ∧ ∃ clause ∈ r.clauses, clause.Holds f T

/-- The set consists of the tags that the catalog gives, given this very set. -/
def Catalog.Describes (c : Catalog) (f : Facts) (T : TagSet) : Prop := ∀ t, t ∈ T ↔ c.Gives f T t

/-! ## Prepared conditions -/

theorem compileRegex_eq_ok_iff {ignoreCase : Bool} {pattern : String} {regex : RegexLibrary.Expr} :
    compileRegex ignoreCase pattern = .ok regex ↔
      RegexLibrary.compile? ignoreCase pattern = some regex := by
  rw [compileRegex]
  split <;> simp_all

theorem relates_iff {t : TextCondition} (hop : t.op ≠ .regex) {text value : String} :
    t.op.relates (t.fold text) (t.fold value) = true ↔ t.Relates text value := by
  rw [TextCondition.Relates]
  cases h : t.op with
  | contains => exact contains_iff
  | startsWith => exact startsWith_iff
  | endsWith => exact endsWith_iff
  | equals => simp [TextOp.relates]
  | regex => exact absurd h hop

theorem matcher_literal {t : TextCondition} {m : Matcher} (hop : t.op ≠ .regex)
    (h : t.matcher = .ok m) : m = .literal t.op (t.allValues.map t.fold) := by
  have hfold : t.allValues.map t.fold =
      if t.ignoreCase then t.allValues.map lowercase else t.allValues := by
    rw [show t.fold = fun s => if t.ignoreCase then lowercase s else s from rfl]
    split <;> simp
  rw [TextCondition.matcher] at h
  split at h
  · contradiction
  · rw [hfold]
    exact (Except.ok.inj h).symm

theorem accepts_iff {t : TextCondition} {m : Matcher} (h : t.matcher = .ok m) (text : String) :
    m.accepts (if t.ignoreCase && t.op != .regex then lowercase text else text) = true ↔
      ∃ value ∈ t.allValues, t.Relates text value := by
  by_cases hop : t.op = .regex
  · rw [TextCondition.matcher, hop] at h
    obtain ⟨patterns, hp, hm⟩ := bind_eq_ok_iff.1 h
    obtain rfl := Except.ok.inj hm
    simp only [hop, bne_self_eq_false, Bool.and_false, Bool.false_eq_true, if_false, Matcher.accepts,
      List.any_eq_true, mem_mapM_iff hp, compileRegex_eq_ok_iff, TextCondition.Relates]
    constructor
    · rintro ⟨regex, ⟨value, hv, hr⟩, hmatch⟩
      exact ⟨value, hv, regex, hr, hmatch⟩
    · rintro ⟨value, hv, regex, hr, hmatch⟩
      exact ⟨regex, ⟨value, hv, hr⟩, hmatch⟩
  · have hfold : (if t.ignoreCase && t.op != .regex then lowercase text else text) = t.fold text := by
      simp [TextCondition.fold, hop]
    rw [matcher_literal hop h, hfold, Matcher.accepts, List.any_map, List.any_eq_true]
    simp only [Function.comp_apply, relates_iff hop]

theorem TextCondition.holds_iff {t : TextCondition} {test : TextTest} (h : t.prepare = .ok test) :
    test.holds f = true ↔ t.Holds f := by
  obtain ⟨m, hm, htest⟩ := bind_eq_ok_iff.1 h
  obtain rfl := Except.ok.inj htest
  have hany : ((f.texts t.subject).any fun text =>
      m.accepts (if t.ignoreCase && t.op != .regex then lowercase text else text)) = true ↔
      ∃ text ∈ f.texts t.subject, ∃ value ∈ t.allValues, t.Relates text value := by
    simp only [List.any_eq_true, accepts_iff hm]
  rw [TextTest.holds, Holds, ← hany]
  cases t.negate <;> simp

omit [RegexLibrary] in
theorem TagCondition.holds_iff {d : TagCondition} : d.holds T = true ↔ d.Holds T := by
  rw [holds, Holds, TagSet.mem_def]
  cases d.negate <;> simp

omit [RegexLibrary] in
theorem wantedIs_iff {wanted : Option Bool} {flag : Bool} :
    wantedIs wanted flag = true ↔ ∀ b ∈ wanted, flag = b := by
  cases wanted with
  | none => simp [wantedIs]
  | some b => simpa [wantedIs] using eq_comm

theorem Clause.holds_iff {clause : Clause} {p : PreparedClause} (h : clause.prepare = .ok p) :
    p.holds f T = true ↔ clause.Holds f T := by
  obtain ⟨tests, ht, hp⟩ := bind_eq_ok_iff.1 h
  obtain rfl := Except.ok.inj hp
  have htext : (∀ test ∈ tests, test.holds f = true) ↔ ∀ t ∈ clause.text, t.Holds f := by
    constructor
    · intro hall t hmem
      obtain ⟨test, htest, hprepare⟩ := exists_of_mem_mapM ht hmem
      exact (TextCondition.holds_iff hprepare).1 (hall test htest)
    · intro hall test hmem
      obtain ⟨t, htext, hprepare⟩ := (mem_mapM_iff ht).1 hmem
      exact (TextCondition.holds_iff hprepare).2 (hall t htext)
  simp only [PreparedClause.holds, Bool.and_eq_true, wantedIs_iff, List.all_eq_true,
    TagCondition.holds_iff, htext]
  constructor
  · rintro ⟨⟨⟨⟨hvoid, htask⟩, hdecl⟩, htagged⟩, htext⟩
    exact ⟨hvoid, htask, hdecl, htext, htagged⟩
  · rintro ⟨hvoid, htask, hdecl, htext, htagged⟩
    exact ⟨⟨⟨⟨hvoid, htask⟩, hdecl⟩, htagged⟩, htext⟩

/-- A prepared rule gives its tag when a clause of the rule holds. -/
theorem Rule.any_holds_iff {r : Rule} {p : PreparedRule} (h : r.prepare = .ok p) :
    p.clauses.any (·.holds f T) = true ↔ ∃ clause ∈ r.clauses, clause.Holds f T := by
  rw [Rule.prepare] at h
  split at h
  · rename_i clauses hc
    obtain rfl := Except.ok.inj h
    rw [List.any_eq_true]
    constructor
    · rintro ⟨p, hp, hholds⟩
      obtain ⟨clause, hmem, hprepare⟩ := (mem_mapM_iff hc).1 hp
      exact ⟨clause, hmem, (Clause.holds_iff hprepare).1 hholds⟩
    · rintro ⟨clause, hmem, hholds⟩
      obtain ⟨p, hp, hprepare⟩ := exists_of_mem_mapM hc hmem
      exact ⟨p, hp, (Clause.holds_iff hprepare).2 hholds⟩
  · contradiction

/-! ## One set only -/

theorem Clause.Holds.congr {clause : Clause} {T' : TagSet} (h : clause.Holds f T)
    (hsame : ∀ d ∈ clause.tagged, d.tag ∈ T ↔ d.tag ∈ T') : clause.Holds f T' :=
  { h with tagged := fun d hd => (hsame d hd).symm.trans (h.tagged d hd) }

theorem Catalog.Describes.has_rule (h : c.Describes f T) {t : Tag} (ht : t ∈ T) :
    ∃ r ∈ c.rules, r.tag = t := by
  obtain ⟨r, hr, hrt, -⟩ := (h t).1 ht
  exact ⟨r, hr, hrt⟩

theorem Catalog.Gives.congr {T' : TagSet} {t : Tag} (h : c.Gives f T t)
    (hsame : ∀ r ∈ c.rules, r.tag = t → ∀ u ∈ r.dependencies, u ∈ T ↔ u ∈ T') : c.Gives f T' t := by
  obtain ⟨r, hr, hrt, clause, hclause, hholds⟩ := h
  refine ⟨r, hr, hrt, clause, hclause, hholds.congr fun d hd => ?_⟩
  exact hsame r hr hrt d.tag (Rule.mem_dependencies.2 ⟨clause, hclause, d, hd, rfl⟩)

/-- Two catalogs describe the same tags of a set `S` if they give these alike and look at no others
    for them. The induction is along an order that respects the dependencies: the rule of a tag looks
    at tags that come before it, or have no rule and are in neither set. -/
theorem Catalog.Describes.mem_iff_of_agree {d : Catalog} {T' : TagSet} {tags : List Tag}
    {S : Tag → Prop} (hresp : c.Respects tags) (hall : ∀ r ∈ c.rules, r.tag ∈ tags)
    (h : c.Describes f T) (h' : d.Describes f T')
    (hagree : ∀ t, S t → ∀ U, c.Gives f U t ↔ d.Gives f U t)
    (hclosed : ∀ r ∈ c.rules, S r.tag → ∀ u ∈ r.dependencies, S u) :
    ∀ t, S t → (t ∈ T ↔ t ∈ T') := by
  intro t
  induction hn : tags.idxOf t using Nat.strong_induction_on generalizing t with
  | _ n ih =>
  subst hn
  intro hSt
  have hsame : ∀ r ∈ c.rules, r.tag = t → ∀ u ∈ r.dependencies, u ∈ T ↔ u ∈ T' := by
    rintro r hr rfl u hu
    have hSu := hclosed r hr hSt u hu
    by_cases hrule : ∃ s ∈ c.rules, s.tag = u
    · obtain ⟨s, hs, rfl⟩ := hrule
      have hdep : c.DependsOn r s := ⟨hr, hs, Rule.mem_dependencies.1 hu⟩
      exact ih _ (hresp.idxOf_lt hall hdep) s.tag rfl hSu
    · refine iff_of_false (fun hT => hrule (h.has_rule hT)) fun hT => ?_
      obtain ⟨s, hs, hsu, -⟩ := (hagree u hSu T').2 ((h' u).1 hT)
      exact hrule ⟨s, hs, hsu⟩
  rw [h t, h' t, ← hagree t hSt]
  exact ⟨fun hgives => hgives.congr hsame,
    fun hgives => hgives.congr fun r hr hrt u hu => (hsame r hr hrt u hu).symm⟩

theorem Catalog.Describes.mem_iff {tags : List Tag} (hresp : c.Respects tags)
    (hall : ∀ r ∈ c.rules, r.tag ∈ tags) {T' : TagSet} (h : c.Describes f T) (h' : c.Describes f T') :
    ∀ t, t ∈ T ↔ t ∈ T' := fun t =>
  h.mem_iff_of_agree hresp hall h' (S := fun _ => True) (fun _ _ _ => Iff.rfl)
    (fun _ _ _ _ _ => trivial) t trivial

/-! ## Evaluation rule by rule -/

/-- Rules leave the tags of others alone. -/
theorem mem_foldl_apply : ∀ {rules : List PreparedRule} {tags : TagSet} {t : Tag},
    t ∉ rules.map (·.tag) → (t ∈ rules.foldl (PreparedRule.apply f) tags ↔ t ∈ tags)
  | [], _, _, _ => Iff.rfl
  | p :: rules, tags, t, h => by
    rw [List.map_cons, List.mem_cons, not_or] at h
    rw [List.foldl_cons, mem_foldl_apply h.2, PreparedRule.apply]
    split
    · simp [h.1]
    · rfl

section
variable {k : Classifier} (hk : c.compile = .ok k)
include hk

theorem exists_prepared_rule {r : Rule} (hr : r ∈ c.rules) : ∃ p ∈ k.rules, r.prepare = .ok p := by
  obtain ⟨prepared, order, hp, hex, hlen, hrules⟩ := Catalog.compile_eq_ok hk
  obtain ⟨p, hmem, hprepare⟩ := exists_of_mem_mapM hp hr
  obtain ⟨i, hi⟩ := List.mem_iff_getElem?.1 hmem
  have hlt : i < c.rules.length := by
    rw [(mapM_eq_ok_iff.1 hp).length_eq]
    exact (List.getElem?_eq_some_iff.1 hi).1
  refine ⟨p, ?_, hprepare⟩
  rw [hrules, List.mem_filterMap]
  exact ⟨i, (hex.perm_range hlen).mem_iff.2 (List.mem_range.2 hlt), hi⟩

theorem mem_evaluationOrder_iff {t : Tag} : t ∈ k.evaluationOrder ↔ ∃ r ∈ c.rules, r.tag = t := by
  rw [(Catalog.order_of_compile hk).1.mem_iff, List.mem_map]

theorem nodup_evaluationOrder : k.evaluationOrder.Nodup :=
  (Catalog.order_of_compile hk).1.nodup_iff.2 (Catalog.nodup_tags (Catalog.shapeFault?_of_compile hk))

/-- **What a rule finds when it is evaluated stays right**: its tag is among all tags exactly if one
    of its clauses holds for all tags. -/
theorem Classifier.tagsOf_iff {r : Rule} (hr : r ∈ c.rules) :
    r.tag ∈ k.tagsOf f ↔ ∃ clause ∈ r.clauses, clause.Holds f (k.tagsOf f) := by
  obtain ⟨p, hp, hprepare⟩ := exists_prepared_rule hk hr
  have hpt : p.tag = r.tag := Catalog.tag_of_prepare hprepare
  obtain ⟨before, after, hsplit⟩ := List.append_of_mem hp
  have horder : k.evaluationOrder = before.map (·.tag) ++ r.tag :: after.map (·.tag) := by
    simp [Classifier.evaluationOrder, hsplit, hpt]
  have hnd := horder ▸ nodup_evaluationOrder hk
  obtain ⟨-, hnd', hdisjoint⟩ := List.nodup_append.1 hnd
  have hbefore : r.tag ∉ before.map (·.tag) := fun h => hdisjoint _ h _ (List.mem_cons_self ..) rfl
  have hafter : r.tag ∉ after.map (·.tag) := (List.nodup_cons.1 hnd').1
  -- `T₀` are the tags known when the rule is evaluated
  generalize hT₀ : before.foldl (PreparedRule.apply f) .empty = T₀
  have hT : k.tagsOf f = (p :: after).foldl (PreparedRule.apply f) T₀ := by
    rw [Classifier.tagsOf, hsplit, List.foldl_append, hT₀]
  have hfound : r.tag ∈ k.tagsOf f ↔ ∃ clause ∈ r.clauses, clause.Holds f T₀ := by
    have hnot : r.tag ∉ T₀ := by simp [← hT₀, mem_foldl_apply hbefore]
    rw [hT, List.foldl_cons, mem_foldl_apply hafter, ← Rule.any_holds_iff hprepare,
      PreparedRule.apply]
    split <;> simp_all
  -- the tags that its clauses look at are settled by then
  have hsame : ∀ clause ∈ r.clauses, ∀ d ∈ clause.tagged, d.tag ∈ T₀ ↔ d.tag ∈ k.tagsOf f := by
    intro clause hclause d hd
    rw [hT, mem_foldl_apply]
    intro hmem
    rw [List.map_cons, hpt] at hmem
    obtain ⟨s, hs, hst⟩ := (mem_evaluationOrder_iff hk (t := d.tag)).1 (by simp [horder, hmem])
    have hin := (Catalog.order_of_compile hk).2 _ _ _ horder r s
      ⟨hr, hs, clause, hclause, d, hd, hst.symm⟩ rfl
    exact hdisjoint _ hin _ (hst ▸ hmem) rfl
  rw [hfound]
  constructor
  · rintro ⟨clause, hclause, hholds⟩
    exact ⟨clause, hclause, hholds.congr (hsame clause hclause)⟩
  · rintro ⟨clause, hclause, hholds⟩
    exact ⟨clause, hclause, hholds.congr fun d hd => (hsame clause hclause d hd).symm⟩

theorem Catalog.describes_tagsOf : c.Describes f (k.tagsOf f) := by
  intro t
  by_cases hrule : ∃ r ∈ c.rules, r.tag = t
  · constructor
    · intro ht
      obtain ⟨r, hr, rfl⟩ := hrule
      exact ⟨r, hr, rfl, (Classifier.tagsOf_iff hk hr).1 ht⟩
    · rintro ⟨r, hr, rfl, hholds⟩
      exact (Classifier.tagsOf_iff hk hr).2 hholds
  · refine iff_of_false ?_ fun ⟨r, hr, hrt, _⟩ => hrule ⟨r, hr, hrt⟩
    have : t ∉ k.rules.map (·.tag) := fun h => hrule ((mem_evaluationOrder_iff hk).1 h)
    simp [Classifier.tagsOf, mem_foldl_apply this]

theorem Catalog.Describes.unique {T' : TagSet} (h : c.Describes f T) (h' : c.Describes f T') : T = T' :=
  TagSet.ext (h.mem_iff (Catalog.order_of_compile hk).2
    (fun _ hr => (mem_evaluationOrder_iff hk).2 ⟨_, hr, rfl⟩) h')

/-- **Classification finds the one set of tags that the catalog describes.** -/
theorem Catalog.classify_describes_unique (s : Symbol) :
    c.Describes s.facts (k.classify s) ∧ ∀ T, c.Describes s.facts T → T = k.classify s :=
  ⟨Catalog.describes_tagsOf hk, fun _ h => h.unique hk (Catalog.describes_tagsOf hk)⟩

end

end

/-- The built-in catalog, in which rules look at the tags of others, can be used. -/
theorem Catalog.classify_describes_unique_builtin : ∃ k, builtinCatalog.compile = .ok k ∧
    ∀ s : Symbol, builtinCatalog.Describes s.facts (k.classify s) ∧
      ∀ T, builtinCatalog.Describes s.facts T → T = k.classify s := by
  have hsome : builtinCatalog.compile.toOption.isSome = true := by decide +kernel
  cases hk : builtinCatalog.compile with
  | error e => simp [hk, Except.toOption] at hsome
  | ok k => exact ⟨k, rfl, fun s => Catalog.classify_describes_unique hk s⟩

end AsyncIdioms
