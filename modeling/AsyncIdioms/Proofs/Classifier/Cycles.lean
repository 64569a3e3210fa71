/-
  Which rules are reported when rules wait for each other.

  The rules that are left when no more can be taken are those from which dependencies lead to a cycle;
  the others can be resolved one after the other:

  * `Catalog.Resolvable` : all rules that the rule depends on can be resolved;
    `Catalog.Resolvable.not_leadsToCycle` : from such a rule, no way leads to a cycle;
  * `Catalog.resolvable_of_mem`, `Catalog.not_mem_iff_leadsToCycle` : the rules that are taken, and
    those that are left;
  * `Catalog.cyclicTags` : the tags of the rules from which one comes to a cycle;
  * `Catalog.compile_names_cycles` : these are reported, in the order of the catalog.
-/
import AsyncIdioms.Proofs.Classifier.Compile

namespace AsyncIdioms.Catalog

open Relation

variable {α : Type} {c : Catalog} {order : List Nat} {r : Rule}

/-! ## Rules that can be resolved -/

variable (c) in
/-- All rules that the rule depends on can be resolved, and so can the rule. -/
inductive Resolvable : Rule → Prop where
  | mk {r : Rule} (h : ∀ s, c.DependsOn r s → Resolvable s) : Resolvable r

theorem Resolvable.not_leadsToCycle (h : c.Resolvable r) : ¬ c.LeadsToCycle r := by
  induction h with
  | mk _ ih =>
    rintro ⟨s, hrs, hs⟩
    rcases ReflTransGen.cases_head hrs with rfl | ⟨t, hrt, hts⟩
    · -- the rule is on the cycle, and so is the next one
      obtain ⟨t, hrt, htr⟩ := TransGen.head'_iff.1 hs
      exact ih t hrt ⟨_, htr, hs⟩
    · exact ih t hrt ⟨s, hts, hs⟩

section
variable (hnd : (c.rules.map (·.tag)).Nodup) (hex : c.Exhausted order)
include hnd hex

/-- Rules that are taken can be resolved, one after the other. -/
theorem resolvable_of_mem {i : Nat} (hi : i ∈ order) (hr : c.rules[i]? = some r) :
    c.Resolvable r := by
  suffices h : ∀ before after, order = before ++ after → ∀ i ∈ before, ∀ r, c.rules[i]? = some r →
      c.Resolvable r from h order [] (by simp) i hi r hr
  intro before
  induction before using List.reverseRecOn with
  | nil => simp
  | append_singleton before k ih =>
    intro after heq i hi r hr
    have heq' : order = before ++ k :: after := by simpa using heq
    rcases List.mem_append.1 hi with hi | hi
    · exact ih (k :: after) heq' i hi r hr
    · obtain rfl := List.mem_singleton.1 hi
      refine .mk fun s hrs => ?_
      obtain ⟨j, hs⟩ := List.mem_iff_getElem?.1 hrs.2.1
      have hj : j ∈ before := (hex.behind before i after heq').2 j ((dependsOn_iff hnd hr hs).1 hrs)
      exact ih (i :: after) heq' j hj s hs

/-- The rules that are left are those from which one comes to a cycle. -/
theorem not_mem_iff_leadsToCycle {i : Nat} (hr : c.rules[i]? = some r) :
    i ∉ order ↔ c.LeadsToCycle r := by
  constructor
  · exact leadsToCycle_of_not_mem hnd hex hr
  · intro hcycle hi
    exact (resolvable_of_mem hnd hex hi hr).not_leadsToCycle hcycle

end

/-! ## Their tags -/

variable (c) in
open Classical in
/-- The tags of the rules from which one comes to a cycle, in the order of the catalog. -/
noncomputable def cyclicTags : List Tag := (c.rules.filter fun r => c.LeadsToCycle r).map (·.tag)

/-- Members can be selected by number as well. -/
theorem filterMap_filter_range {xs : List α} {p : α → Bool} {q : Nat → Bool}
    (h : ∀ i x, xs[i]? = some x → q i = p x) :
    ((List.range xs.length).filter q).filterMap (xs[·]?) = xs.filter p := by
  conv_rhs => rw [← filterMap_getElem?_range xs]
  rw [List.filter_filterMap, List.filterMap_filter]
  refine List.filterMap_congr fun i _ => ?_
  cases hx : xs[i]? with
  | none => simp
  | some x => simp [h i x hx, Option.filter]

theorem tagsOutside_eq (hnd : (c.rules.map (·.tag)).Nodup) (hex : c.Exhausted order) :
    c.tagsOutside order = c.cyclicTags := by
  have htag : c.tagAt? = fun i => (c.rules[i]?).map (·.tag) := rfl
  rw [tagsOutside, cyclicTags, htag, ← List.map_filterMap, filterMap_filter_range]
  intro i r hr
  rw [decide_eq_decide]
  exact not_mem_iff_leadsToCycle hnd hex hr

theorem mem_cyclicTags_iff (hnd : (c.rules.map (·.tag)).Nodup) (hr : r ∈ c.rules) :
    r.tag ∈ c.cyclicTags ↔ c.LeadsToCycle r := by
  simp only [cyclicTags, List.mem_map, List.mem_filter, decide_eq_true_eq]
  constructor
  · rintro ⟨s, ⟨hs, hcycle⟩, htag⟩
    exact List.inj_on_of_nodup_map hnd hs hr htag ▸ hcycle
  · intro hcycle
    exact ⟨r, ⟨hr, hcycle⟩, rfl⟩

theorem nodup_cyclicTags (hnd : (c.rules.map (·.tag)).Nodup) : c.cyclicTags.Nodup :=
  hnd.sublist (List.filter_sublist.map _)

/-! ## The report -/

section
variable [RegexLibrary]

theorem compile_of_not_acyclic (hshape : c.shapeFault? = none) (hregex : c.RegexesCompile)
    (hcyclic : ¬ c.Acyclic) : c.compile = .error (.order (.cycle c.cyclicTags)) := by
  obtain ⟨prepared, hp⟩ := hregex.exists_prepared
  obtain ⟨order, hex, hcompile⟩ := compile_spec hshape hp
  rw [hcompile, ← tagsOutside_eq (nodup_tags hshape) hex]
  refine if_neg fun hlen => ?_
  rw [if_pos hlen] at hcompile
  obtain ⟨hperm, hresp⟩ := order_of_compile hcompile
  exact hcyclic (acyclic_of_respects hresp fun r hr => hperm.mem_iff.2 (List.mem_map_of_mem hr))

/-- **If rules wait for each other, those are named from which dependencies lead to a cycle**, each one
    once and in the order of the catalog. So every rule on a cycle is named, and none whose
    dependencies can all be resolved. -/
theorem compile_names_cycles (hshape : c.shapeFault? = none) (hregex : c.RegexesCompile)
    (hcyclic : ¬ c.Acyclic) :
    ∃ e, c.compile = .error e ∧ e = .order (.cycle c.cyclicTags) ∧
      e.message = "dependency cycle among rules: " ++ ", ".intercalate (c.cyclicTags.map (·.name)) ∧
      c.cyclicTags.Nodup ∧
      (∀ r ∈ c.rules, r.tag ∈ c.cyclicTags ↔ c.LeadsToCycle r) ∧
      (∀ r, TransGen c.DependsOn r r → r.tag ∈ c.cyclicTags) ∧
      ∀ r ∈ c.rules, (∀ s, c.DependsOn r s → c.Resolvable s) → r.tag ∉ c.cyclicTags := by
  have hnd := nodup_tags hshape
  refine ⟨_, compile_of_not_acyclic hshape hregex hcyclic, rfl, rfl, nodup_cyclicTags hnd,
    fun r hr => mem_cyclicTags_iff hnd hr, fun r hcycle => ?_, fun r hr hdeps => ?_⟩
  · obtain ⟨s, hrs, -⟩ := TransGen.head'_iff.1 hcycle
    exact (mem_cyclicTags_iff hnd hrs.1).2 ⟨r, .refl, hcycle⟩
  · rw [mem_cyclicTags_iff hnd hr]
    exact (Resolvable.mk hdeps).not_leadsToCycle

end

/-- Two rules that look at each other, a rule that looks at itself and one that looks at such a rule are
    named; a rule beside them, which one of them looks at too, and the rule that looks at it are not. -/
theorem compile_names_cycles_tangle :
    let c : Catalog := ⟨[lookingAt .apmEnd [.tap], lookingAt .tap [.eap], lookingAt .taskCreation [],
      lookingAt .eap [.taskCreation, .tap], lookingAt .apmBegin [.taskCreation, .parallelFor],
      lookingAt .threadStart [.threadStart]]⟩
    c.shapeFault? = none ∧ c.RegexesCompile ∧ ¬ c.Acyclic ∧
      c.cyclicTags = [.apmEnd, .tap, .eap, .threadStart] := by
  intro c
  have hshape : c.shapeFault? = none := by decide
  have hregex : c.RegexesCompile := regexesCompile_of_no_regex (by decide)
  have hself : c.DependsOn (lookingAt .threadStart [.threadStart])
      (lookingAt .threadStart [.threadStart]) := by
    rw [DependsOn]
    decide
  have hcyclic : ¬ c.Acyclic := fun h => h _ (.single hself)
  have hnamed : c.compile.map Classifier.evaluationOrder =
      .error (.order (.cycle [.apmEnd, .tap, .eap, .threadStart])) := by decide +kernel
  obtain ⟨e, herror, rfl, -⟩ := compile_names_cycles hshape hregex hcyclic
  rw [herror] at hnamed
  exact ⟨hshape, hregex, hcyclic, OrderFault.cycle.inj (CompileError.order.inj
    (Except.error.inj hnamed))⟩

end AsyncIdioms.Catalog
