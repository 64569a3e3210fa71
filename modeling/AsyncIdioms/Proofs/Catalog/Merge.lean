/-
  Merged catalogs, rule by rule.

  Rules are added one after the other (`Catalog.addRule`), each one to the first rule for its tag, or
  at the end if there is none. So what is known of one addition is known of all:

  * `Catalog.HasRule`, `Catalog.HasClause` : a catalog has a rule, or a clause, for a tag;
  * `Catalog.hasRule_merge`, `Catalog.hasClause_merge` : a merged catalog has what either one has, and
    nothing else;
  * `Catalog.nodup_tags_merge` : a second rule for a tag never arises;
  * `Catalog.forall_mem_merge` : what holds of the rules of both, and stays when clauses are added,
    holds of the merged rules;
  * `Catalog.map_merge` : what added clauses do not change is read off the first catalog.
-/
import Mathlib.Data.List.Nodup
import AsyncIdioms.Catalog.Basic

namespace AsyncIdioms

/-- The rule with the clauses of another one behind its own. -/
def Rule.extend (e r : Rule) : Rule := { e with clauses := e.clauses ++ r.clauses }

@[simp]
theorem Rule.tag_extend (e r : Rule) : (e.extend r).tag = e.tag := rfl

@[simp]
theorem Rule.clauses_extend (e r : Rule) : (e.extend r).clauses = e.clauses ++ r.clauses := rfl

theorem Rule.dependencies_extend (e r : Rule) :
    (e.extend r).dependencies = e.dependencies ++ r.dependencies := by
  simp [dependencies]

namespace Catalog

variable {α : Type} {a b : Catalog} {r : Rule} {rules : List Rule} {t : Tag} {clause : Clause}

/-- The catalog has a rule for the tag. -/
def HasRule (c : Catalog) (t : Tag) : Prop := t ∈ c.rules.map (·.tag)

instance (c : Catalog) (t : Tag) : Decidable (c.HasRule t) :=
  inferInstanceAs (Decidable (t ∈ c.rules.map (·.tag)))

/-- The catalog has the clause in a rule for the tag. -/
def HasClause (c : Catalog) (t : Tag) (clause : Clause) : Prop :=
  ∃ r ∈ c.rules, r.tag = t ∧ clause ∈ r.clauses

/-! ## Adding one rule -/

theorem addRule_cons (r e : Rule) (rest : List Rule) :
    addRule r (e :: rest) = if e.tag = r.tag then e.extend r :: rest else e :: addRule r rest := rfl

/-- The tags stay as they are, and a new one comes last. -/
theorem tags_addRule (r : Rule) (rules : List Rule) : (addRule r rules).map (·.tag) =
    rules.map (·.tag) ++ if r.tag ∈ rules.map (·.tag) then [] else [r.tag] := by
  induction rules with
  | nil => simp [addRule]
  | cons e rest ih =>
    rw [addRule_cons]
    by_cases h : e.tag = r.tag
    · simp [h]
    · simp only [if_neg h, List.map_cons, ih, List.mem_cons, Ne.symm h, false_or, List.cons_append]

theorem mem_tags_addRule :
    t ∈ (addRule r rules).map (·.tag) ↔ t ∈ rules.map (·.tag) ∨ t = r.tag := by
  rw [tags_addRule]
  split
  · rename_i h
    constructor
    · intro ht
      exact .inl (by simpa using ht)
    · rintro (ht | rfl)
      · simpa using ht
      · simpa using h
  · rw [List.mem_append, List.mem_singleton]

theorem nodup_tags_addRule (h : (rules.map (·.tag)).Nodup) :
    ((addRule r rules).map (·.tag)).Nodup := by
  rw [tags_addRule]
  split
  · simpa using h
  · rename_i hr
    exact List.concat_eq_append ▸ List.Nodup.concat hr h

/-- Each rule is one that was there, the new one, or one with the clauses of the new one. -/
theorem mem_addRule {e : Rule} (h : e ∈ addRule r rules) :
    e ∈ rules ∨ e = r ∨ ∃ e₀ ∈ rules, e = e₀.extend r := by
  induction rules with
  | nil => exact .inr (.inl (by simpa [addRule] using h))
  | cons e₀ rest ih =>
    rw [addRule_cons] at h
    split at h
    · rcases List.mem_cons.1 h with rfl | h
      · exact .inr (.inr ⟨e₀, List.mem_cons_self, rfl⟩)
      · exact .inl (List.mem_cons_of_mem _ h)
    · rcases List.mem_cons.1 h with rfl | h
      · exact .inl List.mem_cons_self
      · rcases ih h with h | h | ⟨e₁, h₁, h⟩
        · exact .inl (List.mem_cons_of_mem _ h)
        · exact .inr (.inl h)
        · exact .inr (.inr ⟨e₁, List.mem_cons_of_mem _ h₁, h⟩)

theorem hasClause_cons : HasClause ⟨r :: rules⟩ t clause ↔
    r.tag = t ∧ clause ∈ r.clauses ∨ HasClause ⟨rules⟩ t clause := by
  simp [HasClause]

theorem hasClause_addRule : HasClause ⟨addRule r rules⟩ t clause ↔
    HasClause ⟨rules⟩ t clause ∨ r.tag = t ∧ clause ∈ r.clauses := by
  induction rules with
  | nil => simp [addRule, HasClause]
  | cons e rest ih =>
    rw [addRule_cons]
    split
    · rename_i h
      rw [hasClause_cons, hasClause_cons, Rule.tag_extend, Rule.clauses_extend, List.mem_append, h]
      tauto
    · rw [hasClause_cons, hasClause_cons, ih, or_assoc]

/-- What the clauses of the new rule do not change is what it was. -/
theorem map_addRule {g : Rule → α} (hr : r.tag ∈ rules.map (·.tag))
    (hg : ∀ e, g (e.extend r) = g e) : (addRule r rules).map g = rules.map g := by
  induction rules with
  | nil => simp at hr
  | cons e rest ih =>
    rw [addRule_cons]
    split
    · rw [List.map_cons, List.map_cons, hg]
    · rename_i h
      rw [List.map_cons, List.map_cons, ih]
      simpa [Ne.symm h] using hr

/-! ## Adding all rules of a catalog -/

@[simp]
theorem merge_nil (a : Catalog) : a.merge ⟨[]⟩ = a := rfl

theorem merge_cons (a : Catalog) (r : Rule) (rules : List Rule) :
    a.merge ⟨r :: rules⟩ = (Catalog.mk (addRule r a.rules)).merge ⟨rules⟩ := rfl

theorem hasRule_merge : (a.merge b).HasRule t ↔ a.HasRule t ∨ b.HasRule t := by
  obtain ⟨rules⟩ := b
  induction rules generalizing a with
  | nil => simp [HasRule]
  | cons r rules ih =>
    rw [merge_cons, ih]
    simp only [HasRule, mem_tags_addRule, List.map_cons, List.mem_cons, or_assoc]

theorem hasClause_merge :
    (a.merge b).HasClause t clause ↔ a.HasClause t clause ∨ b.HasClause t clause := by
  obtain ⟨rules⟩ := b
  induction rules generalizing a with
  | nil => simp [HasClause]
  | cons r rules ih => rw [merge_cons, ih, hasClause_addRule, hasClause_cons, or_assoc]

theorem nodup_tags_merge (h : (a.rules.map (·.tag)).Nodup) :
    ((a.merge b).rules.map (·.tag)).Nodup := by
  obtain ⟨rules⟩ := b
  induction rules generalizing a with
  | nil => exact h
  | cons r rules ih => exact ih (nodup_tags_addRule h)

theorem forall_mem_merge {P : Rule → Prop} (ha : ∀ r ∈ a.rules, P r) (hb : ∀ r ∈ b.rules, P r)
    (hextend : ∀ e r, P e → P r → P (e.extend r)) : ∀ r ∈ (a.merge b).rules, P r := by
  obtain ⟨rules⟩ := b
  induction rules generalizing a with
  | nil => exact ha
  | cons r rules ih =>
    obtain ⟨hr, hrules⟩ := List.forall_mem_cons.1 hb
    refine ih (fun e he => ?_) hrules
    rcases mem_addRule he with he | rfl | ⟨e₀, he₀, rfl⟩
    · exact ha e he
    · exact hr
    · exact hextend e₀ r (ha e₀ he₀) hr

theorem map_merge {g : Rule → α} (hb : ∀ r ∈ b.rules, a.HasRule r.tag ∧ ∀ e, g (e.extend r) = g e) :
    (a.merge b).rules.map g = a.rules.map g := by
  obtain ⟨rules⟩ := b
  induction rules generalizing a with
  | nil => rfl
  | cons r rules ih =>
    obtain ⟨⟨hr, hg⟩, hrules⟩ := List.forall_mem_cons.1 hb
    rw [merge_cons, ih fun s hs => ?_]
    · exact map_addRule hr hg
    · exact ⟨mem_tags_addRule.2 (.inl (hrules s hs).1), (hrules s hs).2⟩

end Catalog

end AsyncIdioms
