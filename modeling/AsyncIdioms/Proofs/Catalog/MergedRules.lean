/-
  The rules of a merged catalog, one by one, and the laws of merging.

  The rules of the first catalog stay where they are, and behind them comes one rule for each tag that
  only the second catalog has. The first rule for a tag takes up all clauses of the second catalog for
  it:

  * `Catalog.clausesFor` : the clauses for a tag; `Catalog.firstRules` : the first rule for each tag;
  * `Catalog.extendFirsts` : clauses are put behind those of the first rule for each tag;
    `Catalog.addRule_extendFirsts` : one more rule is one more list of such clauses;
  * `Catalog.merge_rules` : the rules of a merged catalog, and that the clauses for a tag are those of
    both catalogs together;
  * `Catalog.addRule_extend`, `Catalog.addRule_comm` : adding two rules at once, and one before the
    other;
  * `Catalog.merge_assoc_empty` : merging is associative, and the empty catalog changes nothing.
-/
import Mathlib.Data.List.Induction
import Mathlib.Data.List.Perm.Basic
import AsyncIdioms.Proofs.Catalog.Merge

namespace AsyncIdioms.Catalog

variable {a b c : Catalog} {r s : Rule} {rules : List Rule} {earlier : List Tag} {t : Tag}
  {more more' : Tag → List Clause}

/-! ## The clauses for a tag -/

/-- The clauses of all rules for the tag, in order. -/
def clausesFor (c : Catalog) (t : Tag) : List Clause :=
  (c.rules.filter (·.tag = t)).flatMap (·.clauses)

/-- What the rule adds to the clauses for the tag. -/
def clausesOf (r : Rule) (t : Tag) : List Clause := if r.tag = t then r.clauses else []

theorem clausesOf_self (r : Rule) : clausesOf r r.tag = r.clauses := if_pos rfl

theorem clausesOf_of_ne (h : r.tag ≠ t) : clausesOf r t = [] := if_neg h

theorem clausesFor_cons (r : Rule) (rules : List Rule) (t : Tag) :
    clausesFor ⟨r :: rules⟩ t = clausesOf r t ++ clausesFor ⟨rules⟩ t := by
  by_cases h : r.tag = t <;> simp [clausesFor, clausesOf, h]

theorem clausesFor_concat (rules : List Rule) (r : Rule) (t : Tag) :
    clausesFor ⟨rules ++ [r]⟩ t = clausesFor ⟨rules⟩ t ++ clausesOf r t := by
  by_cases h : r.tag = t <;> simp [clausesFor, clausesOf, h]

theorem clausesFor_eq_nil (h : t ∉ rules.map (·.tag)) : clausesFor ⟨rules⟩ t = [] := by
  induction rules with
  | nil => rfl
  | cons r rules ih =>
    rw [List.map_cons, List.mem_cons, not_or] at h
    rw [clausesFor_cons, ih h.2, clausesOf_of_ne (Ne.symm h.1), List.append_nil]

/-- The clauses of a rule that is added come to the clauses for its tag. -/
theorem clausesFor_addRule (r : Rule) (rules : List Rule) (t : Tag) :
    (clausesFor ⟨addRule r rules⟩ t).Perm (clausesFor ⟨rules⟩ t ++ clausesOf r t) := by
  induction rules with
  | nil => rw [addRule, clausesFor_cons]; exact List.perm_append_comm
  | cons e rest ih =>
    rw [addRule_cons]
    by_cases h : e.tag = r.tag
    · have hextend : clausesOf (e.extend r) t = clausesOf e t ++ clausesOf r t := by
        by_cases ht : r.tag = t <;> simp [clausesOf, h, ht]
      rw [if_pos h, clausesFor_cons, clausesFor_cons, hextend, List.append_assoc, List.append_assoc]
      exact List.perm_append_comm.append_left _
    · rw [if_neg h, clausesFor_cons, clausesFor_cons, List.append_assoc]
      exact ih.append_left _

theorem clausesFor_merge (a b : Catalog) (t : Tag) :
    ((a.merge b).clausesFor t).Perm (a.clausesFor t ++ b.clausesFor t) := by
  obtain ⟨rules⟩ := b
  induction rules generalizing a with
  | nil => simp [clausesFor]
  | cons r rules ih =>
    rw [merge_cons, clausesFor_cons, ← List.append_assoc]
    exact (ih _).trans ((clausesFor_addRule r a.rules t).append_right _)

/-! ## The first rules -/

/-- The first rule for each tag that is none of `earlier`. -/
def firstRules (earlier : List Tag) : List Rule → List Rule
  | [] => []
  | r :: rest =>
    if r.tag ∈ earlier then firstRules earlier rest else r :: firstRules (r.tag :: earlier) rest

/-- A rule is the first for its tag if the tag is none of `earlier` and no rule before is for it. -/
theorem firstRules_concat (earlier : List Tag) (rules : List Rule) (r : Rule) :
    firstRules earlier (rules ++ [r]) = firstRules earlier rules ++
      if r.tag ∈ earlier ∨ r.tag ∈ rules.map (·.tag) then [] else [r] := by
  induction rules generalizing earlier with
  | nil => by_cases h : r.tag ∈ earlier <;> simp [firstRules, h]
  | cons e rest ih =>
    rw [List.cons_append, firstRules, firstRules]
    by_cases he : e.tag ∈ earlier
    · have hiff : r.tag ∈ earlier ∨ r.tag ∈ rest.map (·.tag) ↔
          r.tag ∈ earlier ∨ r.tag ∈ (e :: rest).map (·.tag) := by
        rw [List.map_cons, List.mem_cons, or_left_comm]
        refine (or_iff_right_of_imp fun h => ?_).symm
        exact .inl (h ▸ he)
      rw [if_pos he, if_pos he, ih, if_congr hiff rfl rfl]
    · have hiff : r.tag ∈ e.tag :: earlier ∨ r.tag ∈ rest.map (·.tag) ↔
          r.tag ∈ earlier ∨ r.tag ∈ (e :: rest).map (·.tag) := by
        rw [List.map_cons, List.mem_cons, List.mem_cons, or_assoc, or_left_comm]
      rw [if_neg he, if_neg he, ih, if_congr hiff rfl rfl, List.cons_append]

theorem mem_tags_firstRules :
    t ∈ (firstRules earlier rules).map (·.tag) ↔ t ∈ rules.map (·.tag) ∧ t ∉ earlier := by
  induction rules generalizing earlier with
  | nil => simp [firstRules]
  | cons e rest ih =>
    rw [firstRules, List.map_cons, List.mem_cons]
    by_cases he : e.tag ∈ earlier
    · rw [if_pos he, ih]
      constructor
      · rintro ⟨ht, hne⟩
        exact ⟨.inr ht, hne⟩
      · rintro ⟨rfl | ht, hne⟩
        · exact absurd he hne
        · exact ⟨ht, hne⟩
    · rw [if_neg he, List.map_cons, List.mem_cons, ih, List.mem_cons]
      by_cases ht : t = e.tag
      · simp [ht, he]
      · simp [ht]

theorem nodup_tags_firstRules (earlier : List Tag) (rules : List Rule) :
    ((firstRules earlier rules).map (·.tag)).Nodup := by
  induction rules generalizing earlier with
  | nil => exact .nil
  | cons e rest ih =>
    rw [firstRules]
    split
    · exact ih earlier
    · rw [List.map_cons, List.nodup_cons]
      refine ⟨?_, ih _⟩
      rw [mem_tags_firstRules]
      simp

/-! ## More clauses for the first rules -/

/-- The first rule for each tag that is none of `earlier` has the clauses `more` behind its own. -/
def extendFirsts (more : Tag → List Clause) (earlier : List Tag) : List Rule → List Rule
  | [] => []
  | r :: rest =>
    (if r.tag ∈ earlier then r else { r with clauses := r.clauses ++ more r.tag }) ::
      extendFirsts more (r.tag :: earlier) rest

theorem tags_extendFirsts (more : Tag → List Clause) (earlier : List Tag) (rules : List Rule) :
    (extendFirsts more earlier rules).map (·.tag) = rules.map (·.tag) := by
  induction rules generalizing earlier with
  | nil => rfl
  | cons r rest ih =>
    rw [extendFirsts, List.map_cons, ih, List.map_cons]
    split <;> rfl

theorem extendFirsts_congr (h : ∀ r ∈ rules, r.tag ∉ earlier → more r.tag = more' r.tag) :
    extendFirsts more earlier rules = extendFirsts more' earlier rules := by
  induction rules generalizing earlier with
  | nil => rfl
  | cons r rest ih =>
    obtain ⟨hr, hrest⟩ := List.forall_mem_cons.1 h
    rw [extendFirsts, extendFirsts, ih fun s hs hne => hrest s hs fun hs => hne (.tail _ hs)]
    split
    · rfl
    · rename_i hne
      rw [hr hne]

theorem extendFirsts_none (earlier : List Tag) (rules : List Rule) :
    extendFirsts (fun _ => []) earlier rules = rules := by
  induction rules generalizing earlier with
  | nil => rfl
  | cons r rest ih =>
    rw [extendFirsts, ih, List.append_nil]
    split <;> rfl

theorem extendFirsts_append (more : Tag → List Clause) (earlier : List Tag) (xs ys : List Rule) :
    extendFirsts more earlier (xs ++ ys) = extendFirsts more earlier xs ++
      extendFirsts more ((xs.map (·.tag)).reverse ++ earlier) ys := by
  induction xs generalizing earlier with
  | nil => rfl
  | cons x xs ih =>
    rw [List.cons_append, extendFirsts, extendFirsts, ih]
    simp

/-- If no tag is repeated, all rules are the first ones. -/
theorem extendFirsts_of_nodup (hnd : (rules.map (·.tag)).Nodup)
    (hearlier : ∀ r ∈ rules, r.tag ∉ earlier) : extendFirsts more earlier rules =
      rules.map fun r => { r with clauses := r.clauses ++ more r.tag } := by
  induction rules generalizing earlier with
  | nil => rfl
  | cons r rest ih =>
    obtain ⟨hr, hnd⟩ := List.nodup_cons.1 hnd
    obtain ⟨hre, hearlier⟩ := List.forall_mem_cons.1 hearlier
    rw [extendFirsts, if_neg hre, List.map_cons, ih hnd]
    intro s hs hmem
    rcases List.mem_cons.1 hmem with hsr | hmem
    · exact hr (List.mem_map.2 ⟨s, hs, hsr⟩)
    · exact hearlier s hs hmem

/-- Which rules are extended, by their places. -/
theorem extendFirsts_eq_mapIdx (more : Tag → List Clause) (earlier : List Tag) (rules : List Rule) :
    extendFirsts more earlier rules = rules.mapIdx fun i r =>
      if r.tag ∈ earlier ∨ r.tag ∈ (rules.take i).map (·.tag) then r
      else { r with clauses := r.clauses ++ more r.tag } := by
  induction rules generalizing earlier with
  | nil => rfl
  | cons e rest ih =>
    rw [extendFirsts, ih, List.mapIdx_cons]
    simp [or_assoc, or_left_comm]

/-- Adding a rule for a tag that is there adds its clauses to those for the tag. -/
theorem addRule_extendFirsts (hr : r.tag ∈ rules.map (·.tag)) (hearlier : r.tag ∉ earlier) :
    addRule r (extendFirsts more earlier rules) =
      extendFirsts (fun t => more t ++ clausesOf r t) earlier rules := by
  induction rules generalizing earlier with
  | nil => simp at hr
  | cons e rest ih =>
    rw [extendFirsts, extendFirsts]
    by_cases h : e.tag = r.tag
    · -- the rule is added here, and none behind is the first for the tag
      have hrest : extendFirsts more (e.tag :: earlier) rest =
          extendFirsts (fun t => more t ++ clausesOf r t) (e.tag :: earlier) rest := by
        refine extendFirsts_congr fun s _ hs => ?_
        have hne : r.tag ≠ s.tag := fun hrs => hs (by simp [h, hrs])
        rw [clausesOf_of_ne hne, List.append_nil]
      have hfirst : e.tag ∉ earlier := h ▸ hearlier
      rw [if_neg hfirst, if_neg hfirst, addRule_cons, if_pos h, hrest, h, clausesOf_self,
        ← List.append_assoc]
      simp only [Rule.extend]
    · have htag : (if e.tag ∈ earlier then e else { e with clauses := e.clauses ++ more e.tag }).tag =
          e.tag := by split <;> rfl
      have hr' : r.tag ∈ rest.map (·.tag) := by simpa [Ne.symm h] using hr
      have hne : r.tag ∉ e.tag :: earlier := by simp [Ne.symm h, hearlier]
      rw [addRule_cons, htag, if_neg h, ih hr' hne, clausesOf_of_ne (Ne.symm h), List.append_nil]

theorem addRule_of_not_mem (h : r.tag ∉ rules.map (·.tag)) : addRule r rules = rules ++ [r] := by
  induction rules with
  | nil => rfl
  | cons e rest ih =>
    rw [List.map_cons, List.mem_cons, not_or] at h
    rw [addRule_cons, if_neg (Ne.symm h.1), ih h.2, List.cons_append]

/-! ## The rules of a merged catalog -/

theorem merge_concat (a : Catalog) (rules : List Rule) (r : Rule) :
    (a.merge ⟨rules ++ [r]⟩).rules = addRule r (a.merge ⟨rules⟩).rules :=
  List.foldl_concat ..

/-- The first rules for the tags that only `b` has, still without clauses. -/
def blankRules (a b : Catalog) : List Rule :=
  (firstRules (a.rules.map (·.tag)) b.rules).map fun r => { r with clauses := [] }

theorem tags_blankRules (a b : Catalog) : (blankRules a b).map (·.tag) =
    (firstRules (a.rules.map (·.tag)) b.rules).map (·.tag) := by
  simp [blankRules]

theorem mem_tags_append_blankRules : t ∈ (a.rules ++ blankRules a b).map (·.tag) ↔
    t ∈ a.rules.map (·.tag) ∨ t ∈ b.rules.map (·.tag) := by
  rw [List.map_append, List.mem_append, tags_blankRules, mem_tags_firstRules]
  tauto

theorem blankRules_concat (a : Catalog) (rules : List Rule) (r : Rule) :
    blankRules a ⟨rules ++ [r]⟩ = blankRules a ⟨rules⟩ ++
      if r.tag ∈ a.rules.map (·.tag) ∨ r.tag ∈ rules.map (·.tag) then []
      else [{ r with clauses := [] }] := by
  rw [blankRules, firstRules_concat, List.map_append, blankRules]
  split <;> rfl

/-- Merging puts the clauses of the second catalog into the rules of the first one and blank ones
    behind them. The induction adds the rules of the second catalog one after the other. -/
theorem merge_eq_extendFirsts (a b : Catalog) :
    (a.merge b).rules = extendFirsts b.clausesFor [] (a.rules ++ blankRules a b) := by
  obtain ⟨rules⟩ := b
  induction rules using List.reverseRecOn with
  | nil =>
    have hblank : blankRules a ⟨[]⟩ = [] := rfl
    have hmore : clausesFor ⟨[]⟩ = fun _ => [] := rfl
    rw [merge_nil, hblank, hmore, List.append_nil, extendFirsts_none]
  | append_singleton rules r ih =>
    have hmore : clausesFor ⟨rules ++ [r]⟩ = fun t => clausesFor ⟨rules⟩ t ++ clausesOf r t :=
      funext (clausesFor_concat rules r)
    rw [merge_concat, ih, hmore, blankRules_concat]
    by_cases h : r.tag ∈ a.rules.map (·.tag) ∨ r.tag ∈ rules.map (·.tag)
    · rw [if_pos h, List.append_nil,
        addRule_extendFirsts (mem_tags_append_blankRules.2 h) List.not_mem_nil]
    · -- a rule for a new tag: the blank one behind all others takes up its clauses
      have hnew : r.tag ∉ (a.rules ++ blankRules a ⟨rules⟩).map (·.tag) :=
        fun hmem => h (mem_tags_append_blankRules.1 hmem)
      have hsame : extendFirsts (fun t => clausesFor ⟨rules⟩ t ++ clausesOf r t) []
            (a.rules ++ blankRules a ⟨rules⟩) =
          extendFirsts (clausesFor ⟨rules⟩) [] (a.rules ++ blankRules a ⟨rules⟩) := by
        refine extendFirsts_congr fun s hs _ => ?_
        have hne : r.tag ≠ s.tag := fun hrs => hnew (List.mem_map.2 ⟨s, hs, hrs.symm⟩)
        rw [clausesOf_of_ne hne, List.append_nil]
      have hlast : extendFirsts (fun t => clausesFor ⟨rules⟩ t ++ clausesOf r t)
          (((a.rules ++ blankRules a ⟨rules⟩).map (·.tag)).reverse ++ [])
          [{ r with clauses := [] }] = [r] := by
        have hnone : clausesFor ⟨rules⟩ r.tag = [] := clausesFor_eq_nil fun hr => h (.inr hr)
        rw [extendFirsts, if_neg (by rwa [List.append_nil, List.mem_reverse]), hnone, clausesOf_self]
        rfl
      rw [addRule_of_not_mem (by rwa [tags_extendFirsts]), if_neg h, ← List.append_assoc,
        extendFirsts_append _ _ (a.rules ++ _), hsame, hlast]

/-- **The rules of a merged catalog.** Every rule of the first catalog stays at its place, and the first
    one for each tag has the clauses of all rules of the second catalog for the tag behind its own.
    Then comes one rule for each tag that only the second catalog has, described as the first rule
    for the tag there, with the clauses of all of them. So the clauses for a tag are those of both
    catalogs. -/
theorem merge_rules (a b : Catalog) :
    (a.merge b).rules =
      a.rules.mapIdx (fun i r => if r.tag ∈ (a.rules.take i).map (·.tag) then r
        else { r with clauses := r.clauses ++ b.clausesFor r.tag }) ++
      (firstRules (a.rules.map (·.tag)) b.rules).map
        (fun r => { r with clauses := b.clausesFor r.tag }) ∧
    ∀ t, ((a.merge b).clausesFor t).Perm (a.clausesFor t ++ b.clausesFor t) := by
  refine ⟨?_, clausesFor_merge a b⟩
  have hnd : ((blankRules a b).map (·.tag)).Nodup := by
    rw [tags_blankRules]
    exact nodup_tags_firstRules _ _
  have hnew : ∀ r ∈ blankRules a b, r.tag ∉ (a.rules.map (·.tag)).reverse ++ [] := by
    intro r hr
    have hmem := List.mem_map_of_mem (f := (·.tag)) hr
    rw [tags_blankRules, mem_tags_firstRules] at hmem
    simpa using hmem.2
  rw [merge_eq_extendFirsts, extendFirsts_append, extendFirsts_of_nodup hnd hnew,
    extendFirsts_eq_mapIdx, blankRules, List.map_map]
  simp [Function.comp_def]

/-! ## Adding rules in another order -/

/-- Two rules for one tag can be put together before they are added. -/
theorem addRule_extend {e : Rule} (h : e.tag = r.tag) (rules : List Rule) :
    addRule (e.extend r) rules = addRule r (addRule e rules) := by
  induction rules with
  | nil => rw [addRule, addRule, addRule_cons, if_pos h]
  | cons x rest ih =>
    rw [addRule_cons, addRule_cons, Rule.tag_extend]
    by_cases hx : x.tag = e.tag
    · have hr : (x.extend e).tag = r.tag := hx.trans h
      rw [if_pos hx, if_pos hx, addRule_cons, if_pos hr]
      simp [Rule.extend]
    · have hr : x.tag ≠ r.tag := fun hr => hx (hr.trans h.symm)
      rw [if_neg hx, if_neg hx, addRule_cons, if_neg hr, ih]

/-- A rule for a tag that is there can as well be added behind one for another tag. -/
theorem addRule_comm (hne : r.tag ≠ s.tag) (hr : r.tag ∈ rules.map (·.tag)) :
    addRule r (addRule s rules) = addRule s (addRule r rules) := by
  induction rules with
  | nil => simp at hr
  | cons x rest ih =>
    by_cases hxs : x.tag = s.tag
    · have hxr : x.tag ≠ r.tag := fun h => hne (h.symm.trans hxs)
      rw [addRule_cons, if_pos hxs, addRule_cons, Rule.tag_extend, if_neg hxr, addRule_cons,
        if_neg hxr, addRule_cons, if_pos hxs]
    · by_cases hxr : x.tag = r.tag
      · rw [addRule_cons, if_neg hxs, addRule_cons, if_pos hxr, addRule_cons, if_pos hxr,
          addRule_cons, Rule.tag_extend, if_neg hxs]
      · have hrest : r.tag ∈ rest.map (·.tag) := by simpa [Ne.symm hxr] using hr
        rw [addRule_cons, if_neg hxs, addRule_cons, if_neg hxr, addRule_cons, if_neg hxr,
          addRule_cons, if_neg hxs, ih hrest]

/-- A rule for a tag that the first catalog has can be added before the others or behind them, if none
    of these is for its tag. -/
theorem merge_addRule_left (hr : a.HasRule r.tag) (hrules : r.tag ∉ rules.map (·.tag)) :
    (Catalog.mk (addRule r a.rules)).merge ⟨rules⟩ = ⟨addRule r (a.merge ⟨rules⟩).rules⟩ := by
  induction rules generalizing a with
  | nil => rfl
  | cons s rest ih =>
    rw [List.map_cons, List.mem_cons, not_or] at hrules
    have hr' : HasRule ⟨addRule s a.rules⟩ r.tag := mem_tags_addRule.2 (.inl hr)
    rw [merge_cons, merge_cons, ← addRule_comm hrules.1 hr, ih hr' hrules.2]

/-- Adding a rule to the second catalog adds it to the merged one. -/
theorem merge_addRule (hnd : (rules.map (·.tag)).Nodup) :
    a.merge ⟨addRule r rules⟩ = ⟨addRule r (a.merge ⟨rules⟩).rules⟩ := by
  induction rules generalizing a with
  | nil => rfl
  | cons e rest ih =>
    obtain ⟨he, hnd⟩ := List.nodup_cons.1 hnd
    rw [addRule_cons]
    by_cases h : e.tag = r.tag
    · have hmem : HasRule ⟨addRule e a.rules⟩ r.tag := mem_tags_addRule.2 (.inr h.symm)
      rw [if_pos h, merge_cons, merge_cons, addRule_extend h, ← merge_addRule_left hmem (h ▸ he)]
    · rw [if_neg h, merge_cons, merge_cons, ih hnd]

/-! ## The laws of merging -/

theorem merge_assoc (hb : (b.rules.map (·.tag)).Nodup) :
    (a.merge b).merge c = a.merge (b.merge c) := by
  obtain ⟨rules⟩ := c
  induction rules generalizing b with
  | nil => rfl
  | cons r rules ih =>
    have hadd : ((addRule r b.rules).map (·.tag)).Nodup := nodup_tags_addRule hb
    rw [merge_cons, merge_cons, ← ih (b := ⟨addRule r b.rules⟩) hadd, merge_addRule hb]

theorem empty_merge (hb : (b.rules.map (·.tag)).Nodup) : (Catalog.mk []).merge b = b := by
  obtain ⟨rules⟩ := b
  induction rules using List.reverseRecOn with
  | nil => rfl
  | append_singleton rules r ih =>
    rw [List.map_append, List.nodup_append] at hb
    obtain ⟨hrules, -, hdisjoint⟩ := hb
    have hr : r.tag ∉ rules.map (·.tag) := fun hr => hdisjoint _ hr _ (by simp) rfl
    have hstep := merge_concat ⟨[]⟩ rules r
    rw [ih hrules, addRule_of_not_mem hr] at hstep
    exact congrArg Catalog.mk hstep

/-- **Merging is associative, and the empty catalog changes nothing on either side**, if no tag is
    repeated in the catalog in the middle. -/
theorem merge_assoc_empty (hb : (b.rules.map (·.tag)).Nodup) :
    (a.merge b).merge c = a.merge (b.merge c) ∧ (Catalog.mk []).merge b = b ∧ b.merge ⟨[]⟩ = b :=
  ⟨merge_assoc hb, empty_merge hb, merge_nil b⟩

/-- A rule for methods that return nothing, or for those that return something. -/
def voidRule (t : Tag) (b : Bool) : Rule := { tag := t, clauses := [{ returnsVoid := some b }] }

/-- The catalogs at the ends may have two rules for a tag. -/
theorem merge_assoc_empty_repeated :
    let a : Catalog := ⟨[voidRule .tap true, voidRule .tap false]⟩
    let b : Catalog := ⟨[voidRule .eap true, voidRule .tap true]⟩
    let c : Catalog := ⟨[voidRule .apmEnd true, voidRule .eap false, voidRule .apmEnd false]⟩
    (b.rules.map (·.tag)).Nodup ∧ (a.merge b).merge c = a.merge (b.merge c) ∧
      (Catalog.mk []).merge b = b ∧ b.merge ⟨[]⟩ = b :=
  ⟨by decide, merge_assoc_empty (by decide)⟩

/-- The one in the middle may not: its second rule comes before what is added to its first one, or
    behind. -/
example :
    let b : Catalog := ⟨[voidRule .tap true, voidRule .tap false]⟩
    let c : Catalog := ⟨[{ tag := .tap, clauses := [{ returnsTask := some true }] }]⟩
    ((Catalog.mk []).merge b).merge c ≠ (Catalog.mk []).merge (b.merge c) := by decide

end AsyncIdioms.Catalog
