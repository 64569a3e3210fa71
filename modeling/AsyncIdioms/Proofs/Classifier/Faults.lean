/-
  What is reported about a catalog that cannot be used.

  A catalog may have many faults. `Catalog.faults` lists all of them and stops at none: what is wrong
  with the shape of its rules, then the patterns that are no regular expressions, then its cycles.
  Preparing a catalog stops at the first fault, wherever it is in four levels of lists:

  * `errorOf?_mapM` : a list of computations fails as the first one that fails;
  * `Clause.shapeFaults`, `Rule.shapeFaults`, `Catalog.shapeFaults` : all faults of shape;
    `Catalog.head?_shapeFaults` : the check of the shape finds the first one;
  * `Catalog.invalidPatterns` : all patterns that are no regular expressions;
    `Catalog.errorOf?_prepare` : preparing the rules fails at the first one;
  * `Catalog.errorOf?_compile` : preparing a catalog fails at the first of all faults;
  * `Catalog.Usable` : nothing is wrong; `Catalog.faults_eq_nil_iff` : then there are no faults;
  * `Catalog.compile_first_fault` : a catalog can be used, or its first fault is reported.
-/
import AsyncIdioms.Proofs.Classifier.Cycles

namespace AsyncIdioms

variable {α β ε : Type}

/-! ## Errors of computations -/

/-- How the computation fails, if it does. -/
def errorOf? : Except ε α → Option ε
  | .ok _ => none
  | .error e => some e

theorem errorOf?_eq_some_iff {x : Except ε α} {e : ε} : errorOf? x = some e ↔ x = .error e := by
  cases x <;> simp [errorOf?]

theorem errorOf?_eq_none_iff {x : Except ε α} : errorOf? x = none ↔ ∃ a, x = .ok a := by
  cases x <;> simp [errorOf?]

/-- A computation in two parts fails in the first part, or else in the second one. -/
theorem errorOf?_bind (x : Except ε α) {f : α → Except ε β} {y : Option ε}
    (h : ∀ a, errorOf? (f a) = y) : errorOf? (x >>= f) = (errorOf? x).or y := by
  cases x with
  | ok a => exact h a
  | error e => rfl

theorem errorOf?_bind_pure (x : Except ε α) (g : α → β) :
    errorOf? (x >>= fun a => pure (g a)) = errorOf? x := by
  cases x <;> rfl

/-- A list of computations fails as the first one that fails. -/
theorem errorOf?_mapM (f : α → Except ε β) (xs : List α) :
    errorOf? (xs.mapM f) = xs.findSome? fun x => errorOf? (f x) := by
  induction xs with
  | nil => rfl
  | cons x xs ih =>
    have hrest : ∀ y, errorOf? (xs.mapM f >>= fun ys => pure (y :: ys)) = errorOf? (xs.mapM f) :=
      fun y => errorOf?_bind_pure _ _
    rw [List.mapM_cons, errorOf?_bind (f x) hrest, ih, List.findSome?_cons]
    cases errorOf? (f x) <;> rfl

/-! ## Faults of shape -/

/-- Having no constraints comes before text conditions without values. -/
def Clause.shapeFaults (t : Tag) (clause : Clause) : List ShapeFault :=
  (if clause = {} then [.unconstrainedClause t] else []) ++
    (clause.text.filter fun x => x.allValues = []).map fun x => .noValue t x.subject

/-- A repeated tag comes before missing clauses, and these before the faults of the clauses. -/
def Rule.shapeFaults (earlier : List Rule) (r : Rule) : List ShapeFault :=
  (if r.tag ∈ earlier.map (·.tag) then [.duplicateRule r.tag] else []) ++
    (if r.clauses = [] then [.noClauses r.tag] else []) ++
    r.clauses.flatMap (Clause.shapeFaults r.tag)

/-- All faults of shape, rule by rule. -/
def Catalog.shapeFaults (c : Catalog) : List ShapeFault :=
  c.rules.zipIdx.flatMap fun (r, i) => r.shapeFaults (c.rules.take i)

theorem Clause.isUnconstrained_iff {clause : Clause} : clause.isUnconstrained = true ↔ clause = {} := by
  obtain ⟨void, task, declaration, text, tagged⟩ := clause
  simp [Clause.isUnconstrained, and_assoc]

theorem Clause.head?_shapeFaults (t : Tag) (clause : Clause) :
    (clause.shapeFaults t).head? = clause.shapeFault? t := by
  rw [Clause.shapeFaults, Clause.shapeFault?]
  by_cases h : clause = {}
  · rw [if_pos h, if_pos (isUnconstrained_iff.2 h)]
    rfl
  · have hempty : (fun x : TextCondition => decide (x.allValues = [])) = (·.allValues.isEmpty) := by
      funext x
      cases x.allValues <;> rfl
    rw [if_neg h, if_neg (mt isUnconstrained_iff.1 h), List.nil_append, List.head?_map,
      List.head?_filter, hempty]

theorem Rule.head?_shapeFaults {earlier : List Rule} {tags : List Tag}
    (h : ∀ t, t ∈ tags ↔ t ∈ earlier.map (·.tag)) (r : Rule) :
    (r.shapeFaults earlier).head? = r.shapeFault? tags := by
  rw [Rule.shapeFaults, Rule.shapeFault?]
  by_cases hdup : r.tag ∈ tags
  · rw [if_pos hdup, if_pos ((h _).1 hdup)]
    rfl
  · rw [if_neg hdup, if_neg (mt (h _).2 hdup), List.nil_append]
    by_cases hnil : r.clauses = []
    · simp [hnil]
    · rw [if_neg hnil, if_neg (by simpa using hnil), List.nil_append, List.head?_flatMap]
      simp only [Clause.head?_shapeFaults]

theorem Catalog.head?_shapeFaults (c : Catalog) : c.shapeFaults.head? = c.shapeFault? := by
  -- the tags of the rules that are checked already are kept, the last one first
  suffices h : ∀ (rest done : List Rule) (tags : List Tag), c.rules = done ++ rest →
      (∀ t, t ∈ tags ↔ t ∈ done.map (·.tag)) →
      ((rest.zipIdx done.length).flatMap fun (r, i) => r.shapeFaults (c.rules.take i)).head? =
        shapeFaultFrom tags rest from h c.rules [] [] rfl (by simp)
  intro rest
  induction rest with
  | nil => intros; rfl
  | cons r rest ih =>
    intro done tags heq htags
    have hr : (r.shapeFaults (c.rules.take done.length)).head? = r.shapeFault? tags := by
      rw [heq, List.take_left]
      exact Rule.head?_shapeFaults htags r
    have hrest := ih (done ++ [r]) (r.tag :: tags) (by simpa using heq) (by simp [htags, or_comm])
    rw [List.length_append, List.length_singleton] at hrest
    rw [List.zipIdx_cons, List.flatMap_cons, List.head?_append, hrest, shapeFaultFrom]
    dsimp only
    rw [hr]
    cases r.shapeFault? tags <;> rfl

-- The tag of the last rule is taken, and it has no clauses; but the text condition of the second one
-- has no values, and stands before.
example : Catalog.shapeFault? ⟨[⟨.tap, none, [{ returnsTask := some true }]⟩,
    ⟨.eap, none, [{ text := [{ subject := .memberName, op := .equals }] }, {}]⟩,
    ⟨.tap, none, []⟩]⟩ = some (.noValue .eap .memberName) := by
  decide

/-! ## Patterns -/

section
variable [RegexLibrary]

/-- The values of the condition that are to be regular expressions and are none. -/
def TextCondition.invalidPatterns (x : TextCondition) : List String :=
  if x.op = .regex then x.allValues.filter fun p => (RegexLibrary.compile? x.ignoreCase p).isNone
  else []

/-- They are reported with the tag of the rule. -/
def Rule.invalidPatterns (r : Rule) : List CompileError :=
  (r.clauses.flatMap fun clause => clause.text.flatMap TextCondition.invalidPatterns).map
    (.invalidRegex r.tag)

/-- All patterns that are no regular expressions, in the order in which they stand in the catalog. -/
def Catalog.invalidPatterns (c : Catalog) : List CompileError := c.rules.flatMap Rule.invalidPatterns

theorem errorOf?_compileRegex (ignoreCase : Bool) (p : String) :
    errorOf? (compileRegex ignoreCase p) =
      Option.guard (fun p => (RegexLibrary.compile? ignoreCase p).isNone) p := by
  rw [compileRegex]
  cases h : RegexLibrary.compile? ignoreCase p <;> simp [errorOf?, Option.guard, h]

theorem TextCondition.errorOf?_prepare (x : TextCondition) :
    errorOf? x.prepare = x.invalidPatterns.head? := by
  rw [TextCondition.prepare, errorOf?_bind_pure, TextCondition.matcher, TextCondition.invalidPatterns]
  split
  next h =>
    rw [if_pos h, errorOf?_bind_pure, errorOf?_mapM, List.head?_filter,
      List.find?_eq_findSome?_guard]
    simp only [errorOf?_compileRegex]
  next h =>
    rw [if_neg h]
    rfl

theorem Clause.errorOf?_prepare (clause : Clause) :
    errorOf? clause.prepare = (clause.text.flatMap TextCondition.invalidPatterns).head? := by
  rw [Clause.prepare, errorOf?_bind_pure, errorOf?_mapM, List.head?_flatMap]
  simp only [TextCondition.errorOf?_prepare]

theorem Rule.errorOf?_prepare (r : Rule) : errorOf? r.prepare = r.invalidPatterns.head? := by
  have hclauses : errorOf? (r.clauses.mapM Clause.prepare) =
      (r.clauses.flatMap fun clause => clause.text.flatMap TextCondition.invalidPatterns).head? := by
    rw [errorOf?_mapM, List.head?_flatMap]
    simp only [Clause.errorOf?_prepare]
  rw [Rule.prepare, Rule.invalidPatterns, List.head?_map, ← hclauses]
  cases r.clauses.mapM Clause.prepare <;> rfl

namespace Catalog

variable {c : Catalog}

theorem errorOf?_prepare (c : Catalog) :
    errorOf? (c.rules.mapM Rule.prepare) = c.invalidPatterns.head? := by
  rw [errorOf?_mapM, invalidPatterns, List.head?_flatMap]
  simp only [Rule.errorOf?_prepare]

theorem invalidPatterns_eq_nil_iff : c.invalidPatterns = [] ↔ c.RegexesCompile := by
  simp only [invalidPatterns, Rule.invalidPatterns, TextCondition.invalidPatterns, RegexesCompile,
    List.flatMap_eq_nil_iff, List.map_eq_nil_iff, ite_eq_right_iff, List.filter_eq_nil_iff,
    Option.isNone_iff_eq_none, Option.isSome_iff_ne_none, ne_eq]

/-! ## All faults -/

variable (c) in
open Classical in
/-- All faults of the catalog: of shape, then of patterns, then of order. -/
noncomputable def faults : List CompileError :=
  c.shapeFaults.map .shape ++ c.invalidPatterns ++
    if c.Acyclic then [] else [.order (.cycle c.cyclicTags)]

/-- Preparing a catalog fails at its first fault. -/
theorem errorOf?_compile (c : Catalog) : errorOf? c.compile = c.faults.head? := by
  rw [faults, List.head?_append, List.head?_append, List.head?_map, head?_shapeFaults,
    ← errorOf?_prepare]
  cases hshape : c.shapeFault? with
  | some fault =>
    rw [compile, hshape]
    rfl
  | none =>
    cases hprepared : c.rules.mapM Rule.prepare with
    | error e =>
      rw [compile, hshape, hprepared]
      rfl
    | ok prepared =>
      have hregex : c.RegexesCompile := by
        rw [← invalidPatterns_eq_nil_iff, ← List.head?_eq_none_iff, ← errorOf?_prepare, hprepared]
        rfl
      by_cases hacyclic : c.Acyclic
      · rcases compile_outcome hshape hregex with ⟨-, k, hk⟩ | ⟨hno, -⟩
        · rw [hk, if_pos hacyclic]
          rfl
        · exact absurd hacyclic hno
      · rw [compile_of_not_acyclic hshape hregex hacyclic, if_neg hacyclic]
        rfl

variable (c) in
/-- Nothing is wrong with the catalog. -/
structure Usable : Prop where
  /-- No two rules have the same tag. -/
  tags : c.rules.Pairwise fun r s => r.tag ≠ s.tag
  clauses : ∀ r ∈ c.rules, r.clauses ≠ []
  /-- A clause has more than a clause in which nothing is set. -/
  constraints : ∀ r ∈ c.rules, ∀ clause ∈ r.clauses, clause ≠ {}
  values : ∀ r ∈ c.rules, ∀ clause ∈ r.clauses, ∀ x ∈ clause.text, x.allValues ≠ []
  patterns : ∀ r ∈ c.rules, ∀ clause ∈ r.clauses, ∀ x ∈ clause.text, x.op = .regex →
    ∀ p ∈ x.allValues, (RegexLibrary.compile? x.ignoreCase p).isSome
  acyclic : c.Acyclic

theorem faults_eq_nil_iff : c.faults = [] ↔ c.Usable := by
  have hshape : c.shapeFaults = [] ↔
      (c.rules.map (·.tag)).Nodup ∧ ∀ r ∈ c.rules, r.WellShaped := by
    rw [← List.head?_eq_none_iff, head?_shapeFaults, shapeFault?, shapeFaultFrom_eq_none_iff]
    simp
  rw [faults, List.append_eq_nil_iff, List.append_eq_nil_iff, List.map_eq_nil_iff, hshape,
    invalidPatterns_eq_nil_iff, List.Nodup, List.pairwise_map]
  constructor
  · rintro ⟨⟨⟨htags, hrules⟩, hpatterns⟩, hcycles⟩
    refine ⟨htags, fun r hr => (hrules r hr).1, fun r hr clause hclause hempty => ?_,
      fun r hr clause hclause => ((hrules r hr).2 clause hclause).2, hpatterns, ?_⟩
    · have hconstrained := ((hrules r hr).2 clause hclause).1
      rw [Clause.isUnconstrained_iff.2 hempty] at hconstrained
      exact Bool.noConfusion hconstrained
    · by_contra hno
      rw [if_neg hno] at hcycles
      exact List.cons_ne_nil _ _ hcycles
  · rintro ⟨htags, hclauses, hconstraints, hvalues, hpatterns, hacyclic⟩
    refine ⟨⟨⟨htags, fun r hr => ⟨hclauses r hr, fun clause hclause =>
      ⟨?_, hvalues r hr clause hclause⟩⟩⟩, hpatterns⟩, if_pos hacyclic⟩
    exact Bool.eq_false_iff.2 (mt Clause.isUnconstrained_iff.1 (hconstraints r hr clause hclause))

/-- **A catalog can be used if nothing is wrong with it, and else its first fault is reported**: the
    first fault of shape, rule by rule; without one, the first pattern that is no regular expression;
    and without such a pattern, the rules from which one comes to a cycle. -/
theorem compile_first_fault (c : Catalog) :
    ((∃ k, c.compile = .ok k) ↔ c.Usable) ∧
      ∀ e, c.compile = .error e ↔ ∃ rest, c.faults = e :: rest := by
  constructor
  · rw [← errorOf?_eq_none_iff, errorOf?_compile, List.head?_eq_none_iff, faults_eq_nil_iff]
  · intro e
    rw [← errorOf?_eq_some_iff, errorOf?_compile, List.head?_eq_some_iff]

end Catalog

end

end AsyncIdioms
