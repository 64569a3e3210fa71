/-
  Rules that ask for other tags, but never for their absence.

  What such rules describe is the least set of tags that is closed under them. So more rules, be they
  for the same tags or for others, never take a tag away:

  * `Catalog.Positive` : no clause has a negated condition on a tag; `Clause.Holds.mono` : clauses of
    this kind go on holding when there are more tags;
  * `Catalog.Describes.subset_of_closed` : what a positive catalog describes is in every set that is
    closed under its rules;
  * `Catalog.classify_merge_of_positive` : a merged catalog assigns every tag that a positive one of
    the two assigns.
-/
import AsyncIdioms.Proofs.Classifier.Merge

namespace AsyncIdioms

section
variable [RegexLibrary] {f : Facts} {T T' : TagSet}

/-- The clause has no negated condition on a tag. -/
def Clause.Positive (clause : Clause) : Prop := ∀ d ∈ clause.tagged, d.negate = false

/-- No clause of the catalog has a negated condition on a tag. -/
def Catalog.Positive (c : Catalog) : Prop := ∀ r ∈ c.rules, ∀ clause ∈ r.clauses, clause.Positive

theorem Clause.Holds.mono {clause : Clause} (h : clause.Holds f T) (hpos : clause.Positive)
    (hsub : ∀ d ∈ clause.tagged, d.tag ∈ T → d.tag ∈ T') : clause.Holds f T' := by
  refine { h with tagged := fun d hd => ?_ }
  have hnegate : ¬ d.negate := by simp [hpos d hd]
  have hT : d.tag ∈ T := (h.tagged d hd).2 hnegate
  exact iff_of_true (hsub d hd hT) hnegate

namespace Catalog

variable {a b c : Catalog} {k l m : Classifier}

/-- **What positive rules describe is in every set that is closed under them.** The induction is along an
    order that respects the dependencies: the tags that a clause asks for come before its own. -/
theorem Describes.subset_of_closed {tags : List Tag} (hresp : c.Respects tags)
    (hall : ∀ r ∈ c.rules, r.tag ∈ tags) (hpos : c.Positive) (h : c.Describes f T)
    (hclosed : ∀ t, c.Gives f T' t → t ∈ T') : ∀ t ∈ T, t ∈ T' := by
  intro t
  induction hn : tags.idxOf t using Nat.strong_induction_on generalizing t with
  | _ n ih =>
  subst hn
  intro ht
  obtain ⟨r, hr, rfl, clause, hclause, hholds⟩ := (h t).1 ht
  refine hclosed r.tag ⟨r, hr, rfl, clause, hclause, hholds.mono (hpos r hr clause hclause) ?_⟩
  intro d hd hdT
  obtain ⟨s, hs, hsd⟩ := h.has_rule hdT
  have hdep : c.DependsOn r s := ⟨hr, hs, clause, hclause, d, hd, hsd.symm⟩
  exact ih _ (hsd ▸ hresp.idxOf_lt hall hdep) d.tag rfl hdT

theorem classify_subset_of_closed (hk : c.compile = .ok k) (hpos : c.Positive) (s : Symbol)
    (hclosed : ∀ t, c.Gives s.facts T t → t ∈ T) : ∀ t ∈ k.classify s, t ∈ T := by
  have hall : ∀ r ∈ c.rules, r.tag ∈ k.evaluationOrder := fun r hr =>
    (mem_evaluationOrder_iff hk).2 ⟨r, hr, rfl⟩
  exact (describes_tagsOf hk).subset_of_closed (order_of_compile hk).2 hall hpos hclosed

/-- **Merging takes no tag away from positive rules**: if the first catalog has no negated condition on
    a tag, the merged one assigns what it assigns, and the same holds of the second. -/
theorem classify_merge_of_positive (hk : a.compile = .ok k) (hl : b.compile = .ok l)
    (hm : (a.merge b).compile = .ok m) (s : Symbol) :
    (a.Positive → ∀ t ∈ k.classify s, t ∈ m.classify s) ∧
      (b.Positive → ∀ t ∈ l.classify s, t ∈ m.classify s) := by
  have hmerged : (a.merge b).Describes s.facts (m.classify s) := describes_tagsOf hm
  constructor
  · intro ha
    refine classify_subset_of_closed hk ha s fun t ht => ?_
    exact (hmerged t).2 (gives_merge.2 (.inl ht))
  · intro hb
    refine classify_subset_of_closed hl hb s fun t ht => ?_
    exact (hmerged t).2 (gives_merge.2 (.inr ht))

end Catalog

end

namespace Catalog

/-- A rule for methods that have the tag `u`, or whose display form contains the fragment. -/
def followingRule (t u : Tag) (fragment : String) : Rule where
  tag := t
  clauses := [{ tagged := [{ tag := u }] }, { text := [Builtin.textIs .identity .contains fragment] }]

/-- A chain that goes from one catalog to the other and back. The method that starts a thread has one tag
    in each of the two catalogs; the merged one gives it both, and two more. -/
theorem classify_merge_of_positive_chain :
    let a : Catalog := ⟨[followingRule .tap .taskCreation "Async",
      Builtin.fragmentRule .threadStart "Thread.Start"]⟩
    let b : Catalog := ⟨[followingRule .taskCreation .threadStart "Task.Run",
      Builtin.fragmentRule .eap "Start"]⟩
    let s : Symbol := Method.symbol { display := "Thread.Start()", returnType := "void" }
    ∃ k l m, a.compile = .ok k ∧ b.compile = .ok l ∧ (a.merge b).compile = .ok m ∧
      a.Positive ∧ b.Positive ∧ (k.classify s).toList = [.threadStart] ∧
      (l.classify s).toList = [.eap] ∧
      (m.classify s).toList = [.tap, .eap, .taskCreation, .threadStart] ∧
      (∀ t ∈ k.classify s, t ∈ m.classify s) ∧ ∀ t ∈ l.classify s, t ∈ m.classify s := by
  intro a b s
  have hpositive : a.Positive ∧ b.Positive := by
    simp only [Positive, Clause.Positive]
    decide
  have htags (c : Catalog) {j : Classifier} (hj : c.compile = .ok j) {tags : List Tag}
      (h : c.compile.toOption.map (fun j => (j.classify s).toList) = some tags) :
      (j.classify s).toList = tags := by
    rw [hj] at h
    exact Option.some.inj h
  obtain ⟨k, hk⟩ := exists_compile_of_isSome (c := a) (by decide +kernel)
  obtain ⟨l, hl⟩ := exists_compile_of_isSome (c := b) (by decide +kernel)
  obtain ⟨m, hm⟩ := exists_compile_of_isSome (c := a.merge b) (by decide +kernel)
  obtain ⟨hfirst, hsecond⟩ := classify_merge_of_positive hk hl hm s
  exact ⟨k, l, m, hk, hl, hm, hpositive.1, hpositive.2, htags a hk (by decide +kernel),
    htags b hl (by decide +kernel), htags (a.merge b) hm (by decide +kernel), hfirst hpositive.1,
    hsecond hpositive.2⟩

end Catalog

end AsyncIdioms
