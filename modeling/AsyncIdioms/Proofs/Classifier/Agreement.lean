/-
  Which methods classifiers can tell apart.

  Conditions ask for texts and flags and for nothing else (`Facts.Agree`). A front end may know better
  whether a method returns a task, and what its identity is, than its texts tell; a reference to the
  symbol works both out anew from the texts:

  * `Catalog.tagsOf_eq_iff_agree` : methods that agree have the same tags whatever the catalog, and
    others are told apart by a catalog with a single condition (`Catalog.asking`);
  * `Symbol.TellsAsDisplayed` : the symbol tells what its texts tell;
  * `Symbol.analyze_throughReference_iff` : exactly such symbols are analyzed alike through a
    reference, and methods that are described by their parts are such;
  * `Symbol.not_analyze_throughReference` : two symbols that lose a tag through a reference.
-/
import AsyncIdioms.Proofs.Classifier.BuiltinTable

namespace AsyncIdioms

open Text

/-! ## Agreement -/

/-- Conditions find the same texts and the same flags in both. -/
structure Facts.Agree (f g : Facts) : Prop where
  texts : ∀ subject text, text ∈ f.texts subject ↔ text ∈ g.texts subject
  returnsVoid : f.returnsVoid = g.returnsVoid
  returnsTask : f.returnsTask = g.returnsTask
  hasDeclaration : f.hasDeclaration = g.hasDeclaration

section
variable [RegexLibrary] {f g : Facts} {T : TagSet}

namespace Facts.Agree

omit [RegexLibrary] in
/-- Where there is one text only, it is the same. -/
theorem text_eq (h : f.Agree g) (subject : Subject) {x y : String} (hx : f.texts subject = [x])
    (hy : g.texts subject = [y]) : y = x := by
  have hmem := h.texts subject y
  rw [hx, hy, List.mem_singleton, List.mem_singleton] at hmem
  exact hmem.2 rfl

theorem textHolds_iff (h : f.Agree g) {t : TextCondition} : t.Holds f ↔ t.Holds g := by
  simp only [TextCondition.Holds, h.texts]

theorem clauseHolds_iff (h : f.Agree g) {clause : Clause} : clause.Holds f T ↔ clause.Holds g T := by
  simp only [Clause.holds_def, h.textHolds_iff, h.returnsVoid, h.returnsTask, h.hasDeclaration]

theorem describes_iff (h : f.Agree g) {c : Catalog} : c.Describes f T ↔ c.Describes g T := by
  simp only [Catalog.Describes, Catalog.Gives, h.clauseHolds_iff]

theorem tagsOf_eq (h : f.Agree g) {c : Catalog} {k : Classifier} (hk : c.compile = .ok k) :
    k.tagsOf f = k.tagsOf g := by
  have hf := h.describes_iff.1 (Catalog.describes_tagsOf (f := f) hk)
  exact hf.unique hk (Catalog.describes_tagsOf hk)

end Facts.Agree

namespace Catalog

/-- A single rule with a single clause. -/
def asking (clause : Clause) : Catalog := ⟨[{ tag := .tap, clauses := [clause] }]⟩

/-- What such a catalog asks for, it finds. -/
theorem exists_compile_asking {clause : Clause} (hshape : clause.WellShaped)
    (hregex : ∀ t ∈ clause.text, t.op ≠ .regex) (htagged : clause.tagged = []) :
    ∃ k, (asking clause).compile = .ok k ∧
      ∀ f : Facts, .tap ∈ k.tagsOf f ↔ clause.Holds f (k.tagsOf f) := by
  have hrule : ({ tag := .tap, clauses := [clause] } : Rule) ∈ (asking clause).rules :=
    List.mem_singleton_self _
  have hfault : (asking clause).shapeFault? = none := by
    refine shapeFaultFrom_eq_none_iff.2 ⟨List.nodup_singleton _, fun r hr => ?_⟩
    obtain rfl := List.mem_singleton.1 hr
    exact ⟨List.not_mem_nil, List.cons_ne_nil _ _, fun d hd => List.mem_singleton.1 hd ▸ hshape⟩
  have hcompile : (asking clause).RegexesCompile := by
    intro r hr d hd t ht hop
    obtain rfl := List.mem_singleton.1 hr
    obtain rfl := List.mem_singleton.1 hd
    exact absurd hop (hregex t ht)
  have hacyclic : (asking clause).Acyclic := by
    intro r hcycle
    obtain ⟨s, hdep, -⟩ := Relation.TransGen.head'_iff.1 hcycle
    obtain ⟨hr, -, d, hd, t, ht, -⟩ := hdep
    obtain rfl := List.mem_singleton.1 hr
    obtain rfl := List.mem_singleton.1 hd
    simp [htagged] at ht
  rcases compile_outcome hfault hcompile with ⟨-, k, hk⟩ | ⟨hno, -⟩
  · refine ⟨k, hk, fun f => (Classifier.tagsOf_iff hk hrule).trans ?_⟩
    simp
  · exact absurd hacyclic hno

/-- If no catalog tells two methods apart, a clause that looks at no tag holds for both or for none. -/
theorem holds_iff_of_tagsOf_eq
    (h : ∀ (c : Catalog) (k : Classifier), c.compile = .ok k → k.tagsOf f = k.tagsOf g)
    (clause : Clause) (hshape : clause.WellShaped) (hregex : ∀ t ∈ clause.text, t.op ≠ .regex)
    (htagged : clause.tagged = []) : clause.Holds f .empty ↔ clause.Holds g .empty := by
  obtain ⟨k, hk, hasks⟩ := exists_compile_asking hshape hregex htagged
  -- The tags found so far are not looked at, so that any set will do for both methods.
  have hempty (f : Facts) : clause.Holds f (k.tagsOf f) ↔ clause.Holds f .empty := by
    simp only [Clause.holds_def, htagged, List.not_mem_nil, false_implies, implies_true]
  rw [← hempty f, ← hempty g, ← hasks f, ← hasks g, h _ k hk]

/-- **Methods have the same tags whatever the catalog exactly if conditions find the same in them.** -/
theorem tagsOf_eq_iff_agree :
    (∀ (c : Catalog) (k : Classifier), c.compile = .ok k → k.tagsOf f = k.tagsOf g) ↔ f.Agree g := by
  refine ⟨fun h => ?_, fun h _ _ hk => h.tagsOf_eq hk⟩
  have hnil : ∀ P : TextCondition → Prop, ∀ t ∈ [], P t := List.forall_mem_nil
  constructor
  case texts =>
    intro subject text
    have hask := holds_iff_of_tagsOf_eq h { text := [Builtin.textIs subject .equals text] }
      ⟨rfl, by simp [Builtin.textIs, TextCondition.allValues]⟩ (by simp [Builtin.textIs]) rfl
    simpa [Clause.holds_def, Builtin.holds_textIs, Builtin.relates_equals] using hask
  case returnsVoid =>
    have hask := holds_iff_of_tagsOf_eq h { returnsVoid := some true } ⟨rfl, hnil _⟩ (hnil _) rfl
    exact Bool.eq_iff_iff.2 (by simpa [Clause.holds_def] using hask)
  case returnsTask =>
    have hask := holds_iff_of_tagsOf_eq h { returnsTask := some true } ⟨rfl, hnil _⟩ (hnil _) rfl
    exact Bool.eq_iff_iff.2 (by simpa [Clause.holds_def] using hask)
  case hasDeclaration =>
    have hask := holds_iff_of_tagsOf_eq h { hasDeclaration := some true } ⟨rfl, hnil _⟩ (hnil _) rfl
    exact Bool.eq_iff_iff.2 (by simpa [Clause.holds_def] using hask)

end Catalog

end

/-! ## References -/

namespace Symbol

/-- Whether the method returns a task, and the parts of its identity that conditions look at, are as
    its texts tell. -/
structure TellsAsDisplayed (s : Symbol) : Prop where
  returnsTask : s.returnsTask = true ↔
    s.returnsVoid = false ∧ "System.Threading.Tasks.Task".toList <+: s.returnType.toList
  nameSpace : s.identity.nameSpace = (Identity.parse s.display).nameSpace
  containingType : s.identity.containingType = (Identity.parse s.display).containingType
  member : s.identity.member = (Identity.parse s.display).member

variable {s : Symbol}

theorem returnsTask_throughReference : s.throughReference.returnsTask = true ↔
    s.returnsVoid = false ∧ "System.Threading.Tasks.Task".toList <+: s.returnType.toList :=
  derivedReturnsTask_iff

/-- A reference gives other texts and flags than the symbol only where these are worked out anew. -/
theorem agree_throughReference_iff : s.throughReference.facts.Agree s.facts ↔ s.TellsAsDisplayed := by
  constructor
  · intro h
    have htask := Bool.eq_iff_iff.1 h.returnsTask
    exact ⟨htask.symm.trans returnsTask_throughReference, h.text_eq .nameSpace rfl rfl,
      h.text_eq .containingType rfl rfl, h.text_eq .memberName rfl rfl⟩
  · rintro ⟨htask, hspace, htype, hmember⟩
    have hname : s.throughReference.identity.qualifiedName = s.identity.qualifiedName := by
      rw [Identity.qualifiedName, Identity.qualifiedName, hspace, htype, hmember]
      rfl
    refine ⟨fun subject text => ?_, rfl,
      Bool.eq_iff_iff.2 (returnsTask_throughReference.trans htask.symm), rfl⟩
    cases subject with
    | identity | returnType | returnTypeName | parameterTypeName => rfl
    | qualifiedName => simp [Facts.texts, facts, hname]
    | nameSpace => simp [Facts.texts, facts, hspace, throughReference]
    | containingType => simp [Facts.texts, facts, htype, throughReference]
    | memberName => simp [Facts.texts, facts, hmember, throughReference]

/-- **A symbol is analyzed alike through a reference, whatever the catalog, exactly if it tells what its
    texts tell.** A symbol that knows better, be it about the task or about its identity, is told apart
    by some catalog. A method that is described by its parts does not know better. -/
theorem analyze_throughReference_iff [RegexLibrary] (s : Symbol) :
    ((∀ (c : Catalog) (k : Classifier), c.compile = .ok k →
      k.analyze s.throughReference = k.analyze s) ↔ s.TellsAsDisplayed) ∧
    ∀ m : Method, m.symbol = s → s.throughReference = s := by
  refine ⟨?_, ?_⟩
  · rw [← agree_throughReference_iff, ← Catalog.tagsOf_eq_iff_agree]
    constructor
    · intro h c k hk
      exact congrArg (·.tags) (h c k hk)
    · intro h c k hk
      have hflags := (Catalog.tagsOf_eq_iff_agree.1 h).returnsTask
      rw [Classifier.analyze, Classifier.analyze, h c k hk, hflags]
      rfl
  · rintro m rfl
    rfl

/-- A front end knows that another type is a task as well, or which member a display form is about:
    through a reference, both methods lose a tag of the built-in catalog. -/
theorem not_analyze_throughReference :
    let valueTask : Symbol :=
      { display := "App.Feed.ReadAsync()"
        returnsVoid := false
        returnType := "System.Threading.Tasks.ValueTask<int>"
        parameters := []
        declarationCount := 0
        returnsTask := true }
    let thunk : Symbol :=
      { display := "App.Feed.EndRead.Thunk(System.IAsyncResult)"
        returnsVoid := false
        returnType := "int"
        parameters := [⟨"result", "System.IAsyncResult"⟩]
        declarationCount := 0
        identity := ⟨"App", "Feed", "EndRead", "(System.IAsyncResult)"⟩ }
    builtinCatalog.compile = .ok builtinClassifier ∧
    (.tap ∈ builtinClassifier.classify valueTask ∧
      .tap ∉ builtinClassifier.classify valueTask.throughReference) ∧
    (.apmEnd ∈ builtinClassifier.classify thunk ∧
      .apmEnd ∉ builtinClassifier.classify thunk.throughReference) := by
  intro valueTask thunk
  simp only [mem_builtin_iff]
  refine ⟨compile_builtinCatalog, ⟨?_, ?_⟩, ⟨?_, ?_⟩⟩
  · refine ⟨rfl, .inl ⟨rfl, by decide, ?_⟩⟩
    rw [DisplaysOneOf]
    decide
  · intro h
    exact absurd h.1 (by decide)
  · refine ⟨?_, by decide⟩
    rw [DisplaysOneOf]
    decide
  · intro h
    exact absurd h.2 (by decide)

end Symbol

end AsyncIdioms
