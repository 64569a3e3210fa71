/-
  The built-in catalog as a table.

  `Symbol.Listed` says for each tag, in terms of a method's texts and flags alone, which methods have
  it: the rules that look at other tags are written out. The classifier of the built-in catalog
  computes this table:

  * `Builtin.holds_textIs` and the lemmas behind it : what the conditions of the built-in rules say;
  * `builtin_tags_iff` : a built-in rule gives its tag if one of its clauses holds;
  * `mem_builtin_iff` : tag by tag, this is what the table lists;
  * `builtin_classifies_by_table` : methods, and calls of them, are classified by the table.
-/
import AsyncIdioms.Proofs.Classifier.Meaning

namespace AsyncIdioms

open Text

/-! ## The table -/

namespace Symbol

variable (s : Symbol)

/-- The display form contains one of the fragments. -/
def DisplaysOneOf (fragments : List String) : Prop :=
  ∃ fragment ∈ fragments, fragment.toList <:+: s.display.toList

/-- The fragments that tell the creation of a task. -/
def taskCreationFragments : List String :=
  ["Task.Start", "Task.Run", "TaskFactory.StartNew", "TaskEx.RunEx", "TaskEx.Run", "StartNewTask",
    "StartNewTaskWithoutExceptionHandling"]

/-- A delegate is started, and the result is waited for by an `IAsyncResult`. -/
def IsAsyncDelegate : Prop :=
  s.returnsVoid = false ∧ s.DisplaysOneOf ["Invoke"] ∧
    "IAsyncResult".toList <:+: s.returnType.toList

/-- The methods that have a tag. -/
def Listed : Tag → Prop
  | .tap => s.returnsTask = true ∧
      (s.declarationCount = 0 ∧ ¬ "System.Threading.Tasks".toList <+: s.display.toList ∧
          ¬ s.DisplaysOneOf taskCreationFragments ∨
        s.DisplaysOneOf ["FromAsync"])
  | .apmBegin => s.returnsVoid = false ∧
      (∃ p ∈ s.parameters, simpleTypeName p.type = "AsyncCallback") ∧
      simpleTypeName s.returnType = "IAsyncResult" ∧ ¬ s.IsAsyncDelegate
  | .apmEnd => s.DisplaysOneOf ["IAsyncResult"] ∧ "End".toList <+: s.identity.member.toList
  | .eap => False
  | .taskCreation => s.DisplaysOneOf taskCreationFragments
  | .threadPoolQueue => s.DisplaysOneOf ["ThreadPool.QueueUserWorkItem"]
  | .backgroundWorker => s.DisplaysOneOf ["BackgroundWorker.RunWorkerAsync"]
  | .threadStart => s.DisplaysOneOf ["Thread.Start"]
  | .parallelFor => s.DisplaysOneOf ["Parallel.For", "ParallelWithMember.For"]
  | .parallelForEach => s.DisplaysOneOf ["Parallel.ForEach", "ParallelWithMember.ForEach"]
  | .parallelInvoke => s.DisplaysOneOf ["Parallel.Invoke", "ParallelLoader.Invoke"]
  | .asyncDelegate => s.IsAsyncDelegate
  | .iSynchronizeInvoke => "System.ComponentModel.ISynchronizeInvoke".toList <+: s.display.toList
  | .controlBeginInvoke => s.DisplaysOneOf ["Control.BeginInvoke"]
  | .dispatcherBeginInvoke => s.DisplaysOneOf ["Dispatcher.BeginInvoke"]
  | .dispatcherInvoke => s.DisplaysOneOf ["Dispatcher.Invoke"]

end Symbol

/-! ## Conditions of the built-in rules -/

section
variable [RegexLibrary] {f : Facts} {T : TagSet}

theorem Clause.holds_def {clause : Clause} : clause.Holds f T ↔
    (∀ wanted ∈ clause.returnsVoid, f.returnsVoid = wanted) ∧
    (∀ wanted ∈ clause.returnsTask, f.returnsTask = wanted) ∧
    (∀ wanted ∈ clause.hasDeclaration, f.hasDeclaration = wanted) ∧
    (∀ t ∈ clause.text, t.Holds f) ∧ ∀ d ∈ clause.tagged, d.Holds T :=
  ⟨fun h => ⟨h.returnsVoid, h.returnsTask, h.hasDeclaration, h.text, h.tagged⟩,
    fun ⟨hvoid, htask, hdecl, htext, htagged⟩ => ⟨hvoid, htask, hdecl, htext, htagged⟩⟩

namespace Builtin

theorem holds_textIs {subject : Subject} {op : TextOp} {value : String} :
    (textIs subject op value).Holds f ↔
      ∃ text ∈ f.texts subject, (textIs subject op value).Relates text value := by
  simp [TextCondition.Holds, TextCondition.allValues, textIs]

theorem relates_contains {subject : Subject} {text value : String} :
    (textIs subject .contains value).Relates text value ↔ value.toList <:+: text.toList := by
  simp [TextCondition.Relates, TextCondition.fold, textIs]

theorem relates_startsWith {subject : Subject} {text value : String} :
    (textIs subject .startsWith value).Relates text value ↔ value.toList <+: text.toList := by
  simp [TextCondition.Relates, TextCondition.fold, textIs]

theorem relates_equals {subject : Subject} {text value : String} :
    (textIs subject .equals value).Relates text value ↔ text = value := by
  simp [TextCondition.Relates, TextCondition.fold, textIs]

/-- The display form contains one of the values. -/
theorem holds_contains_values {fragments : List String} :
    TextCondition.Holds { subject := .identity, op := .contains, values := fragments } f ↔
      ∃ fragment ∈ fragments, fragment.toList <:+: f.display.toList := by
  simp [TextCondition.Holds, TextCondition.allValues, TextCondition.Relates, TextCondition.fold,
    Facts.texts]

/-- A negated condition holds where the condition does not. -/
theorem holds_not_textIs {subject : Subject} {op : TextOp} {value : String} :
    TextCondition.Holds { textIs subject op value with negate := true } f ↔
      ¬ (textIs subject op value).Holds f := by
  simp [TextCondition.Holds, TextCondition.Relates, TextCondition.fold, TextCondition.allValues,
    textIs]

end Builtin

end

/-! ## The rules -/

section
variable [RegexLibrary] (s : Symbol)

/-- A built-in rule gives its tag if one of its clauses holds. -/
theorem builtin_tags_iff {r : Rule} (hr : r ∈ builtinCatalog.rules) :
    r.tag ∈ builtinClassifier.classify s ↔
      ∃ clause ∈ r.clauses, clause.Holds s.facts (builtinClassifier.classify s) :=
  Classifier.tagsOf_iff compile_builtinCatalog hr

namespace Builtin

/-- A rule that looks for fragments in the display form only. -/
theorem mem_iff_of_fragments {r : Rule} {fragments : List String} (hr : r ∈ builtinCatalog.rules)
    (hclauses : r.clauses =
      [{ text := [{ subject := .identity, op := .contains, values := fragments }] }]) :
    r.tag ∈ builtinClassifier.classify s ↔ s.DisplaysOneOf fragments := by
  rw [builtin_tags_iff s hr, hclauses]
  simp [Clause.holds_def, holds_contains_values, Symbol.DisplaysOneOf, Symbol.facts]

theorem mem_iff_of_fragment {r : Rule} {fragment : String} (hr : r ∈ builtinCatalog.rules)
    (hclauses : r.clauses = [{ text := [textIs .identity .contains fragment] }]) :
    r.tag ∈ builtinClassifier.classify s ↔ s.DisplaysOneOf [fragment] := by
  rw [builtin_tags_iff s hr, hclauses]
  simp [Clause.holds_def, holds_textIs, relates_contains, Facts.texts, Symbol.DisplaysOneOf,
    Symbol.facts]

theorem mem_taskCreation_iff : .taskCreation ∈ builtinClassifier.classify s ↔
    s.DisplaysOneOf Symbol.taskCreationFragments :=
  mem_iff_of_fragments s (r := taskCreation) (by simp [builtinCatalog]) rfl

theorem mem_asyncDelegate_iff :
    .asyncDelegate ∈ builtinClassifier.classify s ↔ s.IsAsyncDelegate := by
  refine (builtin_tags_iff s (r := asyncDelegate) (by simp [builtinCatalog])).trans ?_
  simp [asyncDelegate, Clause.holds_def, holds_textIs, relates_contains, Facts.texts, Symbol.facts,
    Symbol.IsAsyncDelegate, Symbol.DisplaysOneOf]

theorem mem_tap_iff : .tap ∈ builtinClassifier.classify s ↔ s.Listed .tap := by
  refine (builtin_tags_iff s (r := tap) (by simp [builtinCatalog])).trans ?_
  simp [tap, Clause.holds_def, holds_textIs, holds_not_textIs, relates_contains, relates_startsWith,
    TagCondition.Holds, mem_taskCreation_iff, Facts.texts, Symbol.facts, Symbol.Listed,
    Symbol.DisplaysOneOf, and_or_left]

theorem mem_apmBegin_iff : .apmBegin ∈ builtinClassifier.classify s ↔ s.Listed .apmBegin := by
  refine (builtin_tags_iff s (r := apmBegin) (by simp [builtinCatalog])).trans ?_
  simp [apmBegin, Clause.holds_def, holds_textIs, relates_equals, TagCondition.Holds,
    mem_asyncDelegate_iff, Facts.texts, Symbol.facts, Symbol.Listed, and_assoc]

theorem mem_apmEnd_iff : .apmEnd ∈ builtinClassifier.classify s ↔ s.Listed .apmEnd := by
  refine (builtin_tags_iff s (r := apmEnd) (by simp [builtinCatalog])).trans ?_
  simp [apmEnd, Clause.holds_def, holds_textIs, relates_contains, relates_startsWith, Facts.texts,
    Symbol.facts, Symbol.Listed, Symbol.DisplaysOneOf]

theorem mem_iSynchronizeInvoke_iff :
    .iSynchronizeInvoke ∈ builtinClassifier.classify s ↔ s.Listed .iSynchronizeInvoke := by
  refine (builtin_tags_iff s (r := iSynchronizeInvoke) (by simp [builtinCatalog])).trans ?_
  simp [iSynchronizeInvoke, Clause.holds_def, holds_textIs, relates_startsWith, Facts.texts,
    Symbol.facts, Symbol.Listed]

/-- No rule gives the event-based idiom. -/
theorem not_mem_eap : .eap ∉ builtinClassifier.classify s := by
  intro h
  obtain ⟨r, hr, htag, -⟩ := (Catalog.describes_tagsOf compile_builtinCatalog .eap).1 h
  have hno : ∀ r ∈ builtinCatalog.rules, r.tag ≠ .eap := by decide
  exact hno r hr htag

end Builtin

open Builtin in
/-- The tags of a method are those that the table lists. -/
theorem mem_builtin_iff (t : Tag) : t ∈ builtinClassifier.classify s ↔ s.Listed t := by
  have hfragment (tag : Tag) (x : String) (hr : fragmentRule tag x ∈ builtinCatalog.rules) :
      tag ∈ builtinClassifier.classify s ↔ s.DisplaysOneOf [x] := mem_iff_of_fragment s hr rfl
  have hfragments (tag : Tag) (xs : List String) (hr : fragmentsRule tag xs ∈ builtinCatalog.rules) :
      tag ∈ builtinClassifier.classify s ↔ s.DisplaysOneOf xs := mem_iff_of_fragments s hr rfl
  cases t with
  | tap => exact mem_tap_iff s
  | apmBegin => exact mem_apmBegin_iff s
  | apmEnd => exact mem_apmEnd_iff s
  | eap => exact iff_of_false (not_mem_eap s) id
  | taskCreation => exact mem_taskCreation_iff s
  | asyncDelegate => exact mem_asyncDelegate_iff s
  | iSynchronizeInvoke => exact mem_iSynchronizeInvoke_iff s
  | parallelFor | parallelForEach | parallelInvoke =>
    exact hfragments _ _ (by simp [builtinCatalog])
  | threadPoolQueue | backgroundWorker | threadStart | controlBeginInvoke | dispatcherBeginInvoke
  | dispatcherInvoke => exact hfragment _ _ (by simp [builtinCatalog])

end

/-! ## The table is computed -/

theorem Classifier.mem_tagsAtCall_iff [RegexLibrary] {k : Classifier} {s : Symbol} {eventBased : Bool} {t : Tag} :
    t ∈ k.tagsAtCall s eventBased ↔ t ∈ k.classify s ∨ t = .eap ∧ eventBased = true := by
  rw [Classifier.tagsAtCall]
  split
  next h => simp [h, or_comm]
  next h => simp [h]

/-- What is worked out from the return type, if nobody knows better. -/
theorem derivedReturnsTask_iff {returnsVoid : Bool} {returnType : String} :
    (!returnsVoid && startsWith returnType taskTypeStem) = true ↔
      returnsVoid = false ∧ "System.Threading.Tasks.Task".toList <+: returnType.toList := by
  rw [Bool.and_eq_true, Bool.not_eq_true', startsWith_iff, taskTypeStem]

/-- **The built-in catalog computes its table**: a method has the tags that are listed, never the
    event-based one, which a call adds exactly if it follows that idiom, as soon as this is known. For a
    method that is described by its parts, the table is about the display forms of the method and its
    return type. -/
theorem builtin_classifies_by_table [RegexLibrary] (s : Symbol) :
    (∀ t, t ∈ builtinClassifier.classify s ↔ s.Listed t) ∧
    .eap ∉ builtinClassifier.classify s ∧
    (∀ (eventBased : Bool) (t : Tag), t ∈ builtinClassifier.tagsAtCall s eventBased ↔
      s.Listed t ∨ t = .eap ∧ eventBased = true) ∧
    (∀ call : Syntax.Invocation, builtinClassifier.classifyCallSite s call =
      call.isEventBased.map fun eventBased => builtinClassifier.tagsAtCall s eventBased) ∧
    ∀ m : Method, m.symbol = s →
      (s.returnsTask = true ↔
        s.returnsVoid = false ∧ "System.Threading.Tasks.Task".toList <+: s.returnType.toList) ∧
      s.identity = Identity.parse s.display := by
  refine ⟨mem_builtin_iff s, Builtin.not_mem_eap s, fun eventBased t => ?_, fun call => ?_, ?_⟩
  · rw [Classifier.mem_tagsAtCall_iff, mem_builtin_iff]
  · rw [Classifier.classifyCallSite, Option.map_eq_bind]
    rfl
  · rintro m rfl
    refine ⟨?_, rfl⟩
    rw [← startsWith_iff]
    simp [Method.symbol, taskTypeStem]

end AsyncIdioms
