/-
  Methods whose display form starts like that of `Task.Run`.

  Whatever stands behind the start, such a method creates a task. The first clause of the rule for
  `tap` leaves these methods out twice, by their start and by their tag; the second clause, which is for
  bridges from `Begin`/`End` methods, leaves out none of them:

  * `Method.tap_mem_asTaskRun_iff` : of these methods, the bridges that return a task are task-based;
  * `Method.builtin_asTaskRun` : all of them create a task, and they are task-based exactly if they
    return a task and `FromAsync` stands behind the start;
  * `Method.builtin_asTaskRun_fromAsync` : one that has both tags.
-/
import AsyncIdioms.Proofs.Classifier.BuiltinTable

namespace AsyncIdioms

open Text

/-- How the display forms of `Task.Run` start. -/
def taskRunStem : String := "System.Threading.Tasks.Task.Run"

namespace Method

variable (m : Method) (suffix : String)

/-- The method with a display form that starts like that of `Task.Run`. -/
def asTaskRun : Method := { m with display := taskRunStem ++ suffix }

theorem toList_display_asTaskRun :
    (m.asTaskRun suffix).symbol.display.toList = taskRunStem.toList ++ suffix.toList :=
  String.toList_append

theorem displaysOneOf_taskRun :
    (m.asTaskRun suffix).symbol.DisplaysOneOf Symbol.taskCreationFragments := by
  have hinfix : "Task.Run".toList <:+: taskRunStem.toList := by decide
  refine ⟨"Task.Run", by decide, ?_⟩
  rw [toList_display_asTaskRun]
  exact hinfix.trans (List.prefix_append _ _).isInfix

/-- The start has no `F`, so that it is no part of a `FromAsync`. -/
theorem displaysOneOf_fromAsync_iff : (m.asTaskRun suffix).symbol.DisplaysOneOf ["FromAsync"] ↔
    "FromAsync".toList <:+: suffix.toList := by
  have hstart : 'F' ∉ taskRunStem.toList := by decide
  have hword : "FromAsync".toList = 'F' :: "romAsync".toList := by decide
  simp only [Symbol.DisplaysOneOf, List.mem_singleton, exists_eq_left, toList_display_asTaskRun]
  rw [hword]
  exact infix_append_iff_of_not_mem hstart

section
variable [RegexLibrary]

theorem tap_mem_asTaskRun_iff : .tap ∈ builtinClassifier.classify (m.asTaskRun suffix).symbol ↔
    (m.asTaskRun suffix).symbol.returnsTask = true ∧ "FromAsync".toList <:+: suffix.toList := by
  have hnamespace : "System.Threading.Tasks".toList <+: taskRunStem.toList := by decide
  have hstart : "System.Threading.Tasks".toList <+: (m.asTaskRun suffix).symbol.display.toList := by
    rw [toList_display_asTaskRun]
    exact hnamespace.trans (List.prefix_append _ _)
  rw [Builtin.mem_tap_iff, Symbol.Listed, displaysOneOf_fromAsync_iff]
  exact and_congr_right fun _ => or_iff_right fun hclause => hclause.2.1 hstart

/-- **What starts like `Task.Run` creates a task**, whatever else is known of the method. It is
    task-based as well exactly if it returns a task and is a bridge by its name. -/
theorem builtin_asTaskRun :
    .taskCreation ∈ builtinClassifier.classify (m.asTaskRun suffix).symbol ∧
    (.tap ∈ builtinClassifier.classify (m.asTaskRun suffix).symbol ↔
      m.returnsVoid = false ∧ "System.Threading.Tasks.Task".toList <+: m.returnType.toList ∧
        "FromAsync".toList <:+: suffix.toList) := by
  have htask : (m.asTaskRun suffix).symbol.returnsTask = true ↔
      m.returnsVoid = false ∧ "System.Threading.Tasks.Task".toList <+: m.returnType.toList :=
    derivedReturnsTask_iff
  refine ⟨(mem_builtin_iff _ _).2 (m.displaysOneOf_taskRun suffix), ?_⟩
  rw [tap_mem_asTaskRun_iff, htask, and_assoc]

end

/-- A bridge that starts like `Task.Run` has both tags. -/
theorem builtin_asTaskRun_fromAsync :
    let m : Method :=
      { display := "System.Threading.Tasks.Task.RunFromAsync()"
        returnType := "System.Threading.Tasks.Task" }
    .taskCreation ∈ builtinClassifier.classify m.symbol ∧
      .tap ∈ builtinClassifier.classify m.symbol := by
  intro m
  have hm : m = m.asTaskRun "FromAsync()" := rfl
  rw [hm]
  refine ⟨(mem_builtin_iff _ _).2 (m.displaysOneOf_taskRun _), ?_⟩
  exact (m.tap_mem_asTaskRun_iff _).2 ⟨by decide, ⟨[], "()".toList, by decide⟩⟩

end Method

end AsyncIdioms
