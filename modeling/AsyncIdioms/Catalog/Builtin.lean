/-
  The built-in catalog.

  Every tag but the event-based one, which shows at a call only, has a rule.
-/
import AsyncIdioms.Classifier.Basic

namespace AsyncIdioms

namespace Builtin

/-- A condition that a subject stands in a relation to one value. -/
def textIs (subject : Subject) (op : TextOp) (value : String) : TextCondition :=
  { subject, op, value := some value }

/-- A rule that holds where the display form contains the fragment. -/
def fragmentRule (tag : Tag) (fragment : String) : Rule :=
  { tag, clauses := [{ text := [textIs .identity .contains fragment] }] }

/-- A rule that holds where the display form contains one of the fragments. -/
def fragmentsRule (tag : Tag) (fragments : List String) : Rule :=
  { tag, clauses := [{ text := [{ subject := .identity, op := .contains, values := fragments }] }] }

/-! ## Task-based and `Begin`/`End` idioms -/

def tap : Rule where
  tag := .tap
  description := some "Task-returning API without a source body, or a FromAsync bridge"
  clauses := [
    { returnsTask := some true
      hasDeclaration := some false
      text := [{ textIs .identity .startsWith "System.Threading.Tasks" with negate := true }]
      tagged := [{ tag := .taskCreation, negate := true }] },
    { returnsTask := some true
      text := [textIs .identity .contains "FromAsync"] }]

def apmBegin : Rule where
  tag := .apmBegin
  description := some "Begin half of an IAsyncResult pair"
  clauses := [
    { returnsVoid := some false
      text := [textIs .parameterTypeName .equals "AsyncCallback",
        textIs .returnTypeName .equals "IAsyncResult"]
      tagged := [{ tag := .asyncDelegate, negate := true }] }]

def apmEnd : Rule where
  tag := .apmEnd
  description := some "End half of an IAsyncResult pair"
  clauses := [
    { text := [textIs .identity .contains "IAsyncResult", textIs .memberName .startsWith "End"] }]

/-! ## Moving work to another thread -/

def taskCreation : Rule where
  tag := .taskCreation
  description := some "Low-level task construction primitives and known wrappers"
  clauses := [
    { text := [
        { subject := .identity
          op := .contains
          values := ["Task.Start", "Task.Run", "TaskFactory.StartNew", "TaskEx.RunEx", "TaskEx.Run",
            "StartNewTask", "StartNewTaskWithoutExceptionHandling"] }] }]

def asyncDelegate : Rule where
  tag := .asyncDelegate
  description := some "Delegate BeginInvoke returning IAsyncResult"
  clauses := [
    { returnsVoid := some false
      text := [textIs .identity .contains "Invoke", textIs .returnType .contains "IAsyncResult"] }]

/-! ## Going back to the thread of the user interface -/

def iSynchronizeInvoke : Rule where
  tag := .iSynchronizeInvoke
  clauses := [{ text := [textIs .identity .startsWith "System.ComponentModel.ISynchronizeInvoke"] }]

end Builtin

/-- The built-in catalog. -/
def builtinCatalog : Catalog where
  rules := [
    Builtin.tap,
    Builtin.apmBegin,
    Builtin.apmEnd,
    Builtin.taskCreation,
    Builtin.fragmentRule .threadPoolQueue "ThreadPool.QueueUserWorkItem",
    Builtin.fragmentRule .backgroundWorker "BackgroundWorker.RunWorkerAsync",
    Builtin.fragmentRule .threadStart "Thread.Start",
    Builtin.fragmentsRule .parallelFor ["Parallel.For", "ParallelWithMember.For"],
    Builtin.fragmentsRule .parallelForEach ["Parallel.ForEach", "ParallelWithMember.ForEach"],
    Builtin.fragmentsRule .parallelInvoke ["Parallel.Invoke", "ParallelLoader.Invoke"],
    Builtin.asyncDelegate,
    Builtin.iSynchronizeInvoke,
    Builtin.fragmentRule .controlBeginInvoke "Control.BeginInvoke",
    Builtin.fragmentRule .dispatcherBeginInvoke "Dispatcher.BeginInvoke",
    Builtin.fragmentRule .dispatcherInvoke "Dispatcher.Invoke"]

/-- The classifier of the built-in catalog. -/
def builtinClassifier [RegexLibrary] : Classifier :=
  match builtinCatalog.compile with
  | .ok c => c
  | .error _ => ⟨[]⟩

end AsyncIdioms
