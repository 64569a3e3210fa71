/-
  Calls in code trees, and the event-based idiom at a call.

  * `Invocation` : a node of kind `invocationExpression`;
  * `Invocation.isEventBased` : an `...Async` call in a method that also has some `...Completed`
    member on the left of a binary expression.
-/
import AsyncIdioms.Syntax.Arena
import AsyncIdioms.Text.Find
import AsyncIdioms.Text.Lowercase

namespace AsyncIdioms.Syntax

open Code Text

/-- A call: a node of that kind. -/
structure Invocation where
  arena : Arena
  id : UInt32
  isCall : arena.kind? id = some .invocationExpression

namespace Arena

variable (a : Arena)

/-- Does the text of the node, without blanks around it and in lower case, end with `ending`? -/
def endsInLowercase (i : UInt32) (ending : String) : Loop Bool := do
  return endsWith (lowercase (← a.trimmedText i)) ending

/-- Is node `i` a binary expression with a `...Completed` member on its left? -/
def isCompletion (i : UInt32) : Loop Bool :=
  if a.kind? i == some .binaryExpression then
    match a.childByField i .left with
    | some left => a.endsInLowercase left "completed"
    | none => some false
  else some false

/-- Is there, below node `i`, a binary expression with a `...Completed` member on its left? -/
def mentionsCompletion (i : UInt32) : Loop Bool :=
  anyItem a.nextBelow a.isCompletion (a.stackBelow i)

end Arena

namespace Invocation

/-- The node as a call, if it is one. -/
def of? (a : Arena) (i : UInt32) : Option Invocation :=
  if h : a.kind? i = some .invocationExpression then some ⟨a, i, h⟩ else none

variable (v : Invocation)

/-- What is called, for instance `client.DownloadStringAsync`. -/
def expression? : Option UInt32 := v.arena.childByField v.id .expression

/-- The method declarations around the call, innermost first. -/
def enclosingMethods : List UInt32 :=
  (v.arena.ancestors v.id).filter fun i => v.arena.kind? i == some .methodDeclaration

/-- Is the name of what is called an `...Async` one? -/
def callsAsync : Loop Bool :=
  match v.expression? with
  | some e => v.arena.endsInLowercase e "async"
  | none => some false

/-- Follows the `...Async` and `...Completed` convention. -/
def isEventBased : Loop Bool := do
  if ← v.callsAsync then v.enclosingMethods.anyM v.arena.mentionsCompletion else return false

end Invocation

end AsyncIdioms.Syntax
