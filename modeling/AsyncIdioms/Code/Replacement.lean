/-
  What is told about replacing nodes.

  * `firstRepeated` : the first node that is named twice;
  * `ReplaceError` : why there is no outcome, with its message;
  * `ReplaceStats` : how many replacements were made.
-/
import AsyncIdioms.Code.Event
import AsyncIdioms.Code.NodeRef

namespace AsyncIdioms.Code

/-- The first reference that occurred before in the list. -/
def firstRepeated (seen : List NodeRef) : List NodeRef → Option NodeRef
  | [] => none
  | r :: rest => if seen.contains r then some r else firstRepeated (r :: seen) rest

inductive ReplaceError where
  /-- Two replacements have this old node. -/
  | duplicateTarget (id : Nat)
  /-- The events tell no tree. -/
  | malformed (fault : Fault)
  deriving DecidableEq, Repr

def ReplaceError.message : ReplaceError → String
  | duplicateTarget id => "node " ++ nodeName id ++ " is targeted by more than one replacement pair"
  | malformed fault => "rewritten tree is malformed: " ++ fault.message

/-- How many replacements were made, and how many had an old node that was not met. -/
structure ReplaceStats where
  applied : Nat
  skipped : Nat
  deriving DecidableEq, Repr

end AsyncIdioms.Code
