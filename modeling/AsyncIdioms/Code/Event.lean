/-
  Telling a code tree.

  A tree is told in document order: a node starts, its children follow, it finishes; a token is one
  event. Not all events tell a tree; a `Fault` says what is wrong with them.
-/
import AsyncIdioms.Code.Kind

namespace AsyncIdioms.Code

/-- One step of telling a tree. -/
inductive Event where
  | start (kind : Kind) (field : Option Field)
  | token (kind : Kind) (field : Option Field) (text : String)
  | finish
  deriving DecidableEq, Repr

/-- Why events tell no tree. -/
inductive Fault where
  | empty
  | unclosed (pending : Nat)
  | unbalancedFinish
  | multipleRoots
  deriving DecidableEq, Repr

def Fault.message : Fault → String
  | empty => "tree has no root node"
  | unclosed n => toString n ++ " node(s) were started but never finished"
  | unbalancedFinish => "finish_node called without a matching start_node"
  | multipleRoots => "a second root node was added after the tree root was closed"

end AsyncIdioms.Code
