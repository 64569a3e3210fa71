/-
  Nodes in messages and logs.

  * `Arena.logText` : the text of a node between blank lines;
  * `Arena.debugText` : number, kind and quoted text of a node.
-/
import AsyncIdioms.Syntax.Arena
import AsyncIdioms.Text.Quoted

namespace AsyncIdioms.Syntax.Arena

open Code

/-- The text of a node between blank lines. -/
def logText (a : Arena) (i : UInt32) : Loop String := do return "\n\n" ++ (← a.text i) ++ "\n\n"

/-- All that a node is, on one line. -/
def debugText (a : Arena) (i : UInt32) : Loop String := do
  let text ← a.text i
  return "SyntaxNode \x7b id: NodeId(" ++ toString i.toNat ++ "), kind: " ++
    ((a.kind? i).getD .other).label ++ ", text: " ++ Text.quoted text ++ " \x7d"

end AsyncIdioms.Syntax.Arena
