/-
  Method declarations in code trees: what is written at a declaration.

  A `Declaration` is a node of kind `methodDeclaration`; its parts are children in certain roles or
  of certain kinds, and the questions about it compare their texts without the blanks around them.
  Where a text is read, the answer is that of a `Loop`.
-/
import AsyncIdioms.Syntax.Forest
import AsyncIdioms.Text.Find

namespace AsyncIdioms.Syntax

open Code Text

/-- A method declaration: a node of that kind. -/
structure Declaration where
  arena : Arena
  id : UInt32
  isMethod : arena.kind? id = some .methodDeclaration

namespace Declaration

/-- The node as a method declaration, if it is one. -/
def of? (a : Arena) (i : UInt32) : Option Declaration :=
  if h : a.kind? i = some .methodDeclaration then some ⟨a, i, h⟩ else none

variable (d : Declaration)

def name? : Loop (Option String) := (d.arena.childByField d.id .name).mapM d.arena.trimmedText

def modifiers : List UInt32 := d.arena.childrenOfKind d.id .modifier

/-- The modifiers as written, for instance `public static async`. -/
def modifiersText : Loop String := do
  return trim (String.join (← d.modifiers.mapM d.arena.text))

def returnType? : Option UInt32 := d.arena.childByField d.id .returnType

/-- The return type as written, empty if there is none. -/
def returnTypeText : Loop String := do
  return (← d.returnType?.mapM d.arena.trimmedText).getD ""

def attributeLists : List UInt32 := d.arena.childrenOfKind d.id .attributeList

def parameterList? : Option UInt32 := d.arena.childByField d.id .parameterList

def parameters : List UInt32 :=
  match d.parameterList? with
  | some list => d.arena.childrenOfKind list .parameter
  | none => []

def body? : Option UInt32 := d.arena.childByField d.id .body

/-- The type of a parameter as written. -/
def parameterTypeText? (parameter : UInt32) : Loop (Option String) :=
  (d.arena.childByField parameter .type).mapM d.arena.trimmedText

/-- Declared `async`, or with some `Task` as its return type. -/
def isAsync : Loop Bool := do
  if contains (← d.modifiersText) "async" then return true
  return contains (← d.returnTypeText) "Task"

/-- Has a `TestMethod` attribute. -/
def isTestMethod : Loop Bool :=
  d.attributeLists.anyM fun list =>
    (d.arena.childrenOfKind list .attributeItem).anyM fun item => do
      return contains (← d.arena.text item) "TestMethod"

/-- Has the shape of an event handler: the type of some parameter ends with `EventArgs`. -/
def hasEventArgsParameter : Loop Bool :=
  d.parameters.anyM fun p => do
    return (← d.parameterTypeText? p).any fun t => endsWith t "EventArgs"

/-- Has the shape of a callback with a state: a single parameter, of type `object`. -/
def hasObjectStateParameter : Loop Bool :=
  match d.parameters with
  | [p] => do return (← d.parameterTypeText? p) == some "object"
  | _ => some false

def returnsVoid : Loop Bool := do return (← d.returnTypeText) == "void"

end Declaration

/-- The first of the nodes that is a method declaration, with its reference. -/
def Forest.locateDeclaration (f : Forest) (nodes : List NodeRef) : Option Declaration :=
  nodes.findSome? fun r => (f.node? r).bind fun n => Declaration.of? n.arena n.id

end AsyncIdioms.Syntax
