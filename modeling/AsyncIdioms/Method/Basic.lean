/-
  Methods as a compiler front end describes them, and the facts that rules look at.

  * `Method` : display form, return type, parameters and the nodes that declare the method;
  * `Symbol` : what classification reads of a method; whether it returns a task, and its parsed
    identity, follow from the rest unless the front end knows better;
  * `Symbol.throughReference` : the same, asked through a reference;
  * `Facts` : the parts of a symbol that conditions speak about.
-/
import AsyncIdioms.Code.NodeRef
import AsyncIdioms.Method.Identity

namespace AsyncIdioms

open Text

/-- A declared parameter. -/
structure Parameter where
  name : String
  /-- The type as displayed. -/
  type : String
  deriving DecidableEq, Repr

/-- How the display forms of task types start. -/
def taskTypeStem : String := "System.Threading.Tasks.Task"

/-- What classification reads of a method. -/
structure Symbol where
  /-- Qualified name and parameter list, as displayed. -/
  display : String
  returnsVoid : Bool
  /-- The return type as displayed. -/
  returnType : String
  parameters : List Parameter
  /-- How many nodes declare the method; none, if it is known from metadata only. -/
  declarationCount : Nat
  returnsTask : Bool := !returnsVoid && startsWith returnType taskTypeStem
  identity : Identity := Identity.parse display

/-- The symbol as a reference to it answers: the reference passes on what it is asked, but whether the
    method returns a task and what its identity is, it works out anew. -/
def Symbol.throughReference (s : Symbol) : Symbol where
  display := s.display
  returnsVoid := s.returnsVoid
  returnType := s.returnType
  parameters := s.parameters
  declarationCount := s.declarationCount

/-- A method, described by its parts. -/
structure Method where
  display : String
  returnType : String
  returnsVoid : Bool := returnType == "void" || returnType == "System.Void"
  parameters : List Parameter := []
  declarations : List Code.NodeRef := []

def Method.symbol (m : Method) : Symbol where
  display := m.display
  returnsVoid := m.returnsVoid
  returnType := m.returnType
  parameters := m.parameters
  declarationCount := m.declarations.length

/-- The facts about a method that conditions speak about. -/
structure Facts where
  display : String
  identity : Identity
  qualifiedName : String
  returnType : String
  /-- The simple names of the parameters' types. -/
  parameterTypes : List String
  returnsVoid : Bool
  returnsTask : Bool
  hasDeclaration : Bool

def Symbol.facts (s : Symbol) : Facts where
  display := s.display
  identity := s.identity
  qualifiedName := s.identity.qualifiedName
  returnType := s.returnType
  parameterTypes := s.parameters.map fun p => simpleTypeName p.type
  returnsVoid := s.returnsVoid
  returnsTask := s.returnsTask
  hasDeclaration := s.declarationCount != 0

end AsyncIdioms
