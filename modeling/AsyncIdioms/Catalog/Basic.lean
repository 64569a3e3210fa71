/-
  Catalogs: tables of rules that say which methods have which tags.

  A rule gives its tag when one of its clauses holds; a clause holds when all its constraints do.
  Constraints look at texts of the method (`TextCondition`), at flags, or at other tags
  (`TagCondition`).

  * `Catalog.rule?` finds the rule of a tag, `Rule.dependencies` the tags that it looks at;
  * `Catalog.merge` adds the rules of a second catalog.
-/
import AsyncIdioms.Tag

namespace AsyncIdioms

/-- The text of a method that a condition looks at. -/
inductive Subject where
  /-- The display form, with the parameter list. -/
  | identity
  | qualifiedName
  | nameSpace
  | containingType
  | memberName
  /-- The return type as displayed. -/
  | returnType
  /-- The return type without namespace and generic arguments. -/
  | returnTypeName
  /-- The simple name of the type of some parameter. -/
  | parameterTypeName
  deriving DecidableEq, Repr

namespace Subject

def all : List Subject :=
  [identity, qualifiedName, nameSpace, containingType, memberName, returnType, returnTypeName,
    parameterTypeName]

/-- The name of a subject in catalogs. -/
def name : Subject → String
  | identity => "identity"
  | qualifiedName => "qualified_name"
  | nameSpace => "namespace"
  | containingType => "containing_type"
  | memberName => "member_name"
  | returnType => "return_type"
  | returnTypeName => "return_type_name"
  | parameterTypeName => "parameter_type_name"

/-- The name of a subject in messages. -/
def title : Subject → String
  | identity => "Identity"
  | qualifiedName => "QualifiedName"
  | nameSpace => "Namespace"
  | containingType => "ContainingType"
  | memberName => "MemberName"
  | returnType => "ReturnType"
  | returnTypeName => "ReturnTypeName"
  | parameterTypeName => "ParameterTypeName"

def ofName? (s : String) : Option Subject := all.find? (·.name == s)

@[simp]
theorem ofName?_name (x : Subject) : ofName? x.name = some x := by cases x <;> decide

end Subject

/-- How a text is compared with the values of a condition. -/
inductive TextOp where
  | contains
  | startsWith
  | endsWith
  | equals
  /-- By a regular expression. -/
  | regex
  deriving DecidableEq, Repr

namespace TextOp

def all : List TextOp := [contains, startsWith, endsWith, equals, regex]

def name : TextOp → String
  | contains => "contains"
  | startsWith => "starts_with"
  | endsWith => "ends_with"
  | equals => "equals"
  | regex => "matches"

def ofName? (s : String) : Option TextOp := all.find? (·.name == s)

@[simp]
theorem ofName?_name (x : TextOp) : ofName? x.name = some x := by cases x <;> decide

end TextOp

/-- A test of one subject. It holds if some value matches, or if none does and it is negated. -/
structure TextCondition where
  subject : Subject
  op : TextOp
  value : Option String := none
  values : List String := []
  negate : Bool := false
  ignoreCase : Bool := false
  deriving DecidableEq, Repr

/-- The single `value`, then all `values`. -/
def TextCondition.allValues (c : TextCondition) : List String := c.value.toList ++ c.values

/-- A test for another tag. -/
structure TagCondition where
  tag : Tag
  negate : Bool := false
  deriving DecidableEq, Repr

/-- Constraints that hold together; those that are not set do not count. -/
structure Clause where
  returnsVoid : Option Bool := none
  returnsTask : Option Bool := none
  hasDeclaration : Option Bool := none
  text : List TextCondition := []
  tagged : List TagCondition := []
  deriving DecidableEq, Repr

def Clause.isUnconstrained (c : Clause) : Bool :=
  c.returnsVoid.isNone && c.returnsTask.isNone && c.hasDeclaration.isNone && c.text.isEmpty &&
    c.tagged.isEmpty

/-- A tag and the clauses that give it. -/
structure Rule where
  tag : Tag
  description : Option String := none
  clauses : List Clause
  deriving DecidableEq, Repr

/-- The tags that the rule looks at, as often as it does. -/
def Rule.dependencies (r : Rule) : List Tag := r.clauses.flatMap fun c => c.tagged.map (·.tag)

theorem Rule.mem_dependencies {r : Rule} {t : Tag} :
    t ∈ r.dependencies ↔ ∃ clause ∈ r.clauses, ∃ d ∈ clause.tagged, d.tag = t := by
  simp [dependencies]

/-- A table of rules. -/
structure Catalog where
  rules : List Rule := []
  deriving DecidableEq, Repr

namespace Catalog

/-- The first rule of a tag. -/
def rule? (c : Catalog) (t : Tag) : Option Rule := c.rules.find? (·.tag == t)

/-- Adds a rule: to the first one of its tag, if there is one, else at the end. -/
def addRule (r : Rule) : List Rule → List Rule
  | [] => [r]
  | e :: rest =>
    if e.tag = r.tag then { e with clauses := e.clauses ++ r.clauses } :: rest
    else e :: addRule r rest

/-- The catalog with the rules of `other` added, one after the other. -/
def merge (c other : Catalog) : Catalog := ⟨other.rules.foldl (fun rules r => addRule r rules) c.rules⟩

end Catalog

end AsyncIdioms
