/-
  Vocabulary of code trees: the kinds of nodes and the roles that a node can have in its parent.

  Each has a label, and `Kind.ofLabel?` and `Field.ofLabel?` read it back.
-/
namespace AsyncIdioms.Code

/-- The kind of a node. What no question asks about is `other`. -/
inductive Kind where
  | compilationUnit
  | namespaceDeclaration
  | classDeclaration
  | methodDeclaration
  | constructorDeclaration
  | propertyDeclaration
  | attributeList
  | attributeItem
  | modifier
  | parameterList
  | parameter
  | predefinedType
  | identifierName
  | genericName
  | qualifiedName
  | arrayType
  | block
  | expressionStatement
  | returnStatement
  | localDeclaration
  | invocationExpression
  | memberAccessExpression
  | argumentList
  | argument
  | binaryExpression
  | assignmentExpression
  | awaitExpression
  | lambdaExpression
  | objectCreationExpression
  | identifier
  | keyword
  | operator
  | punctuation
  | literal
  | other
  deriving DecidableEq, Repr, Inhabited

namespace Kind

/-- All kinds. -/
def all : List Kind :=
  [compilationUnit, namespaceDeclaration, classDeclaration, methodDeclaration,
    constructorDeclaration, propertyDeclaration, attributeList, attributeItem, modifier, parameterList,
    parameter, predefinedType, identifierName, genericName, qualifiedName, arrayType, block,
    expressionStatement, returnStatement, localDeclaration, invocationExpression,
    memberAccessExpression, argumentList, argument, binaryExpression, assignmentExpression,
    awaitExpression, lambdaExpression, objectCreationExpression, identifier, keyword, operator,
    punctuation, literal, other]

/-- The label of a kind. -/
def label : Kind → String
  | compilationUnit => "CompilationUnit"
  | namespaceDeclaration => "NamespaceDeclaration"
  | classDeclaration => "ClassDeclaration"
  | methodDeclaration => "MethodDeclaration"
  | constructorDeclaration => "ConstructorDeclaration"
  | propertyDeclaration => "PropertyDeclaration"
  | attributeList => "AttributeList"
  | attributeItem => "Attribute"
  | modifier => "Modifier"
  | parameterList => "ParameterList"
  | parameter => "Parameter"
  | predefinedType => "PredefinedType"
  | identifierName => "IdentifierName"
  | genericName => "GenericName"
  | qualifiedName => "QualifiedName"
  | arrayType => "ArrayType"
  | block => "Block"
  | expressionStatement => "ExpressionStatement"
  | returnStatement => "ReturnStatement"
  | localDeclaration => "LocalDeclaration"
  | invocationExpression => "InvocationExpression"
  | memberAccessExpression => "MemberAccessExpression"
  | argumentList => "ArgumentList"
  | argument => "Argument"
  | binaryExpression => "BinaryExpression"
  | assignmentExpression => "AssignmentExpression"
  | awaitExpression => "AwaitExpression"
  | lambdaExpression => "LambdaExpression"
  | objectCreationExpression => "ObjectCreationExpression"
  | identifier => "Identifier"
  | keyword => "Keyword"
  | operator => "Operator"
  | punctuation => "Punctuation"
  | literal => "Literal"
  | other => "Other"

/-- The kind of that label. -/
def ofLabel? (s : String) : Option Kind := all.find? (·.label == s)

@[simp]
theorem ofLabel?_label (k : Kind) : ofLabel? k.label = some k := by cases k <;> decide

end Kind

/-- The role of a node in its parent. -/
inductive Field where
  | name
  | returnType
  | type
  | parameterList
  | body
  | expression
  | argumentList
  | left
  | operator
  | right
  deriving DecidableEq, Repr

namespace Field

/-- All roles. -/
def all : List Field :=
  [name, returnType, type, parameterList, body, expression, argumentList, left, operator, right]

/-- The label of a role. -/
def label : Field → String
  | .name => "Name"
  | .returnType => "ReturnType"
  | .type => "Type"
  | .parameterList => "ParameterList"
  | .body => "Body"
  | .expression => "Expression"
  | .argumentList => "ArgumentList"
  | .left => "Left"
  | .operator => "Operator"
  | .right => "Right"

/-- The role of that label. -/
def ofLabel? (s : String) : Option Field := all.find? (·.label == s)

@[simp]
theorem ofLabel?_label (f : Field) : ofLabel? f.label = some f := by cases f <;> decide

end Field

end AsyncIdioms.Code
