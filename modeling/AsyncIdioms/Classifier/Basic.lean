/-
  Classifying methods.

  * `Catalog.compile` checks a catalog, has a library prepare its regular expressions and orders its
    rules; the first thing that is wrong is reported (`CompileError`);
  * `Classifier.analyze` goes through the rules in order and collects the tags whose rules hold;
  * `Classifier.classifyCallSite` adds the event-based idiom, which shows at a call only.
-/
import AsyncIdioms.Catalog.Shape
import AsyncIdioms.Classifier.Order
import AsyncIdioms.Method.Basic
import AsyncIdioms.Regex.Library
import AsyncIdioms.Syntax.Invocation
import AsyncIdioms.Text.Quoted

namespace AsyncIdioms

open Text

variable [RegexLibrary]

/-! ## Prepared rules -/

/-- What a text is compared with. -/
inductive Matcher where
  | literal (op : TextOp) (values : List String)
  | regexes (patterns : List RegexLibrary.Expr)

/-- A text condition, prepared. `ignoreCase` asks for texts in lower case; the values are in lower
    case then, and regular expressions see to it themselves. -/
structure TextTest where
  subject : Subject
  matcher : Matcher
  negate : Bool
  ignoreCase : Bool

/-- A clause, prepared. -/
structure PreparedClause where
  returnsVoid : Option Bool
  returnsTask : Option Bool
  hasDeclaration : Option Bool
  text : List TextTest
  tagged : List TagCondition

/-- A rule, prepared. -/
structure PreparedRule where
  tag : Tag
  clauses : List PreparedClause

/-- A catalog, prepared: its rules in the order of evaluation. -/
structure Classifier where
  rules : List PreparedRule

/-- Why a catalog cannot be used. -/
inductive CompileError where
  | shape (fault : ShapeFault)
  | invalidRegex (tag : Tag) (pattern : String)
  | order (fault : OrderFault)
  deriving DecidableEq, Repr

def CompileError.message : CompileError → String
  | shape fault => fault.message
  | invalidRegex t pattern =>
    "failed to compile rule " ++ t.name ++ ": invalid regex " ++ quoted pattern
  | order fault => fault.message

/-- A regular expression, or the pattern that is none. -/
def compileRegex (ignoreCase : Bool) (pattern : String) : Except String RegexLibrary.Expr :=
  match RegexLibrary.compile? ignoreCase pattern with
  | some regex => .ok regex
  | none => .error pattern

/-- The matcher of a condition, or the first pattern that is no regular expression. -/
def TextCondition.matcher (c : TextCondition) : Except String Matcher :=
  match c.op with
  | .regex => return .regexes (← c.allValues.mapM (compileRegex c.ignoreCase))
  | op => return .literal op (if c.ignoreCase then c.allValues.map lowercase else c.allValues)

def TextCondition.prepare (c : TextCondition) : Except String TextTest := do
  return ⟨c.subject, ← c.matcher, c.negate, c.ignoreCase && c.op != .regex⟩

def Clause.prepare (c : Clause) : Except String PreparedClause := do
  return ⟨c.returnsVoid, c.returnsTask, c.hasDeclaration, ← c.text.mapM TextCondition.prepare, c.tagged⟩

def Rule.prepare (r : Rule) : Except CompileError PreparedRule :=
  match r.clauses.mapM Clause.prepare with
  | .ok clauses => .ok ⟨r.tag, clauses⟩
  | .error pattern => .error (.invalidRegex r.tag pattern)

/-- Puts the prepared rules of a catalog in order. -/
def Catalog.arrange (c : Catalog) (prepared : List PreparedRule) :
    Except OrderFault (List PreparedRule) := do
  takeInOrder (prepared.map some).toArray (← c.evaluationOrder)

/-- The classifier of a catalog. -/
def Catalog.compile (c : Catalog) : Except CompileError Classifier :=
  match c.shapeFault? with
  | some fault => .error (.shape fault)
  | none => do
    let prepared ← c.rules.mapM Rule.prepare
    match c.arrange prepared with
    | .ok rules => return ⟨rules⟩
    | .error fault => throw (.order fault)

/-! ## Evaluation -/

/-- The texts of a subject. -/
def Facts.texts (f : Facts) : Subject → List String
  | .identity => [f.display]
  | .qualifiedName => [f.qualifiedName]
  | .nameSpace => [f.identity.nameSpace]
  | .containingType => [f.identity.containingType]
  | .memberName => [f.identity.member]
  | .returnType => [f.returnType]
  | .returnTypeName => [simpleTypeName f.returnType]
  | .parameterTypeName => f.parameterTypes

/-- Does the text stand in the relation to the value? Regular expressions are no matter of this. -/
def TextOp.relates (op : TextOp) (text value : String) : Bool :=
  match op with
  | .contains => Text.contains text value
  | .startsWith => Text.startsWith text value
  | .endsWith => Text.endsWith text value
  | .equals => text == value
  | .regex => false

def Matcher.accepts (m : Matcher) (text : String) : Bool :=
  match m with
  | .literal op values => values.any (op.relates text)
  | .regexes patterns => patterns.any fun regex => RegexLibrary.isMatch regex text

def TextTest.holds (t : TextTest) (f : Facts) : Bool :=
  (f.texts t.subject).any (fun text =>
    t.matcher.accepts (if t.ignoreCase then lowercase text else text)) != t.negate

def TagCondition.holds (c : TagCondition) (tags : TagSet) : Bool := tags.has c.tag != c.negate

/-- Does the flag have the wanted value, if one is wanted? -/
def wantedIs (wanted : Option Bool) (flag : Bool) : Bool := wanted.all (· == flag)

/-- Does the clause hold, given the tags found so far? -/
def PreparedClause.holds (c : PreparedClause) (f : Facts) (tags : TagSet) : Bool :=
  wantedIs c.returnsVoid f.returnsVoid && wantedIs c.returnsTask f.returnsTask &&
    wantedIs c.hasDeclaration f.hasDeclaration && c.tagged.all (·.holds tags) && c.text.all (·.holds f)

/-- Adds the tag of a rule that holds. -/
def PreparedRule.apply (f : Facts) (tags : TagSet) (r : PreparedRule) : TagSet :=
  if r.clauses.any (·.holds f tags) then tags.insert r.tag else tags

/-- Tags, and the facts that are told along with them. -/
structure Classification where
  tags : TagSet
  returnsTask : Bool
  hasDeclaration : Bool
  /-- Returns a task and has no source. -/
  isExternalTask : Bool

namespace Classifier

/-- The tags of the rules, in the order of evaluation. -/
def evaluationOrder (c : Classifier) : List Tag := c.rules.map (·.tag)

/-- The tags of a method with these facts. -/
def tagsOf (c : Classifier) (f : Facts) : TagSet := c.rules.foldl (PreparedRule.apply f) .empty

def analyze (c : Classifier) (s : Symbol) : Classification :=
  let f := s.facts
  ⟨c.tagsOf f, f.returnsTask, f.hasDeclaration, f.returnsTask && !f.hasDeclaration⟩

/-- The tags of a method. -/
def classify (c : Classifier) (s : Symbol) : TagSet := (c.analyze s).tags

/-- The tags of several methods. -/
def classifyAll (c : Classifier) (ss : List Symbol) : List TagSet := ss.map c.classify

/-- The tags of a method where it is called, event-based or not. -/
def tagsAtCall (c : Classifier) (s : Symbol) (eventBased : Bool) : TagSet :=
  if eventBased then (c.classify s).insert .eap else c.classify s

/-- The tags of a method at a call of it. -/
def classifyCallSite (c : Classifier) (s : Symbol) (call : Syntax.Invocation) : Loop TagSet := do
  return c.tagsAtCall s (← call.isEventBased)

end Classifier

end AsyncIdioms
