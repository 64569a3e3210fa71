/-
  The shape of a catalog: what is checked before it is used.

  `Catalog.shapeFault?` is the first fault, rule by rule. In a rule, a repeated tag comes before
  missing clauses, and these before the clauses; in a clause, having no constraints comes before
  text conditions without values.
-/
import AsyncIdioms.Catalog.Basic

namespace AsyncIdioms

/-- What is wrong with the shape of a catalog. -/
inductive ShapeFault where
  | duplicateRule (tag : Tag)
  | noClauses (tag : Tag)
  | unconstrainedClause (tag : Tag)
  | noValue (tag : Tag) (subject : Subject)
  deriving DecidableEq, Repr

def ShapeFault.message : ShapeFault → String
  | duplicateRule t => "duplicate rule for tag " ++ t.name
  | noClauses t => "rule " ++ t.name ++ " has no clauses"
  | unconstrainedClause t => "rule " ++ t.name ++ " has a clause without constraints"
  | noValue t s => "rule " ++ t.name ++ ": " ++ s.title ++ " condition has no value"

/-- The first fault of a clause in a rule for `t`. -/
def Clause.shapeFault? (t : Tag) (c : Clause) : Option ShapeFault :=
  if c.isUnconstrained then some (.unconstrainedClause t)
  else (c.text.find? (·.allValues.isEmpty)).map fun x => .noValue t x.subject

/-- The first fault of a rule behind rules for the tags `earlier`. -/
def Rule.shapeFault? (earlier : List Tag) (r : Rule) : Option ShapeFault :=
  if r.tag ∈ earlier then some (.duplicateRule r.tag)
  else if r.clauses.isEmpty then some (.noClauses r.tag)
  else r.clauses.findSome? (Clause.shapeFault? r.tag)

/-- The first fault of rules that stand behind rules for the tags `earlier`. -/
def shapeFaultFrom (earlier : List Tag) : List Rule → Option ShapeFault
  | [] => none
  | r :: rest =>
    match r.shapeFault? earlier with
    | some fault => some fault
    | none => shapeFaultFrom (r.tag :: earlier) rest

/-- The first fault of a catalog. -/
def Catalog.shapeFault? (c : Catalog) : Option ShapeFault := shapeFaultFrom [] c.rules

end AsyncIdioms
