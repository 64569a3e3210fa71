/-
  Catalogs as plain data.

  * `Catalog.data` writes a catalog: fields stand in a fixed order, and those that are unset, empty
    or false are left out, except the lists of rules and of clauses;
  * `Catalog.read?` reads one from any format: unknown fields, repeated fields and unknown names are
    refused, and only the fields that `Catalog.data` may leave out may be missing.
-/
import AsyncIdioms.Catalog.Basic
import AsyncIdioms.Data

namespace AsyncIdioms

/-! ## Writing -/

namespace Data

/-- A field that is left out when it has no value. -/
def optionalField (name : String) : Option Data → List (String × Data)
  | some d => [(name, d)]
  | none => []

/-- A list field that is left out when it is empty. -/
def listField (name : String) (ds : List Data) : List (String × Data) :=
  if ds.isEmpty then [] else [(name, .items ds)]

/-- A flag that is left out when it is false. -/
def trueField (name : String) (b : Bool) : List (String × Data) :=
  if b then [(name, .flag true)] else []

end Data

open Data

def TextCondition.data (c : TextCondition) : Data :=
  .record ([("subject", .text c.subject.name), ("op", .text c.op.name)] ++
    optionalField "value" (c.value.map .text) ++ listField "values" (c.values.map .text) ++
    trueField "negate" c.negate ++ trueField "ignore_case" c.ignoreCase)

def TagCondition.data (c : TagCondition) : Data :=
  .record ([("tag", .text c.tag.name)] ++ trueField "negate" c.negate)

def Clause.data (c : Clause) : Data :=
  .record (optionalField "returns_void" (c.returnsVoid.map .flag) ++
    optionalField "returns_task" (c.returnsTask.map .flag) ++
    optionalField "has_declaration" (c.hasDeclaration.map .flag) ++
    listField "text" (c.text.map (·.data)) ++ listField "tagged" (c.tagged.map (·.data)))

def Rule.data (r : Rule) : Data :=
  .record ([("tag", .text r.tag.name)] ++ optionalField "description" (r.description.map .text) ++
    [("clauses", .items (r.clauses.map (·.data)))])

def Catalog.data (c : Catalog) : Data := .record [("rules", .items (c.rules.map (·.data)))]

/-! ## Reading -/

section
variable {α : Type} (src : Source α)

def TextCondition.read? (v : α) : Option TextCondition := do
  match ← src.fields? ["subject", "op", "value", "values", "negate", "ignore_case"] v with
  | [subject, op, value, values, negate, ignoreCase] =>
    return {
      subject := ← Source.required (src.named Subject.ofName?) subject
      op := ← Source.required (src.named TextOp.ofName?) op
      value := ← src.optional src.text? value
      values := ← Source.withDefault [] (src.list src.text?) values
      negate := ← Source.withDefault false src.flag? negate
      ignoreCase := ← Source.withDefault false src.flag? ignoreCase }
  | _ => none

def TagCondition.read? (v : α) : Option TagCondition := do
  match ← src.fields? ["tag", "negate"] v with
  | [tag, negate] =>
    return {
      tag := ← Source.required (src.named Tag.ofName?) tag
      negate := ← Source.withDefault false src.flag? negate }
  | _ => none

def Clause.read? (v : α) : Option Clause := do
  match ← src.fields? ["returns_void", "returns_task", "has_declaration", "text", "tagged"] v with
  | [returnsVoid, returnsTask, hasDeclaration, text, tagged] =>
    return {
      returnsVoid := ← src.optional src.flag? returnsVoid
      returnsTask := ← src.optional src.flag? returnsTask
      hasDeclaration := ← src.optional src.flag? hasDeclaration
      text := ← Source.withDefault [] (src.list (TextCondition.read? src)) text
      tagged := ← Source.withDefault [] (src.list (TagCondition.read? src)) tagged }
  | _ => none

def Rule.read? (v : α) : Option Rule := do
  match ← src.fields? ["tag", "description", "clauses"] v with
  | [tag, description, clauses] =>
    return {
      tag := ← Source.required (src.named Tag.ofName?) tag
      description := ← src.optional src.text? description
      clauses := ← Source.required (src.list (Clause.read? src)) clauses }
  | _ => none

def Catalog.read? (v : α) : Option Catalog := do
  match ← src.fields? ["rules"] v with
  | [rules] => return ⟨← Source.withDefault [] (src.list (Rule.read? src)) rules⟩
  | _ => none

end

end AsyncIdioms
