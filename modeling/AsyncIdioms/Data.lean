/-
  Plain data, between the program's own types and the text formats.

  * `Data` : what can be written: texts, flags, lists, and records with their fields in order;
  * `Source` : how a format is read. A reader written against `Source` works for every format.
-/
namespace AsyncIdioms

/-- Data to be written. -/
inductive Data where
  | text (value : String)
  | flag (value : Bool)
  | items (values : List Data)
  | record (fields : List (String × Data))
  deriving Repr

/-- How values of a format are read. Each reader gives `none` where the value has another form. -/
structure Source (α : Type) where
  text? : α → Option String
  flag? : α → Option Bool
  items? : α → Option (List α)
  /-- The values of the named fields, in the order of the names. A field may be missing, but other
      and repeated ones are refused. -/
  fields? : List String → α → Option (List (Option α))
  /-- The word that names one of several alternatives. -/
  word? : α → Option String
  /-- The value of an optional field, which may be written as an absent one. -/
  present? : α → Option (Option α)

namespace Source

variable {α β : Type} (src : Source α)

/-- A field that has to be there. -/
def required (read : α → Option β) : Option α → Option β
  | some v => read v
  | none => none

/-- A field with a default. -/
def withDefault (default : β) (read : α → Option β) : Option α → Option β
  | some v => read v
  | none => some default

/-- A field that may be missing, or written as absent. -/
def optional (read : α → Option β) : Option α → Option (Option β)
  | some v => do
    match ← src.present? v with
    | some v => return some (← read v)
    | none => return none
  | none => some none

/-- A list of values of one kind. -/
def list (read : α → Option β) (v : α) : Option (List β) := do (← src.items? v).mapM read

/-- An alternative, read from its name. -/
def named (ofName? : String → Option β) (v : α) : Option β := do ofName? (← src.word? v)

end Source

end AsyncIdioms
