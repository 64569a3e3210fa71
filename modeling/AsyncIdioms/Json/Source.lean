/-
  Reading and writing plain data as JSON.

  * `Json.ofData` writes data as a value;
  * `Json.source` reads values: a record is an object, or an array of its fields in order, of which
    the last ones may be left out; an alternative is its name, or an object with the name as its
    only key and `null` as its value; `null` is an absent value.
-/
import AsyncIdioms.Data
import AsyncIdioms.Json.Basic

namespace AsyncIdioms.Json

mutual

/-- The JSON value of data. -/
def ofData : Data → Json
  | .text s => .text s
  | .flag b => .bool b
  | .items ds => .array (ofItems ds)
  | .record fields => .object (ofFields fields)

def ofItems : List Data → List Json
  | [] => []
  | d :: ds => ofData d :: ofItems ds

def ofFields : List (String × Data) → List (Option String × Json)
  | [] => []
  | (key, d) :: fields => (some key, ofData d) :: ofFields fields

end

def flag? : Json → Option Bool
  | bool b => some b
  | _ => none

def items? : Json → Option (List Json)
  | array items => some items
  | _ => none

/-- Are the keys all among `names`, and none repeated? -/
def knownKeys (names : List String) : List (Option String × Json) → Bool
  | [] => true
  | (key, _) :: rest =>
    key.any names.contains && rest.all (·.1 != key) && knownKeys names rest

/-- The fields of a record, in the order of `names`. -/
def fields? (names : List String) : Json → Option (List (Option Json))
  | object members =>
    if knownKeys names members then
      some (names.map fun name => (members.find? (·.1 == some name)).map (·.2))
    else none
  | array items =>
    if items.length ≤ names.length then
      some (items.map some ++ List.replicate (names.length - items.length) none)
    else none
  | _ => none

/-- The name of an alternative. -/
def word? : Json → Option String
  | string s => s
  | object [(key, null)] => key
  | _ => none

def present? : Json → Option (Option Json)
  | null => some none
  | v => some (some v)

/-- JSON as a source of data. -/
def source : Source Json where
  text? := text?
  flag? := flag?
  items? := items?
  fields? := fields?
  word? := word?
  present? := present?

end AsyncIdioms.Json
