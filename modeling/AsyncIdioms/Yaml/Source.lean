/-
  Reading plain data from YAML nodes.

  * a text is any scalar, as it is written;
  * a flag is a plain scalar, `true` or `false`;
  * where a list or a record is expected, a node that is not written is an empty one;
  * an alternative is its name, or its name as the tag of a node that is not written or `null`;
  * an absent value is a plain scalar that is empty or a word for nothing.
-/
import AsyncIdioms.Data
import AsyncIdioms.Yaml.Node

namespace AsyncIdioms.Yaml

def nullTag : String := "tag:yaml.org,2002:null"

def flagTag : String := "tag:yaml.org,2002:bool"

namespace Node

def text? (n : Node) : Option String :=
  match n.target with
  | scalar _ _ text => some text
  | _ => none

/-- A flag. A block counts, too, if its tag says that it is a flag. -/
def flag? (n : Node) : Option Bool :=
  match n.target with
  | scalar .plain _ text => flagWord? text
  | scalar .literal (some tag) text => if tag == flagTag then flagWord? text else none
  | _ => none

def items? (n : Node) : Option (List Node) :=
  match n.target with
  | items nodes => some nodes
  | scalar .plain _ "" => some []
  | _ => none

/-- Are the keys all among `names`, and none repeated? -/
def knownKeys (names : List String) : List (Node × Node) → Bool
  | [] => true
  | (key, _) :: rest =>
    key.text?.any names.contains && rest.all (·.1.text? != key.text?) && knownKeys names rest

def fields? (names : List String) (n : Node) : Option (List (Option Node)) :=
  match n.target with
  | fields entries =>
    if knownKeys names entries then
      some (names.map fun name => (entries.find? (·.1.text? == some name)).map (·.2))
    else none
  | scalar .plain _ "" => some (names.map fun _ => none)
  | _ => none

/-- The name of an alternative. -/
def word? (n : Node) : Option String :=
  match n.target with
  | scalar style (some tag) text =>
    match tag.toList with
    | '!' :: name =>
      if style == .plain && (text.isEmpty || isNullWord text) then some (String.ofList name) else none
    | _ => some text
  | scalar _ none text => some text
  | _ => none

def present? (n : Node) : Option (Option Node) :=
  match n.target with
  | scalar .plain (some tag) text =>
    if tag == nullTag then if isNullWord text then some none else none else some (some n)
  | scalar .plain none text => some (if text.isEmpty || isNullWord text then none else some n)
  | _ => some (some n)

end Node

/-- YAML as a source of data. -/
def source : Source Node where
  text? := Node.text?
  flag? := Node.flag?
  items? := Node.items?
  fields? := Node.fields?
  word? := Node.word?
  present? := Node.present?

end AsyncIdioms.Yaml
