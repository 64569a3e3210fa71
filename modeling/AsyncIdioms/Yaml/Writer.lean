/-
  Writing plain data as YAML.

  Records and lists are written in blocks, one field or item to a line. The items of a list stand in
  the column of the field that holds it, the fields of a record in a list two columns behind the
  dash. Empty lists and records are written as `[]` and `{}`.
-/
import AsyncIdioms.Data
import AsyncIdioms.Yaml.Scalar

namespace AsyncIdioms.Yaml

def flagChars (b : Bool) : List Char := if b then "true".toList else "false".toList

mutual

/-- What stands behind a field's colon; the field is in column `column`. -/
def valueLines (column : Nat) : Data → List Char
  | .text s => ' ' :: scalarLine (column + 2) s
  | .flag b => ' ' :: flagChars b ++ ['\n']
  | .items [] => " []\n".toList
  | .items (d :: ds) => '\n' :: spaces column ++ itemLines column (d :: ds)
  | .record [] => " \x7b\x7d\n".toList
  | .record (f :: fs) => '\n' :: spaces (column + 2) ++ fieldLines (column + 2) (f :: fs)

/-- What stands behind an item's dash and space; the dash is in column `column`. -/
def itemBody (column : Nat) : Data → List Char
  | .text s => scalarLine (column + 2) s
  | .flag b => flagChars b ++ ['\n']
  | .items [] => "[]\n".toList
  | .items (d :: ds) => itemLines (column + 2) (d :: ds)
  | .record [] => "\x7b\x7d\n".toList
  | .record (f :: fs) => fieldLines (column + 2) (f :: fs)

/-- Items in column `column`. The first one is not indented here. -/
def itemLines (column : Nat) : List Data → List Char
  | [] => []
  | [d] => '-' :: ' ' :: itemBody column d
  | d :: ds => '-' :: ' ' :: itemBody column d ++ spaces column ++ itemLines column ds

/-- Fields in column `column`. The first one is not indented here. -/
def fieldLines (column : Nat) : List (String × Data) → List Char
  | [] => []
  | [(key, d)] => key.toList ++ ':' :: valueLines column d
  | (key, d) :: fields =>
    key.toList ++ ':' :: valueLines column d ++ spaces column ++ fieldLines column fields

end

/-- The YAML text of data. -/
def render : Data → String
  | .record (f :: fs) => String.ofList (fieldLines 0 (f :: fs))
  | .items (d :: ds) => String.ofList (itemLines 0 (d :: ds))
  | .record [] => "\x7b\x7d\n"
  | .items [] => "[]\n"
  | .flag b => String.ofList (flagChars b ++ ['\n'])
  | .text s => String.ofList (scalarLine 2 s)

end AsyncIdioms.Yaml
