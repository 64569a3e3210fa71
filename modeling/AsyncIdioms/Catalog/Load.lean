/-
  Catalogs as texts and files.

  * `Catalog.ofYaml`, `Catalog.ofJson` read a catalog from a text, `Catalog.toYaml`, `Catalog.toJson`
    write one;
  * `Catalog.ofFile` reads a file: JSON if its name has the extension `json`, else YAML.
-/
import AsyncIdioms.Catalog.Record
import AsyncIdioms.Json.Parse
import AsyncIdioms.Json.Source
import AsyncIdioms.Yaml.Source
import AsyncIdioms.Yaml.Writer

namespace AsyncIdioms

/-- Why no catalog could be read. -/
inductive LoadError where
  | invalidYaml
  | invalidJson
  /-- The file is missing or is not UTF-8. -/
  | unreadable (file : String)
  /-- What the file holds is no catalog. -/
  | inFile (file : String) (cause : LoadError)
  deriving DecidableEq, Repr

def LoadError.message : LoadError → String
  | invalidYaml => "invalid YAML pattern catalog"
  | invalidJson => "invalid JSON pattern catalog"
  | unreadable file => "failed to read pattern catalog " ++ file
  | inFile file cause => "failed to load pattern catalog " ++ file ++ ": " ++ cause.message

namespace Catalog

def ofYaml (text : String) : Except LoadError Catalog :=
  match (Yaml.parse? text).bind (Catalog.read? Yaml.source) with
  | some c => .ok c
  | none => .error .invalidYaml

def ofJson (text : String) : Except LoadError Catalog :=
  match (Json.parse? text).bind (Catalog.read? Json.source) with
  | some c => .ok c
  | none => .error .invalidJson

def toYaml (c : Catalog) : String := Yaml.render c.data

def toJson (c : Catalog) : String := (Json.ofData c.data).render

/-- The extension of a file name: what stands behind its last dot, unless the name starts there. -/
def extension? (file : String) : Option String :=
  match (file.toList.reverse.takeWhile (· != '.'), file.toList.reverse.dropWhile (· != '.')) with
  | (reversed, '.' :: _ :: _) => some (String.ofList reversed.reverse)
  | _ => none

/-- Is the file a JSON file by its name? Case does not count. -/
def isJsonFile (file : String) : Bool :=
  (extension? file).any fun e => e.toList.map Char.toLower == "json".toList

/-- Reads a file of that name. -/
def ofFile (file : String) (content : Option ByteArray) : Except LoadError Catalog :=
  match content.bind String.fromUTF8? with
  | none => .error (.unreadable file)
  | some text =>
    match if isJsonFile file then ofJson text else ofYaml text with
    | .ok c => .ok c
    | .error cause => .error (.inFile file cause)

end Catalog

end AsyncIdioms
