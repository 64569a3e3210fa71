/-
  Projects and the platform they are built for.

  * `Platform.ofReferences` derives the platform from the display forms of a project's references:
    phone platforms come first, then .NET 4.0, then 4.5;
  * `Project` remembers its platform once it has been asked for, whatever becomes of its references;
  * `Project.ofJson?` reads a project from JSON; members that it does not know do not count.
-/
import AsyncIdioms.Json.Source
import AsyncIdioms.Text.Find

namespace AsyncIdioms

open Text

/-- What a project is built for. -/
inductive Platform where
  | net4
  | net45
  | wp7
  | wp8
  | netOther
  deriving DecidableEq, Repr

namespace Platform

def name : Platform → String
  | net4 => "NET4"
  | net45 => "NET45"
  | wp7 => "WP7"
  | wp8 => "WP8"
  | netOther => "NETOther"

/-- Does some reference contain one of the needles? -/
def mentions (references needles : List String) : Bool :=
  references.any fun r => needles.any fun needle => contains r needle

/-- The platform that the references tell. -/
def ofReferences (references : List String) : Platform :=
  if mentions references ["Windows Phone", "WindowsPhone"] then
    if mentions references ["Windows Phone\\v8"] then wp8 else wp7
  else if mentions references ["Framework\\v4.0"] then net4
  else if mentions references ["Framework\\v4.5", ".NETCore\\v4.5"] then net45
  else netOther

end Platform

/-- A project as a front end describes it. -/
structure Project where
  name : String
  language : String
  references : List String
  /-- The platform, once it has been asked for. -/
  knownPlatform : Option Platform := none
  deriving DecidableEq, Repr

namespace Project

/-- The platform, and the project that remembers it. -/
def platform (p : Project) : Platform × Project :=
  let platform := p.knownPlatform.getD (Platform.ofReferences p.references)
  (platform, { p with knownPlatform := some platform })

def isCSharp (p : Project) : Bool := p.language == "C#"

/-- The value of a key that occurs exactly once. -/
def onlyMember? (members : List (Option String × Json)) (key : String) : Option Json :=
  match members.filter (·.1 == some key) with
  | [(_, v)] => some v
  | _ => none

def ofParts? (name language references : Json) : Option Project := do
  return {
    name := ← name.text?
    language := ← language.text?
    references := ← Json.source.list Json.text? references }

/-- Reads a project: an object with a name, a language and references, or an array of the three. -/
def ofJson? : Json → Option Project
  | .object members => do
    guard (members.all (·.1.isSome))
    ofParts? (← onlyMember? members "name") (← onlyMember? members "language")
      (← onlyMember? members "references")
  | .array [name, language, references] => ofParts? name language references
  | _ => none

end Project

end AsyncIdioms
