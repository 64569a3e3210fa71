/-
  Identities of methods: the display form `Space.Type.Member(parameters)` and its parts.

  * `topLevelSegments` splits a name at the dots outside `<...>`. A dot right after a dot stays with
    the segment behind it, so that `Pool..ctor` has the segments `Pool` and `.ctor`;
  * `Identity.parse` splits a display form into namespace, type, member and signature;
  * `Identity.qualifiedName` joins the parts again, without the signature;
  * `simpleTypeName` is the name of a type without its namespace and generic arguments.
-/
import AsyncIdioms.Text.Blank
import AsyncIdioms.Text.Find

namespace AsyncIdioms

open Text

/-! ## Angle brackets -/

/-- The nesting depth behind a character: a `>` without a partner leaves depth zero. -/
def angleDepth (depth : Nat) : Char → Nat
  | '<' => depth + 1
  | '>' => depth - 1
  | _ => depth

/-- Splits in front of the first `(` outside angle brackets. -/
def splitSignature (depth : Nat) : List Char → List Char × List Char
  | [] => ([], [])
  | c :: rest =>
    if c = '(' ∧ depth = 0 then ([], c :: rest)
    else
      let (nameChars, signature) := splitSignature (angleDepth depth c) rest
      (c :: nameChars, signature)

/-- The segments of a name from here on. `current` is what has been read of the open segment, and
    `isFirst` tells that no segment has been closed yet. -/
def segmentsFrom (depth : Nat) (isFirst : Bool) (current : List Char) : List Char → List (List Char)
  | [] => if current.isEmpty then [] else [current]
  | c :: rest =>
    if c = '.' ∧ depth = 0 then
      if current.isEmpty && !isFirst then segmentsFrom depth isFirst ['.'] rest
      else current :: segmentsFrom depth false [] rest
    else segmentsFrom (angleDepth depth c) isFirst (current ++ [c]) rest

/-- The segments of a name, divided by the dots outside angle brackets. -/
def topLevelSegments (cs : List Char) : List (List Char) := segmentsFrom 0 true [] cs

/-- A segment without its generic arguments and the blanks around it. -/
def stripGenericArgs (segment : List Char) : List Char := trimChars (before '<' segment)

/-! ## Identities -/

/-- The parts of a method's display form. -/
structure Identity where
  nameSpace : String
  containingType : String
  member : String
  /-- The parameter list as written, or empty. -/
  signature : String
  deriving DecidableEq, Repr

namespace Identity

/-- The namespace, the type and the member of a name, given by its segments in reverse. The last
    two lose their generic arguments, the namespace keeps them. -/
def ofReversedSegments (signature : String) : List (List Char) → Identity
  | [] => ⟨"", "", "", signature⟩
  | [member] => ⟨"", "", String.ofList (stripGenericArgs member), signature⟩
  | member :: type :: spaces =>
    ⟨String.ofList (['.'].intercalate spaces.reverse), String.ofList (stripGenericArgs type),
      String.ofList (stripGenericArgs member), signature⟩

/-- Reads a display form; blanks around it do not count. -/
def parse (display : String) : Identity :=
  let (nameChars, signature) := splitSignature 0 (trimChars display.toList)
  ofReversedSegments (String.ofList signature) (topLevelSegments nameChars).reverse

/-- The form `namespace.Type.Member`, without the parts that are empty. -/
def qualifiedName (i : Identity) : String :=
  ".".intercalate ([i.nameSpace, i.containingType, i.member].filter (· != ""))

end Identity

/-- The name of a type, without its namespace and generic arguments. -/
def simpleTypeName (type : String) : String :=
  String.ofList (afterLast '.' (before '<' (trimChars type.toList)))

end AsyncIdioms
