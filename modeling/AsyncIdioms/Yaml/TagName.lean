/-
  Reading what decorates a node: tags, anchors and aliases; and the directives of a document.

  * `readTag` : a tag as its handle and its suffix, `!`, `!suffix`, `!handle!suffix` or `!<uri>`;
  * `readName` : the name behind `&` or `*`;
  * `readDirective` : a `%YAML` or `%TAG` line.
-/
import AsyncIdioms.Yaml.Folding

namespace AsyncIdioms.Yaml

open Text (hexValue?)

/-! ## Addresses -/

/-- May the character stand in a tag? Inside `!<...>`, and behind `%TAG`, some more may. -/
def isUriChar (isVerbatim : Bool) (c : Char) : Bool :=
  isWordChar c || ";/?:@&=+$.!~*'()".toList.contains c || (isVerbatim && ",[]".toList.contains c)

/-- The bytes that follow the first byte of a character, and the bits that the first one gives. -/
def leadingByte? (byte : Nat) : Option (Nat × Nat) :=
  if byte < 0x80 then some (0, byte)
  else if byte < 0xC0 then none
  else if byte < 0xE0 then some (1, byte - 0xC0)
  else if byte < 0xF0 then some (2, byte - 0xE0)
  else if byte < 0xF8 then some (3, byte - 0xF0)
  else none

/-- The character of a code point, or the replacement character. -/
def charOrReplacement (n : Nat) : Char := if n.isValidChar then Char.ofNat n else '\ufffd'

/-- Reads an address. `%` and two digits give a byte of a character; `owed` bytes of one that has
    the bits `bits` are still to come. -/
def readUri (isVerbatim : Bool) (owed bits : Nat) : List Char → Option (List Char × List Char)
  | '%' :: a :: b :: rest => do
    let byte := (← hexValue? a) * 16 + (← hexValue? b)
    let (owed, bits) ←
      if owed = 0 then leadingByte? byte
      else if 0x80 ≤ byte ∧ byte < 0xC0 then some (owed - 1, bits * 64 + (byte - 0x80))
      else none
    let (cs, rest) ← readUri isVerbatim owed bits rest
    return (if owed = 0 then charOrReplacement bits :: cs else cs, rest)
  | c :: rest =>
    if owed ≠ 0 ∨ c = '%' then none
    else if isUriChar isVerbatim c then do
      let (cs, rest) ← readUri isVerbatim 0 0 rest
      return (c :: cs, rest)
    else some ([], c :: rest)
  | [] => if owed = 0 then some ([], []) else none

/-- Reads an address at a cursor; the cursor moves in the line. -/
def readUriAt (isVerbatim : Bool) (c : Cursor) : Option (String × Cursor) := do
  let (cs, rest) ← readUri isVerbatim 0 0 c.rest
  return (String.ofList cs, ⟨rest, c.place.past (c.rest.length - rest.length)⟩)

/-! ## Tags -/

/-- A tag as written. -/
structure TagName where
  handle : String
  suffix : String
  deriving DecidableEq, Repr

/-- Reads `!`, word characters and perhaps another `!`. -/
def readHandle (c : Cursor) : Option (String × Cursor) :=
  match c.rest with
  | '!' :: _ =>
    let (word, c) := (c.drop 1).span isWordChar
    if c.rest.head? == some '!' then some (String.ofList ('!' :: word ++ ['!']), c.drop 1)
    else some (String.ofList ('!' :: word), c)
  | _ => none

/-- Is the handle of the form `!...!`? -/
def isFullHandle (handle : String) : Bool :=
  handle.length ≥ 2 && handle.toList.getLast? == some '!'

/-- Reads a tag up to its end. -/
def readTagName (c : Cursor) : Option (TagName × Cursor) := do
  if c.rest[1]? == some '<' then
    let (suffix, c) ← readUriAt true (c.drop 2)
    guard (suffix != "" && c.rest.head? == some '>')
    return (⟨"", suffix⟩, c.drop 1)
  else
    let (handle, c) ← readHandle c
    let (suffix, c) ← readUriAt false c
    if isFullHandle handle then
      guard (suffix != "")
      return (⟨handle, suffix⟩, c)
    else
      let suffix := String.ofList (handle.toList.drop 1) ++ suffix
      return (if suffix == "" then ⟨"", "!"⟩ else ⟨"!", suffix⟩, c)

/-- Reads a tag. A blank follows it, or in a flow collection a comma. -/
def readTag (inFlow : Bool) (c : Cursor) : Option (TagName × Cursor) := do
  let (tag, c) ← readTagName c
  guard (isBlankOrEnd c.rest || (inFlow && c.rest.head? == some ','))
  return (tag, c)

/-! ## Names -/

/-- Reads the name of an anchor, behind `&` or `*`. -/
def readName (c : Cursor) : Option (String × Cursor) := do
  let (word, c) := (c.drop 1).span isWordChar
  guard (!word.isEmpty && (isBlankOrEnd c.rest || c.rest.head?.any "?:,]\x7d%@`".toList.contains))
  return (String.ofList word, c)

/-! ## Directives -/

/-- A directive of a document. -/
inductive Directive where
  | version (major minor : Nat)
  | tag (handle uri : String)
  deriving DecidableEq, Repr

/-- Reads up to nine digits. -/
def readVersionNumber (c : Cursor) : Option (Nat × Cursor) := do
  let (digits, c) := c.span Char.isDigit
  guard (!digits.isEmpty && digits.length ≤ 9)
  return (digits.foldl (fun n d => n * 10 + (d.toNat - 0x30)) 0, c)

/-- Reads what stands behind `%YAML`. -/
def readVersion (c : Cursor) : Option (Directive × Cursor) := do
  let (major, c) ← readVersionNumber (c.span isSpacing).2
  guard (c.rest.head? == some '.')
  let (minor, c) ← readVersionNumber (c.drop 1)
  return (.version major minor, c)

/-- Reads what stands behind `%TAG`. -/
def readTagDirective (c : Cursor) : Option (Directive × Cursor) := do
  let (handle, c) ← readHandle (c.span isSpacing).2
  guard ((isFullHandle handle || handle == "!") && c.rest.head?.any isSpacing)
  let (uri, c) ← readUriAt true (c.span isSpacing).2
  guard (uri != "" && isBlankOrEnd c.rest)
  return (.tag handle uri, c)

/-- Reads a directive, at its `%`, and the end of its line. -/
def readDirective (c : Cursor) : Option (Directive × Cursor) := do
  let (word, c) := (c.drop 1).span isWordChar
  guard (isBlankOrEnd c.rest)
  let (directive, c) ←
    if word == "YAML".toList then readVersion c
    else if word == "TAG".toList then readTagDirective c
    else none
  return (directive, ← c.dropLineEnd?)

end AsyncIdioms.Yaml
