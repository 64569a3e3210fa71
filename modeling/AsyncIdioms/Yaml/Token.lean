/-
  The tokens of a YAML text.

  Indentation is told by tokens for the start and the end of block collections. What turns out to be
  a key only when its colon is met gets a slot in front of it (`Token.slot`), which is settled then;
  `Token.settle` gives the tokens that the slots stand for.

  * `Scan` : the text that is left, the tokens so far, the indentation, and the possible keys;
  * `Scan.step` : the next token, `scan` : all of them.
-/
import AsyncIdioms.Yaml.Block
import AsyncIdioms.Yaml.Scalar
import AsyncIdioms.Yaml.TagName

namespace AsyncIdioms.Yaml

/-- What a slot in front of a possible key stands for. -/
inductive Slot where
  /-- It was no key. -/
  | nothing
  | key
  /-- The first key of a block mapping. -/
  | firstKey
  deriving DecidableEq, Repr

/-- A token. -/
inductive Token where
  | directive (directive : Directive)
  | documentStart
  | documentEnd
  | blockSequenceStart
  | blockMappingStart
  | blockEnd
  | flowSequenceStart
  | flowSequenceEnd
  | flowMappingStart
  | flowMappingEnd
  | blockEntry
  | flowEntry
  | key
  | value
  | aliasOf (name : String)
  | anchor (name : String)
  | tag (tag : TagName)
  | scalar (style : Style) (text : String)
  | slot (slot : Slot)
  deriving DecidableEq, Repr

/-- The tokens that a token stands for. -/
def Token.settle : Token → List Token
  | .slot .nothing => []
  | .slot .key => [.key]
  | .slot .firstKey => [.blockMappingStart, .key]
  | t => [t]

/-- A place where a key may have started. -/
structure PossibleKey where
  place : Place
  /-- The slot in front of it. -/
  slot : Nat
  /-- Must it be a key? -/
  required : Bool
  deriving DecidableEq, Repr

/-- A text that is being scanned. -/
structure Scan where
  cursor : Cursor
  tokens : Array Token := #[]
  /-- The column of the innermost block collection, `-1` outside. -/
  indent : Int := -1
  /-- The columns of the block collections around it. -/
  outer : List Int := []
  /-- The possible keys: for each flow collection that is open, innermost first, and for the block
      around them. -/
  keys : List (Option PossibleKey) := [none]
  /-- May a key start here? -/
  keyAllowed : Bool := true

namespace Scan

variable (s : Scan)

def inFlow : Bool := s.keys.length > 1

def column : Nat := s.cursor.place.column

def push (t : Token) : Scan := { s with tokens := s.tokens.push t }

/-- The scan behind `n` characters of the line. -/
def skip (n : Nat) : Scan := { s with cursor := s.cursor.drop n }

/-! ## Spaces between tokens -/

end Scan

/-- The place of the next token, and whether a key may start there: spaces, comments and breaks are
    skipped, in block collections tabs only where no key may start. -/
def seekToken (inFlow keyAllowed inComment : Bool) (place : Place) : List Char → Bool × Cursor
  | [] => (keyAllowed, ⟨[], place⟩)
  | '\r' :: '\n' :: rest => seekToken inFlow (keyAllowed || !inFlow) false (place.pastBreak 2) rest
  | c :: rest =>
    if isBreak c then seekToken inFlow (keyAllowed || !inFlow) false (place.pastBreak 1) rest
    else if inComment || c == ' ' || (c == '\t' && (inFlow || !keyAllowed)) ||
        (isByteOrderMark c && place.column == 0) then
      seekToken inFlow keyAllowed inComment (place.past 1) rest
    else if c == '#' then seekToken inFlow keyAllowed true (place.past 1) rest
    else (keyAllowed, ⟨c :: rest, place⟩)

namespace Scan

variable (s : Scan)

def seek : Scan :=
  let (keyAllowed, cursor) := seekToken s.inFlow s.keyAllowed false s.cursor.place s.cursor.rest
  { s with cursor, keyAllowed }

/-! ## Possible keys -/

/-- Is the key too far away? Keys stand on one line and have at most 1024 characters. -/
def isStale (k : PossibleKey) : Bool :=
  k.place.line < s.cursor.place.line || k.place.index + 1024 < s.cursor.place.index

/-- Forgets the possible keys that are too far away; none of them may be required. -/
def dropStale : Option Scan :=
  if s.keys.any (·.any fun k => s.isStale k && k.required) then none
  else some { s with keys := s.keys.map (·.filter (!s.isStale ·)) }

/-- Forgets the possible key of the innermost collection, which must not be required. -/
def dropKey : Option Scan :=
  match s.keys with
  | some k :: keys => if k.required then none else some { s with keys := none :: keys }
  | _ => some s

/-- Notes that a key may start here. -/
def noteKey : Option Scan :=
  if s.keyAllowed then do
    let s ← s.dropKey
    let k : PossibleKey :=
      ⟨s.cursor.place, s.tokens.size, !s.inFlow && s.indent == (s.column : Int)⟩
    return { s.push (.slot .nothing) with keys := some k :: s.keys.tail }
  else some s

/-! ## Indentation -/

/-- Opens a block collection in this column, if it is a deeper one. -/
def openBlock (column : Nat) (start : Token) : Scan :=
  if !s.inFlow && decide (s.indent < column) then
    { s.push start with indent := column, outer := s.indent :: s.outer }
  else s

/-- Closes the block collections that are deeper than `column`. -/
def closeBlocks (column : Int) : Scan :=
  if s.inFlow then s
  else
    let rec close (tokens : Array Token) (indent : Int) : List Int → Array Token × Int × List Int
      | [] => (tokens, indent, [])
      | next :: outer =>
        if column < indent then close (tokens.push .blockEnd) next outer
        else (tokens, indent, next :: outer)
    let (tokens, indent, outer) := close s.tokens s.indent s.outer
    { s with tokens, indent, outer }

/-! ## The tokens -/

/-- Ends all block collections, in front of what is outside of them. -/
def leaveBlocks : Option Scan := do
  return { ← (s.closeBlocks (-1)).dropKey with keyAllowed := false }

def directive : Option Scan := do
  let s ← s.leaveBlocks
  let (d, cursor) ← readDirective s.cursor
  return { s.push (.directive d) with cursor }

def documentMark (t : Token) : Option Scan := do
  return ((← s.leaveBlocks).push t).skip 3

def flowStart (t : Token) : Option Scan := do
  let s ← s.noteKey
  return { (s.push t).skip 1 with keys := none :: s.keys, keyAllowed := true }

def flowEnd (t : Token) : Option Scan := do
  let s ← s.dropKey
  let keys := match s.keys with
    | _ :: k :: keys => k :: keys
    | keys => keys
  return { (s.push t).skip 1 with keys, keyAllowed := false }

def flowEntry : Option Scan := do
  let s ← s.dropKey
  return { (s.push .flowEntry).skip 1 with keyAllowed := true }

def blockEntry : Option Scan := do
  guard (s.inFlow || s.keyAllowed)
  let s ← (s.openBlock s.column .blockSequenceStart).dropKey
  return { (s.push .blockEntry).skip 1 with keyAllowed := true }

def key : Option Scan := do
  guard (s.inFlow || s.keyAllowed)
  let s ← (s.openBlock s.column .blockMappingStart).dropKey
  return { (s.push .key).skip 1 with keyAllowed := !s.inFlow }

/-- A colon: behind a possible key, which is one then, or by itself. -/
def value : Option Scan :=
  match s.keys with
  | some k :: keys =>
    let opens := !s.inFlow && decide (s.indent < k.place.column)
    let tokens := s.tokens.setIfInBounds k.slot (.slot (if opens then .firstKey else .key))
    let s := if opens then { s with indent := k.place.column, outer := s.indent :: s.outer } else s
    let s := { s with tokens, keys := none :: keys, keyAllowed := false }
    some ((s.push .value).skip 1)
  | _ => do
    guard (s.inFlow || s.keyAllowed)
    let s := s.openBlock s.column .blockMappingStart
    return { (s.push .value).skip 1 with keyAllowed := !s.inFlow }

def nameToken (t : String → Token) : Option Scan := do
  let s ← s.noteKey
  let (name, cursor) ← readName s.cursor
  return { s.push (t name) with cursor, keyAllowed := false }

def tag : Option Scan := do
  let s ← s.noteKey
  let (tag, cursor) ← readTag s.inFlow s.cursor
  return { s.push (.tag tag) with cursor, keyAllowed := false }

def block (folded : Bool) : Option Scan := do
  let s ← s.dropKey
  let (chomping, indentation, cursor) ← readBlockHead (s.cursor.drop 1)
  let cursor ← cursor.dropLineEnd?
  let indent := indentation.map fun n => (max s.indent 0).toNat + n
  let reading ← readBlock { folded, chomping, parent := s.indent, indent } cursor.place cursor.rest
  let style := if folded then Style.folded else Style.literal
  return { s.push (.scalar style (String.ofList reading.text)) with
    cursor := reading.behind, keyAllowed := true }

def quoted (isSingle : Bool) : Option Scan := do
  let s ← s.noteKey
  let inside := s.cursor.drop 1
  let (style, reading) ←
    if isSingle then (readSingleQuoted {} inside.place inside.rest).map (Style.singleQuoted, ·)
    else (readDoubleQuoted {} inside.place inside.rest).map (Style.doubleQuoted, ·)
  return { s.push (.scalar style (String.ofList reading.text)) with
    cursor := reading.behind, keyAllowed := false }

def plain : Option Scan := do
  let s ← s.noteKey
  let indent := (s.indent + 1).toNat
  let (reading, broken) ← readPlain s.inFlow indent {} false s.cursor.place s.cursor.rest
  return { s.push (.scalar .plain (String.ofList reading.text)) with
    cursor := reading.behind, keyAllowed := broken }

/-- May a plain scalar start with this character? -/
def startsPlain (inFlow : Bool) (c : Char) (rest : List Char) : Bool :=
  if c == '-' then !(rest.head?.any isSpacing)
  else if c == '?' || c == ':' then !inFlow && !isBlankOrEnd rest
  else !(isSpacing c || isBreak c || ",[]\x7b\x7d#&*!|>'\"%@`".toList.contains c)

/-- The token that starts with these characters. -/
def token (c : Char) (rest : List Char) : Option Scan :=
  if c == '%' && s.column == 0 then s.directive
  else if isDocumentMark (c :: rest) s.column then
    s.documentMark (if c == '-' then .documentStart else .documentEnd)
  else if c == '[' then s.flowStart .flowSequenceStart
  else if c == '\x7b' then s.flowStart .flowMappingStart
  else if c == ']' then s.flowEnd .flowSequenceEnd
  else if c == '\x7d' then s.flowEnd .flowMappingEnd
  else if c == ',' then s.flowEntry
  else if c == '-' && isBlankOrEnd rest then s.blockEntry
  else if c == '?' && (s.inFlow || isBlankOrEnd rest) then s.key
  else if c == ':' && (s.inFlow || isBlankOrEnd rest) then s.value
  else if c == '*' then s.nameToken .aliasOf
  else if c == '&' then s.nameToken .anchor
  else if c == '!' then s.tag
  else if c == '|' && !s.inFlow then s.block false
  else if c == '>' && !s.inFlow then s.block true
  else if c == '\'' then s.quoted true
  else if c == '"' then s.quoted false
  else if startsPlain s.inFlow c rest then s.plain
  else none

/-- The scan behind the next token. -/
def step : Option Scan := do
  let s ← s.seek.dropStale
  let s := s.closeBlocks s.column
  match s.cursor.rest with
  | [] => s
  | c :: rest => s.token c rest

/-- The scan at the end of the text. -/
def finish : Option Scan := do (s.closeBlocks (-1)).dropKey

/-- Reads all tokens; the first argument bounds their number, and the length of the text is enough. -/
def run : Nat → Scan → Option (Array Token)
  | 0, _ => none
  | n + 1, s => do
    let s ← s.step
    if s.cursor.rest.isEmpty then
      let s ← (← s.step).finish
      return s.tokens
    else run n s

end Scan

/-- The tokens of a text. -/
def scan (cs : List Char) : Option (List Token) := do
  guard (cs.all isReadable)
  let tokens ← Scan.run (cs.length + 1) { cursor := { rest := cs } }
  return tokens.toList.flatMap Token.settle

end AsyncIdioms.Yaml
