/-
  Reading scalars that run in the text: plain ones, and those between quotes.

  Between the words of such a scalar, spacing in a line is kept. Where lines end, spacing is dropped
  and the breaks are folded: a single line feed is read as a space, of several the first is dropped.

  * `Gap` : the spacing and breaks since the last word, `Gap.text` what they are read as;
  * `readSingleQuoted`, `readDoubleQuoted` : behind the opening quote, up to the closing one;
  * `readPlain` : up to what cannot belong to a plain scalar.
-/
import AsyncIdioms.Text.Hex
import AsyncIdioms.Yaml.Place

namespace AsyncIdioms.Yaml

open Text (hexChar?)

/-- What has been read since the last word of a scalar. -/
structure Gap where
  /-- Has a line ended? -/
  broken : Bool := false
  /-- Spacing before a line has ended. -/
  spacing : List Char := []
  /-- The first break. -/
  first : List Char := []
  /-- The breaks behind the first one. -/
  more : List Char := []

namespace Gap

def addSpacing (g : Gap) (c : Char) : Gap :=
  if g.broken then g else { g with spacing := g.spacing ++ [c] }

def addBreak (g : Gap) (c : Char) : Gap :=
  if g.broken then { g with more := g.more ++ breakText c }
  else { broken := true, spacing := [], first := breakText c, more := [] }

/-- What the gap is read as. -/
def text (g : Gap) : List Char :=
  if !g.broken then g.spacing
  else if g.first == ['\n'] then if g.more.isEmpty then [' '] else g.more
  else g.first ++ g.more

end Gap

/-- A text that has been read, and the cursor behind it. -/
structure Reading where
  text : List Char
  behind : Cursor

/-- The reading with more text in front. -/
def Reading.prepend (r : Reading) (cs : List Char) : Reading := { r with text := cs ++ r.text }

/-! ## Single quotes -/

/-- Reads a scalar between single quotes, in which a quote is written twice. -/
def readSingleQuoted (gap : Gap) (place : Place) : List Char → Option Reading
  | [] => none
  | '\'' :: '\'' :: rest =>
    (readSingleQuoted {} (place.past 2) rest).map (·.prepend (gap.text ++ ['\'']))
  | '\r' :: '\n' :: rest => readSingleQuoted (gap.addBreak '\n') (place.pastBreak 2) rest
  | c :: rest =>
    if c = '\'' then some ⟨gap.text, ⟨rest, place.past 1⟩⟩
    else if isSpacing c then readSingleQuoted (gap.addSpacing c) (place.past 1) rest
    else if isBreak c then readSingleQuoted (gap.addBreak c) (place.pastBreak 1) rest
    else if isDocumentMark (c :: rest) place.column then none
    else (readSingleQuoted {} (place.past 1) rest).map (·.prepend (gap.text ++ [c]))

/-! ## Double quotes -/

/-- The character of an escape of one letter. -/
def escapedLetter? : Char → Option Char
  | '0' => some '\x00'
  | 'a' => some '\x07'
  | 'b' => some '\x08'
  | 't' => some '\t'
  | '\t' => some '\t'
  | 'n' => some '\n'
  | 'v' => some '\x0b'
  | 'f' => some '\x0c'
  | 'r' => some '\r'
  | 'e' => some '\x1b'
  | ' ' => some ' '
  | '"' => some '"'
  | '/' => some '/'
  | '\\' => some '\\'
  | 'N' => some '\u0085'
  | '_' => some '\u00a0'
  | 'L' => some '\u2028'
  | 'P' => some '\u2029'
  | _ => none

/-- The gap behind an escaped break, which is not part of the text. -/
def Gap.escapedBreak : Gap := { broken := true }

/-- Reads a scalar between double quotes, with its escapes. -/
def readDoubleQuoted (gap : Gap) (place : Place) : List Char → Option Reading
  | [] => none
  | '\\' :: 'x' :: a :: b :: rest => do
    let c ← hexChar? [a, b]
    return (← readDoubleQuoted {} (place.past 4) rest).prepend (gap.text ++ [c])
  | '\\' :: 'u' :: a :: b :: c :: d :: rest => do
    let c ← hexChar? [a, b, c, d]
    return (← readDoubleQuoted {} (place.past 6) rest).prepend (gap.text ++ [c])
  | '\\' :: 'U' :: a :: b :: c :: d :: e :: f :: g :: h :: rest => do
    let c ← hexChar? [a, b, c, d, e, f, g, h]
    return (← readDoubleQuoted {} (place.past 10) rest).prepend (gap.text ++ [c])
  | '\\' :: '\r' :: '\n' :: rest =>
    (readDoubleQuoted .escapedBreak ((place.past 1).pastBreak 2) rest).map (·.prepend gap.text)
  | '\\' :: e :: rest =>
    if isBreak e then
      (readDoubleQuoted .escapedBreak ((place.past 1).pastBreak 1) rest).map (·.prepend gap.text)
    else do
      let c ← escapedLetter? e
      return (← readDoubleQuoted {} (place.past 2) rest).prepend (gap.text ++ [c])
  | '\r' :: '\n' :: rest => readDoubleQuoted (gap.addBreak '\n') (place.pastBreak 2) rest
  | c :: rest =>
    if c = '"' then some ⟨gap.text, ⟨rest, place.past 1⟩⟩
    else if isSpacing c then readDoubleQuoted (gap.addSpacing c) (place.past 1) rest
    else if isBreak c then readDoubleQuoted (gap.addBreak c) (place.pastBreak 1) rest
    else if c = '\\' then none
    else if isDocumentMark (c :: rest) place.column then none
    else (readDoubleQuoted {} (place.past 1) rest).map (·.prepend (gap.text ++ [c]))

/-! ## Plain scalars -/

/-- The characters that divide flow collections. -/
def isFlowIndicator (c : Char) : Bool := ",[]\x7b\x7d".toList.contains c

/-- Does a plain scalar end in front of these characters, inside a word or at its start? -/
def endsPlainWord (inFlow : Bool) : List Char → Bool
  | [] => true
  | c :: rest => (c == ':' && isBlankOrEnd rest) || (inFlow && isFlowIndicator c)

/-- Is there, in a flow collection, a colon that must not stand in a plain scalar? -/
def isMisplacedColon (inFlow : Bool) : List Char → Bool
  | ':' :: c :: _ => inFlow && (c == '?' || isFlowIndicator c)
  | _ => false

/-- Reads a plain scalar. `indent` is the least column of its lines, where that counts; `atWord`
    tells that a gap has just ended. The reading tells, too, whether it ends behind a break. -/
def readPlain (inFlow : Bool) (indent : Nat) (gap : Gap) (atWord : Bool) (place : Place) :
    List Char → Option (Reading × Bool)
  | [] => some (⟨[], ⟨[], place⟩⟩, gap.broken)
  | '\r' :: '\n' :: rest => readPlain inFlow indent (gap.addBreak '\n') true (place.pastBreak 2) rest
  | c :: rest =>
    if isSpacing c then
      if gap.broken && c == '\t' && decide (place.column < indent) then none
      else readPlain inFlow indent (gap.addSpacing c) true (place.past 1) rest
    else if isBreak c then readPlain inFlow indent (gap.addBreak c) true (place.pastBreak 1) rest
    else if (atWord && ((!inFlow && decide (place.column < indent)) || c == '#' ||
          isDocumentMark (c :: rest) place.column)) then
      some (⟨[], ⟨c :: rest, place⟩⟩, gap.broken)
    else if isMisplacedColon inFlow (c :: rest) then none
    else if endsPlainWord inFlow (c :: rest) then some (⟨[], ⟨c :: rest, place⟩⟩, gap.broken)
    else do
      let (reading, broken) ← readPlain inFlow indent {} false (place.past 1) rest
      return (reading.prepend (gap.text ++ [c]), broken)

end AsyncIdioms.Yaml
