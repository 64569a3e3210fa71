/-
  Places in a YAML text.

  * `Place` : the number of characters in front, the line, and the column;
  * `Place.past`, `Place.pastBreak` : the place behind a character of a line, or behind a break;
  * `splitBreak?` : a break at the front of a text, with what it is read as. A carriage return and a
    line feed are one break. All breaks are read as line feeds, but the separators stay as they are.
-/
import AsyncIdioms.Yaml.Chars

namespace AsyncIdioms.Yaml

/-- A place in a text. -/
structure Place where
  index : Nat := 0
  line : Nat := 0
  column : Nat := 0
  deriving DecidableEq, Repr

namespace Place

/-- The place `n` characters further in the line. -/
def past (p : Place) (n : Nat) : Place := { p with index := p.index + n, column := p.column + n }

/-- The place behind a break of `width` characters. -/
def pastBreak (p : Place) (width : Nat) : Place := ⟨p.index + width, p.line + 1, 0⟩

end Place

/-- What a break is read as. -/
def breakText (c : Char) : List Char := if isSeparator c then [c] else ['\n']

/-- A text with the place where it starts. -/
structure Cursor where
  rest : List Char
  place : Place := {}

namespace Cursor

/-- The cursor behind `n` characters of the line. -/
def drop (c : Cursor) (n : Nat) : Cursor := ⟨c.rest.drop n, c.place.past n⟩

/-- The characters from here on that have the property, and the cursor behind them. -/
def span (c : Cursor) (p : Char → Bool) : List Char × Cursor :=
  let taken := c.rest.takeWhile p
  (taken, ⟨c.rest.dropWhile p, c.place.past taken.length⟩)

/-- The cursor behind a break, if there is one here. -/
def dropBreak (c : Cursor) : Cursor :=
  match c.rest with
  | '\r' :: '\n' :: rest => ⟨rest, c.place.pastBreak 2⟩
  | b :: rest => if isBreak b then ⟨rest, c.place.pastBreak 1⟩ else c
  | [] => c

/-- The cursor behind spacing and a comment; the line has to end there. -/
def dropLineEnd? (c : Cursor) : Option Cursor :=
  let c := (c.span isSpacing).2
  let c := if c.rest.head? == some '#' then (c.span (!isBreak ·)).2 else c
  if isBreakOrEnd c.rest then some c.dropBreak else none

end Cursor

/-- Does a line start here with `---` or `...`, ended by a blank, that divides documents? -/
def isDocumentMark (rest : List Char) (column : Nat) : Bool :=
  column == 0 && match rest with
    | '-' :: '-' :: '-' :: tail => isBlankOrEnd tail
    | '.' :: '.' :: '.' :: tail => isBlankOrEnd tail
    | _ => false

end AsyncIdioms.Yaml
