/-
  Reading block scalars: `|` keeps the lines as they are, `>` folds them.

  * `readBlockHead` : the signs behind `|` or `>`, for the breaks at the end and for the indentation;
  * `readBlock` : the lines. The indentation, if it is not told, is that of the first line that is
    not empty; the scalar ends in front of the first line that is indented less.
-/
import AsyncIdioms.Yaml.Folding

namespace AsyncIdioms.Yaml

/-- What becomes of the breaks at the end of a block scalar. -/
inductive Chomping where
  | strip
  | clip
  | keep
  deriving DecidableEq, Repr

def chompingOf? : Char → Option Chomping
  | '-' => some .strip
  | '+' => some .keep
  | _ => none

/-- The digit of an indentation; zero is refused, which is the outer `none`. -/
def indentationOf? (rest : List Char) : Option (Option Nat) :=
  match rest with
  | c :: _ => if c == '0' then none else some (if c.isDigit then some (c.toNat - 0x30) else none)
  | [] => some none

/-- The signs at the head of a block scalar: chomping and indentation, in either order. -/
def readBlockHead (c : Cursor) : Option (Chomping × Option Nat × Cursor) :=
  match c.rest.head?.bind chompingOf? with
  | some chomping => do
    let c := c.drop 1
    match ← indentationOf? c.rest with
    | some n => return (chomping, some n, c.drop 1)
    | none => return (chomping, none, c)
  | none => do
    match ← indentationOf? c.rest with
    | some n =>
      let c := c.drop 1
      match c.rest.head?.bind chompingOf? with
      | some chomping => return (chomping, some n, c.drop 1)
      | none => return (.clip, some n, c)
    | none => return (.clip, none, c)

/-- A block scalar that is being read. -/
structure BlockState where
  folded : Bool
  chomping : Chomping
  /-- The indentation of the collection around the scalar. -/
  parent : Int
  /-- The indentation of the lines, once it is known. -/
  indent : Option Nat
  /-- The greatest column that a line has been found to start in. -/
  deepest : Nat := 0
  /-- The break that ended the last line. -/
  ended : List Char := []
  /-- The breaks behind it. -/
  more : List Char := []
  /-- Did the last line start with spacing? -/
  afterSpacing : Bool := false
  /-- Inside a line, or in front of one? -/
  inLine : Bool := false

namespace BlockState

/-- Is the column in front of where lines start, as far as is known? -/
def isBefore (s : BlockState) (column : Nat) : Bool := s.indent.all fun n => decide (column < n)

/-- The indentation, given the column of the line that settles it. -/
def settledIndent (s : BlockState) (column : Nat) : Nat :=
  s.indent.getD (max (max s.deepest column) (max 1 (s.parent + 1).toNat))

/-- What the breaks in front of a line are read as; `spacing` tells that the line starts with some. -/
def joint (s : BlockState) (spacing : Bool) : List Char :=
  if s.folded && s.ended.head? == some '\n' && !s.afterSpacing && !spacing then
    if s.more.isEmpty then [' '] else s.more
  else s.ended ++ s.more

/-- What the breaks at the end are read as. -/
def tail (s : BlockState) : List Char :=
  match s.chomping with
  | .strip => []
  | .clip => s.ended
  | .keep => s.ended ++ s.more

/-- The state behind a break. -/
def pastBreak (s : BlockState) (column : Nat) (c : Char) : BlockState :=
  if s.inLine then { s with ended := breakText c, more := [], inLine := false }
  else { s with deepest := max s.deepest column, more := s.more ++ breakText c }

end BlockState

/-- Reads the lines of a block scalar. -/
def readBlock (s : BlockState) (place : Place) : List Char → Option Reading
  | [] => some ⟨s.tail, ⟨[], place⟩⟩
  | '\r' :: '\n' :: rest => readBlock (s.pastBreak place.column '\n') (place.pastBreak 2) rest
  | c :: rest =>
    if isBreak c then readBlock (s.pastBreak place.column c) (place.pastBreak 1) rest
    else if s.inLine then (readBlock s (place.past 1) rest).map (·.prepend [c])
    else if c == ' ' && s.isBefore place.column then readBlock s (place.past 1) rest
    else if c == '\t' && s.isBefore place.column then none
    else
      let indent := s.settledIndent place.column
      if place.column < indent then some ⟨s.tail, ⟨c :: rest, place⟩⟩
      else
        (readBlock
          { s with
            indent := some indent
            ended := []
            more := []
            afterSpacing := isSpacing c
            inLine := true }
          (place.past 1) rest).map (·.prepend (s.joint (isSpacing c) ++ [c]))

end AsyncIdioms.Yaml
