/-
  The text form of regular expressions.

  A pattern is read from left to right. `Level` is the group that is being read, with the flags in
  force, the alternatives that are finished and the pieces of the last one; the groups around it
  wait on a stack (`Reader`).

  * `Piece` : an expression, with the depth and the size of its text form;
  * `Reader.step` reads one piece, operator, parenthesis or bar;
  * `Regex.compile?` reads a whole pattern. Besides malformed patterns it refuses those that are
    nested too deeply (`maxDepth`) or would unfold to too large a machine (`maxSize`).
-/
import AsyncIdioms.Regex.Bracket
import AsyncIdioms.Regex.Library

namespace AsyncIdioms.Regex

open Text (Ranges)

/-! ## Pieces -/

/-- Groups, repetitions, brackets and the like may be nested so deeply. -/
def maxDepth : Nat := 250

/-- The greatest number of bytes that the machine of a pattern may take. -/
def maxSize : Nat := 10 * 1024 * 1024

/-- The bytes of one state of a machine, and of one way out of it. -/
def stateSize : Nat := 32
def edgeSize : Nat := 8

/-- An expression, with the depth of its nesting and the bytes its machine takes. -/
structure Piece where
  regex : Regex
  depth : Nat
  size : Nat
  /-- A flag group is a piece that cannot be repeated. -/
  repeatable : Bool := true

/-- Can a match of the expression have characters in it? -/
def consumes : Regex → Bool
  | .empty => false
  | .set _ => true
  | .look _ => false
  | .cat r s => r.consumes || s.consumes
  | .alt r s => r.consumes || s.consumes
  | .rep _ most r => most != some 0 && r.consumes

/-- The bytes that the machine of a set takes: a single character has a state for each of its bytes,
    a set of ASCII characters one way out for each range, and any other set about two states for
    each range, besides those that all of them share. -/
def setSize (chars : Ranges) : Nat :=
  match chars with
  | [] => stateSize
  | [(a, b)] =>
    if a == b then stateSize * (Char.ofNat a).utf8Size
    else if b < 0x80 then 2 * stateSize
    else 12 * stateSize
  | rs =>
    if rs.all fun r => decide (r.2 < 0x80) then 2 * stateSize + edgeSize * rs.length
    else 8 * stateSize + 2 * stateSize * rs.length

namespace Piece

def empty : Piece := ⟨.empty, 0, stateSize, true⟩

/-- The place of a flag group, which matches nothing. -/
def flagGroup : Piece := ⟨.empty, 0, stateSize, false⟩

def ofSet (chars : Ranges) : Piece := ⟨.set chars, 0, setSize chars, true⟩

def ofLook (l : Look) : Piece := ⟨.look l, 0, stateSize, true⟩

def ofAtom (f : Flags) : Atom → Piece
  | .char c => ofSet (f.literal c)
  | .set chars => ofSet chars
  | .look l => ofLook l

/-- The pieces one behind the other; two or more make a level of their own. -/
def concat : List Piece → Piece
  | [] => empty
  | [p] => p
  | p :: ps =>
    ⟨ps.foldl (fun r q => .cat r q.regex) p.regex, (ps.map Piece.depth).foldl max p.depth + 1,
      ps.foldl (fun n q => n + q.size) p.size, true⟩

/-- The pieces as alternatives; two or more make a level of their own. -/
def choice : List Piece → Piece
  | [] => empty
  | [p] => p
  | p :: ps =>
    ⟨ps.foldl (fun r q => .alt r q.regex) p.regex, (ps.map Piece.depth).foldl max p.depth + 1,
      2 * stateSize + (edgeSize / 2) * (ps.length + 1) + ps.foldl (fun n q => n + q.size) p.size, true⟩

/-- The piece repeated; what matches no characters is repeated once at most. -/
def repeated (least : Nat) (most : Option Nat) (p : Piece) : Piece :=
  let (least, most) :=
    if p.regex.consumes then (least, most) else (min least 1, some ((most.getD 1).min 1))
  let optional := p.size + stateSize + edgeSize
  let size := match most with
    | none => (least - 1) * p.size + optional
    | some m => stateSize + least * p.size + (m - least) * optional
  ⟨.rep least most p.regex, p.depth + 1, size, true⟩

/-- The piece in parentheses. -/
def grouped (p : Piece) : Piece := { p with depth := p.depth + 1, repeatable := true }

end Piece

/-! ## Groups -/

/-- A group that is being read. -/
structure Level where
  flags : Flags
  /-- Does the group record what it matches? -/
  captures : Bool
  /-- The finished alternatives, last one first. -/
  branches : List Piece := []
  /-- The pieces of the alternative that is being read, last one first. -/
  pieces : List Piece := []

namespace Level

def push (l : Level) (p : Piece) : Level := { l with pieces := p :: l.pieces }

/-- Goes on behind a bar. -/
def branch (l : Level) : Level :=
  { l with branches := Piece.concat l.pieces.reverse :: l.branches, pieces := [] }

/-- The piece of all that has been read. -/
def value (l : Level) : Piece := Piece.choice l.branch.branches.reverse

/-- The piece of a finished group. -/
def close (l : Level) : Piece :=
  let p := l.value.grouped
  if l.captures then { p with size := p.size + 2 * stateSize } else p

/-- Repeats the last piece, if there is one that can be repeated. -/
def repeatLast? (l : Level) (least : Nat) (most : Option Nat) : Option Level :=
  match l.pieces with
  | [] => none
  | p :: rest =>
    if p.repeatable then some { l with pieces := p.repeated least most :: rest } else none

end Level

/-- A pattern that is being read: the innermost group, the groups around it from the inside out, and
    the names of groups so far. -/
structure Reader where
  level : Level
  outer : List Level := []
  names : List (List Char) := []

/-! ## Repetitions -/

/-- A question mark behind a repetition makes it reluctant, which has no influence on whether there
    is a match. -/
def skipReluctant : List Char → List Char
  | '?' :: rest => rest
  | cs => cs

/-- Reads decimal digits, with gaps between them. -/
def readDigits (f : Flags) : Nat → List Char → List Char × List Char
  | fuel + 1, c :: rest =>
    if c.isDigit then
      let (digits, rest) := readDigits f fuel (f.skip rest)
      (c :: digits, rest)
    else ([], c :: rest)
  | _, cs => ([], cs)

/-- Reads a number below 2^32, with blanks around it. -/
def readCount (f : Flags) (cs : List Char) : Option (Nat × List Char) := do
  let cs := cs.dropWhile Text.isBlank
  let (digits, rest) := readDigits f cs.length cs
  guard (!digits.isEmpty)
  let n := digits.foldl (fun n c => n * 10 + (c.toNat - 0x30)) 0
  guard (n < Nat.pow 2 32)
  return (n, f.skip (rest.dropWhile Text.isBlank))

/-- Reads the bounds of a repetition behind the opening brace: one number, a number and a comma, or
    two numbers in order. -/
def readBounds (f : Flags) (cs : List Char) : Option (Nat × Option Nat × List Char) := do
  let (least, rest) ← readCount f (f.skip cs)
  match rest with
  | '\x7d' :: rest => return (least, some least, rest)
  | ',' :: rest =>
    match f.skip rest with
    | '\x7d' :: rest => return (least, none, rest)
    | rest =>
      let (most, rest) ← readCount f rest
      match rest with
      | '\x7d' :: rest =>
        guard (least ≤ most)
        return (least, some most, rest)
      | _ => none
  | _ => none

/-! ## Opening a group -/

/-- The characters of the names of groups. -/
def isNameChar (first : Bool) (c : Char) : Bool :=
  c == '_' || Text.alphabeticRanges.has c ||
    (!first && (c == '.' || c == '[' || c == ']' || ((Text.category? "n").getD []).has c))

/-- Reads the name of a group up to its closing angle bracket. -/
def readName (cs : List Char) : Option (List Char × List Char) := do
  let name := cs.takeWhile (· != '>')
  guard (!name.isEmpty && name.head?.any (isNameChar true) && (name.drop 1).all (isNameChar false))
  match cs.dropWhile (· != '>') with
  | '>' :: rest => return (name, rest)
  | _ => none

namespace Reader

/-- Starts a group inside the innermost one. -/
def enter (r : Reader) (f : Flags) (captures : Bool) : Reader :=
  { r with level := ⟨f, captures, [], []⟩, outer := r.level :: r.outer }

/-- Starts a group that has a name; no name may be given twice. -/
def enterNamed (r : Reader) (cs : List Char) : Option (Reader × List Char) := do
  let (name, rest) ← readName cs
  guard (!r.names.contains name)
  return ({ r.enter r.level.flags true with names := name :: r.names }, rest)

/-- Reads the start of a group behind its parenthesis, or a whole flag group. Conditions on what
    stands around a place have no place in these patterns. -/
def open? (r : Reader) (cs : List Char) : Option (Reader × List Char) :=
  match r.level.flags.skip cs with
  | '?' :: '=' :: _ => none
  | '?' :: '!' :: _ => none
  | '?' :: '<' :: '=' :: _ => none
  | '?' :: '<' :: '!' :: _ => none
  | '?' :: 'P' :: '<' :: rest => r.enterNamed rest
  | '?' :: '<' :: rest => r.enterNamed rest
  | '?' :: rest => do
    let (flags, seen, rest) ← readFlags r.level.flags [] rest
    match rest with
    | ':' :: rest => return (r.enter flags false, rest)
    | _ :: rest =>
      guard (!seen.isEmpty)
      return ({ r with level := { r.level.push .flagGroup with flags := flags } }, rest)
    | [] => none
  | rest => some (r.enter r.level.flags true, rest)

/-- Ends the innermost group. -/
def close? (r : Reader) : Option Reader :=
  match r.outer with
  | [] => none
  | l :: outer => some { r with level := l.push r.level.close, outer := outer }

def push (r : Reader) (p : Piece) : Reader := { r with level := r.level.push p }

def repeatLast? (r : Reader) (least : Nat) (most : Option Nat) : Option Reader :=
  (r.level.repeatLast? least most).map fun l => { r with level := l }

/-- Reads what the character `c` starts: a parenthesis, a bar, a bracket, a repetition, an escape,
    a dot, a condition or a character that stands for itself. -/
def step (r : Reader) (c : Char) (rest : List Char) : Option (Reader × List Char) :=
  let f := r.level.flags
  match c with
  | '(' => r.open? rest
  | ')' => r.close?.map (·, rest)
  | '|' => some ({ r with level := r.level.branch }, rest)
  | '[' => (readBracket f rest).map fun (p, rest) =>
      (r.push { Piece.ofSet p.chars with depth := p.depth }, rest)
  | '?' => (r.repeatLast? 0 (some 1)).map (·, skipReluctant rest)
  | '*' => (r.repeatLast? 0 none).map (·, skipReluctant rest)
  | '+' => (r.repeatLast? 1 none).map (·, skipReluctant rest)
  | '\x7b' => do
    let (least, most, rest) ← readBounds f rest
    return (← r.repeatLast? least most, skipReluctant (f.skip rest))
  | '\\' => (readEscape f rest).map fun (a, rest) => (r.push (.ofAtom f a), rest)
  | '.' => f.dot?.map fun chars => (r.push (.ofSet chars), rest)
  | '^' => some (r.push (.ofLook f.caret), rest)
  | '$' => some (r.push (.ofLook f.dollar), rest)
  | c => some (r.push (.ofSet (f.literal c)), rest)

/-- Reads the rest of a pattern, in which no group may stay open; every round consumes a character
    and costs one unit of fuel. -/
def run (r : Reader) : Nat → List Char → Option Piece
  | fuel, cs =>
    match fuel, r.level.flags.skip cs with
    | _, [] => if r.outer.isEmpty then some r.level.value else none
    | 0, _ :: _ => none
    | fuel + 1, c :: rest => do
      let (r, rest) ← r.step c rest
      r.run fuel rest

end Reader

end AsyncIdioms.Regex

namespace AsyncIdioms

/-! ## Patterns -/

open Regex in
/-- The expression of a pattern, if it is well formed, not too deep and not too large. -/
def Regex.compile? (ignoreCase : Bool) (pattern : String) : Option Regex := do
  let flags : Flags := { ignoreCase := ignoreCase }
  let cs := pattern.toList
  let p ← Reader.run ⟨⟨flags, false, [], []⟩, [], []⟩ cs.length cs
  guard (p.depth ≤ maxDepth && p.size ≤ maxSize)
  return p.regex

/-- The library that is run. -/
instance : RegexLibrary where
  Expr := Regex
  compile? := Regex.compile?
  isMatch := Regex.isMatch

end AsyncIdioms
