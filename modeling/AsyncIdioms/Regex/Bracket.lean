/-
  Bracketed sets of characters, such as `[a-z&&[^aeiou]]`.

  A bracket holds characters, ranges, escapes, named ASCII sets such as `[:alpha:]` and further
  brackets. Next to each other they form a union; the operators `&&`, `--` and `~~` combine what
  stands on their left with the union on their right.

  * `Nested` : a set, with the depth of nesting that its text has;
  * `Bracket` : a bracket that is being read;
  * `readBracket` reads a bracket behind its opening sign.
-/
import AsyncIdioms.Regex.Atom

namespace AsyncIdioms.Regex

open Text (Ranges)

/-- A set of characters, with the depth of nesting that its text has. -/
structure Nested where
  chars : Ranges
  depth : Nat := 0

/-- The union of what stands side by side; two or more make a level of their own. -/
def Nested.union : List Nested → Nested
  | [] => ⟨[], 0⟩
  | [p] => p
  | ps => ⟨Ranges.unions (ps.map Nested.chars), (ps.map Nested.depth).foldl max 0 + 1⟩

/-- The operators between sets. -/
inductive SetOp
  | inter | diff | symmDiff

def SetOp.apply : SetOp → Ranges → Ranges → Ranges
  | .inter => Ranges.inter
  | .diff => Ranges.diff
  | .symmDiff => Ranges.symmDiff

/-- A bracket that is being read. -/
structure Bracket where
  negated : Bool
  /-- Dashes, and a closing sign that comes first, still stand for themselves. -/
  leading : Bool := true
  /-- What stands in front of the last operator, and the operator. -/
  left : Option (Nested × SetOp) := none
  /-- What stands behind it, last one first. -/
  items : List Nested := []

namespace Bracket

def push (b : Bracket) (p : Nested) : Bracket := { b with items := p :: b.items, leading := false }

/-- The set of what has been read. The sides of an operator are closed under differences in case
    before they are combined. -/
def value (f : Flags) (b : Bracket) : Nested :=
  let right := Nested.union b.items
  match b.left with
  | none => right
  | some (left, op) =>
    ⟨op.apply (f.fold left.chars) (f.fold right.chars), max left.depth right.depth + 1⟩

/-- Goes on behind an operator. -/
def operator (f : Flags) (b : Bracket) (op : SetOp) : Bracket :=
  { b with left := some (b.value f, op), items := [], leading := false }

/-- The set of a finished bracket: closed under differences in case, then negated. -/
def close? (f : Flags) (b : Bracket) : Option Nested := do
  let whole := b.value f
  return ⟨← f.negateIf? b.negated (f.fold whole.chars), whole.depth + 1⟩

end Bracket

/-! ## Items -/

/-- The named sets of ASCII characters. -/
def asciiSet? (name : List Char) : Option Ranges :=
  match String.ofList name with
  | "alnum" => some [(0x30, 0x39), (0x41, 0x5A), (0x61, 0x7A)]
  | "alpha" => some [(0x41, 0x5A), (0x61, 0x7A)]
  | "ascii" => some [(0, 0x7F)]
  | "blank" => some [(0x09, 0x09), (0x20, 0x20)]
  | "cntrl" => some [(0, 0x1F), (0x7F, 0x7F)]
  | "digit" => some [(0x30, 0x39)]
  | "graph" => some [(0x21, 0x7E)]
  | "lower" => some [(0x61, 0x7A)]
  | "print" => some [(0x20, 0x7E)]
  | "punct" => some [(0x21, 0x2F), (0x3A, 0x40), (0x5B, 0x60), (0x7B, 0x7E)]
  | "space" => some [(0x09, 0x0D), (0x20, 0x20)]
  | "upper" => some [(0x41, 0x5A)]
  | "word" => some asciiWordRanges
  | "xdigit" => some [(0x30, 0x39), (0x41, 0x46), (0x61, 0x66)]
  | _ => none

/-- Reads a named set of ASCII characters behind its opening sign: whether it is negated, its
    characters and the rest. There is none where the text has another form or the name is unknown. -/
def readAsciiSet? : List Char → Option (Bool × Ranges × List Char)
  | ':' :: cs =>
    let (negated, cs) := match cs with
      | '^' :: rest => (true, rest)
      | cs => (false, cs)
    match cs.dropWhile (· != ':') with
    | ':' :: ']' :: rest => (asciiSet? (cs.takeWhile (· != ':'))).map (negated, ·, rest)
    | _ => none
  | _ => none

/-- Reads a character or an escape. -/
def readAtom (f : Flags) : List Char → Option (Atom × List Char)
  | [] => none
  | '\\' :: rest => readEscape f rest
  | c :: rest => some (.char c, rest)

/-- The characters that may stand in a bracket. -/
def inBracket (f : Flags) (c : Char) : Bool := f.unicode || decide (c.toNat < 0x80)

/-- An atom as a part of a bracket; conditions cannot stand there. -/
def Atom.nested? (f : Flags) : Atom → Option Nested
  | .char c => if inBracket f c then some ⟨[(c.toNat, c.toNat)], 0⟩ else none
  | .set chars => some ⟨chars, 0⟩
  | .look _ => none

/-- The range between two atoms, which have to be characters in order. -/
def Atom.range? (f : Flags) : Atom → Atom → Option Nested
  | .char a, .char b =>
    if inBracket f a && inBracket f b && decide (a ≤ b) then some ⟨[(a.toNat, b.toNat)], 0⟩ else none
  | _, _ => none

/-- Reads an atom or a range. A dash in front of a closing sign or of another dash makes no range. -/
def readItem (f : Flags) (cs : List Char) : Option (Nested × List Char) := do
  let (first, rest) ← readAtom f cs
  match f.skip rest with
  | [] => none
  | '-' :: more =>
    let next := f.peekBehindDash? more
    if next == some ']' || next == some '-' then return (← first.nested? f, '-' :: more)
    else
      let (last, rest) ← readAtom f (f.skip more)
      return (← first.range? f last, rest)
  | rest => return (← first.nested? f, rest)

/-! ## Brackets -/

/-- The start of a bracket behind its opening sign, where a caret negates it. -/
def openBracket (f : Flags) (cs : List Char) : Bracket × List Char :=
  match f.skip cs with
  | '^' :: rest => (⟨true, true, none, []⟩, rest)
  | cs => (⟨false, true, none, []⟩, cs)

/-- Reads the rest of a bracket; every round consumes a character and costs one unit of fuel. -/
def readBracketFrom (f : Flags) : Nat → Bracket → List Char → Option (Nested × List Char)
  | 0, _, _ => none
  | fuel + 1, b, cs =>
    match f.skip cs with
    | [] => none
    | c :: rest =>
      if b.leading && c == '-' then
        readBracketFrom f fuel { b.push ⟨[(0x2D, 0x2D)], 0⟩ with leading := true } rest
      else if b.leading && b.items.isEmpty && c == ']' then
        readBracketFrom f fuel (b.push ⟨[(0x5D, 0x5D)], 0⟩) rest
      else match c :: rest with
        | '[' :: rest =>
          match readAsciiSet? rest with
          | some (negated, chars, rest) => do
            let chars ← f.negateIf? negated (f.fold chars)
            readBracketFrom f fuel (b.push ⟨chars, 0⟩) rest
          | none => do
            let (inner, rest) := openBracket f rest
            let (part, rest) ← readBracketFrom f fuel inner rest
            readBracketFrom f fuel (b.push part) rest
        | ']' :: rest => (b.close? f).map (·, rest)
        | '&' :: '&' :: rest => readBracketFrom f fuel (b.operator f .inter) rest
        | '-' :: '-' :: rest => readBracketFrom f fuel (b.operator f .diff) rest
        | '~' :: '~' :: rest => readBracketFrom f fuel (b.operator f .symmDiff) rest
        | cs => do
          let (part, rest) ← readItem f cs
          readBracketFrom f fuel (b.push part) rest

/-- Reads a bracket behind its opening sign. -/
def readBracket (f : Flags) (cs : List Char) : Option (Nested × List Char) :=
  let (b, rest) := openBracket f cs
  readBracketFrom f (rest.length + 1) b rest

end AsyncIdioms.Regex
