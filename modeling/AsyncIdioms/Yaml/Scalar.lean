/-
  Writing texts as YAML scalars.

  A text is written plainly where that reads back as the same text, else between single quotes; a
  text with line feeds is written as a block, line by line; what has characters that cannot be
  written as themselves goes between double quotes, with escapes.

  * `chooseStyle` : the form in which a text is written;
  * `plainAllowed`, `singleQuotedAllowed`, `blockAllowed` : what the characters of a text permit;
  * `scalarLine` : the written form with its line end. Lines behind the first start in the column
    that the caller gives.
-/
import AsyncIdioms.Yaml.Chars
import AsyncIdioms.Yaml.Plain

namespace AsyncIdioms.Yaml

/-- The form of a scalar. -/
inductive Style where
  | plain
  | singleQuoted
  | doubleQuoted
  | literal
  | folded
  deriving DecidableEq, Repr

/-! ## What the characters permit -/

/-- Some character and the one behind it have the two properties. -/
def anyPair (p q : Char → Bool) : List Char → Bool
  | c :: d :: rest => (p c && q d) || anyPair p q (d :: rest)
  | _ => false

/-- Does a text that starts so begin like some other thing than a scalar? -/
def startsLikeIndicator : List Char → Bool
  | '-' :: '-' :: '-' :: _ => true
  | '.' :: '.' :: '.' :: _ => true
  | c :: rest =>
    ("#,[]\x7b\x7d&*!|>'\"%@`".toList).contains c ||
      ((c == '?' || c == ':' || c == '-') && isBlankOrEnd rest)
  | [] => false

/-- Is there a colon that ends a word, or a number sign that starts one? -/
def hasInnerIndicator : List Char → Bool
  | c :: d :: rest =>
    (d == ':' && isBlankOrEnd rest) || (d == '#' && isBlankOrEnd [c]) || hasInnerIndicator (d :: rest)
  | _ => false

def hasSpecial (cs : List Char) : Bool := cs.any (!isPlainPrintable ·)

def hasSpaceBeforeBreak (cs : List Char) : Bool := anyPair (· == ' ') isBreak cs

def hasSpaceAfterBreak (cs : List Char) : Bool := anyPair isBreak (· == ' ') cs

/-- A space or a break. -/
def isSpaceOrBreak (c : Char) : Bool := c == ' ' || isBreak c

def singleQuotedAllowed (cs : List Char) : Bool :=
  !(hasSpecial cs || hasSpaceBeforeBreak cs || hasSpaceAfterBreak cs)

def plainAllowed (cs : List Char) : Bool :=
  singleQuotedAllowed cs &&
    !(startsLikeIndicator cs || hasInnerIndicator cs || cs.any isBreak ||
      cs.head?.any isSpaceOrBreak || cs.getLast?.any isSpaceOrBreak)

def blockAllowed (cs : List Char) : Bool :=
  !(hasSpecial cs || hasSpaceBeforeBreak cs || cs.getLast?.any (· == ' '))

/-- The form in which a text is written. -/
def chooseStyle (s : String) : Style :=
  let cs := s.toList
  if cs.contains '\n' then if blockAllowed cs then .literal else .doubleQuoted
  else if readsAsText s && plainAllowed cs then .plain
  else if singleQuotedAllowed cs then .singleQuoted
  else .doubleQuoted

/-! ## The forms -/

def spaces (n : Nat) : List Char := List.replicate n ' '

/-- The text between single quotes, behind the first one. A line behind a break starts in `column`. -/
def singleQuotedChars (column : Nat) (afterBreak : Bool) : List Char → List Char
  | [] => (if afterBreak then spaces column else []) ++ ['\'']
  | c :: rest =>
    if isBreak c then c :: singleQuotedChars column true rest
    else
      (if afterBreak then spaces column else []) ++ (if c = '\'' then ['\'', '\''] else [c]) ++
        singleQuotedChars column false rest

/-- The lines of a block. Each one that is not empty starts in `column`. -/
def literalLines (column : Nat) (afterBreak : Bool) : List Char → List Char
  | [] => []
  | c :: rest =>
    if isBreak c then c :: literalLines column true rest
    else (if afterBreak then spaces column else []) ++ c :: literalLines column false rest

/-- The sign for the breaks at the end of a block: none are kept, one is, or all are. -/
def chompingSign (cs : List Char) : List Char :=
  match cs.reverse with
  | [] => ['-']
  | [c] => if isBreak c then ['+'] else ['-']
  | c :: d :: _ => if isBreak c then if isBreak d then ['+'] else [] else ['-']

/-- The head of a block: its indentation is told where the first line does not show it. -/
def literalHead (cs : List Char) : List Char :=
  '|' :: (if cs.head?.any isSpaceOrBreak then ['2'] else []) ++ chompingSign cs ++ ['\n']

/-- An upper-case hexadecimal digit. -/
def upperHexDigit (n : Nat) : Char :=
  if n < 10 then Char.ofNat (0x30 + n) else Char.ofNat (0x41 + (n - 10))

/-- The last `width` hexadecimal digits of a number. -/
def hexDigits : Nat → Nat → List Char
  | 0, _ => []
  | width + 1, n => hexDigits width (n / 16) ++ [upperHexDigit (n % 16)]

/-- The letter that stands for a character behind a backslash. -/
def escapeLetter? (n : Nat) : Option Char :=
  if n = 0 then some '0' else if n = 7 then some 'a' else if n = 8 then some 'b'
  else if n = 9 then some 't' else if n = 10 then some 'n' else if n = 11 then some 'v'
  else if n = 12 then some 'f' else if n = 13 then some 'r' else if n = 0x1B then some 'e'
  else if n = 0x22 then some '"' else if n = 0x5C then some '\\' else if n = 0x85 then some 'N'
  else if n = 0x2028 then some 'L' else if n = 0x2029 then some 'P'
  else none

/-- A character behind a backslash. -/
def escapedChar (c : Char) : List Char :=
  let n := c.toNat
  match escapeLetter? n with
  | some letter => ['\\', letter]
  | none =>
    if n ≤ 0xFF then '\\' :: 'x' :: hexDigits 2 n
    else if n ≤ 0xFFFF then '\\' :: 'u' :: hexDigits 4 n
    else '\\' :: 'U' :: hexDigits 8 n

/-- A character between double quotes. -/
def doubleQuotedChar (c : Char) : List Char :=
  if !isPlainPrintable c || isBreak c || c == '"' || c == '\\' then escapedChar c else [c]

/-- The written form of a text. Lines behind the first start in `column`. -/
def scalarChars (column : Nat) (s : String) : List Char :=
  let cs := s.toList
  match chooseStyle s with
  | .plain => cs
  | .singleQuoted => '\'' :: singleQuotedChars column false cs
  | .doubleQuoted => '"' :: cs.flatMap doubleQuotedChar ++ ['"']
  | .literal | .folded => literalHead cs ++ literalLines column true cs

/-- The written form of a text, with a line end if it does not have one. -/
def scalarLine (column : Nat) (s : String) : List Char :=
  let cs := scalarChars column s
  if cs.getLast?.any isBreak then cs else cs ++ ['\n']

end AsyncIdioms.Yaml
