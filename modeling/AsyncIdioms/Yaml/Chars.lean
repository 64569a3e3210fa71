/-
  The character classes of YAML texts.

  * `isBreak` : line breaks; `isSpacing` : blanks inside a line; `isBlankOrEnd` : what ends a word;
  * `isReadable` : characters that may stand in a text at all;
  * `isPlainPrintable` : characters that are written as themselves.
-/
namespace AsyncIdioms.Yaml

/-- The line separator and the paragraph separator, breaks that are kept as they are. -/
def isSeparator (c : Char) : Bool := c.toNat == 0x2028 || c.toNat == 0x2029

/-- A line break: line feed, carriage return, next line, or one of the separators. -/
def isBreak (c : Char) : Bool := c == '\n' || c == '\r' || c.toNat == 0x85 || isSeparator c

/-- A space or a tab. -/
def isSpacing (c : Char) : Bool := c == ' ' || c == '\t'

/-- Do the characters start with a space, a tab or a break, or is there none? -/
def isBlankOrEnd : List Char → Bool
  | [] => true
  | c :: _ => isSpacing c || isBreak c

/-- Do the characters start with a break, or is there none? -/
def isBreakOrEnd : List Char → Bool
  | [] => true
  | c :: _ => isBreak c

/-- The byte order mark. -/
def isByteOrderMark (c : Char) : Bool := c.toNat == 0xFEFF

/-- May the character stand in a text? -/
def isReadable (c : Char) : Bool :=
  let n := c.toNat
  n == 9 || n == 10 || n == 13 || (0x20 ≤ n && n ≤ 0x7E) || n == 0x85 || (0xA0 ≤ n && n ≤ 0xD7FF) ||
    (0xE000 ≤ n && n ≤ 0xFFFD) || 0x10000 ≤ n

/-- Is the character written as itself? -/
def isPlainPrintable (c : Char) : Bool :=
  let n := c.toNat
  n == 10 || (0x20 ≤ n && n ≤ 0x7E) || (0xA0 ≤ n && n ≤ 0xD7FF) ||
    (0xE000 ≤ n && n ≤ 0xFFFD && n != 0xFEFF) || 0x10000 ≤ n

/-- A letter, a digit, `_` or `-`. -/
def isWordChar (c : Char) : Bool := c.isAlphanum || c == '_' || c == '-'

end AsyncIdioms.Yaml
