/-
  Texts in quotes, with escapes for what cannot be seen.

  `quoted` puts a text between double quotes. Quotes, backslashes, tabs and line ends get their short
  escapes; characters without a visible form, and those that join the one before, are written by
  their code point, as in `\u{301}`.
-/
import AsyncIdioms.Text.VisibleTables

namespace AsyncIdioms.Text

/-- A character by its code point. -/
def codePointEscape (c : Char) : List Char :=
  ['\\', 'u', '\x7b'] ++ Nat.toDigits 16 c.toNat ++ ['\x7d']

/-- A character between quotes. -/
def quotedChar (c : Char) : List Char :=
  match c with
  | '\t' => ['\\', 't']
  | '\r' => ['\\', 'r']
  | '\n' => ['\\', 'n']
  | '"' => ['\\', '"']
  | '\\' => ['\\', '\\']
  | c =>
    if c.toNat = 0 then ['\\', '0']
    else if c.toNat < 0x7F then if c.toNat < 0x20 then codePointEscape c else [c]
    else if graphemeExtendRanges.has c || unprintableRanges.has c then codePointEscape c
    else [c]

/-- The text between quotes. -/
def quoted (s : String) : String := String.ofList ('"' :: s.toList.flatMap quotedChar ++ ['"'])

end AsyncIdioms.Text
