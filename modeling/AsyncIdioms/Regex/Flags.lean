/-
  The flags of a pattern, and what they decide about single characters and gaps.

  * `Flags` : the settings in force at a place of a pattern; `Flags.switch?` switches one of them;
  * `readFlags` reads the letters of a flag group such as `(?i-s)`;
  * `Flags.skip` passes over blanks and comments where they carry no meaning;
  * `Flags.literal`, `Flags.fold`, `Flags.dot` : the characters that match under the flags.
-/
import AsyncIdioms.Regex.Basic
import AsyncIdioms.Text.Blank
import AsyncIdioms.Text.CaseFold

namespace AsyncIdioms.Regex

open Text (Ranges isBlank)

/-- The settings in force at a place of a pattern. -/
structure Flags where
  /-- Characters that differ in case only are alike. -/
  ignoreCase : Bool := false
  /-- The signs `^` and `$` hold at every line. -/
  multiLine : Bool := false
  /-- The dot matches line feeds too. -/
  dotAll : Bool := false
  /-- Lines may end in a carriage return. -/
  crlf : Bool := false
  /-- Classes and words go beyond ASCII. -/
  unicode : Bool := true
  /-- Blanks and comments in the pattern carry no meaning. -/
  verbose : Bool := false
deriving DecidableEq, Repr

namespace Flags

/-- Switches the flag of the letter on or off. The flag `U` swaps greedy and reluctant repetition,
    which has no influence on whether there is a match. -/
def switch? (f : Flags) (letter : Char) (on : Bool) : Option Flags :=
  match letter with
  | 'i' => some { f with ignoreCase := on }
  | 'm' => some { f with multiLine := on }
  | 's' => some { f with dotAll := on }
  | 'R' => some { f with crlf := on }
  | 'u' => some { f with unicode := on }
  | 'x' => some { f with verbose := on }
  | 'U' => some f
  | _ => none

/-! ## Gaps -/

/-- Passes over blanks and comments, which reach from `#` to the end of the line. -/
def skipGaps (inComment : Bool) : List Char → List Char
  | [] => []
  | c :: rest =>
    if inComment then skipGaps (c != '\n') rest
    else if isBlank c then skipGaps false rest
    else if c == '#' then skipGaps true rest
    else c :: rest

/-- Passes over what carries no meaning under the flags. -/
def skip (f : Flags) (cs : List Char) : List Char :=
  if f.verbose then skipGaps false cs else cs

/-- The characters up to a closing brace, without gaps, and the rest behind the brace. -/
def untilBrace (f : Flags) (inComment : Bool) : List Char → Option (List Char × List Char)
  | [] => none
  | c :: rest =>
    if inComment then f.untilBrace (c != '\n') rest
    else if f.verbose && isBlank c then f.untilBrace false rest
    else if f.verbose && c == '#' then f.untilBrace true rest
    else if c == '\x7d' then some ([], rest)
    else do
      let (name, rest) ← f.untilBrace false rest
      return (c :: name, rest)

/-- The character that decides whether a dash stands between the ends of a range. In front of it
    blanks and one number sign are passed over, but no text of a comment. -/
def peekBehindDash? (f : Flags) (cs : List Char) : Option Char :=
  if f.verbose then
    let behind := match cs.dropWhile isBlank with
      | '#' :: rest => rest.dropWhile isBlank
      | rest => rest
    (behind.head?).or cs.head?
  else cs.head?

/-! ## Characters -/

/-- The set closed under differences in case, if these do not count. -/
def fold (f : Flags) (rs : Ranges) : Ranges :=
  if f.ignoreCase then if f.unicode then Text.foldCase rs else Text.foldAsciiCase rs else rs

/-- The characters that a character of the pattern stands for. -/
def literal (f : Flags) (c : Char) : Ranges := f.fold [(c.toNat, c.toNat)]

/-- The set, or its complement if it is negated; no set of ASCII characters can be negated. -/
def negateIf? (f : Flags) (negated : Bool) (rs : Ranges) : Option Ranges :=
  if negated then
    if f.unicode then some (Ranges.complement (Ranges.normalize rs)) else none
  else some rs

/-- The characters that a dot stands for; it needs characters beyond ASCII. -/
def dot? (f : Flags) : Option Ranges :=
  if !f.unicode then none
  else if f.dotAll then some [(0, Ranges.maxCodePoint)]
  else some (Ranges.complement (if f.crlf then [(0x0A, 0x0A), (0x0D, 0x0D)] else [(0x0A, 0x0A)]))

/-- The condition that `^` stands for. -/
def caret (f : Flags) : Look := if f.multiLine then .lineStart f.crlf else .textStart

/-- The condition that `$` stands for. -/
def dollar (f : Flags) : Look := if f.multiLine then .lineEnd f.crlf else .textEnd

end Flags

/-! ## Flag groups -/

/-- Reads the letters of a flag group up to the colon or parenthesis that ends them. `seen` are the
    letters in front, last one first. None may stand twice, not even the dash that switches the
    letters behind it off, and a dash may not come last. -/
def readFlags (f : Flags) (seen : List Char) : List Char → Option (Flags × List Char × List Char)
  | [] => none
  | c :: rest =>
    if c == ':' || c == ')' then
      if seen.head? == some '-' then none else some (f, seen, c :: rest)
    else if seen.contains c then none
    else if c == '-' then readFlags f (c :: seen) rest
    else do readFlags (← f.switch? c (!seen.contains '-')) (c :: seen) rest

end AsyncIdioms.Regex
