/-
  Regular expressions over characters.

  * `Regex` is the type of expressions: sets of characters, assertions on a position (`Look`),
    concatenation, alternation and counted repetition;
  * `Regex.ends` computes, from a set of start positions, the set of positions where a match ends;
  * `Regex.isMatch` searches a text: is there a match anywhere in it?

  Whether a match exists does not depend on greed or on captures, so expressions have neither.
-/
import AsyncIdioms.Text.Properties

namespace AsyncIdioms

open Text (Ranges)

/-- A condition on a position of a text. With `unicode` unset a word consists of ASCII letters,
    digits and underscores only. -/
inductive Look
  /-- The start and the end of the text. -/
  | textStart | textEnd
  /-- The start and the end of a line; with `crlf`, a carriage return ends a line too and is not
      divided from the line feed behind it. -/
  | lineStart (crlf : Bool) | lineEnd (crlf : Bool)
  /-- A place with a word character on exactly one side, and any other place. -/
  | wordBoundary (unicode : Bool) | noWordBoundary (unicode : Bool)
  /-- The start and the end of a word. -/
  | wordStart (unicode : Bool) | wordEnd (unicode : Bool)
  /-- No word character in front, and none behind. -/
  | noWordBefore (unicode : Bool) | noWordAfter (unicode : Bool)
deriving DecidableEq, Repr

/-- A regular expression. -/
inductive Regex
  | empty
  | set (chars : Ranges)
  | look (condition : Look)
  | cat (first second : Regex)
  | alt (left right : Regex)
  /-- The body at least `least` times in a row, and at most `most` times if there is a bound. -/
  | rep (least : Nat) (most : Option Nat) (body : Regex)
deriving DecidableEq, Repr

/-! ## Positions -/

/-- Letters, digits and the underscore of ASCII. -/
def asciiWordRanges : Ranges := [(0x30, 0x39), (0x41, 0x5A), (0x5F, 0x5F), (0x61, 0x7A)]

/-- The characters of words. -/
def isWordChar (unicode : Bool) (c : Char) : Bool :=
  if unicode && !decide (c.toNat < 0x80) then Text.wordRanges.has c else asciiWordRanges.has c

/-- Does the condition hold between the neighbours `before` and `after`? There is none at the two
    ends of a text. -/
def Look.holds (before after : Option Char) : Look → Bool
  | .textStart => before.isNone
  | .textEnd => after.isNone
  | .lineStart false => before.isNone || before == some '\n'
  | .lineEnd false => after.isNone || after == some '\n'
  | .lineStart true =>
    before.isNone || before == some '\n' || (before == some '\r' && after != some '\n')
  | .lineEnd true =>
    after.isNone || after == some '\r' || (after == some '\n' && before != some '\r')
  | .wordBoundary u => before.any (isWordChar u) != after.any (isWordChar u)
  | .noWordBoundary u => before.any (isWordChar u) == after.any (isWordChar u)
  | .wordStart u => !before.any (isWordChar u) && after.any (isWordChar u)
  | .wordEnd u => before.any (isWordChar u) && !after.any (isWordChar u)
  | .noWordBefore u => !before.any (isWordChar u)
  | .noWordAfter u => !after.any (isWordChar u)

/-- Does the condition hold in front of the character with index `i`? -/
def Look.holdsAt (text : Array Char) (l : Look) (i : Nat) : Bool :=
  l.holds (if i = 0 then none else text[i - 1]?) text[i]?

namespace Regex

/-! ## Searching -/

/-- The members of two increasing lists, increasing. -/
def merge : List Nat → List Nat → List Nat
  | [], js => js
  | is, [] => is
  | i :: is, j :: js =>
    if i < j then i :: merge is (j :: js)
    else if j < i then j :: merge (i :: is) js
    else i :: merge is js

/-- Applies `step` to a set of positions `n` times, or until the set is empty. -/
def times (step : List Nat → List Nat) : Nat → List Nat → List Nat
  | 0, ps => ps
  | n + 1, ps => if ps.isEmpty then [] else times step n (step ps)

/-- The positions that at most `n` steps reach: `seen` are those found so far and `fresh` those
    found last. -/
def reach (step : List Nat → List Nat) : Nat → List Nat → List Nat → List Nat
  | 0, _, seen => seen
  | n + 1, fresh, seen =>
    let next := (step fresh).filter (!seen.contains ·)
    if next.isEmpty then seen else reach step n next (merge seen next)

/-- The positions where the matches that start at one of the given positions end. Both sets of
    positions are increasing lists. Without a bound, as many rounds are enough as the text has
    positions, since each finds a new one. -/
def ends (text : Array Char) : Regex → List Nat → List Nat
  | .empty, ps => ps
  | .set chars, ps => (ps.filter fun i => text[i]?.any chars.has).map (· + 1)
  | .look l, ps => ps.filter (l.holdsAt text)
  | .cat r s, ps => ends text s (ends text r ps)
  | .alt r s, ps => merge (ends text r ps) (ends text s ps)
  | .rep least most r, ps =>
    let begun := times (ends text r) least ps
    let rounds := match most with
      | some m => m - least
      | none => text.size + 1
    reach (ends text r) rounds begun begun

/-- Does the expression match somewhere in the text? -/
def isMatch (r : Regex) (s : String) : Bool :=
  let text := s.toList.toArray
  !(r.ends text (List.range (text.size + 1))).isEmpty

end Regex

end AsyncIdioms
