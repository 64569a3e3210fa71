/-
  Lower case of whole texts.

  * `lowerChar` maps one character; only `İ` becomes two characters;
  * `lowercase` maps a text. A capital sigma becomes the final form `ς` where a cased letter comes
    before it and none after it, passing over case-ignorable characters (`isFinalSigma`), and
    `σ` elsewhere.
-/
import AsyncIdioms.Text.CaseTables

namespace AsyncIdioms.Text

/-- The lower-case form of one character, on its own. -/
def lowerChar (c : Char) : List Char :=
  if c.toNat < 0x80 then [c.toLower]
  else if c = 'İ' then ['i', '\u0307']
  else match lowerRuns.find? (·.moves c.toNat) with
    | some run => [Char.ofNat (Int.toNat (c.toNat + run.shift))]
    | none => [c]

/-- Is the first character that is not case-ignorable a cased one? -/
def meetsCased (cs : List Char) : Bool :=
  match cs.dropWhile caseIgnorableRanges.has with
  | [] => false
  | c :: _ => casedRanges.has c

/-- The condition for the final form of a sigma: `before` are the characters in front of it,
    nearest first, and `after` those behind it. -/
def isFinalSigma (before after : List Char) : Bool := meetsCased before && !meetsCased after

/-- Lower case of the characters that stand behind `before` (nearest first). -/
def lowerFrom (before : List Char) : List Char → List Char
  | [] => []
  | c :: rest =>
    (if c = 'Σ' then [if isFinalSigma before rest then 'ς' else 'σ'] else lowerChar c) ++
      lowerFrom (c :: before) rest

/-- The text in lower case. -/
def lowercase (s : String) : String := String.ofList (lowerFrom [] s.toList)

end AsyncIdioms.Text
