/-
  Escapes: what a backslash makes of the characters behind it.

  * `Atom` : a single character, a set of characters or an assertion;
  * `namedSet?` finds the set of a Unicode property, given as in `\p{...}`;
  * `readEscape` reads an escape behind its backslash. Escapes that have no meaning are refused,
    among them all references to groups.
-/
import AsyncIdioms.Regex.Flags
import AsyncIdioms.Text.Ages
import AsyncIdioms.Text.Breaks
import AsyncIdioms.Text.Hex
import AsyncIdioms.Text.Scripts

namespace AsyncIdioms.Regex

open Text (Ranges)

/-- What an escape stands for. -/
inductive Atom
  | char (c : Char)
  | set (chars : Ranges)
  | look (condition : Look)

/-! ## Unicode properties -/

/-- Names are compared in small letters, without blanks, underscores, dashes and characters beyond
    ASCII, and without the word `is` at the front. The one exception keeps `isc` apart from `c`. -/
def foldName (name : List Char) : String :=
  let isWord := (name.take 2).map Char.toLower == ['i', 's']
  let kept := ((if isWord then name.drop 2 else name).filter fun c =>
    c != ' ' && c != '_' && c != '-' && decide (c.toNat < 0x80)).map Char.toLower
  if isWord && kept == ['c'] then "isc" else String.ofList kept

/-- The general category that bears the name, or one of three sets that count as categories. -/
def categorySet? (name : String) : Option Ranges :=
  if name == "any" then some [(0, Ranges.maxCodePoint)]
  else if name == "ascii" then some [(0, 0x7F)]
  else if name == "assigned" then some Text.assignedRanges
  else Text.category? name

/-- The property, general category or script that bears the name, the first of these that there is.
    Three names of categories win over properties. -/
def lonelySet? (name : String) : Option Ranges :=
  ((if name == "cf" || name == "sc" || name == "lc" then none else Text.property? name).or
    (categorySet? name)).or (Text.script? name)

/-- The characters that have a value of a property. -/
def valuedSet? (name value : String) : Option Ranges :=
  match name with
  | "gc" | "generalcategory" => categorySet? value
  | "sc" | "script" => Text.script? value
  | "scx" | "scriptextensions" => Text.scriptExtension? value
  | "age" => Text.age? value
  | "gcb" | "graphemeclusterbreak" => Text.graphemeBreak? value
  | "wb" | "wordbreak" => Text.wordBreak? value
  | "sb" | "sentencebreak" => Text.sentenceBreak? value
  | _ => none

/-- The name and the value in front of and behind the first mark of the kind. -/
def splitAtMark? (mark : List Char) : List Char → Option (List Char × List Char)
  | [] => none
  | c :: rest =>
    if mark.isPrefixOf (c :: rest) then some ([], (c :: rest).drop mark.length)
    else (splitAtMark? mark rest).map fun (name, value) => (c :: name, value)

/-- The set of a property: a name alone, or a name and a value with `!=`, `:` or `=` between them. -/
def namedSet? (text : List Char) : Option Ranges :=
  match ((splitAtMark? ['!', '='] text).or (splitAtMark? [':'] text)).or (splitAtMark? ['='] text) with
  | some (name, value) => valuedSet? (foldName name) (foldName value)
  | none => lonelySet? (foldName text)

/-- Reads a property behind `\p` or `\P`: one letter, or a description in braces. -/
def readProperty (f : Flags) (negated : Bool) (cs : List Char) : Option (Ranges × List Char) := do
  guard f.unicode
  match f.skip cs with
  | [] => none
  | '\x7b' :: rest =>
    let (text, rest) ← f.untilBrace false rest
    let rs ← namedSet? text
    return (← f.negateIf? negated (f.fold rs), rest)
  | c :: rest =>
    guard (c != '\\')
    let rs ← lonelySet? (foldName [c])
    return (← f.negateIf? negated (f.fold rs), rest)

/-! ## Other sets -/

/-- Decimal digits. -/
def digitRanges : Ranges := Text.ofCategories ["nd"]

/-- White space. -/
def spaceRanges : Ranges :=
  [(0x09, 0x0D), (0x20, 0x20), (0x85, 0x85), (0xA0, 0xA0), (0x1680, 0x1680), (0x2000, 0x200A),
    (0x2028, 0x2029), (0x202F, 0x202F), (0x205F, 0x205F), (0x3000, 0x3000)]

/-- The set of one of the letters `d`, `s` and `w`. -/
def letterSet? (f : Flags) : Char → Option Ranges
  | 'd' => some (if f.unicode then digitRanges else [(0x30, 0x39)])
  | 's' => some (if f.unicode then spaceRanges else [(0x09, 0x0D), (0x20, 0x20)])
  | 'w' => some (if f.unicode then Text.wordRanges else asciiWordRanges)
  | _ => none

/-! ## Characters by number -/

/-- Takes `n` characters, passing over gaps behind each. -/
def takeSpaced (f : Flags) : Nat → List Char → Option (List Char × List Char)
  | 0, cs => some ([], cs)
  | _ + 1, [] => none
  | n + 1, c :: rest => do
    let (taken, rest) ← takeSpaced f n (f.skip rest)
    return (c :: taken, rest)

/-- Reads the number of a character: `width` digits, or any digits in braces. Where characters are
    ASCII, two digits give a byte, which has to be one of ASCII. -/
def readNumber (f : Flags) (width : Nat) (cs : List Char) : Option (Char × List Char) :=
  match f.skip cs with
  | '\x7b' :: rest => do
    let (digits, rest) ← f.untilBrace false rest
    guard (!digits.isEmpty)
    return (← Text.hexChar? digits, rest)
  | cs => do
    let (digits, rest) ← takeSpaced f width cs
    let c ← Text.hexChar? digits
    guard (f.unicode || width != 2 || decide (c.toNat < 0x80))
    return (c, rest)

/-! ## Escapes -/

/-- The characters that have a meaning in patterns. -/
def isMeta (c : Char) : Bool := "\\.+*?()|[]\x7b\x7d^$#&-~".toList.contains c

/-- A backslash keeps the other ASCII characters as they are, apart from letters, digits and the two
    angle brackets. -/
def isPlainEscape (c : Char) : Bool :=
  isMeta c || (decide (c.toNat < 0x80) && !c.isAlphanum && c != '<' && c != '>')

/-- The control characters that have a letter. -/
def controlChar? : Char → Option Char
  | 'a' => some '\x07'
  | 'f' => some '\x0c'
  | 't' => some '\t'
  | 'n' => some '\n'
  | 'r' => some '\r'
  | 'v' => some '\x0b'
  | _ => none

/-- The conditions that have a letter. -/
def condition? (f : Flags) : Char → Option Look
  | 'A' => some .textStart
  | 'z' => some .textEnd
  | 'b' => some (.wordBoundary f.unicode)
  | 'B' => some (.noWordBoundary f.unicode)
  | '<' => some (.wordStart f.unicode)
  | '>' => some (.wordEnd f.unicode)
  | _ => none

/-- The condition at a word that bears the name, as in `\b{start}`. -/
def wordCondition? (f : Flags) (name : List Char) : Option Look :=
  match String.ofList name with
  | "start" => some (.wordStart f.unicode)
  | "end" => some (.wordEnd f.unicode)
  | "start-half" => some (.noWordBefore f.unicode)
  | "end-half" => some (.noWordAfter f.unicode)
  | _ => none

/-- Reads what may follow `\b`: the name of a condition in braces. Braces that start with neither a
    letter nor a dash are left, since they may be a repetition. -/
def readBoundary (f : Flags) : List Char → Option (Look × List Char)
  | '\x7b' :: rest =>
    match f.skip rest with
    | [] => none
    | c :: _ =>
      if c.isAlpha || c == '-' then do
        let (name, rest) ← f.untilBrace false rest
        return (← wordCondition? f name, rest)
      else some (.wordBoundary f.unicode, '\x7b' :: rest)
  | cs => some (.wordBoundary f.unicode, cs)

/-- The number of digits behind the letters that give a character by its number. -/
def numberWidth? : Char → Option Nat
  | 'x' => some 2
  | 'u' => some 4
  | 'U' => some 8
  | _ => none

/-- Reads an escape behind its backslash. -/
def readEscape (f : Flags) : List Char → Option (Atom × List Char)
  | [] => none
  | c :: rest =>
    match numberWidth? c with
    | some width => (readNumber f width rest).map fun (d, rest) => (.char d, rest)
    | none =>
      if c == 'p' || c == 'P' then
        (readProperty f (c == 'P') rest).map fun (rs, rest) => (.set rs, rest)
      else if c == 'b' then (readBoundary f rest).map fun (l, rest) => (.look l, rest)
      else if isPlainEscape c then some (.char c, rest)
      else match controlChar? c, condition? f c, letterSet? f c.toLower with
        | some d, _, _ => some (.char d, rest)
        | none, some l, _ => some (.look l, rest)
        | none, none, some rs => (f.negateIf? c.isUpper rs).map fun rs => (.set rs, rest)
        | none, none, none => none

end AsyncIdioms.Regex
