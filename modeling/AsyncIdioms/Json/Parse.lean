/-
  Reading JSON texts.

  The grammar is strict: no comments, no trailing commas, no leading zeros, no control characters in
  strings, nothing but blanks behind the value.

  * `Json.parse?` reads a whole text;
  * `Json.readUnits` reads a string literal as code units, `Json.decodeUnits` joins the surrogates.
-/
import AsyncIdioms.Json.Basic
import AsyncIdioms.Text.Hex

namespace AsyncIdioms.Json

def isBlank (c : Char) : Bool := c == ' ' || c == '\t' || c == '\n' || c == '\r'

def skipBlanks (cs : List Char) : List Char := cs.dropWhile isBlank

/-! ## String literals -/

/-- The code unit of an escape of one letter. -/
def simpleEscape? : Char → Option Nat
  | '"' => some 0x22
  | '\\' => some 0x5C
  | '/' => some 0x2F
  | 'b' => some 8
  | 'f' => some 12
  | 'n' => some 10
  | 'r' => some 13
  | 't' => some 9
  | _ => none

/-- Reads a string literal behind its opening quote: characters by their code points, escapes by
    their code units, and the rest behind the closing quote. -/
def readUnits : List Char → Option (List Nat × List Char)
  | [] => none
  | '"' :: rest => some ([], rest)
  | '\\' :: 'u' :: a :: b :: c :: d :: rest => do
    let unit ← Text.hexNumber? [a, b, c, d]
    let (units, rest) ← readUnits rest
    return (unit :: units, rest)
  | '\\' :: e :: rest => do
    let unit ← simpleEscape? e
    let (units, rest) ← readUnits rest
    return (unit :: units, rest)
  | c :: rest => do
    guard (0x20 ≤ c.toNat)
    let (units, rest) ← readUnits rest
    return (c.toNat :: units, rest)

def isHighSurrogate (n : Nat) : Bool := 0xD800 ≤ n && n ≤ 0xDBFF

def isLowSurrogate (n : Nat) : Bool := 0xDC00 ≤ n && n ≤ 0xDFFF

/-- The text of the units: a high surrogate goes with the low one behind it, and neither stands
    alone. -/
def decodeUnits : List Nat → Option (List Char)
  | [] => some []
  | [n] => if isHighSurrogate n || isLowSurrogate n then none else some [Char.ofNat n]
  | n :: m :: rest =>
    if isHighSurrogate n then
      if isLowSurrogate m then do
        return Char.ofNat (0x10000 + (n - 0xD800) * 0x400 + (m - 0xDC00)) :: (← decodeUnits rest)
      else none
    else if isLowSurrogate n then none
    else do
      return Char.ofNat n :: (← decodeUnits (m :: rest))

/-- Reads a string literal behind its opening quote. -/
def readString (cs : List Char) : Option (Option String × List Char) := do
  let (units, rest) ← readUnits cs
  return ((decodeUnits units).map String.ofList, rest)

/-! ## Numbers -/

/-- A digit and all that follow it. -/
def readDigits (cs : List Char) : Option (List Char × List Char) :=
  let digits := cs.takeWhile Char.isDigit
  if digits.isEmpty then none else some (digits, cs.dropWhile Char.isDigit)

/-- The integer part: zero alone, or digits that do not start with zero. -/
def readInteger : List Char → Option (List Char × List Char)
  | '0' :: rest => if (rest.head?.any Char.isDigit) then none else some (['0'], rest)
  | cs => readDigits cs

/-- A fraction, or nothing. -/
def readFraction : List Char → Option (List Char × List Char)
  | '.' :: rest => do
    let (digits, rest) ← readDigits rest
    return ('.' :: digits, rest)
  | cs => some ([], cs)

/-- An exponent, or nothing. -/
def readExponent : List Char → Option (List Char × List Char)
  | e :: rest =>
    if e == 'e' || e == 'E' then
      match rest with
      | '+' :: rest => do
        let (digits, rest) ← readDigits rest
        return (e :: '+' :: digits, rest)
      | '-' :: rest => do
        let (digits, rest) ← readDigits rest
        return (e :: '-' :: digits, rest)
      | rest => do
        let (digits, rest) ← readDigits rest
        return (e :: digits, rest)
    else some ([], e :: rest)
  | [] => some ([], [])

/-- A number without its sign. -/
def readMagnitude (cs : List Char) : Option (List Char × List Char) := do
  let (integer, rest) ← readInteger cs
  let (fraction, rest) ← readFraction rest
  let (exponent, rest) ← readExponent rest
  return (integer ++ fraction ++ exponent, rest)

/-- A number as written. -/
def readNumber : List Char → Option (String × List Char)
  | '-' :: rest => do
    let (literal, rest) ← readMagnitude rest
    return (String.ofList ('-' :: literal), rest)
  | cs => do
    let (literal, rest) ← readMagnitude cs
    return (String.ofList literal, rest)

/-! ## Values -/

/-- Reads a fixed word. -/
def readWord (word : String) (cs : List Char) : Option (List Char) :=
  if word.toList.isPrefixOf cs then some (cs.drop word.length) else none

mutual

/-- Reads a value. The first argument bounds the nesting and the length of lists; the length of the
    text is always enough. -/
def readValue : Nat → List Char → Option (Json × List Char)
  | 0, _ => none
  | n + 1, cs =>
    match skipBlanks cs with
    | '\x7b' :: rest =>
      match skipBlanks rest with
      | '\x7d' :: rest => some (.object [], rest)
      | rest => do
        let (members, rest) ← readMembers n rest
        return (.object members, rest)
    | '[' :: rest =>
      match skipBlanks rest with
      | ']' :: rest => some (.array [], rest)
      | rest => do
        let (items, rest) ← readItems n rest
        return (.array items, rest)
    | '"' :: rest => do
      let (s, rest) ← readString rest
      return (.string s, rest)
    | 'n' :: rest => do return (.null, ← readWord "ull" rest)
    | 't' :: rest => do return (.bool true, ← readWord "rue" rest)
    | 'f' :: rest => do return (.bool false, ← readWord "alse" rest)
    | rest => do
      let (literal, rest) ← readNumber rest
      return (.number literal, rest)

/-- Reads the values of an array up to its closing bracket. -/
def readItems : Nat → List Char → Option (List Json × List Char)
  | 0, _ => none
  | n + 1, cs => do
    let (v, rest) ← readValue n cs
    match skipBlanks rest with
    | ']' :: rest => return ([v], rest)
    | ',' :: rest => do
      let (items, rest) ← readItems n rest
      return (v :: items, rest)
    | _ => none

/-- Reads the members of an object up to its closing brace. -/
def readMembers : Nat → List Char → Option (List (Option String × Json) × List Char)
  | 0, _ => none
  | n + 1, cs => do
    match skipBlanks cs with
    | '"' :: rest => do
      let (key, rest) ← readString rest
      match skipBlanks rest with
      | ':' :: rest => do
        let (v, rest) ← readValue n rest
        match skipBlanks rest with
        | '\x7d' :: rest => return ([(key, v)], rest)
        | ',' :: rest => do
          let (members, rest) ← readMembers n rest
          return ((key, v) :: members, rest)
        | _ => none
      | _ => none
    | _ => none

end

/-- The value of a text. -/
def parse? (s : String) : Option Json := do
  let (v, rest) ← readValue (s.toList.length + 1) s.toList
  guard (skipBlanks rest).isEmpty
  return v

end AsyncIdioms.Json
