/-
  JSON values and their compact text.

  * `Json` keeps what the text says: numbers as written, the members of an object in order and with
    repeated keys;
  * `Json.render` writes a value without blanks, and `quoteChars` a string literal.
-/
namespace AsyncIdioms

/-- A JSON value. A string literal whose escapes leave a surrogate without its partner denotes no
    text; it is the string, or the key, `none`. -/
inductive Json where
  | null
  | bool (value : Bool)
  | number (literal : String)
  | string (text : Option String)
  | array (items : List Json)
  | object (members : List (Option String × Json))
  deriving Repr, Inhabited

namespace Json

/-- A string value. -/
def text (s : String) : Json := .string (some s)

/-- A natural number. -/
def nat (n : Nat) : Json := .number (toString n)

/-- An object with these members. -/
def record (members : List (String × Json)) : Json :=
  .object (members.map fun m => (some m.1, m.2))

/-! ## Writing -/

/-- A lower-case hexadecimal digit. -/
def hexDigit (n : Nat) : Char := if n < 10 then Char.ofNat (0x30 + n) else Char.ofNat (0x61 + (n - 10))

/-- A character inside a string literal: quotes, backslashes and control characters are escaped. -/
def escapeChar (c : Char) : List Char :=
  match c with
  | '"' => ['\\', '"']
  | '\\' => ['\\', '\\']
  | '\n' => ['\\', 'n']
  | '\r' => ['\\', 'r']
  | '\t' => ['\\', 't']
  | c =>
    if c.toNat = 8 then ['\\', 'b']
    else if c.toNat = 12 then ['\\', 'f']
    else if c.toNat < 0x20 then
      ['\\', 'u', '0', '0', hexDigit (c.toNat / 16), hexDigit (c.toNat % 16)]
    else [c]

/-- The string literal of a text. -/
def quoteChars (s : String) : List Char := '"' :: s.toList.flatMap escapeChar ++ ['"']

/-- A string literal. A string that denotes no text is written as an unpaired surrogate. -/
def literalChars : Option String → List Char
  | some s => quoteChars s
  | none => "\"\\ud800\"".toList

mutual

/-- The compact text of a value. -/
def chars : Json → List Char
  | null => "null".toList
  | bool true => "true".toList
  | bool false => "false".toList
  | number literal => literal.toList
  | string s => literalChars s
  | array items => '[' :: itemChars items ++ [']']
  | object members => '\x7b' :: memberChars members ++ ['\x7d']

/-- Values with commas between them. -/
def itemChars : List Json → List Char
  | [] => []
  | [v] => v.chars
  | v :: rest => v.chars ++ ',' :: itemChars rest

/-- Members with commas between them. -/
def memberChars : List (Option String × Json) → List Char
  | [] => []
  | [(key, v)] => literalChars key ++ ':' :: v.chars
  | (key, v) :: rest => literalChars key ++ ':' :: v.chars ++ ',' :: memberChars rest

end

/-- The compact text of a value. -/
def render (v : Json) : String := String.ofList v.chars

/-! ## Looking into values -/

/-- The value of a key, the last one if the key is repeated. -/
def member? (key : String) : Json → Option Json
  | object members => (members.reverse.find? (·.1 == some key)).map (·.2)
  | _ => none

/-- The text of a string. -/
def text? : Json → Option String
  | string s => s
  | _ => none

/-- The natural number of a literal without sign, fraction and exponent. -/
def nat? : Json → Option Nat
  | number literal =>
    if literal.toList.all Char.isDigit then
      some (literal.toList.foldl (fun n c => n * 10 + (c.toNat - 0x30)) 0)
    else none
  | _ => none

end Json

end AsyncIdioms
