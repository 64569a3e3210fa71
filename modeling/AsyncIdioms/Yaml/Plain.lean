/-
  What a plain scalar is read as.

  Without quotes, some texts stand for nothing, for a flag or for a number. `readsAsText` tells those
  that stand for themselves:

  * `isNullWord`, `flagWord?` : the words for nothing and for the flags;
  * `isInteger` : decimal, hexadecimal, octal and binary integers of up to 128 bits;
  * `isFloat` : decimal fractions that do not exceed the range of double precision, infinities and
    not-a-number;
  * `isPaddedInteger` : digits with a leading zero, which are no number.
-/
namespace AsyncIdioms.Yaml

def isNullWord (s : String) : Bool := s == "null" || s == "Null" || s == "NULL" || s == "~"

/-- The flag that a word stands for. -/
def flagWord? (s : String) : Option Bool :=
  if s == "true" || s == "True" || s == "TRUE" then some true
  else if s == "false" || s == "False" || s == "FALSE" then some false
  else none

/-! ## Integers -/

/-- The value of a digit in bases up to sixteen. -/
def baseDigit? (base : Nat) (c : Char) : Option Nat :=
  let value? :=
    if '0' ≤ c ∧ c ≤ '9' then some (c.toNat - 0x30)
    else if 'a' ≤ c ∧ c ≤ 'f' then some (c.toNat - 0x61 + 10)
    else if 'A' ≤ c ∧ c ≤ 'F' then some (c.toNat - 0x41 + 10)
    else none
  value?.filter (· < base)

/-- The number of one or more digits. -/
def natOf? (base : Nat) : List Char → Option Nat
  | [] => none
  | cs => cs.foldlM (fun n c => do return n * base + (← baseDigit? base c)) 0

/-- Digits behind the mark of their base, or decimal digits; at most `limit`. -/
def isMagnitude (limit : Nat) : List Char → Bool
  | '0' :: 'x' :: rest => (natOf? 16 rest).any (· ≤ limit)
  | '0' :: 'o' :: rest => (natOf? 8 rest).any (· ≤ limit)
  | '0' :: 'b' :: rest => (natOf? 2 rest).any (· ≤ limit)
  | cs => (natOf? 10 cs).any (· ≤ limit)

/-- An integer of 128 bits, with or without a sign. -/
def isInteger : List Char → Bool
  | '-' :: rest => isMagnitude (Nat.pow 2 127) rest
  | '+' :: rest => isMagnitude (Nat.pow 2 128 - 1) rest
  | cs => isMagnitude (Nat.pow 2 128 - 1) cs

/-- The characters without one sign in front. -/
def dropSign : List Char → List Char
  | '-' :: rest => rest
  | '+' :: rest => rest
  | cs => cs

/-- Two or more digits of which the first is a zero. -/
def isPaddedInteger (cs : List Char) : Bool :=
  match dropSign cs with
  | '0' :: c :: rest => (c :: rest).all Char.isDigit
  | _ => false

/-! ## Fractions -/

/-- The least number that is rounded to infinity in double precision. -/
def floatLimit : Nat := Nat.pow 2 1024 - Nat.pow 2 970

/-- Is `digits * 10 ^ exponent` below the limit? -/
def isBelowFloatLimit (digits : Nat) (exponent : Int) : Bool :=
  let magnitude : Int := (Nat.toDigits 10 digits).length + exponent
  if digits = 0 ∨ magnitude ≤ 308 then true
  else if 310 ≤ magnitude then false
  else if 0 ≤ exponent then digits * Nat.pow 10 exponent.toNat < floatLimit
  else digits < floatLimit * Nat.pow 10 (-exponent).toNat

/-- The exponent behind `e`; zero, if there is none. -/
def exponentOf? : List Char → Option Int
  | [] => some 0
  | e :: rest =>
    if e == 'e' || e == 'E' then
      match rest with
      | '-' :: digits => (natOf? 10 digits).map fun n => -(n : Int)
      | '+' :: digits => (natOf? 10 digits).map Int.ofNat
      | digits => (natOf? 10 digits).map Int.ofNat
    else none

/-- A decimal fraction without a sign, in the range of double precision. -/
def isFiniteDecimal (cs : List Char) : Bool :=
  let whole := cs.takeWhile Char.isDigit
  let (fraction, tail) := match cs.dropWhile Char.isDigit with
    | '.' :: rest => (rest.takeWhile Char.isDigit, rest.dropWhile Char.isDigit)
    | rest => ([], rest)
  match natOf? 10 (whole ++ fraction), exponentOf? tail with
  | some digits, some exponent => isBelowFloatLimit digits (exponent - fraction.length)
  | _, _ => false

def isFloat (cs : List Char) : Bool :=
  let s := String.ofList cs
  [".inf", ".Inf", ".INF", "+.inf", "+.Inf", "+.INF", "-.inf", "-.Inf", "-.INF", ".nan", ".NaN",
    ".NAN"].contains s || isFiniteDecimal (dropSign cs)

/-- Does the text, without quotes, stand for itself? -/
def readsAsText (s : String) : Bool :=
  !(s.isEmpty || isNullWord s || (flagWord? s).isSome || isInteger s.toList ||
    isPaddedInteger s.toList || isFloat s.toList)

end AsyncIdioms.Yaml
