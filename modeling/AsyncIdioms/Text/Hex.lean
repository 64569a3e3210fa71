/-
  Hexadecimal digits.

  * `hexValue?` : the value of a digit, in small or capital letters;
  * `hexNumber?` : the number of a list of digits;
  * `hexChar?` : the character with that number.
-/
namespace AsyncIdioms.Text

/-- The value of a hexadecimal digit. -/
def hexValue? (c : Char) : Option Nat :=
  if '0' ≤ c ∧ c ≤ '9' then some (c.toNat - 0x30)
  else if 'a' ≤ c ∧ c ≤ 'f' then some (c.toNat - 0x61 + 10)
  else if 'A' ≤ c ∧ c ≤ 'F' then some (c.toNat - 0x41 + 10)
  else none

/-- The number that hexadecimal digits form; it is zero if there are none. -/
def hexNumber? (digits : List Char) : Option Nat :=
  digits.foldlM (fun n c => do return n * 16 + (← hexValue? c)) 0

/-- The character of hexadecimal digits; surrogates and numbers that are too great are none. -/
def hexChar? (digits : List Char) : Option Char := do
  let n ← hexNumber? digits
  if n ≤ 0x10FFFF ∧ ¬ (0xD800 ≤ n ∧ n ≤ 0xDFFF) then some (Char.ofNat n) else none

end AsyncIdioms.Text
