/-!
# Hexadecimal digits

Groups of addresses, escapes in patterns, in configuration files and in replies of tools are all
written in hexadecimal digits of either case.
-/

namespace RouterShell.Hexadecimal

/-- The value of a hexadecimal digit. -/
def value? (c : Char) : Option Nat :=
  if '0' ≤ c && c ≤ '9' then some (c.toNat - '0'.toNat)
  else if 'a' ≤ c && c ≤ 'f' then some (c.toNat - 'a'.toNat + 10)
  else if 'A' ≤ c && c ≤ 'F' then some (c.toNat - 'A'.toNat + 10)
  else none

/-- Whether a character is a hexadecimal digit. -/
def isDigit (c : Char) : Bool := (value? c).isSome

/-- The value of a run of hexadecimal digits, most significant first. -/
def number (digits : List Char) : Nat :=
  digits.foldl (fun n c => n * 16 + (value? c).getD 0) 0

/-- The character that a run of digits numbers. -/
def char? (digits : List Char) : Option Char :=
  if (number digits).isValidChar then some (Char.ofNat (number digits)) else none

/-- A number in lower-case digits. -/
def text (n : Nat) : List Char := Nat.toDigits 16 n

end RouterShell.Hexadecimal
