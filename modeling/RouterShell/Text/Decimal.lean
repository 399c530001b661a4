/-!
# Decimal numerals

Numbers are read from ASCII digits and nothing else; leading zeros are allowed and the value is
bounded by the caller. A sign is a matter of the few places that accept one.
-/

namespace RouterShell.Decimal

/-- The digits `0` to `9`. -/
def isDigit (c : Char) : Bool :=
  '0' ≤ c && c ≤ '9'

/-- The value of a digit. -/
def digitValue (c : Char) : Nat :=
  c.toNat - '0'.toNat

/-- The value of a run of digits, most significant first, that continues the number `acc`. -/
def valueFrom (acc : Nat) (digits : List Char) : Nat :=
  digits.foldl (fun n c => n * 10 + digitValue c) acc

/-- The value of a non-empty run of digits. -/
def readDigits (s : List Char) : Option Nat :=
  if s.isEmpty || !s.all isDigit then none else some (valueFrom 0 s)

/-- The value of a non-empty run of digits, if it is at most `max`. -/
def readAtMost (max : Nat) (s : List Char) : Option Nat :=
  (readDigits s).filter (· ≤ max)

/-- As `readAtMost`, and one plus sign may stand in front of the digits. -/
def readSignedAtMost (max : Nat) : List Char → Option Nat
  | '+' :: digits => readAtMost max digits
  | digits => readAtMost max digits

/-- The largest value of 32 bits: ids, indexes and metrics stop there. -/
def max32 : Nat := 4294967295

/-- The smallest whole number that no floating-point number of 64 bits is near. -/
def outOfRange : Nat := (1 <<< 1024) - (1 <<< 970)

/-- Whether a number is out of the range of floating-point numbers of 64 bits: the number of `digits`
times the `power`-th power of ten. Only a number of 309 places needs a closer look. -/
def isTooLarge (digits : List Char) (power : Int) : Bool :=
  let digits := digits.dropWhile (· == '0')
  let places := power + digits.length
  if digits.isEmpty || places ≤ 308 then false
  else if 310 ≤ places then true
  else outOfRange * Nat.pow 10 (-power).toNat ≤ valueFrom 0 digits * Nat.pow 10 power.toNat

end RouterShell.Decimal
