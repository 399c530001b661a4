import RouterShell.Json.Reader
import RouterShell.Text.Decimal
import RouterShell.Text.Hexadecimal

/-!
# The meaning of JSON values

Decoders for the few shapes that reports have: texts, numbers of a given size, lists, and records
whose members may be missing.

A record may also be written as the array of its members in order. Members that a record does not
know are ignored; one that it knows may not occur twice.
-/

namespace RouterShell.Json

/-! ### Texts -/

/-- The value of four hexadecimal digits. -/
def codeUnit (digits : List UInt8) : Nat :=
  Hexadecimal.number (digits.map fun b => Char.ofNat b.toNat)

/-- The character that a letter after a backslash stands for. -/
def escapedByte (letter : UInt8) : UInt8 :=
  if letter == 0x62 then 0x08
  else if letter == 0x66 then 0x0C
  else if letter == 0x6E then 0x0A
  else if letter == 0x72 then 0x0D
  else if letter == 0x74 then 0x09
  else letter

/-- The bytes of the text that a written string stands for. Surrogates only count in pairs. -/
def unescape : List UInt8 → Option (List UInt8)
  | [] => some []
  | 0x5C :: 0x75 :: a :: b :: c :: d :: rest =>
    let n := codeUnit [a, b, c, d]
    let char (n : Nat) (rest : Option (List UInt8)) : Option (List UInt8) :=
      rest.map (Text.encode (String.singleton (Char.ofNat n)) ++ ·)
    if 0xDC00 ≤ n && n ≤ 0xDFFF then none
    else if 0xD800 ≤ n && n ≤ 0xDBFF then
      match rest with
      | 0x5C :: 0x75 :: e :: f :: g :: h :: rest =>
        let m := codeUnit [e, f, g, h]
        if 0xDC00 ≤ m && m ≤ 0xDFFF then
          char (0x10000 + (n - 0xD800) * 0x400 + (m - 0xDC00)) (unescape rest)
        else none
      | _ => none
    else char n (unescape rest)
  | 0x5C :: e :: rest => (unescape rest).map (escapedByte e :: ·)
  | b :: rest => (unescape rest).map (b :: ·)

/-- The text that a written string stands for. -/
def textOf (chars : List UInt8) : Option String :=
  (unescape chars).bind Text.decode

/-- A text. -/
def text? : Json → Option String
  | .string chars => textOf chars
  | _ => none

/-! ### Numbers and lists -/

/-- A whole number from 0 to `max`, written without sign, point or exponent. -/
def nat? (max : Nat) : Json → Option Nat
  | .number chars => Decimal.readAtMost max (chars.map fun b => Char.ofNat b.toNat)
  | _ => none

/-- A list of values of one shape. -/
def list? {α : Type} (item : Json → Option α) : Json → Option (List α)
  | .array items => items.mapM item
  | _ => none

/-! ### Records -/

/-- The known members of a record, by name. -/
abbrev Members := List (String × Json)

/-- The members of an object with their names read. -/
def named (members : List (List UInt8 × Json)) : Option Members :=
  members.mapM fun (name, value) => (textOf name).map (·, value)

/-- Whether no known name occurs twice. -/
def unrepeated (known : List String) (members : Members) : Bool :=
  known.all fun name => (members.filter fun e => e.1 == name).length ≤ 1

/-- The known members of a record written as an object, or as an array of all of them. `required`
tells how many members an array needs at least: those after them have a default. -/
def record? (known : List String) (required : Nat) : Json → Option Members
  | .object members => do
    let members ← named members
    if unrepeated known members then some (members.filter fun e => known.contains e.1) else none
  | .array items =>
    if required ≤ items.length && items.length ≤ known.length then some (known.zip items) else none
  | _ => none

/-- The member of a name. -/
def Members.get? (members : Members) (name : String) : Option Json :=
  (members.find? fun e => e.1 == name).map Prod.snd

/-- A member that has to be there. -/
def Members.need {α : Type} (members : Members) (name : String) (shape : Json → Option α) : Option α :=
  (members.get? name).bind shape

/-- A member that may be missing or `null`. -/
def Members.optional {α : Type} (members : Members) (name : String) (shape : Json → Option α) :
    Option (Option α) :=
  match members.get? name with
  | none | some .null => some none
  | some value => (shape value).map some

/-- A member that may be missing, but not `null`. -/
def Members.orElse {α : Type} (members : Members) (name : String) (default : α)
    (shape : Json → Option α) : Option α :=
  match members.get? name with
  | none => some default
  | some value => shape value

/-! ### Values that are kept whole -/

/-- How deeply values may nest where they are kept whole. -/
def maxDepth : Nat := 127

/-- Whether a written number is in the range of floating-point numbers of 64 bits. -/
def isInRange (chars : List UInt8) : Bool :=
  let isMark (c : Char) : Bool := c == 'e' || c == 'E'
  let cs := (chars.map fun b => Char.ofNat b.toNat).filter (· != '-')
  let mantissa := cs.takeWhile (!isMark ·)
  let whole := mantissa.takeWhile Decimal.isDigit
  let fraction := (mantissa.dropWhile Decimal.isDigit).drop 1
  let size : Int := Decimal.valueFrom 0 ((cs.dropWhile (!isMark ·)).filter Decimal.isDigit)
  let negative := (chars.dropWhile fun b => !isMark (Char.ofNat b.toNat)).contains 0x2D
  !Decimal.isTooLarge (whole ++ fraction) ((if negative then -size else size) - fraction.length)

mutual

/-- Whether a value can be kept whole, `depth` levels deep in the report: its strings are texts, its
numbers in range, its nesting bounded. -/
def isSound (depth : Nat) : Json → Bool
  | .null | .bool _ => true
  | .number chars => isInRange chars
  | .string chars => (textOf chars).isSome
  | .array items => depth < maxDepth && areSound (depth + 1) items
  | .object members => depth < maxDepth && membersSound (depth + 1) members

/-- Whether all values of a list can be kept. -/
def areSound (depth : Nat) : List Json → Bool
  | [] => true
  | item :: items => isSound depth item && areSound depth items

/-- Whether all members of an object can be kept. -/
def membersSound (depth : Nat) : List (List UInt8 × Json) → Bool
  | [] => true
  | (name, value) :: members =>
    (textOf name).isSome && isSound depth value && membersSound depth members

end

/-- A value kept whole, `depth` levels deep in the report. -/
def whole? (depth : Nat) (value : Json) : Option Json :=
  if isSound depth value then some value else none

/-- The members of a record that keeps the members it does not know: the known ones, and the others
by name, the last of a name counting. -/
def openRecord? (depth : Nat) (known : List String) : Json → Option (Members × Members)
  | .object members => do
    let members ← named members
    let others := members.filter fun e => !known.contains e.1
    if unrepeated known members && others.all (fun e => isSound depth e.2) then
      some (members.filter fun e => known.contains e.1, others)
    else none
  | _ => none

end RouterShell.Json
