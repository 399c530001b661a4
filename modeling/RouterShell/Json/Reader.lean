import RouterShell.Text.Utf8

/-!
# Reading JSON

Tools report the state of the network in JSON. The reader checks the grammar and keeps numbers and
strings as they are written: what a number or a string means is only worked out where it is asked
for, so a report is not refused for what nobody looks at.

## The model

A reader answers what it has read and the bytes after it, and nothing where the grammar is violated.
Values nest, so `readValue` carries a bound on its turns; every turn uses up a byte.
-/

namespace RouterShell

/-- A value as written. -/
inductive Json where
  /-- The absent value, `null`. -/
  | null
  /-- Either `true` or `false`. -/
  | bool (b : Bool)
  /-- A number, by its characters. -/
  | number (chars : List UInt8)
  /-- A string, by what stands between its quotes. -/
  | string (chars : List UInt8)
  /-- Values in brackets. -/
  | array (items : List Json)
  /-- Named values in braces; each name by what stands between its quotes. -/
  | object (members : List (List UInt8 × Json))

namespace Json

/-- White space between parts of a value. -/
def isSpace (b : UInt8) : Bool :=
  b == 0x20 || b == 0x09 || b == 0x0A || b == 0x0D

/-- Pass over white space. -/
def skipSpace (s : List UInt8) : List UInt8 := s.dropWhile isSpace

/-- A decimal digit. -/
def isDigit (b : UInt8) : Bool := 0x30 ≤ b && b ≤ 0x39

/-- A hexadecimal digit. -/
def isHex (b : UInt8) : Bool :=
  isDigit b || (0x41 ≤ b && b ≤ 0x46) || (0x61 ≤ b && b ≤ 0x66)

/-- The letters after a backslash, but for `u`. -/
def isEscapeLetter (b : UInt8) : Bool :=
  [0x22, 0x5C, 0x2F, 0x62, 0x66, 0x6E, 0x72, 0x74].contains b

/-- Read a string up to its closing quote, after the opening one. -/
def readString : List UInt8 → Option (List UInt8 × List UInt8)
  | [] => none
  | 0x22 :: rest => some ([], rest)
  | 0x5C :: 0x75 :: a :: b :: c :: d :: rest =>
    if [a, b, c, d].all isHex then
      (readString rest).map fun (chars, s) => (0x5C :: 0x75 :: a :: b :: c :: d :: chars, s)
    else none
  | [0x5C] => none
  | 0x5C :: e :: rest =>
    if isEscapeLetter e then (readString rest).map fun (chars, s) => (0x5C :: e :: chars, s) else none
  | b :: rest => if b < 0x20 then none else (readString rest).map fun (chars, s) => (b :: chars, s)

/-- Read digits, at least one. -/
def readDigits (s : List UInt8) : Option (List UInt8 × List UInt8) :=
  let digits := s.takeWhile isDigit
  if digits.isEmpty then none else some (digits, s.dropWhile isDigit)

/-- Read the digits before the point: no superfluous zero. -/
def readInteger (s : List UInt8) : Option (List UInt8 × List UInt8) := do
  let (digits, rest) ← readDigits s
  if 1 < digits.length && digits.head? == some 0x30 then none else some (digits, rest)

/-- Read the digits behind the point, if there is one. -/
def readFraction : List UInt8 → Option (List UInt8 × List UInt8)
  | 0x2E :: rest => do
    let (digits, rest) ← readDigits rest
    return (0x2E :: digits, rest)
  | rest => some ([], rest)

/-- Read an exponent, if there is one. -/
def readExponent : List UInt8 → Option (List UInt8 × List UInt8)
  | e :: rest =>
    if e == 0x65 || e == 0x45 then
      match rest with
      | sign :: rest' =>
        if sign == 0x2B || sign == 0x2D then do
          let (digits, rest) ← readDigits rest'
          return (e :: sign :: digits, rest)
        else do
          let (digits, rest) ← readDigits rest
          return (e :: digits, rest)
      | [] => none
    else some ([], e :: rest)
  | [] => some ([], [])

/-- Read a number. -/
def readNumber (s : List UInt8) : Option (List UInt8 × List UInt8) := do
  let (sign, s) : List UInt8 × List UInt8 := match s with
    | 0x2D :: rest => ([0x2D], rest)
    | rest => ([], rest)
  let (whole, s) ← readInteger s
  let (fraction, s) ← readFraction s
  let (exponent, s) ← readExponent s
  return (sign ++ whole ++ fraction ++ exponent, s)

/-- Read one given word. -/
def readWord (word : String) (value : Json) (s : List UInt8) : Option (Json × List UInt8) :=
  let bytes := Text.encode word
  if bytes.isPrefixOf s then some (value, s.drop bytes.length) else none

mutual

/-- Read a value, with white space before it. -/
def readValue : Nat → List UInt8 → Option (Json × List UInt8)
  | 0, _ => none
  | fuel + 1, s =>
    match skipSpace s with
    | [] => none
    | 0x5B :: rest =>
      match skipSpace rest with
      | 0x5D :: rest => some (.array [], rest)
      | rest => (readItems fuel rest).map fun (items, s) => (.array items, s)
    | 0x7B :: rest =>
      match skipSpace rest with
      | 0x7D :: rest => some (.object [], rest)
      | rest => (readMembers fuel rest).map fun (members, s) => (.object members, s)
    | 0x22 :: rest => (readString rest).map fun (chars, s) => (.string chars, s)
    | b :: rest =>
      if b == 0x2D || isDigit b then (readNumber (b :: rest)).map fun (chars, s) => (.number chars, s)
      else if b == 0x6E then readWord "null" .null (b :: rest)
      else if b == 0x74 then readWord "true" (.bool true) (b :: rest)
      else readWord "false" (.bool false) (b :: rest)

/-- Read the values of an array, at least one, and its closing bracket. -/
def readItems : Nat → List UInt8 → Option (List Json × List UInt8)
  | 0, _ => none
  | fuel + 1, s =>
    match readValue fuel s with
    | none => none
    | some (item, rest) =>
      match skipSpace rest with
      | 0x2C :: rest => (readItems fuel rest).map fun (items, s) => (item :: items, s)
      | 0x5D :: rest => some ([item], rest)
      | _ => none

/-- Read the members of an object, at least one, and its closing brace. -/
def readMembers : Nat → List UInt8 → Option (List (List UInt8 × Json) × List UInt8)
  | 0, _ => none
  | fuel + 1, s =>
    match skipSpace s with
    | 0x22 :: rest =>
      match readString rest with
      | none => none
      | some (name, rest) =>
        match skipSpace rest with
        | 0x3A :: rest =>
          match readValue fuel rest with
          | none => none
          | some (value, rest) =>
            match skipSpace rest with
            | 0x2C :: rest =>
              (readMembers fuel rest).map fun (members, s) => ((name, value) :: members, s)
            | 0x7D :: rest => some ([(name, value)], rest)
            | _ => none
        | _ => none
    | _ => none

end

/-- Read a value that is all there is. -/
def read (bytes : List UInt8) : Option Json :=
  match readValue (bytes.length + 1) bytes with
  | some (value, rest) => if (skipSpace rest).isEmpty then some value else none
  | none => none

end Json

end RouterShell
