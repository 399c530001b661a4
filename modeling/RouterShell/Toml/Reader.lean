import RouterShell.Text.Decimal
import RouterShell.Text.Hexadecimal
import RouterShell.Toml.Table

/-!
# Reading TOML

A reader takes what is left of the text and answers what it has read and what is left then, or nothing
if the text is not well formed. Numbers and dates are tried in the order date, floating-point number,
whole number: each is longer than those after it.

## The model

Values nest, so `readValue` carries two bounds: one on its turns, computed from the length of the
text, and the depth of nesting that is accepted.
-/

namespace RouterShell.Toml

/-! ### Characters -/

/-- Space and tab. -/
def isSpace (c : Char) : Bool := c = ' ' || c = '\t'

/-- Characters outside ASCII. -/
def isWide (c : Char) : Bool := 0x80 ≤ c.toNat

/-- The characters that may stand in a comment or a text as they are: no control characters but
tab. -/
def isPrintable (c : Char) : Bool := c = '\t' || (0x20 ≤ c.toNat && c.toNat ≤ 0x7E) || isWide c

/-- The characters of a key without quotes. -/
def isBare (c : Char) : Bool := c.isAlphanum || c = '_' || c = '-'

/-- Pass over spaces and tabs. -/
def skipSpace (s : List Char) : List Char := s.dropWhile isSpace

/-- Pass over the end of a line. -/
def readNewline : List Char → Option (List Char)
  | '\n' :: rest => some rest
  | '\r' :: '\n' :: rest => some rest
  | _ => none

/-- Pass over a comment, if there is one. -/
def skipComment : List Char → List Char
  | '#' :: rest => rest.dropWhile isPrintable
  | s => s

/-- Pass over the end of a line or of the text. -/
def readLineEnd : List Char → Option (List Char)
  | [] => some []
  | s => readNewline s

/-- Pass over what may follow a statement on its line. -/
def readTrailing (s : List Char) : Option (List Char) :=
  readLineEnd (skipComment (skipSpace s))

/-- Pass over spaces, comments and ends of lines; a carriage return alone stops it. -/
def skipBlank : Nat → List Char → List Char
  | 0, s => s
  | fuel + 1, s =>
    match skipSpace s with
    | '#' :: rest => skipBlank fuel (rest.dropWhile isPrintable)
    | rest =>
      match readNewline rest with
      | some rest => skipBlank fuel rest
      | none => rest

/-! ### Texts -/

/-- Read the `n` hexadecimal digits of an escape. -/
def readCode (n : Nat) (s : List Char) : Option (Char × List Char) :=
  let digits := s.take n
  if digits.length = n && digits.all Hexadecimal.isDigit then
    (Hexadecimal.char? digits).map (·, s.drop n)
  else none

/-- Read an escape, after its backslash. -/
def readEscape : List Char → Option (Char × List Char)
  | [] => none
  | c :: rest =>
    match c with
    | 'b' => some ('\x08', rest)
    | 'f' => some ('\x0C', rest)
    | 'n' => some ('\n', rest)
    | 'r' => some ('\r', rest)
    | 't' => some ('\t', rest)
    | '"' => some ('"', rest)
    | '\\' => some ('\\', rest)
    | 'u' => readCode 4 rest
    | 'U' => readCode 8 rest
    | _ => none

/-- Read a text between double quotes, after the opening one. -/
def readBasic : Nat → List Char → Option (List Char × List Char)
  | 0, _ => none
  | _, [] => none
  | fuel + 1, c :: rest =>
    if c = '"' then some ([], rest)
    else if c = '\\' then do
      let (d, rest) ← readEscape rest
      let (text, rest) ← readBasic fuel rest
      return (d :: text, rest)
    else if isPrintable c then do
      let (text, rest) ← readBasic fuel rest
      return (c :: text, rest)
    else none

/-- Read a text between single quotes, after the opening one. -/
def readLiteral : List Char → Option (List Char × List Char)
  | [] => none
  | c :: rest =>
    if c = '\'' then some ([], rest)
    else if isPrintable c then (readLiteral rest).map fun (text, s) => (c :: text, s)
    else none

/-- Read quotes in a text of several lines: three of them end it, and one or two right before those
belong to the text. Answers the quotes of the text, whether it ends, and what is left. -/
def readQuotes (quote : Char) (s : List Char) : List Char × Bool × List Char :=
  let quotes := s.takeWhile (· = quote)
  let count := quotes.length
  if count < 3 then (quotes, false, s.drop count)
  else
    let inner := min (count - 3) 2
    (quotes.take inner, true, s.drop (inner + 3))

/-- Pass over the rest of a line that ends in a backslash, and all blank space after it. -/
def skipContinuation (s : List Char) : Option (List Char) :=
  let rec skipLines : Nat → List Char → List Char
    | 0, s => s
    | fuel + 1, s =>
      match readNewline (skipSpace s) with
      | some rest => skipLines fuel rest
      | none => skipSpace s
  (readNewline (skipSpace s)).map fun rest => skipLines rest.length rest

/-- Read a text of several lines, after its opening quotes; only in one between double quotes does a
backslash have a meaning. -/
def readLong (quote : Char) (escapes : Bool) : Nat → List Char → Option (List Char × List Char)
  | 0, _ => none
  | _, [] => none
  | fuel + 1, c :: rest =>
    if c = quote then
      let (inner, ended, rest) := readQuotes quote (c :: rest)
      if ended then some (inner, rest)
      else (readLong quote escapes fuel rest).map fun (text, s) => (inner ++ text, s)
    else if escapes && c = '\\' then
      match skipContinuation rest with
      | some rest => readLong quote escapes fuel rest
      | none => do
        let (d, rest) ← readEscape rest
        let (text, rest) ← readLong quote escapes fuel rest
        return (d :: text, rest)
    else
      match readNewline (c :: rest) with
      | some rest => (readLong quote escapes fuel rest).map fun (text, s) => ('\n' :: text, s)
      | none =>
        if isPrintable c then (readLong quote escapes fuel rest).map fun (text, s) => (c :: text, s)
        else none

/-- What follows the opening quotes of a text of several lines: an end of line there does not
count. -/
def afterOpening (s : List Char) : List Char := (readNewline s).getD s

/-- Read a text. -/
def readText (s : List Char) : Option (List Char × List Char) :=
  match s with
  | '"' :: '"' :: '"' :: rest => readLong '"' true (s.length + 1) (afterOpening rest)
  | '\'' :: '\'' :: '\'' :: rest => readLong '\'' false (s.length + 1) (afterOpening rest)
  | '"' :: rest => readBasic (s.length + 1) rest
  | '\'' :: rest => readLiteral rest
  | _ => none

/-! ### Keys -/

/-- Read one part of a key. -/
def readPart (s : List Char) : Option (List Char × List Char) :=
  match s with
  | '"' :: rest => readBasic (s.length + 1) rest
  | '\'' :: rest => readLiteral rest
  | s =>
    let bare := s.takeWhile isBare
    if bare.isEmpty then none else some (bare, s.dropWhile isBare)

/-- Read the parts of a key, at least one, with points between them. -/
def readParts : Nat → List Char → Option (List String × List Char)
  | 0, _ => none
  | fuel + 1, s => do
    let (part, s) ← readPart (skipSpace s)
    match skipSpace s with
    | '.' :: rest =>
      let (parts, rest) ← readParts fuel rest
      return (String.ofList part :: parts, rest)
    | rest => return ([String.ofList part], rest)

/-- The number of parts, and of levels of values, that is too large. -/
def depthLimit : Nat := 80

/-- Read a key: the parts before the last one, and the last one. -/
def readKey (s : List Char) : Option ((List String × String) × List Char) := do
  let (parts, rest) ← readParts (s.length + 1) s
  let last ← parts.getLast?
  if depthLimit ≤ parts.length then none else some ((parts.dropLast, last), rest)

/-! ### Numbers -/

/-- Pass over digits, with single underscores between them. -/
def readDigits (isDigit : Char → Bool) : List Char → Option (List Char × List Char)
  | [] => none
  | c :: rest =>
    if !isDigit c then none
    else match rest with
      | '_' :: d :: rest' =>
        if isDigit d then (readDigits isDigit (d :: rest')).map fun (ds, s) => (c :: ds, s) else none
      | '_' :: [] => none
      | d :: rest' =>
        if isDigit d then (readDigits isDigit (d :: rest')).map fun (ds, s) => (c :: ds, s)
        else some ([c], d :: rest')
      | [] => some ([c], [])

/-- Pass over a sign; answers whether it is a minus sign. -/
def readSign : List Char → Bool × List Char
  | '-' :: rest => (true, rest)
  | '+' :: rest => (false, rest)
  | rest => (false, rest)

/-- Read a whole number in decimal digits; a zero stands alone. -/
def readDecimal : List Char → Option (List Char × List Char)
  | '0' :: rest => some (['0'], rest)
  | s => readDigits Decimal.isDigit s

/-- The number of digits in base `2 ^ bits`. -/
def numberIn (bits : Nat) (digits : List Char) : Nat :=
  digits.foldl (fun n c => (n <<< bits) + (Hexadecimal.value? c).getD 0) 0

/-- The least and the greatest whole number. -/
def isInRange (n : Int) : Bool := -0x8000000000000000 ≤ n && n ≤ 0x7FFFFFFFFFFFFFFF

/-- A whole number that is in range. -/
def integer? (n : Int) (rest : List Char) : Option (Toml × List Char) :=
  if isInRange n then some (.integer n, rest) else none

/-- Read a whole number. -/
def readInteger (s : List Char) : Option (Toml × List Char) :=
  let based (bits : Nat) (isDigit : Char → Bool) (s : List Char) : Option (Toml × List Char) := do
    let (digits, rest) ← readDigits isDigit s
    integer? (numberIn bits digits) rest
  match s with
  | '0' :: 'x' :: rest => based 4 Hexadecimal.isDigit rest
  | '0' :: 'o' :: rest => based 3 (fun c => '0' ≤ c && c ≤ '7') rest
  | '0' :: 'b' :: rest => based 1 (fun c => c = '0' || c = '1') rest
  | s => do
    let (negative, s) := readSign s
    let (digits, rest) ← readDecimal s
    let n : Int := Decimal.valueFrom 0 digits
    integer? (if negative then -n else n) rest

/-- Read an exponent. -/
def readExponent : List Char → Option (Int × List Char)
  | c :: rest =>
    if c = 'e' || c = 'E' then do
      let (negative, rest) := readSign rest
      let (digits, rest) ← readDigits Decimal.isDigit rest
      let size : Int := Decimal.valueFrom 0 digits
      return (if negative then -size else size, rest)
    else none
  | [] => none

/-- Read a floating-point number. One above zero that is out of range is refused. -/
def readFloat (s : List Char) : Option (Toml × List Char) := do
  let (minus, s) := readSign s
  match s with
  | 'i' :: 'n' :: 'f' :: rest => return (.float, rest)
  | 'n' :: 'a' :: 'n' :: rest => return (.float, rest)
  | s =>
    let (whole, s) ← readDecimal s
    let ((places, exponent), rest) ← match s with
      | '.' :: rest => do
        let (places, rest) ← readDigits Decimal.isDigit rest
        match readExponent rest with
        | some (exponent, rest) => some ((places, exponent), rest)
        | none => match rest with
          | 'e' :: _ | 'E' :: _ => none
          | rest => some ((places, 0), rest)
      | s => (readExponent s).map fun (exponent, rest) => (([], exponent), rest)
    if !minus && Decimal.isTooLarge (whole ++ places) (exponent - places.length) then none
    else return (.float, rest)

/-! ### Dates and times -/

/-- Read a number of exactly `n` digits within bounds. -/
def readField (n lo hi : Nat) (s : List Char) : Option (Nat × List Char) :=
  let digits := s.take n
  if digits.length = n && digits.all Decimal.isDigit then
    let value := Decimal.valueFrom 0 digits
    if lo ≤ value && value ≤ hi then some (value, s.drop n) else none
  else none

/-- Pass over one given character. -/
def readChar (c : Char) : List Char → Option (List Char)
  | d :: rest => if d = c then some rest else none
  | [] => none

/-- The number of days of a month. -/
def daysOf (year month : Nat) : Nat :=
  if month = 2 then
    if (year % 4 = 0 && year % 100 != 0) || year % 400 = 0 then 29 else 28
  else if [4, 6, 9, 11].contains month then 30
  else 31

/-- Pass over a date. -/
def readDay (s : List Char) : Option (List Char) := do
  let (year, s) ← readField 4 0 9999 s
  let (month, s) ← readField 2 1 12 (← readChar '-' s)
  let (_, s) ← readField 2 1 (daysOf year month) (← readChar '-' s)
  return s

/-- Pass over a time of day. -/
def readTime (s : List Char) : Option (List Char) := do
  let (_, s) ← readField 2 0 23 s
  let (_, s) ← readField 2 0 59 (← readChar ':' s)
  let (_, s) ← readField 2 0 60 (← readChar ':' s)
  match s with
  | '.' :: c :: rest => if Decimal.isDigit c then some ((c :: rest).dropWhile Decimal.isDigit) else some s
  | s => some s

/-- Pass over the distance of a time of day from universal time, if it is given. -/
def readOffset (s : List Char) : Option (List Char) :=
  match s with
  | 'Z' :: rest | 'z' :: rest => some rest
  | '+' :: rest | '-' :: rest => do
    let (_, s) ← readField 2 0 23 rest
    let (_, s) ← readField 2 0 59 (← readChar ':' s)
    return s
  | s => some s

/-- Read a date, a time of day, or both. -/
def readDate (s : List Char) : Option (Toml × List Char) :=
  match readDay s with
  | some rest =>
    let time := match rest with
      | c :: rest => if c = 'T' || c = 't' || c = ' ' then readTime rest else none
      | [] => none
    match time with
    | some rest => (readOffset rest).map (.date, ·)
    | none => some (.date, rest)
  | none => (readTime s).map (.date, ·)

/-! ### Values -/

/-- Read a number or a date. -/
def readNumber (s : List Char) : Option (Toml × List Char) :=
  (readDate s).or ((readFloat s).or (readInteger s))

mutual

/-- Read a value; `depth` levels enclose it. -/
def readValue : Nat → Nat → List Char → Option (Toml × List Char)
  | 0, _, _ => none
  | fuel + 1, depth, s =>
    match s with
    | [] => none
    | '"' :: _ | '\'' :: _ => (readText s).map fun (text, rest) => (.string (String.ofList text), rest)
    | '[' :: rest =>
      if depthLimit ≤ depth + 1 then none
      else (readItems fuel (depth + 1) (skipBlank rest.length rest)).map fun (items, rest) =>
        (.array items, rest)
    | '\x7b' :: rest =>
      if depthLimit ≤ depth + 1 then none
      else match skipSpace rest with
        | '\x7d' :: rest => some (.inlineTable [], rest)
        | rest => do
          let (pairs, rest) ← readPairs fuel (depth + 1) rest
          return (.inlineTable (← ofPairs pairs), rest)
    | 't' :: 'r' :: 'u' :: 'e' :: rest => some (.boolean true, rest)
    | 'f' :: 'a' :: 'l' :: 's' :: 'e' :: rest => some (.boolean false, rest)
    | s => readNumber s

/-- Read the items of an array up to its closing bracket. -/
def readItems : Nat → Nat → List Char → Option (List Toml × List Char)
  | 0, _, _ => none
  | fuel + 1, depth, s =>
    match s with
    | ']' :: rest => some ([], rest)
    | s =>
      match readValue fuel depth s with
      | none => none
      | some (item, rest) =>
        match skipBlank rest.length rest with
        | ',' :: rest =>
          (readItems fuel depth (skipBlank rest.length rest)).map fun (items, rest) =>
            (item :: items, rest)
        | ']' :: rest => some ([item], rest)
        | _ => none

/-- Read the pairs of a table in braces, at least one, up to its closing brace. -/
def readPairs : Nat → Nat → List Char → Option (List (List String × String × Toml) × List Char)
  | 0, _, _ => none
  | fuel + 1, depth, s =>
    match readKey s with
    | some ((path, key), '=' :: rest) =>
      match readValue fuel depth (skipSpace rest) with
      | none => none
      | some (value, rest) =>
        match skipSpace rest with
        | ',' :: rest =>
          (readPairs fuel depth rest).map fun (pairs, rest) => ((path, key, value) :: pairs, rest)
        | '\x7d' :: rest => some ([(path, key, value)], rest)
        | _ => none
    | _ => none

end

/-! ### Statements -/

/-- Read a statement and the end of its line. -/
def readStatement (s : List Char) : Option (Statement × List Char) :=
  match s with
  | '[' :: '[' :: rest =>
    match readKey rest with
    | some ((path, key), ']' :: ']' :: rest) => (readTrailing rest).map (.element path key, ·)
    | _ => none
  | '[' :: rest =>
    match readKey rest with
    | some ((path, key), ']' :: rest) => (readTrailing rest).map (.header path key, ·)
    | _ => none
  | s =>
    match readKey s with
    | some ((path, key), '=' :: rest) => do
      let (value, rest) ← readValue (s.length + 1) 0 (skipSpace rest)
      return (.pair path key value, ← readTrailing rest)
    | _ => none

/-- Read statements up to the end. -/
def readStatements : Nat → List Char → Option (List Statement)
  | 0, _ => none
  | fuel + 1, s =>
    match skipSpace s with
    | [] => some []
    | '#' :: rest =>
      match readLineEnd (rest.dropWhile isPrintable) with
      | some rest => readStatements fuel rest
      | none => none
    | rest =>
      match readNewline rest with
      | some rest => readStatements fuel rest
      | none =>
        match readStatement rest with
        | some (statement, rest) => (readStatements fuel rest).map (statement :: ·)
        | none => none

/-- The mark that may stand at the start of a text. -/
def byteOrderMark : Char := '\uFEFF'

/-- The table of a document. -/
def read (text : String) : Option Entries := do
  let s := text.toList
  let s := if s.head? = some byteOrderMark then s.drop 1 else s
  ofStatements (← readStatements (s.length + 1) s)

end RouterShell.Toml
