import RouterShell.Toml.Table

/-!
# Writing texts in TOML

A text is written in the style that needs the fewest escapes: between double quotes if nothing has to
be escaped, between single quotes if that avoids escapes, and over several lines if it has several
lines. Control characters can only be written as escapes.
-/

namespace RouterShell.Toml

/-- The four ways to write a text. -/
inductive TextStyle where
  /-- Between double quotes, with escapes. -/
  | basic
  /-- Between single quotes, as it is. -/
  | literal
  /-- Between three double quotes, with escapes, over several lines. -/
  | longBasic
  /-- Between three single quotes, as it is, over several lines. -/
  | longLiteral
  deriving DecidableEq, Repr

/-- Characters that can only be written as escapes. -/
def isControl (c : Char) : Bool :=
  (c.toNat < 0x20 && c != '\t' && c != '\n') || c.toNat = 0x7F

/-- The length of the longest run of a character. -/
def longestRun (q : Char) (s : List Char) : Nat :=
  (s.foldl (fun (here, longest) c => if c = q then (here + 1, max longest (here + 1)) else (0, longest))
    ((0, 0) : Nat × Nat)).2

/-- The style of a text. -/
def styleOf (s : List Char) : TextStyle :=
  let controls := s.any isControl
  let backslash := s.contains '\\'
  let newline := s.contains '\n'
  if !controls && !backslash && !s.contains '"' && !newline then .basic
  else if !controls && !s.contains '\'' && !newline then .literal
  else if !controls && !backslash && longestRun '"' s ≤ 2 then .longBasic
  else if !controls && longestRun '\'' s ≤ 2 then .longLiteral
  else if newline then .longBasic
  else .basic

/-- A hexadecimal digit in upper case. -/
def upperHex (n : Nat) : Char :=
  if n < 10 then Char.ofNat ('0'.toNat + n) else Char.ofNat ('A'.toNat + (n - 10))

/-- The escape of a control character. -/
def escapeControl (c : Char) : List Char :=
  match c with
  | '\x08' => ['\\', 'b']
  | '\x0C' => ['\\', 'f']
  | '\r' => ['\\', 'r']
  | c => ['\\', 'u', '0', '0', upperHex (c.toNat / 16), upperHex (c.toNat % 16)]

/-- A text with escapes. `room` tells how many double quotes may follow each other as they are, of
which `seen` have come already. -/
def escapeFrom (room seen : Nat) (long : Bool) : List Char → List Char
  | [] => []
  | c :: rest =>
    if c = '"' then
      if seen < room then c :: escapeFrom room (seen + 1) long rest
      else '\\' :: '"' :: escapeFrom room 0 long rest
    else
      let written :=
        if c = '\\' then ['\\', '\\']
        else if c = '\t' then ['\\', 't']
        else if c = '\n' then (if long then ['\n'] else ['\\', 'n'])
        else if isControl c then escapeControl c
        else [c]
      written ++ escapeFrom room 0 long rest

/-- The number of double quotes that may follow each other in a text of several lines. -/
def longRoom : Nat := 2

/-- A text in a style. A text of several lines starts on a line of its own. -/
def writeIn (style : TextStyle) (s : List Char) : List Char :=
  let start := if s.contains '\n' then ['\n'] else []
  match style with
  | .basic => '"' :: (escapeFrom 0 0 false s ++ ['"'])
  | .literal => '\'' :: (s ++ ['\''])
  | .longBasic => "\"\"\"".toList ++ start ++ escapeFrom longRoom 0 true s ++ "\"\"\"".toList
  | .longLiteral => "'''".toList ++ start ++ s ++ "'''".toList

/-- The written form of a text. -/
def writeText (text : String) : String :=
  String.ofList (writeIn (styleOf text.toList) text.toList)

/-- The written form of a truth value. -/
def writeBool (b : Bool) : String := if b then "true" else "false"

end RouterShell.Toml
