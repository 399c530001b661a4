import RouterShell.Text.Utf8

/-!
# Words of a typed line

A line is cut into words at blanks. Inside a word a single quote starts text taken as it stands, a
double quote starts text in which a backslash protects a double quote or another backslash, and
outside quotes a backslash protects any one character. Pieces in different styles may touch and
then form one word.

## The model

`scanFrom` reads the line from left to right in one of six modes and answers what the rest of the
line contributes: the characters that belong to the word being read, whether one of them was quoted,
and what was found after that word. A word takes its start from the place where reading left the mode
`between`, so a word can only begin outside quotes.

A line that ends inside quotes or right after a backslash is still cut into words (`Scan`); only
`tokenize` refuses it.
-/

namespace RouterShell

/-- One word of a typed line. -/
structure Token where
  /-- The word without its quoting. -/
  text : String
  /-- Whether any part of the word was quoted or protected by a backslash. -/
  quoted : Bool
  /-- The byte offset of the word's first character in the line. -/
  start : Nat
  deriving DecidableEq, Repr, Inhabited

/-- A pipe that stands alone and is not quoted separates the parts of a line. -/
def Token.isPipe (t : Token) : Bool :=
  !t.quoted && t.text == "|"

/-- The two quote characters. -/
inductive Quote where
  /-- Everything up to the next one stands for itself: `'`. -/
  | single
  /-- A backslash protects `"` and a backslash: `"`. -/
  | double
  deriving DecidableEq, Repr

/-- The character of a quote. -/
def Quote.char : Quote → Char
  | .single => '\''
  | .double => '"'

/-- A line cut into words, finished or not. -/
structure Scan where
  /-- The words, in order. -/
  tokens : List Token
  /-- The quote that is still open at the end of the line. -/
  openQuote : Option Quote
  /-- Whether the line ends in a backslash that protects nothing. -/
  danglingEscape : Bool
  deriving DecidableEq, Repr

/-- What makes a line unreadable. -/
inductive SyntaxFault where
  /-- The line ends inside quotes. -/
  | missingClosingQuote
  /-- The line ends in a backslash outside quotes. -/
  | noEscapedCharacter
  /-- A pipe stands where a command should. -/
  | missingCommand
  deriving DecidableEq, Repr

/-- The wording of a fault. -/
def SyntaxFault.message : SyntaxFault → String
  | .missingClosingQuote => "missing closing quote"
  | .noEscapedCharacter => "no escaped character"
  | .missingCommand => "missing command before '|'"

/-- Why the line cannot be split as typed, if it cannot. -/
def Scan.fault (s : Scan) : Option SyntaxFault :=
  if s.openQuote.isSome then some .missingClosingQuote
  else if s.danglingEscape then some .noEscapedCharacter
  else none

namespace Line

/-- Where in a line reading stands. -/
inductive Mode where
  /-- Not in a word. -/
  | between
  /-- In a word, outside quotes. -/
  | plain
  /-- In a word, after a backslash outside quotes. -/
  | escaped
  /-- In a word, inside single quotes. -/
  | single
  /-- In a word, inside double quotes. -/
  | double
  /-- In a word, after a backslash inside double quotes. -/
  | doubleEscaped
  deriving DecidableEq, Repr

/-- What a part of a line contributes to the word being read, and what follows that word. -/
structure Tail where
  /-- The characters that still belong to the word. -/
  chars : List Char
  /-- Whether any of them is quoted. -/
  quoted : Bool
  /-- What is found after the word. -/
  scan : Scan

/-- Nothing: the line ends here. -/
def Tail.done : Tail := ⟨[], false, ⟨[], none, false⟩⟩

/-- The line ends inside quotes. -/
def Tail.unclosed (q : Quote) : Tail := ⟨[], false, ⟨[], some q, false⟩⟩

/-- The line ends after a backslash outside quotes. -/
def Tail.dangling : Tail := ⟨[], false, ⟨[], none, true⟩⟩

/-- One more character in front, standing for itself. -/
def Tail.cons (c : Char) (t : Tail) : Tail := { t with chars := c :: t.chars }

/-- The word has a quoted part. -/
def Tail.mark (t : Tail) : Tail := { t with quoted := true }

/-- The word is complete and began at `start`: it becomes the first token. -/
def Tail.close (start : Nat) (t : Tail) : Tail :=
  ⟨[], false,
    { t.scan with tokens := ⟨String.ofList t.chars, t.quoted, start⟩ :: t.scan.tokens }⟩

/-- What the end of the line contributes. -/
def Mode.finish : Mode → Tail
  | .between => .done
  | .plain => .done
  | .escaped => .dangling
  | .single => .unclosed .single
  | .double => .unclosed .double
  | .doubleEscaped => (Tail.unclosed .double).cons '\\'

/-- Read a line from byte offset `pos` on, in the given mode. -/
def scanFrom (mode : Mode) (pos : Nat) : List Char → Tail
  | [] => mode.finish
  | c :: rest =>
    let next := pos + c.utf8Size
    match mode with
    | .between =>
      if Text.isBlank c then scanFrom .between next rest
      else if c = '\'' then ((scanFrom .single next rest).mark).close pos
      else if c = '"' then ((scanFrom .double next rest).mark).close pos
      else if c = '\\' then ((scanFrom .escaped next rest).mark).close pos
      else ((scanFrom .plain next rest).cons c).close pos
    | .plain =>
      if Text.isBlank c then scanFrom .between next rest
      else if c = '\'' then (scanFrom .single next rest).mark
      else if c = '"' then (scanFrom .double next rest).mark
      else if c = '\\' then (scanFrom .escaped next rest).mark
      else (scanFrom .plain next rest).cons c
    | .escaped => (scanFrom .plain next rest).cons c
    | .single =>
      if c = '\'' then scanFrom .plain next rest
      else (scanFrom .single next rest).cons c
    | .double =>
      if c = '"' then scanFrom .plain next rest
      else if c = '\\' then scanFrom .doubleEscaped next rest
      else (scanFrom .double next rest).cons c
    | .doubleEscaped =>
      if c = '"' || c = '\\' then (scanFrom .double next rest).cons c
      else ((scanFrom .double next rest).cons c).cons '\\'

/-- Cut a line into words, tolerating an unfinished one at its end. -/
def scan (line : List Char) : Scan :=
  (scanFrom .between 0 line).scan

/-- Cut a complete line into words. -/
def tokenize (line : List Char) : Except SyntaxFault (List Token) :=
  let s := scan line
  match s.fault with
  | some fault => .error fault
  | none => .ok s.tokens

end Line

end RouterShell
