import RouterShell.Line.Token
import RouterShell.Text.Lines

/-!
# Writing words into a line

`quote` writes a word so that reading it back gives that word and nothing else; `join` writes a list
of tokens the way they would be typed, with bare pipes.

A word of safe characters needs no quoting, the empty word is a pair of quotes, and any other word
goes between single quotes, where a single quote inside is closed, put between double quotes, and
reopened.
-/

namespace RouterShell.Line

/-- Characters that never need quoting. -/
def isSafe (c : Char) : Bool :=
  c.isAlphanum || "@%+=:,./_-".toList.contains c

/-- The inside of single quotes: a single quote is written `'"'"'`. -/
def quoteInside : List Char → List Char
  | [] => []
  | c :: rest => if c = '\'' then '\'' :: '"' :: '\'' :: '"' :: '\'' :: quoteInside rest
    else c :: quoteInside rest

/-- The written form of a word. -/
def quote (word : String) : List Char :=
  let cs := word.toList
  if cs.isEmpty then ['\'', '\'']
  else if cs.all isSafe then cs
  else '\'' :: (quoteInside cs ++ ['\''])

/-- The written form of a token: a separating pipe stays bare. -/
def Token.typed (t : Token) : List Char :=
  if t.isPipe then ['|'] else quote t.text

/-- The line that has these tokens, with single spaces between them. -/
def join (tokens : List Token) : List Char :=
  Text.joinWith [' '] (tokens.map Token.typed)

end RouterShell.Line
