import RouterShell.Text.Utf8

/-!
# Lines

A line ends at a line feed, which may have a carriage return before it; what follows the last line
feed is a line of its own unless it is empty. The rule is the same for characters and for bytes, so
it is stated for any type with two marked elements.

Bytes of a file or of a tool are cut into lines before they are decoded, and reading line by line
stops at the first line that is no text (`textLines`).
-/

namespace RouterShell.Text

variable {α : Type} [BEq α]

/-- The list cut after each `feed`; the feeds stay with the parts they end. -/
def pieces (feed : α) : List α → List (List α)
  | [] => []
  | c :: rest =>
    if c == feed then [c] :: pieces feed rest
    else match pieces feed rest with
      | [] => [[c]]
      | p :: ps => (c :: p) :: ps

/-- A part without the feed that ends it and without a `ret` right before that feed. -/
def stripEnd (feed ret : α) : List α → List α
  | [] => []
  | [c] => if c == feed then [] else [c]
  | c :: d :: rest =>
    if rest.isEmpty && c == ret && d == feed then [] else c :: stripEnd feed ret (d :: rest)

/-- The lines of a list. -/
def splitLines (feed ret : α) (s : List α) : List (List α) :=
  (pieces feed s).map (stripEnd feed ret)

/-- The lines of a text. -/
def lines (s : List Char) : List (List Char) :=
  splitLines '\n' '\r' s

/-- The lines of a run of bytes. -/
def byteLines (bytes : List UInt8) : List (List UInt8) :=
  splitLines 0x0A 0x0D bytes

/-- The lines of a run of bytes up to the first that is no text. -/
def textLines (bytes : List UInt8) : List String :=
  ((byteLines bytes).map decode |>.takeWhile Option.isSome).filterMap id

/-- Texts joined with a separator between neighbours. -/
def joinWith (sep : List Char) : List (List Char) → List Char
  | [] => []
  | [s] => s
  | s :: rest => s ++ sep ++ joinWith sep rest

end RouterShell.Text
