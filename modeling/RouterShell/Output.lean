import RouterShell.Text.Blank
import RouterShell.Text.Lines
import RouterShell.Unicode.Case

/-!
# Output of commands

A command answers a text, a table, nothing, or the wish to leave the shell. Tables are shown without
borders, every column as wide as its widest cell; the last cell of a row is not padded and no line
ends in blanks. Widths count characters.
-/

namespace RouterShell

/-- What a command answers. -/
inductive Output where
  /-- Lines of text. -/
  | text (text : String)
  /-- A row of headers and rows of cells. -/
  | table (headers : List String) (rows : List (List String))
  /-- Nothing to show. -/
  | none
  /-- The wish to leave the shell. -/
  | quit
  deriving DecidableEq, Repr

/-- Texts, one a line. -/
def joinLines (lines : List String) : String :=
  String.ofList (Text.joinWith ['\n'] (lines.map String.toList))

namespace Table

/-- The blanks between two columns. -/
def gap : List Char := [' ', ' ']

/-- The number of columns: that of the cells in the longest row. -/
def columns (rows : List (List String)) : Nat :=
  (rows.map List.length).foldr max 0

/-- The widths, made to hold a row as well, if there is a column for each of its cells. -/
def widen? : List Nat → List String → Option (List Nat)
  | ws, [] => some ws
  | [], _ :: _ => none
  | w :: ws, cell :: rest => (widen? ws rest).map (max w cell.length :: ·)

/-- The width of every column, as far as the columns suffice. -/
def widths? (rows : List (List String)) : Option (List Nat) :=
  rows.foldlM widen? (List.replicate (columns rows) 0)

/-- The cells of a row, each but the last one padded to its column, if it has one that is wide enough. -/
def rowText? : List Nat → List String → Option (List Char)
  | _, [] => some []
  | _, [cell] => some cell.toList
  | [], _ :: _ :: _ => none
  | w :: ws, cell :: next :: rest =>
    if cell.length ≤ w then
      (rowText? ws (next :: rest)).map fun others =>
        cell.toList ++ List.replicate (w - cell.length) ' ' ++ gap ++ others
    else none

/-- A row as a line. -/
def line? (ws : List Nat) (row : List String) : Option String :=
  (rowText? ws row).map fun text => String.ofList (Text.trimEnd text)

/-- A table as lines; headers are in upper case. -/
def render? (headers : List String) (rows : List (List String)) : Option String := do
  let all := headers.map Unicode.toUpper :: rows
  let ws ← widths? all
  let lines ← all.mapM (line? ws)
  return joinLines lines

/-- A table as text. Every cell has a column that is wide enough, so there always is one. -/
def render (headers : List String) (rows : List (List String)) : String :=
  (render? headers rows).getD ""

end Table

/-- What is printed for an output, if anything. -/
def Output.rendered : Output → Option String
  | .text t => if t = "" then .none else some t
  | .table headers rows => some (Table.render headers rows)
  | .none => .none
  | .quit => .none

/-! ### Views of one object -/

/-- A view of one object: lines in sections. -/
structure Details where
  /-- The lines. -/
  lines : List String
  deriving DecidableEq, Repr

namespace Details

/-- The view without lines. -/
def empty : Details := ⟨[]⟩

/-- Begin a section; a blank line sets it off from what is before it. -/
def titled (d : Details) (title : String) : Details :=
  ⟨d.lines ++ (if d.lines.isEmpty then [] else [""]) ++ [s!"{title}:"]⟩

/-- A value with its name. -/
def field (d : Details) (key value : String) : Details :=
  ⟨d.lines ++ [s!"  {key}: {value}"]⟩

/-- A value with its name, if there is a value. -/
def field? (d : Details) (key : String) : Option String → Details
  | some value => d.field key value
  | none => d

/-- A line of text. -/
def item (d : Details) (text : String) : Details :=
  ⟨d.lines ++ [s!"  {text}"]⟩

/-- The view as output. -/
def output (d : Details) : Output :=
  .text (joinLines d.lines)

end Details

end RouterShell
