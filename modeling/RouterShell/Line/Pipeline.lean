import RouterShell.Line.Token

/-!
# Command and filter segments

Separating pipes cut the words of a line into a command and the segments after it. Each segment
keeps the index of its first word among all tokens, to which columns of errors are added.
-/

namespace RouterShell

/-- The words after one separating pipe. -/
structure Segment where
  /-- The index, among the line's tokens, of the token after the pipe. -/
  offset : Nat
  /-- The words up to the next pipe. -/
  words : List String
  deriving DecidableEq, Repr

/-- The words of a line, cut at separating pipes. -/
structure Pipeline where
  /-- The words before the first pipe. -/
  command : List String
  /-- The parts after the pipes, one for each. -/
  segments : List Segment
  deriving DecidableEq, Repr

/-- Cut tokens of which the first has index `i`. -/
def Pipeline.ofTokensFrom (i : Nat) : List Token → Pipeline
  | [] => ⟨[], []⟩
  | t :: rest =>
    let p := Pipeline.ofTokensFrom (i + 1) rest
    if t.isPipe then ⟨[], ⟨i + 1, p.command⟩ :: p.segments⟩
    else ⟨t.text :: p.command, p.segments⟩

/-- Cut the tokens of a line at separating pipes. -/
def Pipeline.ofTokens (tokens : List Token) : Pipeline :=
  Pipeline.ofTokensFrom 0 tokens

end RouterShell
