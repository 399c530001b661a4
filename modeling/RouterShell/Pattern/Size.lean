import RouterShell.Pattern.Meaning

/-!
# The size of patterns

A pattern may take a limited amount of memory. What counts is the larger of two automata over bytes:
one that reads a text forwards, and one that reads it backwards.

## The model

Every state takes the same memory, and so does every transition of a state that has several. A counted
repetition is written out as often as it may occur.

The characters of a set are the paths of an automaton over their bytes, in which a step reads a byte of
a range (`byteSequences`). Forwards, states with the same continuations are one state. Backwards, only
paths that start alike share what they start with.
-/

namespace RouterShell.Pattern

/-! ### Characters as bytes -/

/-- The least and the greatest byte after the first one of a character. -/
def tailRange : Nat × Nat := (0x80, 0xBF)

/-- The code points with one, two, three and four bytes; surrogates have none. -/
def codeBlocks : List (Nat × Nat) :=
  [(0, 0x7F), (0x80, 0x7FF), (0x800, 0xD7FF), (0xE000, 0xFFFF), (0x10000, CharSet.maxCode)]

/-- The bytes of a code point. -/
def codeBytes (n : Nat) : List Nat :=
  let tail (shift : Nat) : Nat := 0x80 + (n >>> shift) % 0x40
  if n < 0x80 then [n]
  else if n < 0x800 then [0xC0 + n >>> 6, tail 0]
  else if n < 0x10000 then [0xE0 + n >>> 12, tail 6, tail 0]
  else [0xF0 + n >>> 18, tail 12, tail 6, tail 0]

/-- The byte ranges that spell everything between two spellings of one length, in order. -/
def rangeSequences : List Nat → List Nat → List (List (Nat × Nat))
  | a :: as, b :: bs =>
    if as.isEmpty then [[(a, b)]]
    else if a = b then (rangeSequences as bs).map ((a, a) :: ·)
    else
      let first := as.map fun _ => tailRange.1
      let last := as.map fun _ => tailRange.2
      let low := if as = first then [] else (rangeSequences as last).map ((a, a) :: ·)
      let high := if bs = last then [] else (rangeSequences first bs).map ((b, b) :: ·)
      let a := if low.isEmpty then a else a + 1
      let b := if high.isEmpty then b else b - 1
      let middle := if a ≤ b then [(a, b) :: as.map fun _ => tailRange] else []
      low ++ middle ++ high
  | _, _ => []
  termination_by as => as.length
  decreasing_by all_goals simp

/-- The byte ranges that spell the characters of a set, in order. -/
def byteSequences (s : CharSet) : List (List (Nat × Nat)) :=
  s.ranges.flatMap fun r => codeBlocks.flatMap fun block =>
    let a := max r.1 block.1
    let b := min r.2 block.2
    if a ≤ b then rangeSequences (codeBytes a) (codeBytes b) else []

/-- What may follow each first range of some sequences, in order. -/
def branches : List (List (Nat × Nat)) → List ((Nat × Nat) × List (List (Nat × Nat)))
  | [] => []
  | [] :: rest => branches rest
  | (r :: tail) :: rest =>
    match branches rest with
    | (r', tails) :: others =>
      if r = r' then (r, tail :: tails) :: others else (r, [tail]) :: (r', tails) :: others
    | [] => [(r, [tail])]

/-- The states from which sequences are read, each as what is left to read; at most `depth` bytes are
left. -/
def readingStates : Nat → List (List (Nat × Nat)) → List (List (List (Nat × Nat)))
  | 0, _ => []
  | depth + 1, sequences =>
    if sequences.all List.isEmpty then []
    else sequences :: (branches sequences).flatMap fun b => readingStates depth b.2

/-! ### Automata -/

/-- The direction in which a text is read. -/
inductive Direction where
  /-- From its start to its end. -/
  | forward
  /-- From its end to its start. -/
  | backward
  deriving DecidableEq, Repr

/-- The memory of one state, in bytes. -/
def stateBytes : Nat := 32

/-- The memory of one transition that reads a byte, in bytes. -/
def readBytes : Nat := 8

/-- The memory of one transition that reads nothing, in bytes. -/
def jumpBytes : Nat := 4

/-- The memory a pattern may take, in bytes. -/
def maxBytes : Nat := 10485760

/-- The greatest number of bytes of a character. -/
def maxCharBytes : Nat := 4

/-- The memory of a state that reads a byte of one of several ranges. -/
def branchBytes (count : Nat) : Nat := stateBytes + readBytes * count

/-- The memory of several states together. -/
def total {α : Type} (bytes : α → Nat) (states : List α) : Nat :=
  states.foldr (fun q n => bytes q + n) 0

/-- The memory of an automaton that reads one character of a set. -/
def setBytes (d : Direction) (s : CharSet) : Nat :=
  if isAscii s then stateBytes + branchBytes s.ranges.length
  else
    let sequences := byteSequences s
    let states := readingStates maxCharBytes sequences
    match d with
    | .forward =>
      stateBytes + total (fun q => branchBytes (branches q).length) states.eraseDups
    | .backward =>
      2 * stateBytes + stateBytes * total (fun q => (branches q).length) states +
        jumpBytes * sequences.length

/-- The memory of an automaton that reads one character of a set, or a single character. -/
def leafBytes (d : Direction) (s : CharSet) : Nat :=
  match s.ranges with
  | [(a, b)] => if a = b then stateBytes * (codeBytes a).length else setBytes d s
  | _ => setBytes d s

/-- Whether a pattern can match the empty text. -/
def Core.isNullable : Core Leaf → Bool
  | .empty => true
  | .leaf (.one _) => false
  | .leaf (.place _) => true
  | .seq p q => p.isNullable && q.isNullable
  | .alt p q => p.isNullable || q.isNullable
  | .times min _ p => min == 0 || p.isNullable
  | .capture p => p.isNullable

/-- Whether a pattern matches nothing but the empty text, if anything. -/
def Core.isWidthless : Core Leaf → Bool
  | .empty => true
  | .leaf (.one _) => false
  | .leaf (.place _) => true
  | .seq p q => p.isWidthless && q.isWidthless
  | .alt p q => p.isWidthless && q.isWidthless
  | .times _ max p => max == some 0 || p.isWidthless
  | .capture p => p.isWidthless

/-- The set that alternatives of one character each amount to. -/
def Core.oneOf? : Core Leaf → Option CharSet
  | .leaf (.one s) => some s
  | .alt p q => do return (← p.oneOf?).union (← q.oneOf?)
  | _ => none

/-- The memory of the repetitions of a pattern that takes `size` itself. -/
def timesBytes (size : Nat) (nullable : Bool) : Nat → Option Nat → Nat
  | 0, none =>
    if nullable then size + 3 * stateBytes + 4 * jumpBytes
    else size + stateBytes + 2 * jumpBytes
  | least, none => least * size + stateBytes + 2 * jumpBytes
  | 0, some 0 => stateBytes
  | least, some most =>
    if least = most then least * size
    else
      let first := if least = 0 then if most = 1 then 0 else stateBytes else least * size
      first + stateBytes + (most - least) * (size + stateBytes + 2 * jumpBytes)

/-- The memory of an automaton for a pattern. -/
def Core.bytes (d : Direction) : Core Leaf → Nat
  | .empty => stateBytes
  | .leaf (.one s) => leafBytes d s
  | .leaf (.place _) => stateBytes
  | .seq p q => p.bytes d + q.bytes d
  | .alt p q =>
    match (Core.alt p q).oneOf? with
    | some s => leafBytes d s
    | none =>
      let shared := match q with
        | .alt _ _ => 0
        | _ => 2 * stateBytes + jumpBytes
      p.bytes d + q.bytes d + jumpBytes + shared
  | .capture p => p.bytes d + (if d = .forward then 2 * stateBytes else 0)
  | .times least most p =>
    if p.isWidthless then
      timesBytes (p.bytes d) true (min least 1) (some (min (most.getD 1) 1))
    else timesBytes (p.bytes d) p.isNullable least most

/-- The memory of what every automaton has around its pattern: it finds where a match begins, and
reports it. -/
def frameBytes (d : Direction) : Nat :=
  let search := 2 * stateBytes + 2 * jumpBytes + branchBytes 1
  match d with
  | .forward => search + 3 * stateBytes
  | .backward => search + stateBytes

/-- Whether an automaton for a pattern takes too much memory. -/
def Core.isTooBig (p : Core Leaf) : Bool :=
  [Direction.forward, .backward].any fun d => maxBytes < p.bytes d + frameBytes d

end RouterShell.Pattern
