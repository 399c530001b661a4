import RouterShell.Pattern.Tree
import RouterShell.Text.Blank
import RouterShell.Text.Decimal
import RouterShell.Text.Hexadecimal
import RouterShell.Unicode.Categories
import RouterShell.Unicode.Case

/-!
# Reading patterns

A reader takes what is left of the pattern and answers what it has read and what is left then. Where
the flag `x` is in force, blanks and comments may stand between the characters of almost every
construct; `skip` passes over them.

## The model

Groups and classes nest, so both readers keep the enclosing levels on a stack: `Outer` for groups,
`ClassFrame` for classes. Every turn of their loops uses up at least one character, so the length of
the pattern bounds the number of turns.
-/

namespace RouterShell.Pattern

/-! ### Blanks and comments -/

/-- Pass over blanks and comments; `comment` tells that one is being passed. -/
def skipFrom : Bool → List Char → List Char
  | _, [] => []
  | true, c :: rest => skipFrom (c ≠ '\n') rest
  | false, c :: rest =>
    if Text.isBlank c then skipFrom false rest
    else if c = '#' then skipFrom true rest
    else c :: rest

/-- Pass over blanks and comments if they are to be skipped. -/
def skip (x : Bool) (s : List Char) : List Char :=
  if x then skipFrom false s else s

theorem skipFrom_length_le (comment : Bool) (s : List Char) :
    (skipFrom comment s).length ≤ s.length := by
  induction s generalizing comment with
  | nil => cases comment <;> simp [skipFrom]
  | cons c s ih =>
    cases comment with
    | true => exact Nat.le_succ_of_le (ih _)
    | false =>
      unfold skipFrom
      split
      · exact Nat.le_succ_of_le (ih _)
      · split
        · exact Nat.le_succ_of_le (ih _)
        · exact Nat.le_refl _

theorem skip_length_le (x : Bool) (s : List Char) : (skip x s).length ≤ s.length := by
  unfold skip
  split
  · exact skipFrom_length_le _ _
  · exact Nat.le_refl _

/-- The characters up to the first one without the property, blanks and comments left out. -/
def takeSignificant (x : Bool) (p : Char → Bool) : List Char → List Char × List Char
  | [] => ([], [])
  | c :: rest =>
    if p c then
      let (taken, left) := takeSignificant x p (skip x rest)
      (c :: taken, left)
    else ([], c :: rest)
  termination_by s => s.length
  decreasing_by have := skip_length_le x rest; simp; omega

/-- The next character that is neither a blank nor the first sign of a comment. -/
def peekFrom : Bool → List Char → Option Char
  | _, [] => none
  | comment, c :: rest =>
    if Text.isBlank c then peekFrom comment rest
    else if !comment && c = '#' then peekFrom true rest
    else some c

/-- The character that follows a minus sign in a class. -/
def peekPast (x : Bool) (s : List Char) : Option Char :=
  if x then (peekFrom false s).or s.head? else s.head?

/-! ### Numbers -/

/-- Read a number of at most 32 bits. Where it is bad, reading can still go on. -/
def readDecimal (x : Bool) (s : List Char) : Except Fault Nat × List Char :=
  let (digits, rest) := takeSignificant x Decimal.isDigit (s.dropWhile Text.isBlank)
  let value :=
    if digits.isEmpty then .error .countEmpty
    else match Decimal.readAtMost Decimal.max32 digits with
      | some n => .ok n
      | none => .error .decimalInvalid
  (value, rest.dropWhile Text.isBlank)

/-- Read the counts of a repetition, after the opening brace. -/
def readCounts (x : Bool) (s : List Char) : Except Fault ((Nat × Option Nat) × List Char) := do
  let s := skip x s
  if s.isEmpty then throw .countUnclosed
  let (first, s) := readDecimal x s
  let ((lo, hi), s) ← match s with
    | [] => throw .countUnclosed
    | ',' :: rest =>
      match skip x rest with
      | [] => throw .countUnclosed
      | '}' :: rest => do
        let lo ← first
        pure ((lo, none), '}' :: rest)
      | rest => do
        let lo ← first
        let (last, rest) := readDecimal x rest
        let hi ← last
        pure ((lo, some hi), rest)
    | rest => do
      let lo ← first
      pure ((lo, some lo), rest)
  match s with
  | '}' :: rest =>
    let rest := match skip x rest with
      | '?' :: rest => rest
      | rest => rest
    if hi.all (lo ≤ ·) then return ((lo, hi), rest) else throw .countInvalid
  | _ => throw .countUnclosed

/-! ### Escapes -/

/-- The character that hexadecimal digits number, after `\x` and its like. -/
def charOfDigits (digits : List Char) : Except Fault Char :=
  match Hexadecimal.char? digits with
  | some c => .ok c
  | none => .error .hexInvalid

/-- Read exactly `n` hexadecimal digits. -/
def readHexDigits (x : Bool) : Nat → List Char → Except Fault (List Char × List Char)
  | 0, s => .ok ([], s)
  | _ + 1, [] => .error .escapeUnfinished
  | n + 1, c :: rest =>
    if Hexadecimal.isDigit c then do
      let (digits, rest) ← readHexDigits x n (skip x rest)
      return (c :: digits, rest)
    else .error .hexInvalidDigit

/-- The number of digits after `\x`, `\u` and `\U`. -/
def hexWidth (letter : Char) : Nat :=
  if letter = 'x' then 2 else if letter = 'u' then 4 else 8

/-- Read a hexadecimal code, after its letter. -/
def readHex (x : Bool) (letter : Char) (s : List Char) : Except Fault (Literal × List Char) :=
  match skip x s with
  | [] => .error .escapeUnfinished
  | '{' :: rest =>
    let (digits, rest) := takeSignificant x Hexadecimal.isDigit (skip x rest)
    match rest with
    | [] => .error .escapeUnfinished
    | '}' :: rest => do
      if digits.isEmpty then throw .hexEmpty
      let c ← charOfDigits digits
      return (⟨c, false⟩, skip x rest)
    | _ => .error .hexInvalidDigit
  | rest => do
    let (digits, rest) ← readHexDigits x (hexWidth letter) rest
    let c ← charOfDigits digits
    return (⟨c, letter = 'x'⟩, rest)

/-- The parts of a text around the first place where another text stands in it. -/
def cutAt (mark : List Char) : List Char → Option (List Char × List Char)
  | [] => none
  | c :: rest =>
    if mark.isPrefixOf (c :: rest) then some ([], (c :: rest).drop mark.length)
    else (cutAt mark rest).map fun (before, after) => (c :: before, after)

/-- The property that a name in braces refers to. -/
def PropertyRef.ofText (name : List Char) : PropertyRef :=
  let cut := (cutAt ['!', '='] name).or ((cutAt [':'] name).or (cutAt ['='] name))
  match cut with
  | some (before, after) => .valued (String.ofList before) (String.ofList after)
  | none => .named (String.ofList name)

/-- Read the name of a property, after `\p`. -/
def readProperty (x : Bool) (s : List Char) : Except Fault (PropertyRef × List Char) :=
  match skip x s with
  | [] => .error .escapeUnfinished
  | '{' :: rest =>
    match takeSignificant x (· ≠ '}') (skip x rest) with
    | (_, []) => .error .escapeUnfinished
    | (name, _ :: rest) => .ok (.ofText name, rest)
  | c :: rest =>
    if c = '\\' then .error .propertyInvalid
    else .ok (.named (String.singleton c), rest)

/-- The letters of which names of word boundaries are made. -/
def isBoundaryLetter (c : Char) : Bool :=
  c.isAlpha || c = '-'

/-- The boundary of a name in braces. -/
def boundaryOfName : String → Except Fault Anchor
  | "start" => .ok .wordStart
  | "end" => .ok .wordEnd
  | "start-half" => .ok .wordStartHalf
  | "end-half" => .ok .wordEndHalf
  | _ => .error .boundaryUnrecognized

/-- Read what follows `\b`: a name in braces makes it a boundary of that name; braces with anything
else are left for a repetition. -/
def readBoundary (x : Bool) (s : List Char) : Except Fault (Anchor × List Char) :=
  match s with
  | '{' :: rest =>
    match skip x rest with
    | [] => .error .boundaryUnfinished
    | c :: inside =>
      if isBoundaryLetter c then
        match takeSignificant x isBoundaryLetter (c :: inside) with
        | (name, '}' :: rest) => (boundaryOfName (String.ofList name)).map (·, rest)
        | _ => .error .boundaryUnclosed
      else .ok (.boundary, s)
  | _ => .ok (.boundary, s)

/-- The characters with a meaning of their own somewhere in patterns. -/
def isMeta (c : Char) : Bool :=
  "\\.+*?()|[]\x7b\x7d^$#&-~".toList.contains c

/-- Whether a backslash may stand in front of a character that stands for itself. -/
def isEscapable (c : Char) : Bool :=
  isMeta c || (c.toNat < 128 && !c.isAlphanum && c ≠ '<' && c ≠ '>')

/-- Read an escape, after the backslash. -/
def readEscape (x : Bool) : List Char → Except Fault (Tree × List Char)
  | [] => .error .escapeUnfinished
  | c :: rest =>
    if c.isDigit then .error .backreference
    else if c = 'x' || c = 'u' || c = 'U' then
      (readHex x c rest).map fun (l, s) => (.literal l, s)
    else if c = 'p' || c = 'P' then
      (readProperty x rest).map fun (ref, s) => (.property (c = 'P') ref, s)
    else if isEscapable c then .ok (.literal ⟨c, false⟩, rest)
    else match c with
      | 'd' => .ok (.letter false .digit, rest)
      | 'D' => .ok (.letter true .digit, rest)
      | 's' => .ok (.letter false .space, rest)
      | 'S' => .ok (.letter true .space, rest)
      | 'w' => .ok (.letter false .word, rest)
      | 'W' => .ok (.letter true .word, rest)
      | 'a' => .ok (.literal ⟨'\x07', false⟩, rest)
      | 'f' => .ok (.literal ⟨'\x0C', false⟩, rest)
      | 't' => .ok (.literal ⟨'\t', false⟩, rest)
      | 'n' => .ok (.literal ⟨'\n', false⟩, rest)
      | 'r' => .ok (.literal ⟨'\r', false⟩, rest)
      | 'v' => .ok (.literal ⟨'\x0B', false⟩, rest)
      | 'A' => .ok (.anchor .textStart, rest)
      | 'z' => .ok (.anchor .textEnd, rest)
      | 'b' => (readBoundary x rest).map fun (a, s) => (.anchor a, s)
      | 'B' => .ok (.anchor .notBoundary, rest)
      | '<' => .ok (.anchor .wordStart, rest)
      | '>' => .ok (.anchor .wordEnd, rest)
      | _ => .error .escapeUnrecognized

/-! ### Classes -/

/-- Where a class being read is enclosed. -/
inductive ClassFrame where
  /-- The items of the enclosing class, latest first, and whether this class is negated. -/
  | outer (items : List ClassTree) (negated : Bool)
  /-- The set to the left of an operation. -/
  | left (op : SetOp) (set : ClassTree)

/-- The names of classes of ASCII. -/
def asciiClassNames : List String :=
  ["alnum", "alpha", "ascii", "blank", "cntrl", "digit", "graph", "lower", "print", "punct",
    "space", "upper", "word", "xdigit"]

/-- Read a class of ASCII, after its opening bracket, if one stands there. -/
def readAsciiClass? (s : List Char) : Option (ClassTree × List Char) :=
  match s with
  | ':' :: rest =>
    let (negated, rest) := match rest with
      | '^' :: rest => (true, rest)
      | rest => (false, rest)
    let name := String.ofList (rest.takeWhile (· ≠ ':'))
    match rest.dropWhile (· ≠ ':') with
    | ':' :: ']' :: rest =>
      if asciiClassNames.contains name then some (.ascii negated name, rest) else none
    | _ => none
  | _ => none

/-- Read the minus signs, or the one closing bracket, that stand for themselves at the start of a
class. Answers the items, latest first. -/
def readClassLead (x : Bool) (s : List Char) : Except Fault (List ClassTree × List Char) := do
  let minus : ClassTree := .literal ⟨'-', false⟩
  let (signs, rest) := takeSignificant x (· = '-') s
  match signs, rest with
  | _, [] => throw .classUnclosed
  | [], ']' :: rest =>
    let rest := skip x rest
    if rest.isEmpty then throw .classUnclosed
    return ([.literal ⟨']', false⟩], rest)
  | signs, rest => return (signs.map fun _ => minus, rest)

/-- Read the start of a class, after its opening bracket: whether it is negated, and its first
items. -/
def readClassOpen (x : Bool) (s : List Char) :
    Except Fault ((Bool × List ClassTree) × List Char) := do
  match skip x s with
  | [] => throw .classUnclosed
  | '^' :: rest =>
    let rest := skip x rest
    if rest.isEmpty then throw .classUnclosed
    let (items, rest) ← readClassLead x rest
    return ((true, items), rest)
  | rest =>
    let (items, rest) ← readClassLead x rest
    return ((false, items), rest)

/-- Read one item of a class. -/
def readClassItem (x : Bool) : List Char → Except Fault (Tree × List Char)
  | [] => .error .classUnclosed
  | '\\' :: rest => readEscape x rest
  | c :: rest => .ok (.literal ⟨c, false⟩, rest)

/-- What an item stands for on its own. -/
def itemSet : Tree → Except Fault ClassTree
  | .literal l => .ok (.literal l)
  | .letter negated kind => .ok (.letter negated kind)
  | .property negated ref => .ok (.property negated ref)
  | _ => .error .classEscapeInvalid

/-- What an item stands for at an end of a range. -/
def itemEnd : Tree → Except Fault Literal
  | .literal l => .ok l
  | _ => .error .classRangeLiteral

/-- Read an item or a range. -/
def readClassRange (x : Bool) (s : List Char) : Except Fault (ClassTree × List Char) := do
  let (first, s) ← readClassItem x s
  match skip x s with
  | [] => throw .classUnclosed
  | '-' :: rest =>
    let next := peekPast x rest
    if next = some ']' || next = some '-' then
      let set ← itemSet first
      return (set, '-' :: rest)
    match skip x rest with
    | [] => throw .classUnclosed
    | rest =>
      let (last, rest) ← readClassItem x rest
      let a ← itemEnd first
      let b ← itemEnd last
      if a.char ≤ b.char then return (.range a b, rest) else throw .classRangeInvalid
  | rest =>
    let set ← itemSet first
    return (set, rest)

/-- Join the items read so far, and the set to their left if an operation waits for them. -/
def closeItems (frames : List ClassFrame) (items : List ClassTree) :
    List ClassFrame × ClassTree :=
  let set := ClassTree.ofItems items.reverse
  match frames with
  | .left op lhs :: frames => (frames, .combined op lhs set)
  | frames => (frames, set)

/-- Read the rest of a class. `frames` holds the enclosing classes and `items` the items of the
innermost one, latest first. -/
def readClassFrom (x : Bool) : Nat → List ClassFrame → List ClassTree → List Char →
    Except Fault (Tree × List Char)
  | 0, _, _, _ => .error .classUnclosed
  | fuel + 1, frames, items, s =>
    let operation (op : SetOp) (rest : List Char) : Except Fault (Tree × List Char) :=
      let (frames, set) := closeItems frames items
      readClassFrom x fuel (.left op set :: frames) [] rest
    match skip x s with
    | [] => .error .classUnclosed
    | '[' :: rest =>
      match readAsciiClass? rest with
      | some (set, rest) => readClassFrom x fuel frames (set :: items) rest
      | none => do
        let ((negated, first), rest) ← readClassOpen x rest
        readClassFrom x fuel (.outer items negated :: frames) first rest
    | ']' :: rest =>
      match closeItems frames items with
      | ([.outer _ negated], set) => .ok (.bracket negated set, rest)
      | (.outer items negated :: frames, set) =>
        readClassFrom x fuel frames (.nested negated set :: items) rest
      | _ => .error .classUnclosed
    | '&' :: '&' :: rest => operation .inter rest
    | '-' :: '-' :: rest => operation .diff rest
    | '~' :: '~' :: rest => operation .symmDiff rest
    | rest => do
      let (set, rest) ← readClassRange x rest
      readClassFrom x fuel frames (set :: items) rest

/-- Read a class, after its opening bracket. -/
def readClass (x : Bool) (s : List Char) : Except Fault (Tree × List Char) := do
  let ((negated, items), rest) ← readClassOpen x s
  readClassFrom x (s.length + 1) [.outer [] negated] items rest

/-! ### Groups -/

/-- The general categories of numbers. -/
def isNumeric (c : Char) : Bool :=
  c.isDigit || (c.toNat ≥ 128 && (Unicode.categoryRuns.any fun e =>
    ["Nd", "Nl", "No"].contains e.1 && (CharSet.ofRuns e.2).contains c))

/-- Letters of any script. -/
def isAlphabetic (c : Char) : Bool :=
  c.isAlpha || (c.toNat ≥ 128 && (Unicode.property "Alphabetic").contains c)

/-- The characters of group names. -/
def isNameChar (first : Bool) (c : Char) : Bool :=
  if first then c = '_' || isAlphabetic c
  else c = '_' || c = '.' || c = '[' || c = ']' || isAlphabetic c || isNumeric c

/-- Read the name of a group up to `>`. -/
def readGroupName : Bool → List Char → Except Fault (List Char × List Char)
  | _, [] => .error .groupNameUnfinished
  | first, c :: rest =>
    if c = '>' then .ok ([], rest)
    else if isNameChar first c then
      (readGroupName false rest).map fun (name, s) => (c :: name, s)
    else .error .groupNameInvalid

/-- Read flags up to `:` or `)`, which is answered with them. `off` tells that a minus sign was
read, `minus` that it was read last. -/
def readFlags (off minus : Bool) (changes : FlagChanges) : List Char →
    Except Fault ((FlagChanges × Char) × List Char)
  | [] => .error .flagUnfinished
  | c :: rest =>
    if c = ':' || c = ')' then
      if minus then .error .flagDanglingNegation else .ok ((changes.reverse, c), rest)
    else if c = '-' then
      if off then .error .flagRepeatedNegation else readFlags true true changes rest
    else match Flag.ofChar? c with
      | none => .error .flagUnrecognized
      | some f =>
        if changes.any (fun e => e.1 == f) then .error .flagDuplicate
        else readFlags off false ((f, !off) :: changes) rest

/-- What an opening parenthesis begins. -/
inductive Opening where
  /-- Flags for the rest of the enclosing group. -/
  | changes (changes : FlagChanges)
  /-- A group, with its name if it has one. -/
  | group (kind : GroupKind) (name : Option String)

/-- Read what follows an opening parenthesis. -/
def readOpening (names : List String) (s : List Char) : Except Fault (Opening × List Char) := do
  let named (rest : List Char) : Except Fault (Opening × List Char) := do
    let (name, rest) ← readGroupName true rest
    let name := String.ofList name
    if name.isEmpty then throw .groupNameEmpty
    if names.contains name then throw .groupNameDuplicate
    return (.group .capture (some name), rest)
  match s with
  | '?' :: '=' :: _ | '?' :: '!' :: _ | '?' :: '<' :: '=' :: _ | '?' :: '<' :: '!' :: _ =>
    throw .lookAround
  | '?' :: 'P' :: '<' :: rest => named rest
  | '?' :: '<' :: rest => named rest
  | ['?'] => throw .groupUnclosed
  | '?' :: rest =>
    let ((changes, close), rest) ← readFlags false false [] rest
    if close = ':' then return (.group (.scoped changes) none, rest)
    if changes.isEmpty then throw .repetitionMissing
    return (.changes changes, rest)
  | rest => return (.group .capture none, rest)

/-! ### Whole patterns -/

/-- The alternatives of a group that are complete, and the parts of the one being read, both latest
first. -/
structure Level where
  /-- The complete alternatives. -/
  branches : List Tree
  /-- The parts of the last alternative. -/
  parts : List Tree

/-- A level with nothing on it. -/
def Level.fresh : Level := ⟨[], []⟩

/-- One more part. -/
def Level.push (l : Level) (t : Tree) : Level := { l with parts := t :: l.parts }

/-- Begin another alternative. -/
def Level.branch (l : Level) : Level := ⟨Tree.ofParts l.parts.reverse :: l.branches, []⟩

/-- What is on the level. -/
def Level.tree (l : Level) : Tree :=
  match l.branches with
  | [] => Tree.ofParts l.parts.reverse
  | branches => .alternation (Tree.ofParts l.parts.reverse :: branches).reverse

/-- A group that encloses the one being read. -/
structure Outer where
  /-- What stands in it before that group. -/
  level : Level
  /-- The kind of that group. -/
  kind : GroupKind
  /-- Whether blanks were skipped before it. -/
  skips : Bool

/-- Repeat the last part of a level. -/
def Level.repeatLast (l : Level) (lo : Nat) (hi : Option Nat) : Except Fault Level :=
  match l.parts with
  | [] | .empty :: _ | .flags _ :: _ => .error .repetitionMissing
  | part :: parts => .ok { l with parts := .times lo hi part :: parts }

/-- What is left after a sign of repetition: a question mark after it changes nothing that can be
told from whether a text matches. -/
def afterSign : List Char → List Char
  | '?' :: rest => rest
  | rest => rest

/-- Read the rest of a pattern. `x` tells that blanks are skipped, `names` holds the names of groups
so far. -/
def readFrom : Nat → Bool → List String → Level → List Outer → List Char → Except Fault Tree
  | 0, _, _, _, _, _ => .error .groupUnclosed
  | fuel + 1, x, names, level, outer, s =>
    match skip x s with
    | [] => if outer.isEmpty then .ok level.tree else .error .groupUnclosed
    | '(' :: rest => do
      match ← readOpening names (skip x rest) with
      | (.changes changes, rest) =>
        readFrom fuel ((changes.state? .skipBlanks).getD x) names (level.push (.flags changes)) outer
          rest
      | (.group kind name, rest) =>
        let inside := match kind with
          | .scoped changes => (changes.state? .skipBlanks).getD x
          | .capture => x
        readFrom fuel inside (name.toList ++ names) .fresh (⟨level, kind, x⟩ :: outer) rest
    | ')' :: rest =>
      match outer with
      | [] => .error .groupUnopened
      | o :: outer => readFrom fuel o.skips names (o.level.push (.group o.kind level.tree)) outer rest
    | '|' :: rest => readFrom fuel x names level.branch outer rest
    | '[' :: rest => do
      let (set, rest) ← readClass x rest
      readFrom fuel x names (level.push set) outer rest
    | '?' :: rest => do
      readFrom fuel x names (← level.repeatLast 0 (some 1)) outer (afterSign rest)
    | '*' :: rest => do
      readFrom fuel x names (← level.repeatLast 0 none) outer (afterSign rest)
    | '+' :: rest => do
      readFrom fuel x names (← level.repeatLast 1 none) outer (afterSign rest)
    | '{' :: rest => do
      let _ ← level.repeatLast 0 none
      let ((lo, hi), rest) ← readCounts x rest
      readFrom fuel x names (← level.repeatLast lo hi) outer rest
    | '\\' :: rest => do
      let (t, rest) ← readEscape x rest
      readFrom fuel x names (level.push t) outer rest
    | '.' :: rest => readFrom fuel x names (level.push .dot) outer rest
    | '^' :: rest => readFrom fuel x names (level.push (.anchor .lineStart)) outer rest
    | '$' :: rest => readFrom fuel x names (level.push (.anchor .lineEnd)) outer rest
    | c :: rest => readFrom fuel x names (level.push (.literal ⟨c, false⟩)) outer rest

/-- Read a pattern. -/
def Tree.read (pattern : List Char) : Except Fault Tree := do
  let tree ← readFrom (pattern.length + 1) false [] .fresh [] pattern
  if maxDepth < tree.depth then throw (.nestingTooDeep maxDepth)
  return tree

end RouterShell.Pattern
