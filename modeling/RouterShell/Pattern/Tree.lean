import RouterShell.Pattern.Fault

/-!
# Patterns as written

The parts of a pattern and how they nest. What they mean depends on the flags in force and is
decided later; here only the depth of nesting is measured.
-/

namespace RouterShell.Pattern

/-- Settings that a pattern can change for a part of itself. -/
inductive Flag where
  /-- Upper and lower case are the same: `i`. -/
  | ignoreCase
  /-- Both `^` and `$` hold at every line: `m`. -/
  | multiLine
  /-- A dot matches the end of a line too: `s`. -/
  | dotAll
  /-- Repetitions prefer to be short: `U`. -/
  | swapGreed
  /-- Classes and boundaries follow Unicode: `u`. -/
  | unicode
  /-- A carriage return ends a line too: `R`. -/
  | crlf
  /-- Blanks and comments are skipped: `x`. -/
  | skipBlanks
  deriving DecidableEq, Repr

/-- The flag of a letter. -/
def Flag.ofChar? : Char → Option Flag
  | 'i' => some .ignoreCase
  | 'm' => some .multiLine
  | 's' => some .dotAll
  | 'U' => some .swapGreed
  | 'u' => some .unicode
  | 'R' => some .crlf
  | 'x' => some .skipBlanks
  | _ => none

/-- Flags that are switched on or off together. -/
abbrev FlagChanges := List (Flag × Bool)

/-- What the changes do to one flag, if anything. -/
def FlagChanges.state? (changes : FlagChanges) (f : Flag) : Option Bool :=
  (changes.find? (fun e => e.1 == f)).map Prod.snd

/-- Conditions on a place between characters. -/
inductive Anchor where
  /-- The text starts here, or a line where lines count: `^`. -/
  | lineStart
  /-- The text ends here, or a line where lines count: `$`. -/
  | lineEnd
  /-- The text starts here: `\A`. -/
  | textStart
  /-- The text ends here: `\z`. -/
  | textEnd
  /-- A word starts or ends here: `\b`. -/
  | boundary
  /-- No word starts or ends here: `\B`. -/
  | notBoundary
  /-- A word starts here. -/
  | wordStart
  /-- A word ends here. -/
  | wordEnd
  /-- There is no word right before. -/
  | wordStartHalf
  /-- There is no word right after. -/
  | wordEndHalf
  deriving DecidableEq, Repr

/-- A character that stands for itself. -/
structure Literal where
  /-- The character. -/
  char : Char
  /-- Whether it is written as a byte of two hexadecimal digits. -/
  byte : Bool
  deriving DecidableEq, Repr

/-- The three classes with a letter of their own. -/
inductive LetterClass where
  /-- Digits: `\d`. -/
  | digit
  /-- Blanks: `\s`. -/
  | space
  /-- The characters of words: `\w`. -/
  | word
  deriving DecidableEq, Repr

/-- How a property of characters is named. -/
inductive PropertyRef where
  /-- By a name that also may be a category or a script. -/
  | named (name : String)
  /-- By a property and its value. -/
  | valued (name value : String)
  deriving DecidableEq, Repr

/-- The operations between sets in a class. -/
inductive SetOp where
  /-- What is in both: `&&`. -/
  | inter
  /-- What is in the first alone: `--`. -/
  | diff
  /-- What is in one of them alone: `~~`. -/
  | symmDiff
  deriving DecidableEq, Repr

/-- What stands between the brackets of a class. -/
inductive ClassTree where
  /-- One character. -/
  | literal (l : Literal)
  /-- The characters between two. -/
  | range (first last : Literal)
  /-- A class of ASCII with a name. -/
  | ascii (negated : Bool) (name : String)
  /-- A class with a letter. -/
  | letter (negated : Bool) (kind : LetterClass)
  /-- A property. -/
  | property (negated : Bool) (ref : PropertyRef)
  /-- A class in brackets of its own. -/
  | nested (negated : Bool) (set : ClassTree)
  /-- Several items side by side. -/
  | union (items : List ClassTree)
  /-- Two sets with an operation between them. -/
  | combined (op : SetOp) (left right : ClassTree)
  deriving Repr

/-- Items side by side; a single one stands for itself. -/
def ClassTree.ofItems : List ClassTree → ClassTree
  | [item] => item
  | items => .union items

/-- The kinds of groups. -/
inductive GroupKind where
  /-- The group counts among the captures. -/
  | capture
  /-- The group only holds its parts together, under changed flags. -/
  | scoped (changes : FlagChanges)
  deriving Repr

/-- A pattern as written. -/
inductive Tree where
  /-- Nothing. -/
  | empty
  /-- Flags for the rest of the group. -/
  | flags (changes : FlagChanges)
  /-- One character. -/
  | literal (l : Literal)
  /-- A dot. -/
  | dot
  /-- A condition on a place. -/
  | anchor (a : Anchor)
  /-- A class with a letter. -/
  | letter (negated : Bool) (kind : LetterClass)
  /-- A property. -/
  | property (negated : Bool) (ref : PropertyRef)
  /-- A class in brackets. -/
  | bracket (negated : Bool) (set : ClassTree)
  /-- A repetition with its smallest and largest count. -/
  | times (min : Nat) (max : Option Nat) (body : Tree)
  /-- A group. -/
  | group (kind : GroupKind) (body : Tree)
  /-- Parts one after the other. -/
  | concat (parts : List Tree)
  /-- Parts of which one matches. -/
  | alternation (parts : List Tree)
  deriving Repr

/-- Parts one after the other; none or one need no list. -/
def Tree.ofParts : List Tree → Tree
  | [] => .empty
  | [part] => part
  | parts => .concat parts

/-! ### Nesting -/

mutual

/-- How deeply the parts of a class nest. -/
def ClassTree.depth : ClassTree → Nat
  | .nested _ set => set.depth + 1
  | .union [] => 0
  | .union (item :: items) => max item.depth (ClassTree.depths items) + 1
  | .combined _ left right => max left.depth right.depth + 1
  | _ => 0

/-- The greatest depth of several parts. -/
def ClassTree.depths : List ClassTree → Nat
  | [] => 0
  | item :: items => max item.depth (ClassTree.depths items)

end

mutual

/-- How deeply the parts of a pattern nest. -/
def Tree.depth : Tree → Nat
  | .bracket _ set => set.depth + 1
  | .times _ _ body => body.depth + 1
  | .group _ body => body.depth + 1
  | .concat parts => Tree.depths parts + 1
  | .alternation parts => Tree.depths parts + 1
  | _ => 0

/-- The greatest depth of several parts. -/
def Tree.depths : List Tree → Nat
  | [] => 0
  | part :: parts => max part.depth (Tree.depths parts)

end

/-- The greatest depth that is accepted. -/
def maxDepth : Nat := 250

end RouterShell.Pattern
