import RouterShell.Abbreviation
import RouterShell.Text.Blank
import RouterShell.Unicode.Categories
import RouterShell.Unicode.Case

/-!
# The tree of commands

Commands have paths of one or several words. The tree holds a level for every leading part of a path;
a command whose path begins another one's is kept in the level below it, under the empty word
(`selfKey`).

## The model

The tree is generic in what it stores. Entering a value goes down the path and puts the changed levels
back, so a refused entry leaves no trace. Looking up a list of words goes down the tree as long as
words select entries; a word selects an entry by its name or by an unambiguous abbreviation.
-/

namespace RouterShell

/-- An entry of a level. -/
inductive Node (α : Type) where
  /-- A command. -/
  | leaf (command : α)
  /-- A further level. -/
  | branch (children : List (String × Node α))

/-- A level: entries in the order of their words. -/
abbrev Level (α : Type) := SortedMap String (Node α)

/-- The tree of commands. -/
structure CommandTree (α : Type) where
  /-- The level of first words. -/
  root : Level α

/-- The word under which a level keeps its own command. -/
def selfKey : String := ""

/-- Why a command cannot be entered. -/
inductive TreeFault where
  /-- The path has no words. -/
  | emptyPath
  /-- A word of the path is empty or has a blank in it. -/
  | invalidPath (path : List String)
  /-- There is a command of this path. -/
  | duplicate (path : List String)
  deriving DecidableEq, Repr

/-! ### Showing words -/

/-- The categories of characters that are shown by their number. -/
def hiddenCategories : List String := ["Cc", "Cf", "Cs", "Co", "Zl", "Zp", "Zs"]

/-- Whether a character is shown as it is. -/
def isShown (c : Char) : Bool :=
  if c.toNat < 0x7F then 0x20 ≤ c.toNat
  else
    let sets := Unicode.categoryRuns.map fun e => (e.1, CharSet.ofRuns e.2)
    sets.any (fun e => e.2.contains c) &&
      !(sets.any fun e => hiddenCategories.contains e.1 && e.2.contains c) &&
      !(Unicode.property "Grapheme_Extend").contains c

/-- A character of a shown word. -/
def showChar (c : Char) : List Char :=
  if c = '"' then ['\\', '"']
  else if c = '\\' then ['\\', '\\']
  else if c = '\t' then ['\\', 't']
  else if c = '\n' then ['\\', 'n']
  else if c = '\r' then ['\\', 'r']
  else if c = '\x00' then ['\\', '0']
  else if isShown c then [c]
  else "\\u\x7b".toList ++ Nat.toDigits 16 c.toNat ++ ['\x7d']

/-- A word between double quotes, with everything that could be misread written out. -/
def showWord (word : String) : String :=
  String.ofList ('"' :: (word.toList.flatMap showChar ++ ['"']))

/-- Words in brackets. -/
def showWords (words : List String) : String :=
  "[" ++ ", ".intercalate (words.map showWord) ++ "]"

/-- The wording of a fault. -/
def TreeFault.message : TreeFault → String
  | .emptyPath => "empty command path"
  | .invalidPath path => s!"invalid command path: {showWords path}"
  | .duplicate path => "duplicate command: " ++ " ".intercalate path

namespace Node

variable {α : Type}

/-- The command of an entry that is no level. -/
def command? : Node α → Option α
  | .leaf a => some a
  | .branch _ => none

/-- The level that a longer path goes through: a command in the way becomes the level's own. -/
def level : Option (Node α) → Level α
  | none => []
  | some (.leaf a) => [(selfKey, .leaf a)]
  | some (.branch children) => children

end Node

namespace CommandTree

variable {α : Type}

/-- The tree without commands. -/
def empty : CommandTree α := ⟨[]⟩

/-! ### Entering commands -/

/-- Enter a command under one word; none if the place is taken. -/
def insertLast (word : String) (a : α) (m : Level α) : Option (Level α) :=
  match m.find? word with
  | none => some (SortedMap.insert word (.leaf a) m)
  | some (.leaf _) => none
  | some (.branch children) =>
    if SortedMap.has children selfKey then none
    else some (SortedMap.insert word (.branch (SortedMap.insert selfKey (.leaf a) children)) m)

/-- Enter a command under the words `word :: rest`; none if the place is taken. -/
def insertPath (a : α) (word : String) : List String → Level α → Option (Level α)
  | [], m => insertLast word a m
  | next :: rest, m => do
    let children ← insertPath a next rest (Node.level (m.find? word))
    return SortedMap.insert word (.branch children) m

/-- Whether a word can stand in a path. -/
def isWord (word : String) : Bool :=
  word != "" && !word.toList.any Text.isBlank

/-- Enter a command under a path. -/
def register (t : CommandTree α) (path : List String) (a : α) : Except TreeFault (CommandTree α) :=
  match path with
  | [] => .error .emptyPath
  | word :: rest =>
    if !path.all isWord then .error (.invalidPath path)
    else match insertPath a word rest t.root with
      | some root => .ok ⟨root⟩
      | none => .error (.duplicate path)

/-! ### Looking up words -/

/-- How far a list of words led. -/
structure Resolution (α : Type) where
  /-- The number of words used up; after a failure, the position of the word that selected nothing,
  counted from 1, also if that word is missing. -/
  depth : Nat
  /-- The command reached. -/
  command? : Option α
  /-- The names of the entries selected so far. -/
  path : List String
  /-- The words left for the command. -/
  remaining : List String

/-- More words were needed than there are. -/
def Resolution.isIncomplete (r : Resolution α) (count : Nat) : Bool :=
  r.command?.isNone && count < r.depth

/-- Go down from a level; `depth` words are used up and selected `path` (latest first). -/
def resolveFrom (depth : Nat) (path : List String) (m : Level α) : List String → Resolution α
  | [] =>
    match (m.find? selfKey).bind Node.command? with
    | some a => ⟨depth, some a, path.reverse, []⟩
    | none => ⟨depth + 1, none, path.reverse, []⟩
  | word :: rest =>
    match abbreviate m word with
    | none => ⟨depth + 1, none, path.reverse, []⟩
    | some (name, .leaf a) => ⟨depth + 1, some a, (name :: path).reverse, rest⟩
    | some (name, .branch children) => resolveFrom (depth + 1) (name :: path) children rest

/-- The command that a list of words selects, and the words after it. -/
def resolve (t : CommandTree α) (words : List String) : Resolution α :=
  if words.isEmpty then ⟨0, none, [], []⟩ else resolveFrom 0 [] t.root words

/-! ### Listing -/

mutual

/-- The commands of an entry with their paths; `path` leads to it. -/
def nodeEntries (path : List String) : Node α → List (List String × α)
  | .leaf a => [(path, a)]
  | .branch children => levelEntries path children

/-- The commands of a level with their paths. -/
def levelEntries (path : List String) : List (String × Node α) → List (List String × α)
  | [] => []
  | (word, node) :: rest =>
    nodeEntries (if word = selfKey then path else path ++ [word]) node ++ levelEntries path rest

end

/-- All commands with their paths, in order. -/
def entries (t : CommandTree α) : List (List String × α) :=
  levelEntries [] t.root

/-- The written form of a path. -/
def pathText (path : List String) : String :=
  " ".intercalate path

end CommandTree

end RouterShell
