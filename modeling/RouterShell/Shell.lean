import RouterShell.Command.Builtin

/-!
# The shell

One line at a time: cutting it into words, finding the command, accepting the arguments and filters,
executing the command, and filtering what it answers. While a line is being typed, the same steps up
to the execution judge it, and propose how it may go on.

## The model

`dispatch` is an action on the world. `validate` and `complete` only read the network. A verdict gives
a position in the line, counted in bytes; a fault of a word that is not typed yet makes the line
incomplete instead of invalid, and its position is the end of the line.
-/

namespace RouterShell

/-- A shell: its commands and filters, and what commands have at hand. -/
structure Shell where
  /-- The commands. -/
  commands : CommandTree Command
  /-- The filters. -/
  filters : FilterTable
  /-- The settings. -/
  config : Config
  /-- The tools. -/
  tools : Toolbox
  /-- The files of the host. -/
  disk : Disk
  /-- What starts programs. -/
  launcher : Launcher

/-- A judgement on a line. -/
inductive Verdict where
  /-- The line can be executed. -/
  | valid
  /-- Something is missing at the end of the line. -/
  | incomplete (position : Nat) (message : String)
  /-- Something is wrong. -/
  | invalid (position : Nat) (message : String)
  deriving DecidableEq, Repr

namespace Verdict

/-- Whether the line can be executed. -/
def isValid : Verdict → Bool
  | .valid => true
  | _ => false

/-- Where the line is at fault. -/
def position? : Verdict → Option Nat
  | .valid => none
  | .incomplete position _ => some position
  | .invalid position _ => some position

/-- What is said about the fault. -/
def message? : Verdict → Option String
  | .valid => none
  | .incomplete _ message => some message
  | .invalid _ message => some message

end Verdict

namespace Shell

/-- A shell with the commands that its tools provide. -/
def build (config : Config) (tools : Toolbox) (lookups : Lookups) (disk : Disk)
    (launcher : Launcher) : Except ShellError Shell :=
  match registerAll (builtinCommands tools lookups) with
  | .ok commands => .ok { commands, filters := .builtin, config, tools, disk, launcher }
  | .error fault => .error (.registry fault)

/-- All commands and filters with their descriptions. -/
def listing (s : Shell) : Output :=
  let commands := s.commands.entries.map fun (path, c) => [CommandTree.pathText path, c.description]
  let filters := s.filters.list.map fun (name, description) => ["| " ++ name, description]
  .table ["command", "description"] (commands ++ filters)

/-- What the commands of a line with the given filters have at hand. -/
def environment (s : Shell) (filters : FilterChain) : Environment where
  config := s.config
  tools := s.tools
  disk := s.disk
  launcher := s.launcher
  listing := s.listing
  filters := filters

/-! ### Executing a line -/

/-- Find the command that the words of a line select. -/
def select (s : Shell) (words : List String) :
    Except ShellError (Command × List String × List String) :=
  let r := s.commands.resolve words
  match r.command? with
  | some c => .ok (c, r.path, r.remaining)
  | none =>
    if r.isIncomplete words.length then .error .incompleteCommand
    else .error (.unknownCommand (words[r.depth - 1]?.getD ""))

/-- Find the command of a line that is cut into words, and accept its arguments and filters. -/
def prepare (s : Shell) (line : Pipeline) : Action (Command × Invocation × FilterChain) := do
  if line.command.isEmpty then throw (.badSyntax .missingCommand)
  let (c, path, args) ← Action.ofExcept id (s.select line.command)
  let parsed ← Action.ofExcept id (← Action.ask fun net => c.validate net args)
  let chain ← Action.ofExcept .filter (s.filters.buildChain line.segments)
  return (c, ⟨path, args, parsed⟩, chain)

/-- Execute a command, and filter what it answers. -/
def carryOut (s : Shell) (c : Command) (inv : Invocation) (chain : FilterChain) :
    Action Output := do
  Action.note [.executed inv chain.filters.length]
  let output ← c.execute (s.environment chain) inv
  return chain.apply output

/-- Execute the command of a line that is cut into words. -/
def perform (s : Shell) (line : Pipeline) : Action Output := do
  let (c, inv, chain) ← s.prepare line
  s.carryOut c inv chain

/-- Execute a line. A line without words does nothing. -/
def dispatch (s : Shell) (line : List Char) : Action Output := do
  let tokens ← Action.ofExcept .badSyntax (Line.tokenize line)
  if tokens.isEmpty then return .none
  s.perform (.ofTokens tokens)

/-- Make all commands give up what they hold. -/
def shutdown (s : Shell) : Action Unit :=
  s.commands.entries.forM fun (path, c) => do
    Action.note [.released path]
    c.shutdown

/-! ### Judging a line -/

/-- The verdict on a fault of the token with an index. -/
def anchored (line : List Char) (tokens : List Token) (index : Nat) (message : String) : Verdict :=
  match tokens[index]? with
  | some t => .invalid t.start message
  | none => .incomplete (Text.byteLength line) message

/-- The start of the token with an index, or the end of the line. -/
def startOf (line : List Char) (tokens : List Token) (index : Nat) : Nat :=
  (tokens[index]?.map Token.start).getD (Text.byteLength line)

/-- The verdict on the segments of a line. -/
def judgeSegments (s : Shell) (line : List Char) (tokens : List Token) : List Segment → Verdict
  | [] => .valid
  | seg :: rest =>
    if seg.words.isEmpty && rest.isEmpty then .incomplete (Text.byteLength line) "missing filter"
    else match s.filters.instantiate seg.words with
      | .ok _ => judgeSegments s line tokens rest
      | .error (.unknown _) => .invalid (startOf line tokens seg.offset) "unknown filter"
      | .error fault => anchored line tokens (seg.offset + fault.column) fault.message

/-- The verdict on a line that is cut into words. -/
def judge (s : Shell) (net : Network) (line : List Char) (tokens : List Token) : Logged Verdict := do
  let pipeline := Pipeline.ofTokens tokens
  let words := pipeline.command
  let r := s.commands.resolve words
  match r.command? with
  | none =>
    return if words.isEmpty then .invalid (startOf line tokens 0) "missing command"
      else if r.isIncomplete words.length then
        .incomplete (Text.byteLength line) "incomplete command"
      else .invalid (startOf line tokens (r.depth - 1)) "unknown command"
  | some c =>
    match ← c.validate net r.remaining with
    | .error e => return anchored line tokens (r.depth + e.column?.getD 0) e.message
    | .ok _ => return s.judgeSegments line tokens pipeline.segments

/-- The verdict on a line. -/
def validate (s : Shell) (net : Network) (line : List Char) : Logged Verdict :=
  let scan := Line.scan line
  match scan.fault with
  | some fault => pure (.invalid (Text.byteLength line) fault.message)
  | none => if scan.tokens.isEmpty then pure .valid else s.judge net line scan.tokens

/-! ### Completing a line -/

/-- The proposals of a level for the text before the cursor: words of the level, or what the command
that the first word selects proposes. Every turn passes a word, so the length of the text bounds the
turns. -/
def wordCandidates (net : Network) : Nat → List (String × Node Command) → List Char →
    Logged (List Candidate)
  | 0, _, _ => pure []
  | fuel + 1, level, text =>
    match Text.cutAtBlank text with
    | none => pure (Complete.words text (SortedMap.keys level))
    | some (word, rest) =>
      match abbreviate level (String.ofList word) with
      | none => pure []
      | some (_, .branch children) => wordCandidates net fuel children (Text.trimStart rest)
      | some (_, .leaf c) => c.completer.candidates net (Text.trimStart rest)

/-- The proposals of the commands for a text that ends at the cursor. -/
def commandCandidates (s : Shell) (net : Network) (text : List Char) : Logged (List Candidate) :=
  wordCandidates net (text.length + 1) s.commands.root (Text.trimStart text)

/-- The proposals of the filters for the text of a segment. Patterns are free. -/
def filterCandidates (t : FilterTable) (text : List Char) : List Candidate :=
  let text := Text.trimStart text
  match Text.cutAtBlank text with
  | none => Complete.words text t.entries.keys
  | some _ => []

/-- The start of the last separating pipe. -/
def lastPipe? (tokens : List Token) : Option Nat :=
  (tokens.reverse.find? Token.isPipe).map Token.start

/-- The proposals for a line whose cursor stands behind `cursor` bytes: filters behind a separating
pipe, else commands. -/
def complete (s : Shell) (net : Network) (line : List Char) (cursor : Nat) :
    Logged (List Candidate) :=
  let text := Text.takeBytes cursor line
  match lastPipe? (Line.scan text).tokens with
  | some start => pure (filterCandidates s.filters (Text.dropBytes (start + 1) text))
  | none => s.commandCandidates net text

/-! ### The prompt -/

/-- The prompt: the host, the active namespace, and what the settings end it with. -/
def prompt (s : Shell) (net : Network) (host : String) : String :=
  match net.active? with
  | some ns => s!"{host}#{ns}{s.config.loop.promptSuffix}"
  | none => s!"{host}{s.config.loop.promptSuffix}"

end Shell

end RouterShell
