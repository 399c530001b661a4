import RouterShell.Completion
import RouterShell.Tools

/-!
# Actions

What executing a command may do: read the network, switch the namespace, start programs in the
foreground or a monitor in the background, and print lines.

## The model

An action goes through a state, the `World`, and gives a value or an error; what it did before an
error stays done. The world remembers everything in order in its trace, so whatever is to be known
about the effects of a line can be read off the trace.

Programs are started by a `Launcher`, which says how a run ends. A monitor's lines are all known when
it starts.
-/

namespace RouterShell

/-- A command with its arguments, ready to be executed. -/
structure Invocation where
  /-- The path of the command. -/
  path : List String
  /-- The arguments as words. -/
  args : List String
  /-- Their values. -/
  parsed : ParsedArgs
  deriving DecidableEq

/-- What happened. -/
inductive Event where
  /-- A question about the network ran a program. -/
  | asked (run : Run)
  /-- A command was executed, with this many filters. -/
  | executed (inv : Invocation) (filters : Nat)
  /-- A program was to be run in the foreground. -/
  | launched (run : Run)
  /-- A program was to be run in the background. -/
  | streamed (run : Run)
  /-- A monitor was started; monitors are numbered. -/
  | started (monitor : Nat)
  /-- A monitor was stopped. -/
  | stopped (monitor : Nat)
  /-- A line was printed. -/
  | printed (line : String)
  /-- The command of a path was told to give up what it holds. -/
  | released (path : List String)
  deriving DecidableEq

/-- What starts programs. -/
structure Launcher where
  /-- The code with which a program in the foreground ends. -/
  run : Run → Except LaunchFault Int
  /-- The lines that a program in the background writes. -/
  stream : Run → Except LaunchFault (List String)

/-- The state that actions go through. -/
structure World where
  /-- The network, read in the active namespace. -/
  network : Network
  /-- The running monitor. -/
  monitor : Option Nat
  /-- The number of monitors started so far. -/
  monitors : Nat
  /-- What happened, in order. -/
  trace : List Event

/-- A world in which nothing has happened. -/
def World.start (network : Network) : World := ⟨network, none, 0, []⟩

/-- What may change the world and may fail. -/
abbrev Action := ExceptT ShellError (StateM World)

namespace Action

/-- Remember events. -/
def note (events : List Event) : Action Unit :=
  modify fun w => { w with trace := w.trace ++ events }

/-- Ask a question about the network. -/
def ask {α : Type} (question : Network → Logged α) : Action α := do
  let answer := question (← get).network
  note (answer.runs.map Event.asked)
  return answer.value

/-- Go on with a value, or fail for a reason. -/
def ofExcept {ε α : Type} (error : ε → ShellError) : Except ε α → Action α
  | .ok a => return a
  | .error e => throw (error e)

/-- Ask a question whose answer may be a failure. -/
def query {α : Type} (question : Network → Logged (Except QueryFault α)) : Action α := do
  ofExcept .query (← ask question)

/-- The active namespace. -/
def activeNamespace : Action (Option String) := do
  return (← get).network.active?

/-- Switch to another namespace. -/
def enter (ns : Option String) : Action Unit := do
  let network ← ofExcept .query ((← get).network.within ns)
  modify fun w => { w with network }

/-- Stop the running monitor, if there is one. -/
def stopMonitor : Action Unit := do
  match (← get).monitor with
  | none => return
  | some n =>
    note [.stopped n]
    modify fun w => { w with monitor := none }

end Action

/-- What a command has at hand. -/
structure Environment where
  /-- The settings. -/
  config : Config
  /-- The tools. -/
  tools : Toolbox
  /-- The files of the host. -/
  disk : Disk
  /-- What starts programs. -/
  launcher : Launcher
  /-- All commands and filters, for help. -/
  listing : Output
  /-- The filters of the line. -/
  filters : FilterChain

namespace Environment

/-- Run a tool in the foreground, in the active namespace. How it ends is its own affair: it has
spoken to the user itself. -/
def runTool (env : Environment) (tool : String) (args : List String) : Action Output := do
  let ns ← Action.activeNamespace
  let run ← Action.ofExcept .command (env.tools.invocation ns tool args)
  Action.note [.launched run]
  let _ ← Action.ofExcept .process (env.launcher.run run)
  return .none

/-- Run a tool in the background, in the active namespace, as the new monitor. Its lines are printed
if they pass the filters. -/
def startMonitor (env : Environment) (tool : String) (args : List String) : Action Unit := do
  let ns ← Action.activeNamespace
  let run ← Action.ofExcept .command (env.tools.invocation ns tool args)
  Action.note [.streamed run]
  let lines ← Action.ofExcept .process (env.launcher.stream run)
  let n := (← get).monitors
  modify fun w => { w with monitor := some n, monitors := n + 1 }
  Action.note (.started n :: (lines.filter env.filters.passesLine).map Event.printed)

end Environment

/-- A command. -/
structure Command where
  /-- What help says about it. -/
  description : String
  /-- The least number of arguments. -/
  minArgs : Nat
  /-- The greatest number of arguments. -/
  maxArgs : Option Nat
  /-- The completer of its arguments. -/
  completer : Completer
  /-- Accept arguments or not, without doing anything. -/
  validate : Network → List String → Logged (Except ShellError ParsedArgs)
  /-- Do what the command does. -/
  execute : Environment → Invocation → Action Output
  /-- Give up what the command holds, when the shell is left. -/
  shutdown : Action Unit

/-- A command whose arguments count by position, and that holds nothing. -/
def Command.simple (description : String) (minArgs : Nat) (maxArgs : Option Nat)
    (completer : Completer) (execute : Environment → Invocation → Action Output) : Command where
  description := description
  minArgs := minArgs
  maxArgs := maxArgs
  completer := completer
  validate := Arguments.positional completer minArgs maxArgs
  execute := execute
  shutdown := pure ()

/-- A command that takes no arguments at all. -/
def Command.bare (description : String) (execute : Environment → Invocation → Action Output) :
    Command where
  description := description
  minArgs := 0
  maxArgs := none
  completer := .free
  validate _ args := pure <|
    if args.isEmpty then .ok .empty else .error (.argument 0 .noneAllowed)
  execute := execute
  shutdown := pure ()

end RouterShell
