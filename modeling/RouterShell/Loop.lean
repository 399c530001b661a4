import RouterShell.Host.Launch
import RouterShell.Shell
import RouterShell.Unicode.Grapheme

/-!
# The loop

The loop judges and executes the lines of its input one by one, until the shell is left or the input
ends. What a line answers is written to standard output, what it fails with to standard error.

## The model

A line that is judged faulty is not executed. Its text stays, and the next line continues it.
Programs in the foreground write between the lines for themselves.
-/

namespace RouterShell

/-- What the loop carries from line to line. -/
structure Loop where
  /-- The world. -/
  world : World
  /-- Text of faulty lines, which the next line continues. -/
  kept : List Char
  /-- What is written to standard output so far. -/
  output : List UInt8
  /-- What is written to standard error so far. -/
  errors : List UInt8

namespace Loop

/-- The loop before the first line. -/
def start (network : Network) : Loop := ⟨.start network, [], [], []⟩

/-- Write a text to standard output. -/
def say (l : Loop) (text : String) : Loop :=
  { l with output := l.output ++ Text.encode text }

/-- Write a text to standard error. -/
def complain (l : Loop) (text : String) : Loop :=
  { l with errors := l.errors ++ Text.encode text }

/-- Write what an event brings to the user: programs in the foreground speak for themselves. -/
def report (h : Host) (l : Loop) : Event → Loop
  | .launched run =>
    match h.start run with
    | .ok p => { l with output := l.output ++ p.output, errors := l.errors ++ p.errors }
    | .error _ => l
  | .printed line => l.say (line ++ "\n")
  | _ => l

/-- Go over to another world, and write what has happened on the way. -/
def move (h : Host) (l : Loop) (world : World) : Loop :=
  (world.trace.drop l.world.trace.length).foldl (report h) { l with world := world }

/-- Remember programs that were run to answer questions. -/
def noteAsked (l : Loop) (runs : List Run) : Loop :=
  { l with world := { l.world with trace := l.world.trace ++ runs.map Event.asked } }

/-- A text after its backspaces: each takes the character before it away. -/
def applyBackspaces (text : List Char) : List Char :=
  let step (kept : List (List Char)) (cluster : List Char) : List (List Char) :=
    if cluster = ['\x08'] then kept.drop 1 else cluster :: kept
  if text.contains '\x08' then ((Unicode.clusters text).foldl step []).reverse.flatten else text

/-- What is said about a fault: a mark under its column, and the message. -/
def faultNote (column : Nat) (message : String) : String :=
  String.ofList ('\n' :: (List.replicate column ' ' ++ "^ ".toList)) ++ message

/-- Execute a line. Answers whether the loop goes on. -/
def execute (s : Shell) (h : Host) (l : Loop) (line : List Char) : Loop × Bool :=
  let (result, world) := (s.dispatch line).run.run l.world
  let l := l.move h world
  match result with
  | .ok .quit => (l, false)
  | .ok output =>
    match output.rendered with
    | some text => (l.say (text ++ "\n"), true)
    | none => (l, true)
  | .error e => (l.complain s!"ERR: {e.message}\n", true)

/-- Take a line from the input. Answers whether the loop goes on. -/
def step (s : Shell) (h : Host) (hostName : String) (l : Loop) (line : List Char) : Loop × Bool :=
  let text := applyBackspaces (l.kept ++ line)
  let judged := s.validate l.world.network text
  let l := l.noteAsked judged.runs
  match judged.value.position?, judged.value.message? with
  | some position, some message =>
    let width := (s.prompt l.world.network hostName).length
    let column := width + (Text.takeBytes position text).length
    ({ l with kept := text }.complain (faultNote column message), true)
  | _, _ =>
    let l := { l with kept := [] }
    if text.all Text.isBlank then (l, true) else l.execute s h text

/-- Take the lines of the input until the shell is left or the input ends. -/
def runLines (s : Shell) (h : Host) (hostName : String) (l : Loop) : List (List Char) → Loop
  | [] => l
  | line :: rest =>
    let (l, goesOn) := l.step s h hostName line
    if goesOn then runLines s h hostName l rest else l

/-- Run the loop on an input, and leave the shell. -/
def run (s : Shell) (h : Host) (hostName : String) (network : Network) (input : List Char) : Loop :=
  let l := (start network).runLines s h hostName (Text.lines input)
  l.move h (s.shutdown.run.run l.world).2

end Loop

end RouterShell
