import RouterShell.Command.Action
import RouterShell.Text.Lines

/-!
# Starting programs on a host

A host has files, environment variables, and programs that do something when they are run. Its
launcher runs a program in the foreground until it ends, or in the background while its lines are
read.

A program in the foreground that is still running some time after an interrupt is killed. The sign of
an interrupt is taken back when a program is started, and when it ends.

## The model

What a program does is known beforehand: what it writes, how it ends, and how long that takes. Lines
of a program in the background are read up to the first one that is no text.
-/

namespace RouterShell

/-- What a program does. -/
structure Program where
  /-- What it writes to standard output. -/
  output : List UInt8
  /-- What it writes to standard error. -/
  errors : List UInt8
  /-- How it ends, which may depend on its environment. -/
  ending : Variables → Ending
  /-- How long it runs, in milliseconds. -/
  duration : Nat

/-- A host. -/
structure Host where
  /-- Its files. -/
  disk : Disk
  /-- The environment variables of the shell. -/
  vars : Variables
  /-- What the executables do; each is known by its path. -/
  programs : Run → Program

namespace Host

/-! ### Finding executables -/

/-- Why the file at a path cannot be executed, if it cannot. -/
def executeError? (disk : Disk) (path : String) : Option OsError :=
  match disk.look path with
  | .error e => some e
  | .ok _ => if disk.isExecutable path then none else some .permissionDenied

/-- Try files in order: the first one that can be executed is taken; that one was forbidden counts
more than that one was missing. -/
def firstExecutable (disk : Disk) (forbidden : Bool) : List String → Except OsError String
  | [] => .error (if forbidden then .permissionDenied else .notFound)
  | path :: rest =>
    match executeError? disk path with
    | none => .ok path
    | some .permissionDenied => firstExecutable disk true rest
    | some _ => firstExecutable disk forbidden rest

/-- The file that a name of an executable stands for: a name without slashes is searched for. -/
def locate (h : Host) (exe : String) : Except OsError String :=
  if exe.toList.contains '/' then
    match executeError? h.disk exe with
    | none => .ok exe
    | some e => .error e
  else if exe = "" then .error .notFound
  else
    let path := (h.vars.find? "PATH").getD ""
    firstExecutable h.disk false ((Toolbox.directories path).map fun dir => Path.join dir exe)

/-- Whether a text can be handed over to a program. -/
def isPassable (text : String) : Bool := !text.toList.contains '\x00'

/-- The program that a run starts. -/
def start (h : Host) (run : Run) : Except OsError Program :=
  if !(isPassable run.exe && run.args.all isPassable) then .error .nulByte
  else match h.locate run.exe with
    | .ok path => .ok (h.programs ⟨path, run.args⟩)
    | .error e => .error e

/-- What a run leaves behind. -/
def reply (h : Host) (run : Run) : Except OsError Reply :=
  (h.start run).map fun p => ⟨p.output, p.errors, p.ending h.vars⟩

/-! ### The foreground -/

/-- The time that a program has to end after an interrupt, in milliseconds. -/
def grace : Nat := 500

/-- How a program ends in an environment; `interrupt` is the time of an interrupt, counted from its
start. -/
def endingOf (p : Program) (vars : Variables) (interrupt : Option Nat) : Ending :=
  match interrupt with
  | some at' => if at' + grace < p.duration then .killed else p.ending vars
  | none => p.ending vars

/-- Run a program in the foreground, with further variables in its environment. -/
def spawn (h : Host) (run : Run) (extra : List (String × String)) (interrupt : Option Nat) :
    Except LaunchFault Int :=
  match h.start run with
  | .error e => .error (.cannotRun run.exe e)
  | .ok p =>
    let vars := extra.foldl (fun vars e => SortedMap.insert e.1 e.2 vars) h.vars
    .ok (endingOf p vars interrupt).code

/-! ### The background -/

/-- The lines of a program in the background. -/
def stream (h : Host) (run : Run) : Except LaunchFault (List String) :=
  match h.start run with
  | .error e => .error (.cannotRun run.exe e)
  | .ok p => .ok (Text.textLines p.output)

/-- The launcher of a host. -/
def launcher (h : Host) : Launcher where
  run run := h.spawn run [] none
  stream := h.stream

end Host

/-! ### Interrupts -/

/-- The sign of an interrupt, which stays raised until it is taken. -/
structure CancelToken where
  /-- Whether it is raised. -/
  raised : Bool
  deriving DecidableEq, Repr

namespace CancelToken

/-- The sign before any interrupt. -/
def fresh : CancelToken := ⟨false⟩

/-- Raise the sign. -/
def cancel (_ : CancelToken) : CancelToken := ⟨true⟩

/-- Take the sign back; answers whether it was raised. -/
def take (t : CancelToken) : Bool × CancelToken := (t.raised, ⟨false⟩)

end CancelToken

end RouterShell
