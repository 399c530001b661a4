import RouterShell.CommandLine
import RouterShell.Config.File
import RouterShell.Loop

/-!
# What the program does

The program answers its arguments: it lists the commands, prints the settings, or runs the loop on its
input.

## The model

Everything that the program reads is given: the host, its name, and the input. What it does is a
`Transcript`: what it writes, what happens in the network and to other programs, and the code with
which it ends.
-/

namespace RouterShell

/-- What the program does. -/
structure Transcript where
  /-- What is written to standard output. -/
  output : List UInt8
  /-- What is written to standard error. -/
  errors : List UInt8
  /-- What happened, in order. -/
  trace : List Event
  /-- The code with which the program ends. -/
  code : Nat

namespace Host

/-- The shell of a host under some settings. -/
def shell (h : Host) (config : Config) : Except ShellError Shell :=
  Shell.build config (.discover config.tools h.disk h.vars) (.load h.disk) h.disk h.launcher

/-- The network of a host; a tool that was not found is tried by its name. -/
def network (h : Host) (tools : Toolbox) : Network where
  source := .tools ((tools.path? "ip").getD "ip") ((tools.path? "bridge").getD "bridge") h.reply
  active? := none

end Host

namespace Transcript

/-- Nothing but a text on standard output. -/
def saying (text : String) : Transcript := ⟨Text.encode text, [], [], 0⟩

/-- Nothing but a text on standard error, and a code of failure. -/
def failing (code : Nat) (text : String) : Transcript := ⟨[], Text.encode text, [], code⟩

/-- What is said when the program cannot go on. -/
def failure (context : String) (e : ShellError) : Transcript :=
  failing 1 s!"Error: {context}\n\nCaused by:\n    {e.message}\n"

end Transcript

/-- The version of the program. -/
def version : String := "0.1.0"

/-- How the program is used. -/
def usage : String :=
  joinLines [
    "usage: rosh [-c FILE] [-v | -q] [shell | commands | config]",
    "",
    "  -c, --config FILE  read the settings from a file",
    "  -v, --verbose      log much",
    "  -q, --quiet        log little",
    "  -h, --help         show this help",
    "  -V, --version      show the version",
    ""]

/-- Do what is asked for under some settings. -/
def Host.perform (h : Host) (hostName : String) (input : List Char) (config : Config)
    (subcommand : CommandLine.Subcommand) : Transcript :=
  match subcommand with
  | .config =>
    match config.write with
    | .ok text => .saying text
    | .error e => .failing 1 s!"Error: {e.message}\n"
  | .commands =>
    match h.shell config with
    | .ok s => .saying (((s.listing.rendered).map (· ++ "\n")).getD "")
    | .error e => .failure "failed to build the command tree" e
  | .shell =>
    match h.shell config with
    | .ok s =>
      let l := Loop.run s h hostName (h.network s.tools) input
      ⟨l.output, l.errors, l.world.trace, 0⟩
    | .error e => .failure "failed to build the command tree" e

/-- What the program does on a host with some arguments and some input. -/
def Host.answer (h : Host) (hostName : String) (args : List String) (input : List Char) :
    Transcript :=
  match CommandLine.read args with
  | .misuse => .failing 2 usage
  | .help => .saying usage
  | .version => .saying s!"rosh {version}\n"
  | .run options subcommand =>
    match Config.load h.disk h.vars options.config with
    | .error e => .failure "failed to load configuration" e
    | .ok config => h.perform hostName input config subcommand

end RouterShell
