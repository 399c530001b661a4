import RouterShell.Command.Action

/-!
# Commands that hand their arguments to a tool
-/

namespace RouterShell

/-- A tool that is a command of its own. -/
structure ToolCommand where
  /-- The tool, which is also the word of the command. -/
  tool : String
  /-- What help says about it. -/
  description : String
  /-- Words that are proposed for the first argument. -/
  words : List String
  /-- The arguments in front of the typed ones. -/
  leading : Config → List String

namespace ToolCommand

/-- A tool without words to propose and without arguments of its own. -/
def plain (tool description : String) : ToolCommand :=
  ⟨tool, description, [], fun _ => []⟩

/-- The subcommands of `lbu`. -/
def lbuWords : List String :=
  ["commit", "ci", "diff", "exclude", "include", "list", "ls", "list-backup", "lb", "package",
    "pkg", "revert", "status", "st"]

/-- The subcommands of `ifstatecli`. -/
def ifstatecliWords : List String := ["apply", "check", "shell", "show", "showall"]

/-- All tools that are commands of their own. -/
def all : List ToolCommand := [
  plain "ping" "send ICMP echo requests",
  plain "traceroute" "trace the route to a host",
  plain "mtr" "trace and ping a host continuously",
  plain "ssh" "open an ssh session",
  plain "telnet" "open a telnet session",
  plain "tcpdump" "capture packets",
  plain "shell" "start a system shell",
  ⟨"lbu", "run lbu command", lbuWords, fun _ => []⟩,
  ⟨"ifstatecli", "run ifstatecli command", ifstatecliWords, fun config => config.ifstate.args⟩]

/-- The command of a tool: any arguments are handed over as they are. -/
def command (t : ToolCommand) : Command :=
  .simple t.description 0 none (.suggesting t.words) fun env inv =>
    env.runTool t.tool (t.leading env.config ++ inv.args)

end ToolCommand

end RouterShell
