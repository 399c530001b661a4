import RouterShell.Config.Settings
import RouterShell.Error

/-!
# Tools

The external programs that commands rely on, by name. A command is only offered if its tool was
found: at the path that the settings give, or in a directory of the search path.

`ip` enters a namespace by an option of its own; any other tool is started inside it by
`ip netns exec`.
-/

namespace RouterShell

/-- The paths of the tools that were found. -/
structure Toolbox where
  /-- Paths by the names of tools. -/
  paths : SortedMap String String
  deriving DecidableEq, Repr

namespace Toolbox

/-- The tools that are searched for. -/
def known : List String :=
  ["ip", "bridge", "ethtool", "ping", "traceroute", "mtr", "ssh", "telnet", "tcpdump", "lbu",
    "ifstatecli"]

/-- The toolbox of a list of names and paths. -/
def ofList (paths : List (String × String)) : Toolbox :=
  ⟨SortedMap.ofList paths⟩

/-- The path of a tool. -/
def path? (t : Toolbox) (tool : String) : Option String :=
  t.paths.find? tool

/-- Whether a tool was found. -/
def has (t : Toolbox) (tool : String) : Bool :=
  (t.path? tool).isSome

/-- The path of a tool that a command cannot do without. -/
def require (t : Toolbox) (tool : String) : Except CommandFault String :=
  match t.path? tool with
  | some path => .ok path
  | none => .error (.unavailable tool)

/-- The program that runs a tool with some arguments in a namespace. -/
def invocation (t : Toolbox) (ns : Option String) (tool : String) (args : List String) :
    Except CommandFault Run := do
  let exe ← t.require tool
  match ns with
  | none => return ⟨exe, args⟩
  | some ns =>
    if tool = "ip" then return ⟨exe, ["-n", ns] ++ args⟩
    else
      let ip ← t.require "ip"
      return ⟨ip, ["netns", "exec", ns, exe] ++ args⟩

/-! ### Finding tools -/

/-- The directories of a search path. -/
def directories (path : String) : List String :=
  let rec cut : List Char → List Char × List (List Char)
    | [] => ([], [])
    | c :: rest =>
      let (first, others) := cut rest
      if c = ':' then ([], first :: others) else (c :: first, others)
  let (first, others) := cut path.toList
  (first :: others).map String.ofList

/-- The first executable of a name on the search path. -/
def search (disk : Disk) (vars : Variables) (name : String) : Option String :=
  (vars.find? "PATH").bind fun path =>
    ((directories path).map fun dir => Path.join dir name).find? disk.isExecutable

/-- The path that the settings give for a tool. -/
def configured (settings : ToolSettings) (tool : String) : Option String :=
  if tool = "ip" then settings.ip
  else if tool = "bridge" then settings.bridge
  else if tool = "ethtool" then settings.ethtool
  else none

/-- The tools of a host, and the user's login shell as the tool `shell`. -/
def discover (settings : ToolSettings) (disk : Disk) (vars : Variables) : Toolbox :=
  let found := known.filterMap fun tool =>
    ((configured settings tool).or (search disk vars tool)).map (tool, ·)
  ofList (found ++ ((vars.nonempty? "SHELL").map ("shell", ·)).toList)

end Toolbox

end RouterShell
