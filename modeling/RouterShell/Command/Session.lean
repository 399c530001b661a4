import RouterShell.Command.Action

/-!
# Commands about the session

Switching the namespace, watching changes in the background, help, and leaving the shell.

At most one monitor runs: starting another one, or asking for none, stops it first.
-/

namespace RouterShell.Session

/-- Switch the namespace; without an argument, back to the one the shell was started in. -/
def netns : Command :=
  .simple "switch network namespace" 0 (some 1) .namespaces fun _ inv => do
    Action.enter inv.args.head?
    return .none

/-- What can be watched. -/
def monitorObjects : List String :=
  ["all", "none", "address", "interface", "neigh", "netconf", "prefix", "route", "rule"]

/-- The completer of something to watch and an interface. -/
def monitorCompleter : Completer :=
  .peer (.among "monitor object" monitorObjects) .links

/-- Accept something to watch, and an interface. -/
def monitorValidate (net : Network) (args : List String) :
    Logged (Except ShellError ParsedArgs) := do
  match ← Arguments.positional monitorCompleter 1 (some 2) net args with
  | .error e => return .error e
  | .ok parsed =>
    match args[1]? with
    | none => return .ok parsed
    | some word =>
      match ← Completer.links.parse net word with
      | .ok _ => return .ok parsed
      | .error why => return .error (.argument 1 (.rejected why))

/-- The name that `ip` has for something to watch. -/
def monitorWord (object : String) : String :=
  if object = "interface" then "link" else object

/-- The arguments with which `ip` watches. -/
def monitorArgs (object : String) (dev : Option String) : List String :=
  ["-ts", "monitor", monitorWord object, "label"] ++
    match dev with
    | some dev => ["dev", dev]
    | none => []

/-- Watch changes of the network in the background. -/
def monitor : Command where
  description := "monitor for network changes"
  minArgs := 1
  maxArgs := some 2
  completer := monitorCompleter
  validate := monitorValidate
  execute env inv := do
    Action.stopMonitor
    match inv.args with
    | [] => throw (.argument 0 .missing)
    | object :: rest =>
      if object = "none" then return .none
      env.startMonitor "ip" (monitorArgs object rest.head?)
      return .none
  shutdown := Action.stopMonitor

/-- Show all commands and filters. -/
def help : Command :=
  .simple "show command help" 0 (some 0) .free fun env _ => return env.listing

/-- Leave the shell. -/
def exit : Command :=
  .bare "leave the shell" fun _ _ => return .quit

end RouterShell.Session
