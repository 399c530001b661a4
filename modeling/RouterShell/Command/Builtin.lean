import RouterShell.Command.Interface
import RouterShell.Command.Session
import RouterShell.Command.Show
import RouterShell.Command.Tool

/-!
# The commands of the shell

Which commands there are depends on the tools that were found. Their paths are distinct and well
formed, so entering them never fails.
-/

namespace RouterShell

/-- A command if a condition holds. -/
def provided (condition : Bool) (entries : List (List String × Command)) :
    List (List String × Command) :=
  if condition then entries else []

/-- The commands that show the state of the network in one family. -/
def familyCommands (lookups : Lookups) (word : String) (family : Family) :
    List (List String × Command) := [
  (["show", word, "address"], Show.address family),
  (["show", word, "neighbour"], Show.neighbour family),
  (["show", word, "rule"], Show.rule family),
  (["show", word, "route"], Show.route lookups family)]

/-- All commands with their paths, as far as there are tools for them. -/
def builtinCommands (tools : Toolbox) (lookups : Lookups) : List (List String × Command) :=
  [(["show", "interface"], Show.interface (tools.has "ethtool"))] ++
  familyCommands lookups "ip" .v4 ++
  familyCommands lookups "ipv6" .v6 ++
  [(["show", "bridge", "fdb"], Show.neighbour .bridge), (["show", "netns"], Show.namespaces)] ++
  provided (tools.has "ifstatecli") [(["show", "ifstate", "config"], Show.ifstateConfig)] ++
  provided (tools.has "ip") [
    (["enable", "interface"], Interface.setState true),
    (["disable", "interface"], Interface.setState false)] ++
  provided (tools.has "ethtool") [
    (["reset", "interface"], Interface.reset),
    (["renegotiate", "interface"], Interface.renegotiate),
    (["identify", "interface"], Interface.identify)] ++
  [(["netns"], Session.netns)] ++
  provided (tools.has "ip") [(["monitor"], Session.monitor)] ++
  [(["help"], Session.help), (["exit"], Session.exit)] ++
  (ToolCommand.all.filter fun t => tools.has t.tool).map fun t => ([t.tool], t.command)

/-- Enter commands in order. -/
def registerAll (entries : List (List String × Command)) :
    Except TreeFault (CommandTree Command) :=
  entries.foldlM (fun tree e => tree.register e.1 e.2) .empty

end RouterShell
