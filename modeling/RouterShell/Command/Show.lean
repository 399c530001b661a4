import RouterShell.Command.Action

/-!
# Commands that show the state of the network

Each of them reads one kind of record in the active namespace and answers a table in a fixed order.
`show interface` is the exception: for one interface it answers a view of its details, or has
`ethtool` report on one aspect of it.
-/

namespace RouterShell.Show

/-! ### Cells -/

/-- A value, or a dash if there is none. -/
def dash (value : Option String) : String := value.getD "-"

/-- Words with commas between them, or a dash if there are none. -/
def commas (words : List String) : String :=
  if words.isEmpty then "-" else ",".intercalate words

/-- A state that is either up or down. -/
def upDown (up : Bool) : String := if up then "up" else "down"

/-- Order by a key that may be missing: missing ones come first. -/
def optionLe (a b : Option String) : Bool :=
  match a, b with
  | none, _ => true
  | some _, none => false
  | some a, some b => decide (a ≤ b)

/-- The interface that the first argument names. -/
def deviceOf (inv : Invocation) : Option String :=
  inv.parsed.positional.bind Value.asText

/-! ### Interfaces -/

/-- The aspects of an interface on which `ethtool` reports, with its options. -/
def aspects : List (String × String) :=
  [("coalesce", "-c"), ("driver", "-i"), ("eee", "--show-eee"), ("features", "-k"),
    ("module", "-m"), ("pause", "-a"), ("ring", "-g"), ("settings", "-I"), ("stats", "-S"),
    ("tstamp", "-T")]

/-- The option for an aspect. -/
def aspectOption? (word : String) : Option String :=
  (aspects.find? fun e => e.1 == word).map Prod.snd

/-- The table of all interfaces. -/
def interfaceTable : Action Output := do
  let links ← Action.query Network.links
  let sorted := links.mergeSort fun a b => decide (a.name ≤ b.name)
  return .table ["idx", "ifname", "kind", "admin", "oper", "carrier"] <| sorted.map fun l =>
    [toString l.index, l.name, dash l.kind, upDown l.adminUp, l.operState, upDown l.carrier]

/-- An address of an interface, with the length of its network part. -/
def addressText (a : Address) : String := s!"{a.addr.text}/{a.len}"

/-- The view of an interface and its addresses. -/
def interfaceView (l : Link) (addresses : List Address) : Details :=
  let states := (((Details.empty.titled "States").field "admin" (upDown l.adminUp)).field "oper"
    l.operState).field "carrier" (upDown l.carrier)
  let layer2 := (states.titled "Addresses").field "L2" (dash l.address)
  let layer3 := addresses.foldl (fun view a => view.field "L3" (addressText a)) layer2
  let mtu := match l.mtu with
    | some mtu => (layer3.titled "MTU").field "set" (toString mtu)
    | none => layer3
  ((((mtu.titled "Link").field "index" (toString l.index)).field? "kind" l.kind).field? "bus"
    l.parentBus).field? "master" l.master

/-- The view of one interface. -/
def interfaceDetails (name : String) : Action Output := do
  let links ← Action.query Network.links
  match links.find? fun l => l.name == name with
  | none => throw (.command (.noInterface name))
  | some l =>
    let addresses ← Action.query fun n => n.addresses ⟨none, some l.name⟩
    return (interfaceView l addresses).output

/-- The completer of an interface, and of an aspect if `ethtool` is there. -/
def interfaceCompleter (ethtool : Bool) : Completer :=
  if ethtool then .peer .links (.suggesting (aspects.map Prod.fst)) else .links

/-- The greatest number of arguments. -/
def interfaceMax (ethtool : Bool) : Nat := if ethtool then 2 else 1

/-- Accept an interface, and an aspect of it. -/
def interfaceValidate (ethtool : Bool) (net : Network) (args : List String) :
    Logged (Except ShellError ParsedArgs) := do
  match ← Arguments.positional (interfaceCompleter ethtool) 0 (some (interfaceMax ethtool)) net
      args with
  | .error e => return .error e
  | .ok parsed =>
    return match args[1]? with
      | some word =>
        if (aspectOption? word).isSome then .ok parsed
        else .error (.argument 1 (.invalidSubcommand word))
      | none => .ok parsed

/-- Show all interfaces, one of them, or one aspect of it. -/
def interface (ethtool : Bool) : Command where
  description := "show interface details"
  minArgs := 0
  maxArgs := some (interfaceMax ethtool)
  completer := interfaceCompleter ethtool
  validate := interfaceValidate ethtool
  execute env inv :=
    match inv.args with
    | [] => interfaceTable
    | [name] => interfaceDetails name
    | name :: word :: _ =>
      match aspectOption? word with
      | some option => env.runTool "ethtool" [option, name]
      | none => throw (.command (.invalidSubcommand word))
  shutdown := pure ()

/-! ### Addresses -/

/-- Show the addresses of a family, of all interfaces or of one. -/
def address (family : Family) : Command :=
  let description := match family with
    | .v6 => "show assigned ipv6 addresses"
    | _ => "show assigned ipv4 addresses"
  .simple description 0 (some 1) .links fun _ inv => do
    let found ← Action.query fun n => n.addresses ⟨some family, deviceOf inv⟩
    let sorted := found.mergeSort fun a b => if a.addr = b.addr then a.len ≤ b.len else a.addr.le b.addr
    return .table ["address", "ifname", "scope", "flags"] <| sorted.map fun a =>
      [addressText a, a.ifname, a.scope, commas a.flags]

/-! ### Neighbours -/

/-- Show the neighbours of a family, or the forwarding database for the family of bridges. -/
def neighbour (family : Family) : Command :=
  let description := match family with
    | .v4 => "show ipv4 neighbours"
    | .v6 => "show ipv6 neighbours"
    | .bridge => "show bridge forwarding database"
  .simple description 0 (some 1) .links fun _ inv => do
    let found ← Action.query fun n => n.neighbours ⟨some family, deviceOf inv⟩
    let sorted := found.mergeSort fun a b =>
      if a.dst = b.dst then optionLe a.lladdr b.lladdr else optionLe a.dst b.dst
    return .table ["dst", "lladdr", "ifname", "flags", "state"] <| sorted.map fun n =>
      [dash n.dst, dash n.lladdr, n.dev, commas n.flags, commas n.state]

/-! ### Rules -/

/-- Show the rules of a family, all or those for packets from one interface. -/
def rule (family : Family) : Command :=
  let description := match family with
    | .v6 => "show ipv6 routing rules"
    | _ => "show ipv4 routing rules"
  .simple description 0 (some 1) .links fun _ inv => do
    let found ← Action.query fun n => n.rules ⟨some family, deviceOf inv⟩
    let sorted := found.mergeSort fun a b => a.priority ≤ b.priority
    let headers := ["prio", "from", "to", "iif", "oif", "fwmark", "ip_proto", "action", "target",
      "proto"]
    return .table headers <| sorted.map fun r =>
      [toString r.priority, r.src, r.dst, dash r.iif, dash r.oif, dash r.fwmark, dash r.ipProto,
        r.action, dash r.target, dash r.protocol]

/-! ### Routes -/

/-- The parameters that select routes. -/
def routeParams (lookups : Lookups) (family : Family) : SortedMap String Completer :=
  .ofList [
    ("dev", .links),
    ("via", .address (some family)),
    ("to", .net (some family)),
    ("proto", .table "protocol" lookups.protocols),
    ("table", .table "table" lookups.tables),
    ("scope", .table "scope" lookups.scopes)]

/-- An address among values. -/
def addrOf : Value → Option IpAddr
  | .addr a => some a
  | _ => none

/-- A network among values. -/
def netOf : Value → Option Prefix
  | .net p => some p
  | _ => none

/-- The selection that the parameters make. -/
def routeSelection (family : Family) (named : SortedMap String Value) : RouteSelection where
  family := some family
  dev := (named.find? "dev").bind Value.asText
  via := (named.find? "via").bind addrOf
  dst := (named.find? "to").bind netOf
  protocol := (named.find? "proto").bind Value.asId
  table := (named.find? "table").bind Value.asId
  scope := (named.find? "scope").bind Value.asId

/-- The columns of the table of routes. -/
def routeHeaders : List String := ["dst", "via", "dev", "prio", "pref", "proto", "scope", "flags"]

/-- The row of a route. -/
def routeRow (r : Route) : List String :=
  [r.dst.text, dash (r.gateway.map IpAddr.text), dash r.dev, dash (r.metric.map toString),
    dash r.pref, r.protocol, r.scope, commas r.flags]

/-- The routes in the order of their destinations. -/
def sortRoutes (found : List Route) : List Route :=
  found.mergeSort fun a b => a.dst.le b.dst

/-- The table of routes. -/
def routeTable (found : List Route) : Output :=
  .table routeHeaders ((sortRoutes found).map routeRow)

/-- Show the routes of a family that parameters select. -/
def route (lookups : Lookups) (family : Family) : Command where
  description := match family with
    | .v6 => "show ipv6 routes"
    | _ => "show ipv4 routes"
  minArgs := 0
  maxArgs := none
  completer := .tuple (routeParams lookups family)
  validate := Arguments.pairs (routeParams lookups family)
  execute _ inv := do
    let found ← Action.query fun n => n.routes (routeSelection family inv.parsed.named)
    return routeTable found
  shutdown := pure ()

/-! ### Namespaces and files -/

/-- Show the named namespaces. -/
def namespaces : Command :=
  .simple "list network namespaces" 0 (some 0) .free fun _ _ => do
    let names ← Action.query Network.namespaces
    return .table ["netns"] ((Network.sortNames names).map fun name => [name])

/-- The file of `ifstate` if the settings name none. -/
def ifstateFile : String := "/etc/ifstate/config.yml"

/-- Show the file that `ifstatecli` works on. -/
def ifstateConfig : Command :=
  .bare "show ifstate's config file" fun env _ => do
    let configured := env.config.ifstate.configFile
    let path := if configured = "" then ifstateFile else configured
    match env.disk.readText path with
    | .error e => throw (.command (.unreadable path e))
    | .ok text => return .text (String.ofList (Text.trimEnd text.toList))

end RouterShell.Show
