import RouterShell.Host.Process
import RouterShell.Net.Memory
import RouterShell.Net.Reports

/-!
# Reading the state of the network

A network is read from a source, in one active namespace. The source is either held in memory, or it
is the host itself, read through `ip` and `bridge`.

## The model

Reading never changes anything but may run programs, so every question answers a `Logged` result. A
namespace that is not named is the one the shell was started in.

Whether a namespace exists is known beforehand only of a source in memory. Through the tools, any name
can be switched to, and a question in a namespace that does not exist fails as the tool says.
-/

namespace RouterShell

/-- Why the state of the network cannot be read. -/
inductive QueryFault where
  /-- There is no namespace of this name. -/
  | noNamespace (name : String)
  /-- A tool could not be started. -/
  | cannotRun (exe : String) (error : OsError)
  /-- A tool failed and said why. -/
  | toolFailed (message : String)
  /-- A tool's report is not understood. -/
  | badReport
  deriving DecidableEq, Repr

/-- The wording of a fault. -/
def QueryFault.message : QueryFault → String
  | .noNamespace name => s!"namespace {name} does not exist"
  | .cannotRun exe error => s!"failed to run {exe}: {error.message}"
  | .toolFailed message => message
  | .badReport => "report not understood"

/-- Where the state of the network is read from. -/
inductive Source where
  /-- Namespaces held in memory: the host's own and the named ones. -/
  | memory (host : NamespaceState) (named : SortedMap String NamespaceState)
  /-- The tools `ip` and `bridge`, by their paths, and what running programs gives. -/
  | tools (ip bridge : String) (respond : Responder)

/-- A source read in one namespace. -/
structure Network where
  /-- The source. -/
  source : Source
  /-- The active namespace. -/
  active? : Option String

namespace Network

/-- The state of a namespace held in memory. -/
def stateOf (host : NamespaceState) (named : SortedMap String NamespaceState) :
    Option String → Except QueryFault NamespaceState
  | none => .ok host
  | some name =>
    match named.find? name with
    | some s => .ok s
    | none => .error (.noNamespace name)

/-! ### Asking tools -/

/-- The text of an error message, without blanks around it. -/
def complaint (bytes : List UInt8) : String :=
  String.ofList (Text.trim (Text.decodeLossy bytes).toList)

/-- Run a tool in a namespace and read the entries of its report. -/
def report {α : Type} (respond : Responder) (ns : Option String) (exe : String) (args : List String)
    (entry : Json → Option α) : Logged (Except QueryFault (List α)) :=
  let inside := match ns with
    | none => []
    | some name => ["-n", name]
  let run : Run := ⟨exe, inside ++ "-j" :: args⟩
  match respond run with
  | .error e => pure (.error (.cannotRun exe e))
  | .ok reply =>
    .ran run <|
      if reply.ending = .exited 0 then
        match Report.entries? entry reply.output with
        | some entries => .ok entries
        | none => .error .badReport
      else .error (.toolFailed (complaint reply.errors))

/-- The option that selects a family. -/
def familyArgs : Option Family → List String
  | some .v4 => ["-4"]
  | some .v6 => ["-6"]
  | _ => []

/-- A keyword and its value, if there is a value. -/
def wordArgs (words : List String) : Option String → List String
  | some value => words ++ [value]
  | none => []

/-- The arguments by which `ip` selects routes. -/
def routeArgs (sel : RouteSelection) : List String :=
  familyArgs (some (Family.orV4 sel.family)) ++ ["route", "show"] ++
    wordArgs ["table"] (sel.table.map toString) ++
    wordArgs ["dev"] sel.dev ++
    wordArgs ["via"] (sel.via.map IpAddr.text) ++
    wordArgs ["to", "match"] (sel.dst.map Prefix.text) ++
    wordArgs ["proto"] (sel.protocol.map toString) ++
    wordArgs ["scope"] (sel.scope.map toString)

/-! ### Questions -/

/-- The interfaces. -/
def links (n : Network) : Logged (Except QueryFault (List Link)) :=
  match n.source with
  | .memory host named => pure ((stateOf host named n.active?).map NamespaceState.links)
  | .tools ip _ respond => report respond n.active? ip ["-d", "link", "show"] Report.link?

/-- The addresses of a selection. -/
def addresses (n : Network) (sel : Selection) : Logged (Except QueryFault (List Address)) :=
  match n.source with
  | .memory host named =>
    pure ((stateOf host named n.active?).map fun s => s.selectAddresses sel)
  | .tools ip _ respond => do
    let found ← report respond n.active? ip
      (familyArgs sel.family ++ ["addr", "show"] ++ wordArgs ["dev"] sel.dev) Report.addresses?
    return found.map List.flatten

/-- The routes of a selection. -/
def routes (n : Network) (sel : RouteSelection) : Logged (Except QueryFault (List Route)) :=
  match n.source with
  | .memory host named =>
    pure ((stateOf host named n.active?).map fun s => s.selectRoutes sel)
  | .tools ip _ respond => do
    let found ← report respond n.active? ip (routeArgs sel)
      (Report.route? (Family.orV4 sel.family) sel.dev)
    return found.map fun routes => routes.filterMap id

/-- The neighbours of a selection, or the forwarding database for the family of bridges. -/
def neighbours (n : Network) (sel : Selection) : Logged (Except QueryFault (List Neighbour)) :=
  match n.source with
  | .memory host named =>
    pure ((stateOf host named n.active?).map fun s => s.selectNeighbours sel)
  | .tools ip bridge respond =>
    if sel.family = some .bridge then
      report respond n.active? bridge (["fdb", "show"] ++ wordArgs ["dev"] sel.dev)
        Report.fdbEntry?
    else
      report respond n.active? ip
        (familyArgs sel.family ++ ["neigh", "show"] ++ wordArgs ["dev"] sel.dev)
        (Report.neighbour? sel.dev)

/-- The rules of a selection. -/
def rules (n : Network) (sel : Selection) : Logged (Except QueryFault (List Rule)) :=
  match n.source with
  | .memory host named =>
    pure ((stateOf host named n.active?).map fun s => s.selectRules sel)
  | .tools ip _ respond =>
    let family := Family.orV4 sel.family
    report respond n.active? ip
      (familyArgs (some family) ++ ["rule", "show"] ++ wordArgs ["iif"] sel.dev)
      (Report.rule? family)

/-- The order of names. -/
def sortNames (names : List String) : List String :=
  names.mergeSort fun a b => decide (a ≤ b)

/-- The named namespaces, in order. They belong to the host, whatever namespace is active. -/
def namespaces (n : Network) : Logged (Except QueryFault (List String)) :=
  match n.source with
  | .memory _ named => pure (.ok named.keys)
  | .tools ip _ respond => do
    let found ← report respond none ip ["netns", "list"] Report.namespaceName?
    return found.map sortNames

/-- The same network in another namespace. -/
def within (n : Network) (ns : Option String) : Except QueryFault Network :=
  match n.source with
  | .memory host named => (stateOf host named ns).map fun _ => { n with active? := ns }
  | .tools _ _ _ => .ok { n with active? := ns }

end Network

end RouterShell
