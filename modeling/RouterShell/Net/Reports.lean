import RouterShell.Json.Decode
import RouterShell.Net.Records
import RouterShell.SortedMap
import RouterShell.Unicode.Case

/-!
# Reports of tools

What `ip` and `bridge` report in JSON, made into records. A report is a list of entries of one shape;
a tool that has nothing to report writes nothing but white space.

Some details are only implied by a report: an address without a flag does not mention the flag, a
selection by interface leaves the interface out of every route, and a destination may be `default`, a
bare address or a network whose host bits are not cleared.
-/

namespace RouterShell.Report

open Json (Members)

/-- The largest number of eight bits. -/
def max8 : Nat := 0xFF

/-- A number of 32 bits. -/
def nat32? : Json → Option Nat := Json.nat? Decimal.max32

/-- A number of eight bits. -/
def nat8? : Json → Option Nat := Json.nat? max8

/-- The entries of a report. -/
def entries? {α : Type} (entry : Json → Option α) (report : List UInt8) : Option (List α) :=
  if report.all Text.isAsciiBlank then some []
  else (Json.read report).bind (Json.list? entry)

/-! ### Interfaces -/

/-- The kind that an interface's link information names. -/
def linkKind? (value : Json) : Option (Option String) := do
  let m ← value.record? ["info_kind"] 1
  m.optional "info_kind" Json.text?

/-- An interface. -/
def link? (value : Json) : Option Link := do
  let m ← value.record? ["ifindex", "ifname", "flags", "mtu", "operstate", "address", "master",
    "linkinfo", "parentbus"] 9
  let index ← m.need "ifindex" nat32?
  let name ← m.need "ifname" Json.text?
  let flags ← m.orElse "flags" [] (Json.list? Json.text?)
  let mtu ← m.optional "mtu" nat32?
  let state ← m.optional "operstate" Json.text?
  let address ← m.optional "address" Json.text?
  let master ← m.optional "master" Json.text?
  let kind ← m.optional "linkinfo" linkKind?
  let bus ← m.optional "parentbus" Json.text?
  return {
    index, name, mtu, address, master
    kind := kind.join.or bus
    adminUp := flags.contains "UP"
    operState := Unicode.toLower (state.getD "unknown")
    carrier := flags.contains "LOWER_UP"
    parentBus := bus }

/-! ### Addresses -/

/-- The names of the members that are `true`, in order. -/
def trueNames (others : Members) : List String :=
  (SortedMap.ofList others).filterMap fun (name, value) =>
    match value with
    | .bool true => some name
    | _ => none

/-- An address of an interface; none if it is not readable. It is an object, three levels deep in
the report. -/
def addressOf? (index : Nat) (ifname : String) (value : Json) : Option (Option Address) := do
  let (m, others) ← value.openRecord? 4 ["local", "prefixlen", "scope"]
  let addr ← m.optional "local" Json.text?
  let len ← m.need "prefixlen" nat8?
  let scope ← m.optional "scope" Json.text?
  return (addr.bind IpAddr.read).map fun addr => {
    index, ifname, addr, len
    scope := scope.getD "global"
    flags := trueNames others }

/-- The addresses of an interface. -/
def addresses? (value : Json) : Option (List Address) := do
  let m ← value.record? ["ifindex", "ifname", "addr_info"] 2
  let index ← m.need "ifindex" nat32?
  let name ← m.need "ifname" Json.text?
  let found ← m.orElse "addr_info" [] (Json.list? (addressOf? index name))
  return found.filterMap id

/-! ### Routes -/

/-- The destination that a route's text names. -/
def destination? (text : String) (family : Family) : Option Prefix :=
  if text = "default" then
    some (.truncating (match family with | .v6 => .v6 0 | _ => .v4 0) 0)
  else
    let (before, after) := Prefix.cutAtSlash text.toList
    match IpAddr.read (String.ofList before), after with
    | some addr, none => some (.host addr)
    | some addr, some digits =>
      (Decimal.readSignedAtMost Prefix.maxWritten digits).map (Prefix.truncating addr)
    | none, _ => none

/-- A route; none if its destination is not readable. `dev` is the interface asked for. -/
def route? (family : Family) (dev : Option String) (value : Json) : Option (Option Route) := do
  let m ← value.record? ["dst", "gateway", "dev", "metric", "pref", "protocol", "scope", "table",
    "flags"] 8
  let dst ← m.need "dst" Json.text?
  let gateway ← m.optional "gateway" Json.text?
  let ownDev ← m.optional "dev" Json.text?
  let metric ← m.optional "metric" nat32?
  let pref ← m.optional "pref" Json.text?
  let protocol ← m.optional "protocol" Json.text?
  let scope ← m.optional "scope" Json.text?
  let table ← m.optional "table" Json.text?
  let flags ← m.orElse "flags" [] (Json.list? Json.text?)
  return (destination? dst family).map fun dst => {
    dst, metric, pref, table, flags
    gateway := gateway.bind IpAddr.read
    dev := ownDev.or dev
    protocol := protocol.getD "boot"
    scope := scope.getD "global" }

/-! ### Neighbours -/

/-- The flags of neighbours, which appear as members of these names. -/
def neighbourFlags : List String := ["router", "proxy", "extern_learn", "offload"]

/-- A neighbour. `dev` is the interface asked for. -/
def neighbour? (dev : Option String) (value : Json) : Option Neighbour := do
  let (m, others) ← value.openRecord? 2 ["dst", "dev", "lladdr", "state"]
  let dst ← m.optional "dst" Json.text?
  let ownDev ← m.optional "dev" Json.text?
  let lladdr ← m.optional "lladdr" Json.text?
  let state ← m.orElse "state" [] (Json.list? Json.text?)
  return {
    dst, lladdr
    dev := (ownDev.or dev).getD ""
    state := state.map Unicode.toLower
    flags := neighbourFlags.filter fun f => others.any fun e => e.1 == f }

/-- What an entry of a forwarding database says of its state: a text, or a list in which only texts
count. -/
def fdbState? (value : Json) : Option (List String) := do
  match ← value.whole? 2 with
  | .string chars => (Json.textOf chars).map fun s => if s.isEmpty then [] else [s]
  | .array items => return items.filterMap Json.text?
  | _ => return []

/-- An entry of a forwarding database. -/
def fdbEntry? (value : Json) : Option Neighbour := do
  let m ← value.record? ["mac", "ifname", "dst", "state", "flags"] 3
  let lladdr ← m.optional "mac" Json.text?
  let dev ← m.optional "ifname" Json.text?
  let dst ← m.optional "dst" Json.text?
  let state ← m.orElse "state" [] fdbState?
  let flags ← m.orElse "flags" [] (Json.list? Json.text?)
  return { dst, lladdr, state, flags, dev := dev.getD "" }

/-! ### Rules -/

/-- The text of one side of a rule: a network, or `all`. -/
def selectorText (family : Family) (addr : Option String) (len : Option Nat) : String :=
  match addr with
  | none => "all"
  | some a =>
    if a = "all" then "all"
    else
      let max := match IpAddr.read a with
        | some ip => ip.family.bits
        | none => family.bits
      s!"{a}/{len.getD max}"

/-- What a rule does, and what it leads to. -/
def ruleAction (table : Option String) (goto : Option Nat) (action : Option String) :
    String × Option String :=
  match table, goto, action with
  | some table, _, _ => ("lookup", some table)
  | none, some n, _ => ("goto", some (toString n))
  | none, none, some action => (action, none)
  | none, none, none => ("unspec", none)

/-- A rule. -/
def rule? (family : Family) (value : Json) : Option Rule := do
  let m ← value.record? ["priority", "src", "srclen", "dst", "dstlen", "iif", "oif", "fwmark",
    "ipproto", "table", "goto", "action", "protocol"] 13
  let priority ← m.orElse "priority" 0 nat32?
  let src ← m.optional "src" Json.text?
  let srcLen ← m.optional "srclen" nat8?
  let dst ← m.optional "dst" Json.text?
  let dstLen ← m.optional "dstlen" nat8?
  let iif ← m.optional "iif" Json.text?
  let oif ← m.optional "oif" Json.text?
  let fwmark ← m.optional "fwmark" Json.text?
  let ipProto ← m.optional "ipproto" Json.text?
  let table ← m.optional "table" Json.text?
  let goto ← m.optional "goto" nat32?
  let action ← m.optional "action" Json.text?
  let protocol ← m.optional "protocol" Json.text?
  let (action, target) := ruleAction table goto action
  return {
    priority, iif, oif, fwmark, ipProto, action, target, protocol
    src := selectorText family src srcLen
    dst := selectorText family dst dstLen }

/-! ### Namespaces -/

/-- The name of a namespace. -/
def namespaceName? (value : Json) : Option String := do
  let m ← value.record? ["name"] 1
  m.need "name" Json.text?

end RouterShell.Report
