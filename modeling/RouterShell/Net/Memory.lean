import RouterShell.Lookup
import RouterShell.Net.Records

/-!
# Network state held in memory

A fixed set of namespaces, each with its records. Every selection is a filter: it only drops
records, and keeps the order of the others.
-/

namespace RouterShell

/-- The records of one namespace. -/
structure NamespaceState where
  /-- The interfaces. -/
  links : List Link
  /-- Their addresses. -/
  addresses : List Address
  /-- The routes of all tables. -/
  routes : List Route
  /-- The neighbours. -/
  neighbours : List Neighbour
  /-- The forwarding database of bridges. -/
  fdb : List Neighbour
  /-- The rules, each with its family. -/
  rules : List (Family × Rule)
  deriving DecidableEq

/-- A namespace without records. -/
def NamespaceState.empty : NamespaceState := ⟨[], [], [], [], [], []⟩

/-- Whether an optional condition holds of a value. -/
def meets {α : Type} [DecidableEq α] (wanted : Option α) (value : Option α) : Bool :=
  match wanted with
  | none => true
  | some w => value = some w

namespace NamespaceState

/-- The addresses of a selection. -/
def selectAddresses (s : NamespaceState) (sel : Selection) : List Address :=
  s.addresses.filter fun a => meets sel.family (some a.addr.family) && meets sel.dev (some a.ifname)

/-- The id of the main routing table. -/
def mainTable : Nat := 254

/-- The id of a route's table: the main table if it has none or an unknown one. -/
def tableId (r : Route) : Nat :=
  ((r.table.bind Lookups.builtin.tables.id?)).getD mainTable

/-- Whether a route belongs to the wanted tables: all for 0, the main table for none. -/
def inTable (wanted : Option Nat) (r : Route) : Bool :=
  match wanted with
  | some 0 => true
  | some t => tableId r == t
  | none => tableId r == mainTable

/-- The routes of a selection. -/
def selectRoutes (s : NamespaceState) (sel : RouteSelection) : List Route :=
  s.routes.filter fun r =>
    r.dst.family == Family.orV4 sel.family &&
    meets sel.dev r.dev &&
    meets sel.via r.gateway &&
    meets sel.dst (some r.dst) &&
    meets sel.protocol (Lookups.builtin.protocols.id? r.protocol) &&
    meets sel.scope (Lookups.builtin.scopes.id? r.scope) &&
    inTable sel.table r

/-- Whether a neighbour's address is of a family. -/
def hasFamily (n : Neighbour) (f : Family) : Bool :=
  match n.dst.bind IpAddr.read with
  | some a => a.family == f
  | none => false

/-- The neighbours of a selection, or the forwarding database for the family of bridges. -/
def selectNeighbours (s : NamespaceState) (sel : Selection) : List Neighbour :=
  match sel.family with
  | some .bridge => s.fdb.filter fun n => meets sel.dev (some n.dev)
  | none => s.neighbours.filter fun n => meets sel.dev (some n.dev)
  | some f => s.neighbours.filter fun n => meets sel.dev (some n.dev) && hasFamily n f

/-- The rules of a selection. -/
def selectRules (s : NamespaceState) (sel : Selection) : List Rule :=
  (s.rules.filter fun e => e.1 == Family.orV4 sel.family && meets sel.dev e.2.iif).map Prod.snd

end NamespaceState

end RouterShell
