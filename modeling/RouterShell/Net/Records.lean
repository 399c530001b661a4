import RouterShell.Net.Prefix

/-!
# Network state

The records that the shell shows, and the selections by which they are asked for. A selection without
any condition selects everything its kind of record has, but routes and rules are always those of one
family, version 4 if none is named.
-/

namespace RouterShell

/-- A network interface. -/
structure Link where
  /-- The kernel's number of the interface. -/
  index : Nat
  /-- Its name. -/
  name : String
  /-- Its kind if it is virtual, or the bus of its device. -/
  kind : Option String
  /-- Whether it is enabled. -/
  adminUp : Bool
  /-- Its state, in lower case. -/
  operState : String
  /-- Whether it has a carrier. -/
  carrier : Bool
  /-- The size of its largest packets. -/
  mtu : Option Nat
  /-- Its hardware address. -/
  address : Option String
  /-- The interface it is part of. -/
  master : Option String
  /-- The bus of its device, if it has one. -/
  parentBus : Option String
  deriving DecidableEq, Repr

/-- Physical interfaces are backed by a device on some bus. -/
def Link.isPhysical (l : Link) : Bool :=
  l.parentBus.isSome

/-- An address of an interface. -/
structure Address where
  /-- The kernel's number of the interface. -/
  index : Nat
  /-- The interface. -/
  ifname : String
  /-- The address. -/
  addr : IpAddr
  /-- The length of its network part. -/
  len : Nat
  /-- Its scope. -/
  scope : String
  /-- Its flags. -/
  flags : List String
  deriving DecidableEq, Repr

/-- An entry of a routing table. -/
structure Route where
  /-- The destination. -/
  dst : Prefix
  /-- The next router. -/
  gateway : Option IpAddr
  /-- The interface. -/
  dev : Option String
  /-- The priority among routes to one destination. -/
  metric : Option Nat
  /-- The preference a router announced. -/
  pref : Option String
  /-- Where the route comes from. -/
  protocol : String
  /-- Its scope. -/
  scope : String
  /-- Its table; none is the main table. -/
  table : Option String
  /-- Its flags. -/
  flags : List String
  deriving DecidableEq

/-- A neighbour, or an entry of a bridge's forwarding database. -/
structure Neighbour where
  /-- The address. -/
  dst : Option String
  /-- The interface. -/
  dev : String
  /-- The hardware address. -/
  lladdr : Option String
  /-- What is known about its reachability. -/
  state : List String
  /-- Its flags. -/
  flags : List String
  deriving DecidableEq, Repr

/-- A rule that selects a routing table. -/
structure Rule where
  /-- Rules apply in the order of their priorities. -/
  priority : Nat
  /-- The sources it applies to. -/
  src : String
  /-- The destinations it applies to. -/
  dst : String
  /-- The interface packets come from. -/
  iif : Option String
  /-- The interface packets go to. -/
  oif : Option String
  /-- The mark of packets. -/
  fwmark : Option String
  /-- The protocol of packets. -/
  ipProto : Option String
  /-- What the rule does. -/
  action : String
  /-- The table or rule that it leads to. -/
  target : Option String
  /-- Where the rule comes from. -/
  protocol : Option String
  deriving DecidableEq, Repr

/-- A selection by family and interface. -/
structure Selection where
  /-- The family. -/
  family : Option Family
  /-- The interface. -/
  dev : Option String
  deriving DecidableEq, Repr

/-- A selection of routes; protocols, tables and scopes are given by their ids. -/
structure RouteSelection where
  /-- The family. -/
  family : Option Family
  /-- The interface. -/
  dev : Option String
  /-- The next router. -/
  via : Option IpAddr
  /-- The destination. -/
  dst : Option Prefix
  /-- The protocol. -/
  protocol : Option Nat
  /-- The table. -/
  table : Option Nat
  /-- The scope. -/
  scope : Option Nat
  deriving DecidableEq

/-- The family of a selection of routes or rules. -/
def Family.orV4 (f : Option Family) : Family := f.getD .v4

end RouterShell
