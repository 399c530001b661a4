import RouterShell.Host.Disk
import RouterShell.SortedMap
import RouterShell.Text.Decimal
import RouterShell.Text.Lines

/-!
# Tables of names and ids

Routing tables, protocols and scopes have numeric ids and, for some, names. A table of names works
in both directions. Two names may share an id and an id may be renamed: the name inserted last is
shown.

A word of digits is always taken as an id, whether the table names that id or not.

## Files

A table can be read from text files with one entry a line: the id, blanks, the name. Any other line
is ignored. The first of several directories that has the file counts, and the files `*.conf` in the
directory `<name>.d` beside it add to the table in the order of their names.
-/

namespace RouterShell

/-- A table of names and ids. -/
structure Lookup where
  /-- The id of each name. -/
  ids : SortedMap String Nat
  /-- The name shown for each id. -/
  shown : SortedMap Nat String
  deriving DecidableEq, Repr, Inhabited

namespace Lookup

/-- The table without entries. -/
def empty : Lookup := ⟨[], []⟩

/-- Bind a name to an id, and show it for that id. -/
def insert (t : Lookup) (name : String) (id : Nat) : Lookup :=
  ⟨SortedMap.insert name id t.ids, SortedMap.insert id name t.shown⟩

/-- The table of a list of entries, inserted in order. -/
def ofList (entries : List (String × Nat)) : Lookup :=
  entries.foldl (fun t e => t.insert e.1 e.2) empty

/-- Whether a word is a decimal id. -/
def isNumeral (word : List Char) : Bool :=
  !word.isEmpty && word.all Decimal.isDigit

/-- The id that a word stands for: its number, or the id of the name. -/
def id? (t : Lookup) (word : String) : Option Nat :=
  if isNumeral word.toList then Decimal.readAtMost Decimal.max32 word.toList
  else t.ids.find? word

/-- The name shown for an id, or the id in digits. -/
def name (t : Lookup) (id : Nat) : String :=
  (t.shown.find? id).getD (toString id)

/-- All names, in order. -/
def names (t : Lookup) : List String :=
  t.ids.keys

/-! ### Files -/

/-- The entry on a line: exactly two fields, of which the first is an id. -/
def entry? (line : List Char) : Option (String × Nat) :=
  match Text.words line with
  | [id, name] => (Decimal.readAtMost Decimal.max32 id).map (String.ofList name, ·)
  | _ => none

/-- Add the entry of a line, if it holds one. -/
def addLine (t : Lookup) (line : String) : Lookup :=
  match entry? line.toList with
  | some (name, id) => t.insert name id
  | none => t

/-- Add the entries of a file. -/
def addFile (t : Lookup) (bytes : List UInt8) : Lookup :=
  (Text.textLines bytes).foldl addLine t

/-- The paths of the additional files of a directory `<name>.d`, in order. -/
def additions (disk : Disk) (dir : String) : List String :=
  ((disk.names dir).filter fun name => Path.extension name == some "conf").map (Path.join dir)

/-- The table that starts from `defaults` and adds the files `<name>` and `<name>.d/*.conf` of the
first directory that has the former. -/
def load (disk : Disk) (name : String) (defaults : List (String × Nat)) (dirs : List String) :
    Lookup :=
  let start := ofList defaults
  match dirs.find? (fun dir => (disk.fileBytes? (Path.join dir name)).isSome) with
  | none => start
  | some dir =>
    let files := Path.join dir name :: additions disk (Path.join dir (name ++ ".d"))
    files.foldl (fun t path => t.addFile ((disk.fileBytes? path).getD [])) start

end Lookup

/-! ### The tables of the shell -/

namespace Lookup

/-- Routing tables every host has. -/
def tableEntries : List (String × Nat) :=
  [("unspec", 0), ("default", 253), ("main", 254), ("local", 255)]

/-- Origins of routes. -/
def protocolEntries : List (String × Nat) :=
  [("unspec", 0), ("redirect", 1), ("kernel", 2), ("boot", 3), ("static", 4), ("ra", 9),
    ("dhcp", 16), ("bird", 12), ("zebra", 11)]

/-- Scopes of addresses and routes. -/
def scopeEntries : List (String × Nat) :=
  [("global", 0), ("site", 200), ("link", 253), ("host", 254), ("nowhere", 255)]

/-- Realms of routes. -/
def realmEntries : List (String × Nat) := [("unknown", 0)]

/-- States of neighbours, one bit each. -/
def neighbourStateEntries : List (String × Nat) :=
  [("none", 0x00), ("incomplete", 0x01), ("reachable", 0x02), ("stale", 0x04), ("delay", 0x08),
    ("probe", 0x10), ("failed", 0x20), ("noarp", 0x40), ("permanent", 0x80)]

/-- Flags of neighbours, one bit each. -/
def neighbourFlagEntries : List (String × Nat) :=
  [("use", 0x01), ("self", 0x02), ("master", 0x04), ("proxy", 0x08), ("extern_learn", 0x10),
    ("offloaded", 0x20), ("sticky", 0x40), ("router", 0x80)]

/-- Flags of addresses, one bit each. -/
def addressFlagEntries : List (String × Nat) :=
  [("secondary", 0x01), ("nodad", 0x02), ("optimistic", 0x04), ("dadfailed", 0x08),
    ("homeaddress", 0x10), ("deprecated", 0x20), ("tentative", 0x40), ("permanent", 0x80),
    ("managetempaddr", 0x100), ("noprefixroute", 0x200), ("mcautojoin", 0x400),
    ("stable-privacy", 0x800)]

end Lookup

/-- The tables by which routes are selected. -/
structure Lookups where
  /-- Routing tables. -/
  tables : Lookup
  /-- Origins of routes. -/
  protocols : Lookup
  /-- Scopes of routes. -/
  scopes : Lookup

/-- The tables that need no files. -/
def Lookups.builtin : Lookups where
  tables := Lookup.ofList Lookup.tableEntries
  protocols := Lookup.ofList Lookup.protocolEntries
  scopes := Lookup.ofList Lookup.scopeEntries

/-- The directories that may hold the files of the tables. -/
def Lookups.directories : List String :=
  ["/etc/iproute2", "/usr/share/iproute2", "/usr/lib/iproute2"]

/-- The tables of a host. -/
def Lookups.load (disk : Disk) : Lookups where
  tables := Lookup.load disk "rt_tables" Lookup.tableEntries directories
  protocols := Lookup.load disk "rt_protos" Lookup.protocolEntries directories
  scopes := Lookup.load disk "rt_scopes" Lookup.scopeEntries directories

end RouterShell
