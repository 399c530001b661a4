import RouterShell.Net.Prefix

/-!
# Argument values

What an accepted argument means, as opposed to how it was typed.
-/

namespace RouterShell

/-- The meaning of an accepted argument. -/
inductive Value where
  /-- A word that stands for itself. -/
  | text (word : String)
  /-- An existing interface, by name and kernel index. -/
  | link (name : String) (index : Nat)
  /-- An id found in a table of names. -/
  | id (id : Nat)
  /-- An address. -/
  | addr (addr : IpAddr)
  /-- A network. -/
  | net (net : Prefix)
  deriving DecidableEq

namespace Value

/-- The word or interface name of a value. -/
def asText : Value → Option String
  | .text word => some word
  | .link name _ => some name
  | _ => none

/-- The id or interface index of a value. -/
def asId : Value → Option Nat
  | .id n => some n
  | .link _ index => some index
  | _ => none

/-- The canonical written form of a value. -/
def display : Value → String
  | .text word => word
  | .link name _ => name
  | .id n => toString n
  | .addr a => a.text
  | .net p => p.text

end Value

end RouterShell
