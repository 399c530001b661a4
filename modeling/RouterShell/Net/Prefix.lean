import RouterShell.Net.Address

/-!
# Network prefixes

A prefix is an address and the number of its leading bits that name a network; the bits after them
are clear. Both conditions are part of the type, so every prefix that exists satisfies them.

`make` refuses an address with host bits, `truncating` clears them. What a user types goes through
`read`, which is strict; what tools report goes through `truncating`.
-/

namespace RouterShell

/-- A network prefix without host bits. -/
structure Prefix where
  /-- The first address of the network. -/
  addr : IpAddr
  /-- The number of bits that name the network. -/
  len : Nat
  /-- The length does not exceed the address. -/
  len_le : len ≤ addr.family.bits
  /-- No bit is set after the first `len`. -/
  truncate_addr : addr.truncate? len = some addr
  deriving DecidableEq

/-- Why a text or a pair of address and length is no prefix. -/
inductive PrefixFault where
  /-- The part before the slash is no address. -/
  | notAnAddress (text : String)
  /-- The part after the slash is no number up to 255. -/
  | notALength (text : String)
  /-- The length exceeds the address. -/
  | tooLong (len max : Nat)
  /-- A bit after the first `len` is set. -/
  | hostBits (addr : IpAddr) (len : Nat)
  deriving DecidableEq

/-- The wording of a fault. -/
def PrefixFault.message : PrefixFault → String
  | .notAnAddress text => s!"'{text}' does not appear to be an IP address"
  | .notALength text => s!"'{text}' is not a valid prefix length"
  | .tooLong len max => s!"prefix length {len} exceeds {max}"
  | .hostBits addr len => s!"{addr.text}/{len} has host bits set"

namespace Prefix

/-- The prefix of an address and a length, unless the length is too large or host bits are set. -/
def make (addr : IpAddr) (len : Nat) : Except PrefixFault Prefix :=
  if hlen : len ≤ addr.family.bits then
    if hbits : addr.truncate? len = some addr then .ok ⟨addr, len, hlen, hbits⟩
    else .error (.hostBits addr len)
  else .error (.tooLong len addr.family.bits)

/-- The prefix that covers an address: host bits are cleared, too large a length is cut down. -/
def truncating (addr : IpAddr) (len : Nat) : Prefix :=
  have hsome : (addr.truncate? (min len addr.family.bits)).isSome :=
    IpAddr.isSome_truncate? (Nat.min_le_right _ _)
  have haddr := (Option.some_get hsome).symm
  { addr := (addr.truncate? (min len addr.family.bits)).get hsome
    len := min len addr.family.bits
    len_le := by rw [IpAddr.family_of_truncate? haddr]; exact Nat.min_le_right _ _
    truncate_addr := IpAddr.truncate?_of_truncate? haddr }

/-- The prefix that holds one address. -/
def host (addr : IpAddr) : Prefix :=
  truncating addr addr.family.bits

/-- The family of a prefix. -/
def family (p : Prefix) : Family :=
  p.addr.family

/-- Whether the prefix holds all addresses of its family: no bit names the network. -/
def isDefault (p : Prefix) : Bool :=
  p.len == 0

/-- The written form: address, slash, length. -/
def text (p : Prefix) : String :=
  s!"{p.addr.text}/{p.len}"

/-- The parts of a text before and after its first slash. -/
def cutAtSlash (s : List Char) : List Char × Option (List Char) :=
  match s.dropWhile (· ≠ '/') with
  | [] => (s, none)
  | _ :: rest => (s.takeWhile (· ≠ '/'), some rest)

/-- The largest number that is understood as a length, within any family or not. -/
def maxWritten : Nat := 255

/-- The prefix that a typed text spells; a bare address stands for itself alone. -/
def read (text : String) : Except PrefixFault Prefix :=
  let (before, after) := cutAtSlash text.toList
  let addrText := String.ofList before
  match IpAddr.read addrText with
  | none => .error (.notAnAddress addrText)
  | some addr =>
    match after with
    | none => make addr addr.family.bits
    | some digits =>
      match Decimal.readSignedAtMost maxWritten digits with
      | none => .error (.notALength (String.ofList digits))
      | some len => make addr len

/-- The order of destinations: by address, then by length. -/
def le (p q : Prefix) : Bool :=
  if p.addr = q.addr then p.len ≤ q.len else p.addr.le q.addr

end Prefix

end RouterShell
