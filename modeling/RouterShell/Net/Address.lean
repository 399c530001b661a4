import RouterShell.Text.Decimal
import RouterShell.Text.Hexadecimal

/-!
# IP addresses

An address is its bits: 32 of them for version 4, 128 for version 6.

Version 4 is written as four decimal numbers with dots between them, without superfluous zeros.
Version 6 is written as eight groups of hexadecimal digits with colons between them; one run of zero
groups may be left out (`::`), and the last two groups may be written like an address of version 4.
Printing leaves out the first longest run of at least two zero groups, and writes the addresses
that stand for one of version 4 as `::ffff:` and its four numbers.

Addresses are ordered by version, then by value.
-/

namespace RouterShell

/-- The kind of network that a query, a command or a value belongs to. -/
inductive Family where
  /-- Version 4 of the internet protocol. -/
  | v4
  /-- Version 6 of the internet protocol. -/
  | v6
  /-- The forwarding database of bridges. -/
  | bridge
  deriving DecidableEq, Repr

/-- The number of bits of an address of the family; a bridge has none. -/
def Family.bits : Family → Nat
  | .v4 => 32
  | .v6 => 128
  | .bridge => 0

/-- The family's name. -/
def Family.name : Family → String
  | .v4 => "inet"
  | .v6 => "inet6"
  | .bridge => "bridge"

/-- An address. -/
inductive IpAddr where
  /-- Version 4. -/
  | v4 (bits : BitVec 32)
  /-- Version 6. -/
  | v6 (bits : BitVec 128)
  deriving DecidableEq, Repr

namespace IpAddr

/-- The family of an address. -/
def family : IpAddr → Family
  | .v4 _ => .v4
  | .v6 _ => .v6

/-- The order of addresses: version 4 first, then by value. -/
def le : IpAddr → IpAddr → Bool
  | .v4 a, .v4 b => a.toNat ≤ b.toNat
  | .v4 _, .v6 _ => true
  | .v6 _, .v4 _ => false
  | .v6 a, .v6 b => a.toNat ≤ b.toNat

/-! ### Groups of bits -/

/-- The parts of `width` bits of a number, most significant first. -/
def split (width : Nat) : Nat → Nat → List Nat
  | 0, _ => []
  | count + 1, n => (n >>> (width * count)) % (1 <<< width) :: split width count n

/-- The number with the given parts of `width` bits, most significant first. -/
def unsplit (width : Nat) (parts : List Nat) : Nat :=
  parts.foldl (fun n p => (n <<< width) + p) 0

/-- The four numbers of an address of version 4. -/
def octets (bits : BitVec 32) : List Nat := split 8 4 bits.toNat

/-- The eight groups of an address of version 6. -/
def groups (bits : BitVec 128) : List Nat := split 16 8 bits.toNat

/-! ### Reading

A reader answers its value and the text after what it has read. -/

/-- Read one given character. -/
def readChar (c : Char) : List Char → Option (Unit × List Char)
  | d :: rest => if d = c then some ((), rest) else none
  | [] => none

/-- Read a number of an address of version 4: one to three digits, no superfluous zero, at most 255. -/
def readOctet (s : List Char) : Option (Nat × List Char) :=
  let digits := s.takeWhile Decimal.isDigit
  if digits.isEmpty || 3 < digits.length || (1 < digits.length && digits.head? == some '0') then none
  else
    let n := Decimal.valueFrom 0 digits
    if n ≤ 255 then some (n, s.dropWhile Decimal.isDigit) else none

/-- Read an address of version 4. -/
def readV4 (s : List Char) : Option (BitVec 32 × List Char) := do
  let (a, s) ← readOctet s
  let (_, s) ← readChar '.' s
  let (b, s) ← readOctet s
  let (_, s) ← readChar '.' s
  let (c, s) ← readOctet s
  let (_, s) ← readChar '.' s
  let (d, s) ← readOctet s
  return (BitVec.ofNat 32 (unsplit 8 [a, b, c, d]), s)

/-- Read a group of an address of version 6: one to four hexadecimal digits. -/
def readGroup (s : List Char) : Option (Nat × List Char) :=
  let digits := s.takeWhile Hexadecimal.isDigit
  if digits.isEmpty || 4 < digits.length then none
  else some (Hexadecimal.number digits, s.dropWhile Hexadecimal.isDigit)

/-- Read the colon in front of every group but the first. -/
def readSeparator (first : Bool) (s : List Char) : Option (List Char) :=
  if first then some s else (readChar ':' s).map Prod.snd

/-- Read at most `slots` groups; an address of version 4 counts for two and ends them. Answers the
groups, whether they end in an address of version 4, and the text after them. -/
def readGroups : Nat → Bool → List Char → List Nat × Bool × List Char
  | 0, _, s => ([], false, s)
  | slots + 1, first, s =>
    let tail := readSeparator first s
    let embedded := if slots = 0 then none else tail.bind readV4
    match embedded with
    | some (a, rest) => (split 16 2 a.toNat, true, rest)
    | none =>
      match tail.bind readGroup with
      | some (g, rest) =>
        let (gs, dotted, rest) := readGroups slots false rest
        (g :: gs, dotted, rest)
      | none => ([], false, s)

/-- Read an address of version 6. -/
def readV6 (s : List Char) : Option (BitVec 128 × List Char) := do
  let (head, dotted, rest) := readGroups 8 true s
  if head.length = 8 then return (BitVec.ofNat 128 (unsplit 16 head), rest)
  if dotted then none
  let (_, rest) ← readChar ':' rest
  let (_, rest) ← readChar ':' rest
  let (tail, _, rest) := readGroups (7 - head.length) true rest
  let zeros := List.replicate (8 - head.length - tail.length) 0
  return (BitVec.ofNat 128 (unsplit 16 (head ++ zeros ++ tail)), rest)

/-- The result of a reading that used up the whole text. -/
def whole {α : Type} : Option (α × List Char) → Option α
  | some (a, []) => some a
  | _ => none

/-- The address that a text spells, if it spells one. -/
def read (text : String) : Option IpAddr :=
  match readV4 text.toList with
  | some (a, rest) => whole (some (IpAddr.v4 a, rest))
  | none => (whole (readV6 text.toList)).map IpAddr.v6

/-! ### Writing -/

/-- Groups with colons between them. -/
def colonText : List Nat → List Char
  | [] => []
  | [g] => Hexadecimal.text g
  | g :: rest => Hexadecimal.text g ++ ':' :: colonText rest

/-- The four numbers of an address of version 4, with dots between them. -/
def dottedText (bits : BitVec 32) : String :=
  ".".intercalate ((octets bits).map toString)

/-- The number of zero groups at the front. -/
def zeroRun (gs : List Nat) : Nat :=
  (gs.takeWhile (· = 0)).length

/-- The position and length of the first longest run of zero groups; `at` counts the groups passed. -/
def longestZeros : Nat → List Nat → Nat × Nat
  | _, [] => (0, 0)
  | pos, g :: rest =>
    let here := zeroRun (g :: rest)
    let (start, len) := longestZeros (pos + 1) rest
    if here = 0 || here < len then (start, len) else (pos, here)

/-- The address of version 4 for which an address of version 6 stands. -/
def mapped? (bits : BitVec 128) : Option (BitVec 32) :=
  if bits.toNat >>> 32 = 0xFFFF then some (BitVec.ofNat 32 bits.toNat) else none

/-- The written form of an address of version 6. -/
def v6Text (bits : BitVec 128) : String :=
  match mapped? bits with
  | some a => "::ffff:" ++ dottedText a
  | none =>
    let gs := groups bits
    let (start, len) := longestZeros 0 gs
    String.ofList (if 1 < len then
        colonText (gs.take start) ++ ':' :: ':' :: colonText (gs.drop (start + len))
      else colonText gs)

/-- The written form of an address. -/
def text : IpAddr → String
  | .v4 a => dottedText a
  | .v6 a => v6Text a

/-! ### Masks -/

/-- A word shifted to the left. There is no shift by a negative amount, and none by the whole width. -/
def shiftLeft? {width : Nat} (bits : BitVec width) (amount : Int) : Option (BitVec width) :=
  if 0 ≤ amount ∧ amount < width then some (bits <<< amount.toNat) else none

/-- The mask of the first `len` bits of a word, as far as it can be had. The empty mask is no shift of the full
one. -/
def mask? (width len : Nat) : Option (BitVec width) :=
  if len = 0 then some 0 else shiftLeft? (BitVec.allOnes width) (width - len)

/-- The address with all bits after the first `len` cleared, if there is a mask of this length. -/
def truncate? (len : Nat) : IpAddr → Option IpAddr
  | .v4 a => (mask? 32 len).map fun m => .v4 (a &&& m)
  | .v6 a => (mask? 128 len).map fun m => .v6 (a &&& m)

/-- Every length up to the width has a mask. -/
theorem mask?_of_le {width len : Nat} (h : len ≤ width) :
    mask? width len = some (BitVec.allOnes width <<< (width - len)) := by
  unfold mask? shiftLeft?
  split
  · next hlen => simp [hlen]
  · next hlen =>
    rw [if_pos (by omega)]
    congr 2
    omega

theorem isSome_truncate? {a : IpAddr} {len : Nat} (h : len ≤ a.family.bits) : (a.truncate? len).isSome := by
  cases a with
  | v4 a => simp [truncate?, mask?_of_le (show len ≤ 32 from h)]
  | v6 a => simp [truncate?, mask?_of_le (show len ≤ 128 from h)]

theorem family_of_truncate? {a t : IpAddr} {len : Nat} (h : a.truncate? len = some t) : t.family = a.family := by
  cases a <;> obtain ⟨m, -, rfl⟩ := Option.map_eq_some_iff.mp h <;> rfl

/-- Clearing the same bits twice clears them once. -/
theorem truncate?_of_truncate? {a t : IpAddr} {len : Nat} (h : a.truncate? len = some t) :
    t.truncate? len = some t := by
  cases a <;> obtain ⟨m, hm, rfl⟩ := Option.map_eq_some_iff.mp h <;>
    simp [truncate?, hm, BitVec.and_assoc]

end IpAddr

end RouterShell
