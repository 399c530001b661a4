import RouterShell.Text.Decimal
import RouterShell.Text.Blank

/-!
# Sets of characters

A set of code points is kept as its maximal ranges, in increasing order and with gaps between them.
The operations work on any list of ranges and give this form again.
-/

namespace RouterShell

/-- The ranges of a set, each by its first and last code point. -/
structure CharSet where
  /-- The ranges, in increasing order and with gaps between them. -/
  ranges : List (Nat × Nat)
  deriving DecidableEq, Repr, Inhabited

namespace CharSet

/-- The largest code point. -/
def maxCode : Nat := 0x10FFFF

/-- The set without members. -/
def empty : CharSet := ⟨[]⟩

/-- The set of all code points. -/
def all : CharSet := ⟨[(0, maxCode)]⟩

/-- The code points from `first` to `last`. -/
def ofRange (first last : Nat) : CharSet := ⟨[(first, last)]⟩

/-- The set of one character. -/
def ofChar (c : Char) : CharSet := ofRange c.toNat c.toNat

/-- Whether a code point lies in one of some increasing ranges. -/
def inRanges (n : Nat) : List (Nat × Nat) → Bool
  | [] => false
  | (first, last) :: rest => if n < first then false else n ≤ last || inRanges n rest

/-- Whether a code point is a member. -/
def hasCode (s : CharSet) (n : Nat) : Bool := inRanges n s.ranges

/-- Whether a character is a member. -/
def contains (s : CharSet) (c : Char) : Bool := s.hasCode c.toNat

/-- Whether there is no member. -/
def isEmpty (s : CharSet) : Bool := s.ranges.isEmpty

/-- Merge two lists of ranges by their first code point. -/
def mergeRanges : List (Nat × Nat) → List (Nat × Nat) → List (Nat × Nat)
  | [], bs => bs
  | as, [] => as
  | a :: as, b :: bs => if a.1 ≤ b.1 then a :: mergeRanges as (b :: bs) else b :: mergeRanges (a :: as) bs
  termination_by as bs => as.length + bs.length

/-- Ranges by increasing first code point, of which the earliest may reach over several later ones,
joined into maximal ranges. -/
def joinRanges : List (Nat × Nat) → List (Nat × Nat)
  | [] => []
  | r :: rest => go r rest
where
  /-- The joined ranges when `(a, b)` is the one being extended. -/
  go : Nat × Nat → List (Nat × Nat) → List (Nat × Nat)
    | (a, b), [] => [(a, b)]
    | (a, b), (c, d) :: rest => if c ≤ b + 1 then go (a, max b d) rest else (a, b) :: go (c, d) rest

/-- The members of either set. -/
def union (s t : CharSet) : CharSet := ⟨joinRanges (mergeRanges s.ranges t.ranges)⟩

/-- The gaps between increasing ranges, from `start` on. -/
def gaps (start : Nat) : List (Nat × Nat) → List (Nat × Nat)
  | [] => if start ≤ maxCode then [(start, maxCode)] else []
  | (a, b) :: rest => if start < a then (start, a - 1) :: gaps (b + 1) rest else gaps (b + 1) rest

/-- The code points that are no members. -/
def complement (s : CharSet) : CharSet := ⟨gaps 0 s.ranges⟩

/-- The members of both sets. -/
def inter (s t : CharSet) : CharSet := (s.complement.union t.complement).complement

/-- The members of the first set that are not in the second. -/
def diff (s t : CharSet) : CharSet := s.inter t.complement

/-- The members of exactly one of the sets. -/
def symmDiff (s t : CharSet) : CharSet := (s.diff t).union (t.diff s)

/-- The union of ranges in any order. -/
def ofRanges (rs : List (Nat × Nat)) : CharSet :=
  ⟨joinRanges (rs.mergeSort (fun a b => a.1 ≤ b.1))⟩

/-- The set of some code points. -/
def ofCodes (ns : List Nat) : CharSet := ofRanges (ns.map fun n => (n, n))

/-- Ranges from the lengths of runs that lie, in turn, outside and inside the set. -/
def runRanges (pos : Nat) : List Nat → List (Nat × Nat)
  | out :: inside :: rest =>
    (pos + out, pos + out + inside - 1) :: runRanges (pos + out + inside) rest
  | _ => []

/-- The set that a text of decimal run lengths describes: code points outside, then inside, in
turn. -/
def ofRuns (runs : String) : CharSet :=
  ⟨runRanges 0 ((Text.words runs.toList).map (Decimal.valueFrom 0))⟩

end CharSet

end RouterShell
