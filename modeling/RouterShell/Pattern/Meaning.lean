import RouterShell.Pattern.Property

/-!
# The meaning of patterns

Under the flags in force a written pattern becomes a core pattern (`Core`) over sets of characters
and conditions on places. Which of two matches is preferred plays no part, since all that is ever
asked is whether a text matches somewhere.

## The model

Flags are passed along from left to right; a group gives back the flags it was entered with.

Without the flag `u` the pattern speaks of bytes. Since texts are well-formed, such a pattern may
only mention ASCII: `byteComplement` leaves all 256 bytes, and a set with a byte outside ASCII is
refused.
-/

namespace RouterShell.Pattern

/-- Conditions on a place in a text, with all flags worked in. -/
inductive Place where
  /-- The start of the text. -/
  | textStart
  /-- The end of the text. -/
  | textEnd
  /-- The start of a line; with `true`, a carriage return ends a line too. -/
  | lineStart (crlf : Bool)
  /-- The end of a line. -/
  | lineEnd (crlf : Bool)
  /-- A condition on which sides have a character of a set. -/
  | sides (word : CharSet) (test : Bool → Bool → Bool)

/-- A pattern with a definite meaning, over leaves of any kind. -/
inductive Core (α : Type) where
  /-- The empty text. -/
  | empty
  /-- What a leaf matches. -/
  | leaf (a : α)
  /-- One after the other. -/
  | seq (p q : Core α)
  /-- One or the other. -/
  | alt (p q : Core α)
  /-- Repeatedly, at least and at most so many times. -/
  | times (min : Nat) (max : Option Nat) (p : Core α)
  /-- A group that counts among the captures. -/
  | capture (p : Core α)

/-- Replace the leaves. -/
def Core.map {α β : Type} (f : α → β) : Core α → Core β
  | .empty => .empty
  | .leaf a => .leaf (f a)
  | .seq p q => .seq (p.map f) (q.map f)
  | .alt p q => .alt (p.map f) (q.map f)
  | .times min max p => .times min max (p.map f)
  | .capture p => .capture (p.map f)

/-- What a leaf of a pattern matches. -/
inductive Leaf where
  /-- One character of a set. -/
  | one (set : CharSet)
  /-- Nothing, where a condition holds. -/
  | place (p : Place)

/-- The flags that bear on the meaning. -/
structure Flags where
  /-- Case is ignored. -/
  ignoreCase : Bool
  /-- Line anchors hold at every line. -/
  multiLine : Bool
  /-- A dot matches every character. -/
  dotAll : Bool
  /-- Classes follow Unicode. -/
  unicode : Bool
  /-- A carriage return ends a line too. -/
  crlf : Bool

/-- The flags at the start of a pattern. -/
def Flags.initial : Flags := ⟨false, false, false, true, false⟩

/-- The flags after some changes. -/
def Flags.change (f : Flags) (changes : FlagChanges) : Flags where
  ignoreCase := (changes.state? .ignoreCase).getD f.ignoreCase
  multiLine := (changes.state? .multiLine).getD f.multiLine
  dotAll := (changes.state? .dotAll).getD f.dotAll
  unicode := (changes.state? .unicode).getD f.unicode
  crlf := (changes.state? .crlf).getD f.crlf

/-! ### Classes -/

/-- The largest byte. -/
def maxByte : Nat := 0xFF

/-- The bytes that are not in a set of bytes. -/
def byteComplement (s : CharSet) : CharSet :=
  s.complement.inter (.ofRange 0 maxByte)

/-- Whether a set holds characters of ASCII only. -/
def isAscii (s : CharSet) : Bool :=
  s.ranges.all fun r => r.2 < 0x80

/-- A set of ASCII characters closed under change of case. -/
def closeAsciiCase (s : CharSet) : CharSet :=
  let shift (lo hi : Nat) (by' : Int) : List (Nat × Nat) :=
    (s.inter (.ofRange lo hi)).ranges.map fun r =>
      (Int.toNat (r.1 + by'), Int.toNat (r.2 + by'))
  s.union (.ofRanges (shift 0x41 0x5A 32 ++ shift 0x61 0x7A (-32)))

/-- The set closed under change of case, if case is ignored. -/
def Flags.fold (f : Flags) (s : CharSet) : CharSet :=
  if !f.ignoreCase then s
  else if f.unicode then s.closeCase
  else closeAsciiCase s

/-- Refuse sets of bytes that are not ASCII. -/
def Flags.check (f : Flags) (s : CharSet) : Except Fault CharSet :=
  if f.unicode || isAscii s then .ok s else .error .invalidUtf8

/-- The characters, or bytes, that are not in the set. -/
def Flags.complement (f : Flags) (s : CharSet) : CharSet :=
  if f.unicode then s.complement else byteComplement s

/-- Ignore case as the flags say, then negate. -/
def Flags.foldAndNegate (f : Flags) (negated : Bool) (s : CharSet) : Except Fault CharSet :=
  f.check (if negated then f.complement (f.fold s) else f.fold s)

/-- The code of a character as far as the flags allow to mention it. -/
def Flags.codeOf (f : Flags) (l : Literal) : Except Fault Nat :=
  if f.unicode || l.char.toNat < 0x80 then .ok l.char.toNat
  else if l.byte && l.char.toNat ≤ maxByte then .error .invalidUtf8
  else .error .unicodeNotAllowed

/-- The set of a class with a letter. -/
def Flags.letterSet (f : Flags) (negated : Bool) (kind : LetterClass) : Except Fault CharSet :=
  let s := if f.unicode then kind.set else kind.asciiSet
  f.check (if negated then f.complement s else s)

/-- The set of a property. -/
def Flags.propertySet (f : Flags) (negated : Bool) (ref : PropertyRef) : Except Fault CharSet := do
  if !f.unicode then throw .unicodeNotAllowed
  let s ← ref.set
  f.foldAndNegate negated s

/-- Two sets with an operation between them. -/
def SetOp.apply : SetOp → CharSet → CharSet → CharSet
  | .inter => .inter
  | .diff => .diff
  | .symmDiff => .symmDiff

mutual

/-- The set of what stands between brackets, before the brackets' own negation. -/
def ClassTree.set (f : Flags) : ClassTree → Except Fault CharSet
  | .literal l => do
    let n ← f.codeOf l
    return .ofRange n n
  | .range first last => do
    let a ← f.codeOf first
    let b ← f.codeOf last
    return .ofRange a b
  | .ascii negated name => f.foldAndNegate negated (asciiClass name)
  | .letter negated kind => f.letterSet negated kind
  | .property negated ref => f.propertySet negated ref
  | .nested negated set => do
    let s ← set.set f
    f.foldAndNegate negated s
  | .union items => ClassTree.sets f items
  | .combined op left right => do
    let a ← left.set f
    let b ← right.set f
    return op.apply (f.fold a) (f.fold b)

/-- The union of the sets of several items. -/
def ClassTree.sets (f : Flags) : List ClassTree → Except Fault CharSet
  | [] => .ok .empty
  | item :: items => do
    let a ← item.set f
    let b ← ClassTree.sets f items
    return a.union b

end

/-! ### Whole patterns -/

/-- What a character on its own matches. -/
def Flags.literal (f : Flags) (l : Literal) : Except Fault (Core Leaf) :=
  if !f.unicode && l.byte && 0x80 ≤ l.char.toNat && l.char.toNat ≤ maxByte then .error .invalidUtf8
  else
    let s := CharSet.ofChar l.char
    .ok (.leaf (.one (if f.unicode || l.char.toNat < 0x80 then f.fold s else s)))

/-- The characters that a dot does not match. -/
def Flags.lineEnds (f : Flags) : CharSet :=
  if f.dotAll then .empty
  else if f.crlf then .ofCodes ['\n'.toNat, '\r'.toNat]
  else .ofChar '\n'

/-- The characters of words. -/
def Flags.wordSet (f : Flags) : CharSet :=
  if f.unicode then LetterClass.word.set else LetterClass.word.asciiSet

/-- The condition of an anchor. -/
def Flags.place (f : Flags) : Anchor → Place
  | .lineStart => if f.multiLine then .lineStart f.crlf else .textStart
  | .lineEnd => if f.multiLine then .lineEnd f.crlf else .textEnd
  | .textStart => .textStart
  | .textEnd => .textEnd
  | .boundary => .sides f.wordSet fun before after => before != after
  | .notBoundary => .sides f.wordSet fun before after => before == after
  | .wordStart => .sides f.wordSet fun before after => !before && after
  | .wordEnd => .sides f.wordSet fun before after => before && !after
  | .wordStartHalf => .sides f.wordSet fun before _ => !before
  | .wordEndHalf => .sides f.wordSet fun _ after => !after

mutual

/-- The meaning of a pattern under some flags, and the flags after it. -/
def Tree.meaning (f : Flags) : Tree → Except Fault (Core Leaf × Flags)
  | .empty => .ok (.empty, f)
  | .flags changes => .ok (.empty, f.change changes)
  | .literal l => (f.literal l).map (·, f)
  | .dot =>
    if f.unicode then .ok (.leaf (.one f.lineEnds.complement), f) else .error .invalidUtf8
  | .anchor a => .ok (.leaf (.place (f.place a)), f)
  | .letter negated kind => (f.letterSet negated kind).map fun s => (.leaf (.one s), f)
  | .property negated ref => (f.propertySet negated ref).map fun s => (.leaf (.one s), f)
  | .bracket negated set => do
    let s ← set.set f
    let s ← f.foldAndNegate negated s
    return (.leaf (.one s), f)
  | .times min max body => do
    let (p, f) ← body.meaning f
    return (.times min max p, f)
  | .group .capture body => do
    let (p, _) ← body.meaning f
    return (.capture p, f)
  | .group (.scoped changes) body => do
    let (p, _) ← body.meaning (f.change changes)
    return (p, f)
  | .concat parts => Tree.sequence f parts
  | .alternation parts => Tree.choice f parts

/-- The meaning of parts one after the other. -/
def Tree.sequence (f : Flags) : List Tree → Except Fault (Core Leaf × Flags)
  | [] => .ok (.empty, f)
  | [part] => part.meaning f
  | part :: parts => do
    let (p, f) ← part.meaning f
    let (q, f) ← Tree.sequence f parts
    return (.seq p q, f)

/-- The meaning of parts of which one matches; flags changed in one hold in those after it. -/
def Tree.choice (f : Flags) : List Tree → Except Fault (Core Leaf × Flags)
  | [] => .ok (.leaf (.one .empty), f)
  | [part] => part.meaning f
  | part :: parts => do
    let (p, f) ← part.meaning f
    let (q, f) ← Tree.choice f parts
    return (.alt p q, f)

end

end RouterShell.Pattern
