import RouterShell.Pattern.Reader
import RouterShell.Pattern.Size

/-!
# Searching a text

A pattern matches a text when it matches some part of it.

## The model

The places of a text of `n` characters are `0` to `n`, and a set of places is a number whose bit `i`
tells whether place `i` is a member. A core pattern sends a set of places to the places where a
match that starts in the set can end: `reach`. Reading one character shifts the set by one; a
repetition grows its set until nothing new is reached, which takes at most one turn for each place.

## What is stated

`reach_alt` and `reach_seq` say how `reach` goes through the pattern.
-/

namespace RouterShell.Pattern

/-- A leaf worked out for one text. -/
inductive Mask where
  /-- The places before a character that is matched. -/
  | one (places : Nat)
  /-- The places at which a condition holds. -/
  | at (places : Nat)

/-- The set of the places, counted from `i`, at which a test answers true. -/
def placesFrom (i : Nat) : List Bool → Nat
  | [] => 0
  | b :: rest => (if b then 1 <<< i else 0) ||| placesFrom (i + 1) rest

/-- The characters around each place: the one before it and the one after it. -/
def neighbours (before : Option Char) : List Char → List (Option Char × Option Char)
  | [] => [(before, none)]
  | c :: rest => (before, some c) :: neighbours (some c) rest

/-- Whether a condition holds between two characters. -/
def Place.holds (p : Place) (before after : Option Char) : Bool :=
  match p with
  | .textStart => before.isNone
  | .textEnd => after.isNone
  | .lineStart false => before.isNone || before == some '\n'
  | .lineEnd false => after.isNone || after == some '\n'
  | .lineStart true =>
    before.isNone || before == some '\n' || (before == some '\r' && after != some '\n')
  | .lineEnd true =>
    after.isNone || after == some '\r' || (after == some '\n' && before != some '\r')
  | .sides word test => test (before.any word.contains) (after.any word.contains)

/-- Work out a leaf for a text. -/
def Leaf.mask (text : List Char) : Leaf → Mask
  | .one set => .one (placesFrom 0 (text.map set.contains))
  | .place p => .at (placesFrom 0 ((neighbours none text).map fun e => p.holds e.1 e.2))

/-- Go on from places by a step until nothing new is reached, for at most `turns` turns. -/
def spread (step : Nat → Nat) : Nat → Nat → Nat
  | 0, s => s
  | turns + 1, s =>
    let t := s ||| step s
    if t = s then s else spread step turns t

/-- Take a step `n` times, or until it changes nothing. -/
def advance (step : Nat → Nat) : Nat → Nat → Nat
  | 0, s => s
  | n + 1, s =>
    let t := step s
    if t = s then s else advance step n t

/-- The places where a match that starts in a set of places can end, in a text with `places`
places. -/
def Core.reach (places : Nat) : Core Mask → Nat → Nat
  | .empty, s => s
  | .leaf (.one m), s => (s &&& m) <<< 1
  | .leaf (.at m), s => s &&& m
  | .seq p q, s => q.reach places (p.reach places s)
  | .alt p q, s => p.reach places s ||| q.reach places s
  | .capture p, s => p.reach places s
  | .times min max p, s =>
    let turns := match max with
      | none => places
      | some max => Nat.min (max - min) places
    spread (p.reach places) turns (advance (p.reach places) min s)

/-- A match of one pattern after another starts where a match of the first ends. -/
@[simp] theorem reach_seq (n : Nat) (p q : Core Mask) (s : Nat) :
    (Core.seq p q).reach n s = q.reach n (p.reach n s) := rfl

/-- A match of either pattern is a match. -/
@[simp] theorem reach_alt (n : Nat) (p q : Core Mask) (s : Nat) :
    (Core.alt p q).reach n s = p.reach n s ||| q.reach n s := rfl

end RouterShell.Pattern

namespace RouterShell

/-- A pattern that can be searched for. -/
structure Pattern where
  /-- What it means. -/
  core : Pattern.Core Pattern.Leaf

namespace Pattern

/-- Read a pattern. -/
def read (text : String) : Except Fault Pattern := do
  let tree ← Tree.read text.toList
  let (core, _) ← tree.meaning .initial
  if core.isTooBig then throw (.tooBig maxBytes)
  return ⟨core⟩

/-- Whether the pattern matches some part of a text. -/
def isMatch (p : Pattern) (text : String) : Bool :=
  let cs := text.toList
  let places := cs.length + 1
  (p.core.map (Leaf.mask cs)).reach places (1 <<< places - 1) != 0

end Pattern

end RouterShell
