import RouterShell.SortedMap

/-!
# Abbreviated names

A word selects an entry of a map of names when it is the entry's name, or when it begins the names
of exactly one entry. The empty name is never selected by abbreviation, and the empty word selects
nothing. Command words and filter names are both read this way.

## What is stated

`abbreviate_exact`: a whole name always selects itself, whatever longer names there are.
-/

namespace RouterShell

/-- Whether a word begins a name. -/
def begins (word name : String) : Bool :=
  word.toList.isPrefixOf name.toList

/-- The entries whose non-empty names a word begins. -/
def extensions {α : Type} (m : SortedMap String α) (word : String) : List (String × α) :=
  m.filter (fun e => e.1 != "" && begins word e.1)

/-- The entry that a word selects: the one of that name, or the only one whose name it begins. -/
def abbreviate {α : Type} (m : SortedMap String α) (word : String) : Option (String × α) :=
  if word = "" then none
  else match m.find? word with
    | some a => some (word, a)
    | none =>
      match extensions m word with
      | [e] => some e
      | _ => none

/-- A whole name selects its own entry. -/
theorem abbreviate_exact {α : Type} {m : SortedMap String α} {word : String} {a : α}
    (hne : word ≠ "") (h : m.find? word = some a) : abbreviate m word = some (word, a) := by
  simp [abbreviate, hne, h]

end RouterShell
