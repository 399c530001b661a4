import RouterShell.SortedMap

/-!
# TOML documents

A document is a table of values by name. It is written as statements: pairs of a key and a value, and
headers that open a table or one more element of an array of tables. Keys may have several parts, and
tables on the way come into being as they are needed.

## The model

What may still be added to a table depends on how it came into being. A table that was only mentioned
on the way to another one is *implicit* and may be opened later; a table that came from the parts of a
key is *dotted* as well, may be extended by keys only, and may not be opened. A value in braces is
complete.

Headers put a table aside while its pairs are collected, and put it into its place when the next
header, or the end, is reached.
-/

namespace RouterShell

/-- A value of a document. -/
inductive Toml where
  /-- A text. -/
  | string (text : String)
  /-- A whole number. -/
  | integer (n : Int)
  /-- A floating-point number, of which only the form was checked. -/
  | float
  /-- A truth value. -/
  | boolean (b : Bool)
  /-- A date, a time, or both, of which only the form was checked. -/
  | date
  /-- Values in brackets. -/
  | array (items : List Toml)
  /-- A complete table. -/
  | inlineTable (entries : List (String × Toml))
  /-- A table that statements may add to. -/
  | table (implicit dotted : Bool) (entries : List (String × Toml))
  /-- The elements of an array of tables, latest first. -/
  | tables (elements : List (List (String × Toml)))

namespace Toml

/-- The values of a table by name. -/
abbrev Entries := SortedMap String Toml

/-- A statement of a document. -/
inductive Statement where
  /-- A key, as the parts before its last one and the last one, and a value. -/
  | pair (path : List String) (key : String) (value : Toml)
  /-- The header of a table. -/
  | header (path : List String) (key : String)
  /-- The header of an element of an array of tables. -/
  | element (path : List String) (key : String)

/-- Store a value under a name that is not in use. -/
def addNew (key : String) (value : Toml) (entries : Entries) : Option Entries :=
  if SortedMap.has entries key then none else some (SortedMap.insert key value entries)

/-- Add a value under a key. `dotted` tells whether the table at hand came from the parts of the
key. -/
def addPair (key : String) (value : Toml) : List String → Entries → Option Entries
  | [], entries => addNew key value entries
  | part :: rest, entries => do
    let child ← match entries.find? part with
      | none => (addPair key value rest []).map (table true true)
      | some (.table implicit dotted sub) =>
        if !implicit || (rest.isEmpty && !dotted) then none
        else (addPair key value rest sub).map (table implicit dotted)
      | some (.tables (last :: others)) =>
        if rest.isEmpty then none
        else (addPair key value rest last).map fun last => tables (last :: others)
      | some _ => none
    return SortedMap.insert part child entries

/-- Change the table at a path, bringing the tables on the way into being. -/
def alter (change : Entries → Option Entries) : List String → Entries → Option Entries
  | [], entries => change entries
  | part :: rest, entries => do
    let child ← match entries.find? part with
      | none => (alter change rest []).map (table true false)
      | some (.table implicit dotted sub) => (alter change rest sub).map (table implicit dotted)
      | some (.tables (last :: others)) =>
        (alter change rest last).map fun last => tables (last :: others)
      | some _ => none
    return SortedMap.insert part child entries

/-- The table at a path, if all tables on the way exist. -/
def lookIn : List String → Entries → Option Entries
  | [], entries => some entries
  | part :: rest, entries =>
    match entries.find? part with
    | some (.table _ _ sub) => lookIn rest sub
    | some (.tables (last :: _)) => lookIn rest last
    | _ => none

/-- Where the table whose pairs are being collected belongs. -/
inductive Place where
  /-- It is the document itself. -/
  | root
  /-- It is the table of a header. -/
  | table (path : List String) (key : String)
  /-- It is an element of an array of tables. -/
  | element (path : List String) (key : String)

/-- A document in the making: what is in place, and the table set aside. -/
structure Draft where
  /-- The tables in place. -/
  root : Entries
  /-- The table whose pairs are being collected. -/
  current : Entries
  /-- Where it belongs. -/
  place : Place

/-- A document before its first statement. -/
def Draft.empty : Draft := ⟨[], [], .root⟩

/-- Put an element at the end of an array of tables. -/
def pushElement (key : String) (element : Entries) (entries : Entries) : Option Entries :=
  match entries.find? key with
  | none => some (SortedMap.insert key (tables [element]) entries)
  | some (.tables elements) => some (SortedMap.insert key (tables (element :: elements)) entries)
  | some _ => none

/-- Put the table set aside into its place. -/
def Draft.settle (d : Draft) : Option Entries :=
  match d.place with
  | .root => some d.current
  | .table path key => alter (addNew key (Toml.table false false d.current)) path d.root
  | .element path key => alter (pushElement key d.current) path d.root

/-- The pairs that a header's table has already: those of an implicit table of its name. -/
def openTable (key : String) (entries : Entries) : Option Entries :=
  match entries.find? key with
  | none => some []
  | some (.table true false sub) => some sub
  | some _ => none

/-- Make sure that a name is free for an array of tables. -/
def openElement (key : String) (entries : Entries) : Option Entries :=
  match entries.find? key with
  | none => some entries
  | some (.tables _) => some entries
  | some _ => none

/-- Go on with a statement. -/
def Draft.add (d : Draft) : Statement → Option Draft
  | .pair path key value => do
    return { d with current := ← addPair key value path d.current }
  | .header path key => do
    let root ← alter some path (← d.settle)
    let current ← openTable key (← lookIn path root)
    let root ← alter (fun parent => some (SortedMap.erase parent key)) path root
    return ⟨root, current, .table path key⟩
  | .element path key => do
    let root ← alter (openElement key) path (← d.settle)
    return ⟨root, [], .element path key⟩

/-- The table of a document. -/
def ofStatements (statements : List Statement) : Option Entries := do
  let d ← statements.foldlM Draft.add .empty
  d.settle

/-- The table of the pairs in braces. -/
def ofPairs (pairs : List (List String × String × Toml)) : Option Entries :=
  pairs.foldlM (fun entries (path, key, value) => addPair key value path entries) []

end Toml

end RouterShell
