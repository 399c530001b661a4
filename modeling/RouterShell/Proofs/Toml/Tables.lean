import RouterShell.Proofs.Abbreviation
import RouterShell.Proofs.Lookup.Naming
import RouterShell.Toml.Table

/-!
# Tables of a document

A document is put together statement by statement: a header opens a table, which is set aside while its pairs are
collected and comes into its place when the next header is reached. This module says what documents with one header
for each table come to.

## What is proved

Pairs with names of their own make up the table set aside (`foldlM_pairs`). A header puts the table before it into
its place and opens the next one, below the document (`add_header`) or below another table that comes into being
with it (`add_header_below`). A section is a header and its pairs (`foldlM_section`, `foldlM_section_below`), and the end
of the document puts the last table into its place (`settle_table`, `settle_below`).
-/

namespace RouterShell.Toml

open SortedMap

variable {d : Draft} {root current entries : Entries} {key part : String} {value : Toml}
  {pairs : List (String × Toml)}

/-- A pair as a statement. -/
def pairStatement (e : String × Toml) : Statement := .pair [] e.1 e.2

theorem addNew_of_find? (h : entries.find? key = none) (value : Toml) :
    addNew key value entries = some (SortedMap.insert key value entries) := by
  rw [addNew, if_neg]
  simp [SortedMap.has, h]

/-- Pairs with names that are not in use, each of them once, are added one after the other. -/
theorem foldlM_pairs (hnew : ∀ e ∈ pairs, d.current.find? e.1 = none) (hnodup : (pairs.map Prod.fst).Nodup) :
    (pairs.map pairStatement).foldlM Draft.add d =
      some { d with current := pairs.foldl (fun m e => SortedMap.insert e.1 e.2 m) d.current } := by
  induction pairs generalizing d with
  | nil => rfl
  | cons e pairs ih =>
    rw [List.map_cons, List.nodup_cons] at hnodup
    have hadd : d.add (pairStatement e) = some { d with current := SortedMap.insert e.1 e.2 d.current } := by
      rw [pairStatement, Draft.add, addPair, addNew_of_find? (hnew e List.mem_cons_self)]
      rfl
    rw [List.map_cons, List.foldlM_cons, hadd, Option.bind_eq_bind, Option.bind_some, ih ?_ hnodup.2]
    · rfl
    · intro e' he'
      have hne : e.1 ≠ e'.1 := fun heq => hnodup.1 (heq ▸ List.mem_map_of_mem he')
      rw [find?_insert, if_neg hne]
      exact hnew e' (List.mem_cons_of_mem e he')

/-- The pairs of a table that was just opened make up the table. -/
theorem foldlM_pairs_opened (place : Place) (hnodup : (pairs.map Prod.fst).Nodup) :
    (pairs.map pairStatement).foldlM Draft.add ⟨root, [], place⟩ = some ⟨root, SortedMap.ofList pairs, place⟩ :=
  foldlM_pairs (fun _ _ => rfl) hnodup

theorem erase_of_find? (h : entries.find? key = none) : SortedMap.erase entries key = entries := by
  rw [SortedMap.find?, Option.map_eq_none_iff, List.find?_eq_none] at h
  rw [SortedMap.erase, List.filter_eq_self]
  simpa using h

/-- The header of a table with a new name puts the table before it into its place. -/
theorem add_header (hsettle : d.settle = some root) (hnew : root.find? key = none) :
    d.add (.header [] key) = some ⟨root, [], .table [] key⟩ := by
  simp only [Draft.add, hsettle, alter, lookIn, openTable, hnew, erase_of_find? hnew, Option.bind_eq_bind,
    Option.bind_some, pure]

theorem find?_insert_self (part : String) (value : Toml) (root : Entries) :
    (SortedMap.insert part value root).find? part = some value := by
  rw [find?_insert, if_pos rfl]

/-- A table below another one, which comes into being with it. -/
theorem add_header_below (hsettle : d.settle = some root) (hnew : root.find? part = none) (key : String) :
    d.add (.header [part] key) =
      some ⟨SortedMap.insert part (table true false []) root, [], .table [part] key⟩ := by
  have hopen : alter some [part] root = some (SortedMap.insert part (table true false []) root) := by
    rw [alter, hnew]
    rfl
  have hclear : alter (fun parent => some (SortedMap.erase parent key)) [part]
      (SortedMap.insert part (table true false []) root) =
        some (SortedMap.insert part (table true false []) root) := by
    rw [alter, find?_insert_self]
    exact congrArg some (insert_insert part _ _ root)
  simp only [Draft.add, hsettle, hopen, hclear, lookIn, find?_insert_self, openTable, find?_nil, Option.bind_eq_bind,
    Option.bind_some, pure]

/-- A section: its header, and pairs with names of their own. -/
theorem foldlM_section (hsettle : d.settle = some root) (hnew : root.find? key = none)
    (hnodup : (pairs.map Prod.fst).Nodup) :
    (.header [] key :: pairs.map pairStatement).foldlM Draft.add d =
      some ⟨root, SortedMap.ofList pairs, .table [] key⟩ := by
  rw [List.foldlM_cons, add_header hsettle hnew]
  exact foldlM_pairs_opened (.table [] key) hnodup

/-- A section below another table. -/
theorem foldlM_section_below (hsettle : d.settle = some root) (hnew : root.find? part = none)
    (hnodup : (pairs.map Prod.fst).Nodup) :
    (.header [part] key :: pairs.map pairStatement).foldlM Draft.add d =
      some ⟨SortedMap.insert part (table true false []) root, SortedMap.ofList pairs, .table [part] key⟩ := by
  rw [List.foldlM_cons, add_header_below hsettle hnew key]
  exact foldlM_pairs_opened (.table [part] key) hnodup

/-- The last table comes into its place. -/
theorem settle_table (hnew : root.find? key = none) :
    (Draft.mk root current (.table [] key)).settle =
      some (SortedMap.insert key (table false false current) root) :=
  addNew_of_find? hnew _

theorem settle_below (root current : Entries) (part key : String) :
    (Draft.mk (SortedMap.insert part (table true false []) root) current (.table [part] key)).settle =
      some (SortedMap.insert part (table true false [(key, table false false current)]) root) := by
  show alter (addNew key (table false false current)) [part] _ = _
  rw [alter, find?_insert_self]
  exact congrArg some (insert_insert part _ _ root)

end RouterShell.Toml
