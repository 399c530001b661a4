import Mathlib.Data.List.DropRight
import RouterShell.Output
import RouterShell.Proofs.Command.Filtering
import RouterShell.Proofs.Unicode.UpperCase

/-!
# Tables line up

A table is laid out in two passes: one over all rows for the widths of the columns, one over each row to write its
cells and the spaces behind them. Both look up a width for a cell, and the second one takes the cell's own width
from it. This module says that they always can, and where every cell stands.

## The model

`Table.width` is the width of the widest cell of a column, and `Table.start` adds up widths and gaps.
`Table.Aligned` says of a line that the cells of a row stand in it, each from its start on, and that there are
spaces everywhere else. Rows may have any number of cells, and cells any number of characters.

## What is proved

The widths are found for every table (`Table.widths?_eq`), a row is written with each cell at its start
(`Table.exists_rowText`), and trimming a line takes away spaces only, because no cell ends with a blank
(`Table.Aligned.trimEnd`). So all rows of a table line up (`Table.render_aligned`).
-/

namespace RouterShell

open Text

namespace Table

/-! ### Widths -/

/-- The number of characters of the widest cell in a column. -/
def width (rows : List (List String)) (j : Nat) : Nat :=
  (rows.map fun row => (row[j]?.getD "").length).foldl max 0

section Widths

variable {rows : List (List String)} {row : List String} {cell : String} {j n : Nat}

theorem width_concat (rows : List (List String)) (row : List String) (j : Nat) :
    width (rows ++ [row]) j = max (width rows j) (row[j]?.getD "").length := by
  rw [width, List.map_append, List.foldl_append]
  rfl

/-- A number is not less than the width of a column exactly if it is not less than the width of any cell there. -/
theorem width_le_iff : width rows j ≤ n ↔ ∀ row ∈ rows, ∀ cell, row[j]? = some cell → cell.length ≤ n := by
  induction rows using List.reverseRecOn with
  | nil => simp [width]
  | append_singleton rows row ih =>
    rw [width_concat, Nat.max_le, ih]
    cases hcell : row[j]? with
    | none => simp [or_imp, forall_and, hcell]
    | some cell => simp [or_imp, forall_and, hcell]

theorem length_le_width (hrow : row ∈ rows) (hcell : row[j]? = some cell) : cell.length ≤ width rows j :=
  width_le_iff.mp (Nat.le_refl _) row hrow cell hcell

theorem length_le_columns (hrow : row ∈ rows) : row.length ≤ columns rows := by
  induction rows with
  | nil => cases hrow
  | cons first rows ih =>
    rw [columns, List.map_cons, List.foldr_cons]
    rcases List.mem_cons.mp hrow with rfl | hrow
    · exact Nat.le_max_left _ _
    · exact (ih hrow).trans (Nat.le_max_right _ _)

/-- A row without more cells than there are columns widens each column by its own cell. -/
theorem widen?_map (f : Nat → Nat) (h : row.length ≤ n) :
    widen? ((List.range n).map f) row =
      some ((List.range n).map fun j => max (f j) (row[j]?.getD "").length) := by
  induction row generalizing f n with
  | nil => simp [widen?]
  | cons cell row ih =>
    obtain ⟨n, rfl⟩ : ∃ m, n = m + 1 := ⟨n - 1, by rw [List.length_cons] at h; omega⟩
    have hrow := ih (fun j => f (j + 1)) (Nat.le_of_succ_le_succ h)
    rw [List.range_succ_eq_map, List.map_cons, List.map_map, widen?]
    have hshift : (f ∘ Nat.succ) = fun j => f (j + 1) := rfl
    rw [hshift, hrow, Option.map_some, List.map_cons, List.map_map]
    rfl

/-- The columns suffice for all rows, and each gets the width of its widest cell. The induction goes over the rows,
with any rows before them. -/
theorem foldlM_widen (before rows : List (List String)) (h : ∀ row ∈ rows, row.length ≤ n) :
    rows.foldlM widen? ((List.range n).map (width before)) = some ((List.range n).map (width (before ++ rows))) := by
  induction rows generalizing before with
  | nil => rw [List.append_nil]; rfl
  | cons row rows ih =>
    obtain ⟨hrow, hrows⟩ := List.forall_mem_cons.mp h
    have hstep := ih (before ++ [row]) hrows
    rw [List.foldlM_cons, widen?_map _ hrow, Option.bind_eq_bind, Option.bind_some]
    simp only [← width_concat]
    rw [hstep, List.append_assoc]
    rfl

theorem widths?_eq (rows : List (List String)) :
    widths? rows = some ((List.range (columns rows)).map (width rows)) := by
  have hnone : (List.range (columns rows)).map (width []) = List.replicate (columns rows) 0 := by
    rw [List.eq_replicate_iff]
    simp [width]
  rw [widths?, ← hnone, foldlM_widen [] rows fun row => length_le_columns, List.nil_append]

end Widths

/-! ### Rows -/

/-- Where a column starts: behind the widths of the columns before it and their gaps of two spaces. -/
def start (widths : Nat → Nat) : Nat → Nat
  | 0 => 0
  | i + 1 => start widths i + (widths i + 2)

/-- The cells of a row stand in a line from their starts on, and all other characters are spaces. -/
structure Aligned (start : Nat → Nat) (row : List String) (text : List Char) : Prop where
  /-- Each character of a cell is in its place. -/
  cell : ∀ (i : Nat) (cell : String) (k : Nat) (c : Char), row[i]? = some cell → cell.toList[k]? = some c →
    text[start i + k]? = some c
  /-- A character that belongs to no cell is a space. -/
  space : ∀ (p : Nat) (c : Char), text[p]? = some c →
    c = ' ' ∨ ∃ i cell k, row[i]? = some cell ∧ cell.toList[k]? = some c ∧ p = start i + k

section Rows

variable {f : Nat → Nat} {row : List String} {cell : String} {text : List Char} {n p : Nat} {c : Char}

/-- Without the first column, everything starts by its width and its gap earlier. -/
theorem start_succ (f : Nat → Nat) (i : Nat) : start f (i + 1) = f 0 + 2 + start (fun j => f (j + 1)) i := by
  induction i with
  | zero => simp [start]
  | succ i ih =>
    rw [start, ih, start]
    omega

theorem aligned_nil (f : Nat → Nat) : Aligned (start f) [] [] :=
  ⟨fun _ _ _ _ h => (nomatch h), fun _ _ h => (nomatch h)⟩

/-- The last cell is not padded. -/
theorem aligned_singleton (f : Nat → Nat) (cell : String) : Aligned (start f) [cell] cell.toList := by
  constructor
  · intro i cell' k c hcell hc
    obtain ⟨rfl, rfl⟩ : i = 0 ∧ cell = cell' := by
      cases i with
      | zero => exact ⟨rfl, by simpa using hcell⟩
      | succ i => simp at hcell
    rwa [start, Nat.zero_add]
  · intro p c hc
    exact .inr ⟨0, cell, p, rfl, hc, by rw [start, Nat.zero_add]⟩

/-- A padded cell and a gap take up one column. -/
theorem length_padded (hwide : cell.length ≤ n) :
    (cell.toList ++ List.replicate (n - cell.length) ' ' ++ gap).length = n + 2 := by
  have hlength : cell.toList.length = cell.length := String.length_toList
  simp [gap]
  omega

/-- A column starts with the cell, and is filled up with spaces. -/
theorem padded_cell_or_space (hc : (cell.toList ++ List.replicate (n - cell.length) ' ' ++ gap)[p]? = some c) :
    c = ' ' ∨ cell.toList[p]? = some c := by
  rcases Nat.lt_or_ge p cell.toList.length with hcell | hcell
  · rw [List.append_assoc, List.getElem?_append_left hcell] at hc
    exact .inr hc
  · rw [List.append_assoc, List.getElem?_append_right hcell] at hc
    have hmem := List.mem_of_getElem? hc
    simp [gap] at hmem
    exact .inl (hmem.elim And.right id)

theorem aligned_cons (hwide : cell.length ≤ f 0) (h : Aligned (start fun j => f (j + 1)) row text) :
    Aligned (start f) (cell :: row)
      (cell.toList ++ List.replicate (f 0 - cell.length) ' ' ++ gap ++ text) := by
  have hcolumn := length_padded hwide
  constructor
  · intro i cell' k c hcell hc
    cases i with
    | zero =>
      obtain rfl : cell = cell' := by simpa using hcell
      have hk : k < cell.toList.length := (List.getElem?_eq_some_iff.mp hc).1
      rw [start, Nat.zero_add, List.append_assoc, List.append_assoc, List.getElem?_append_left hk, hc]
    | succ i =>
      rw [start_succ, List.getElem?_append_right (by omega), hcolumn]
      rw [show f 0 + 2 + start (fun j => f (j + 1)) i + k - (f 0 + 2) = start (fun j => f (j + 1)) i + k by omega]
      exact h.cell i cell' k c hcell hc
  · intro p c hc
    rcases Nat.lt_or_ge p (f 0 + 2) with hp | hp
    · rw [List.getElem?_append_left (by omega)] at hc
      refine (padded_cell_or_space hc).imp_right fun hk => ?_
      exact ⟨0, cell, p, rfl, hk, by rw [start, Nat.zero_add]⟩
    · rw [List.getElem?_append_right (by omega), hcolumn] at hc
      refine (h.space _ c hc).imp_right ?_
      rintro ⟨i, cell', k, hcell, hk, hpos⟩
      exact ⟨i + 1, cell', k, hcell, hk, by rw [start_succ]; omega⟩

/-- A row whose cells have columns that are wide enough is written with each cell at its start. -/
theorem exists_rowText (f : Nat → Nat) (hlength : row.length ≤ n)
    (hwide : ∀ j cell, row[j]? = some cell → cell.length ≤ f j) :
    ∃ text, rowText? ((List.range n).map f) row = some text ∧ Aligned (start f) row text := by
  induction row generalizing f n with
  | nil => exact ⟨[], by rw [rowText?], aligned_nil f⟩
  | cons cell row ih =>
    cases row with
    | nil => exact ⟨cell.toList, by rw [rowText?], aligned_singleton f cell⟩
    | cons next row =>
      obtain ⟨n, rfl⟩ : ∃ m, n = m + 1 := ⟨n - 1, by rw [List.length_cons] at hlength; omega⟩
      obtain ⟨text, htext, haligned⟩ := ih (fun j => f (j + 1)) (Nat.le_of_succ_le_succ hlength)
        fun j cell hcell => hwide (j + 1) cell hcell
      have hcell : cell.length ≤ f 0 := hwide 0 cell rfl
      refine ⟨_, ?_, aligned_cons hcell haligned⟩
      rw [List.range_succ_eq_map, List.map_cons, List.map_map, rowText?, if_pos hcell]
      have hshift : (f ∘ Nat.succ) = fun j => f (j + 1) := rfl
      rw [hshift, htext, Option.map_some]

end Rows

/-! ### Lines -/

section Lines

variable {first : Nat → Nat} {row : List String} {text : List Char} {p q : Nat} {c d : Char}

theorem trimEnd_prefix (text : List Char) : trimEnd text <+: text :=
  List.rdropWhile_prefix isBlank text

theorem endsBlank_trimEnd (text : List Char) : endsBlank (trimEnd text) = false := by
  rw [endsBlank]
  cases hlast : (trimEnd text).getLast? with
  | none => rfl
  | some c =>
    have hne : trimEnd text ≠ [] := by
      intro hnil
      rw [hnil] at hlast
      cases hlast
    have hlast' := List.rdropWhile_last_not isBlank text hne
    rw [List.getLast?_eq_some_getLast hne] at hlast
    rw [Option.any_some, ← Option.some.inj hlast]
    exact Bool.eq_false_of_not_eq_true hlast'

/-- Trimming leaves everything up to a character that is no blank. -/
theorem getElem?_trimEnd (hd : text[q]? = some d) (hblank : isBlank d = false) (hp : p ≤ q) :
    (trimEnd text)[p]? = text[p]? := by
  have hcut : trimEnd text ++ text.rtakeWhile isBlank = text := List.rdropWhile_append_rtakeWhile
  -- a place behind what is left would hold a blank
  have hlt : q < (trimEnd text).length := by
    by_contra hge
    rw [← hcut, List.getElem?_append_right (by omega)] at hd
    have := List.mem_rtakeWhile_imp (List.mem_of_getElem? hd)
    rw [hblank] at this
    cases this
  conv_rhs => rw [← hcut]
  rw [List.getElem?_append_left (by omega)]

/-- Trimming takes spaces away only, since no cell ends with a blank. -/
theorem Aligned.trimEnd (h : Aligned first row text) (hcells : ∀ cell ∈ row, endsBlank cell.toList = false) :
    Aligned first row (trimEnd text) := by
  constructor
  · intro i cell k c hcell hc
    -- the last character of the cell keeps the cell
    have hne : cell.toList ≠ [] := by
      intro hnil
      rw [hnil] at hc
      cases hc
    have hlast : cell.toList[cell.toList.length - 1]? = some (cell.toList.getLast hne) := by
      rw [← List.getLast?_eq_getElem?, List.getLast?_eq_some_getLast hne]
    have hblank := hcells cell (List.mem_of_getElem? hcell)
    rw [endsBlank, List.getLast?_eq_some_getLast hne, Option.any_some] at hblank
    have hk : k < cell.toList.length := (List.getElem?_eq_some_iff.mp hc).1
    rw [getElem?_trimEnd (h.cell i cell _ _ hcell hlast) hblank (by omega)]
    exact h.cell i cell k c hcell hc
  · intro p c hc
    obtain ⟨rest, hrest⟩ := trimEnd_prefix text
    refine h.space p c ?_
    rw [← hrest, List.getElem?_append_left (List.getElem?_eq_some_iff.mp hc).1, hc]

/-- Where the cells have no line feed, the line has none. -/
theorem Aligned.not_mem (h : Aligned first row text) (hcells : ∀ cell ∈ row, '\n' ∉ cell.toList) : '\n' ∉ text := by
  intro hmem
  obtain ⟨p, hp⟩ := List.mem_iff_getElem?.mp hmem
  rcases h.space p '\n' hp with hspace | ⟨i, cell, k, hcell, hk, -⟩
  · exact absurd hspace (by decide)
  · exact hcells cell (List.mem_of_getElem? hcell) (List.mem_of_getElem? hk)

end Lines

/-! ### Tables -/

section Tables

variable {headers : List String} {rows : List (List String)}

/-- The rows of a table as they are shown. -/
def shown (headers : List String) (rows : List (List String)) : List (List String) :=
  headers.map Unicode.toUpper :: rows

/-- Rows that can all be written are written one by one. -/
theorem exists_lines {P : List String → List Char → Prop} {ws : List Nat}
    (h : ∀ row ∈ rows, ∃ text, rowText? ws row = some text ∧ P row text) :
    ∃ texts, rows.mapM (line? ws) = some (texts.map fun text => String.ofList (trimEnd text)) ∧
      List.Forall₂ P rows texts := by
  induction rows with
  | nil => exact ⟨[], rfl, .nil⟩
  | cons row rows ih =>
    obtain ⟨⟨text, htext, hrow⟩, hrows⟩ := List.forall_mem_cons.mp h
    obtain ⟨texts, htexts, hforall⟩ := ih hrows
    refine ⟨text :: texts, ?_, .cons hrow hforall⟩
    rw [List.mapM_cons, line?, htext, Option.map_some, htexts]
    rfl

/-- A table always has a text, in which its rows are written at the starts of the columns and then trimmed. -/
theorem exists_render (headers : List String) (rows : List (List String)) :
    ∃ texts : List (List Char), render? headers rows = some (render headers rows) ∧
      (render headers rows).toList = ['\n'].intercalate (texts.map trimEnd) ∧
      List.Forall₂ (Aligned (start (width (shown headers rows)))) (shown headers rows) texts := by
  have hwritten : ∀ row ∈ shown headers rows, ∃ text,
      rowText? ((List.range (columns (shown headers rows))).map (width (shown headers rows))) row = some text ∧
        Aligned (start (width (shown headers rows))) row text :=
    fun row hrow => exists_rowText _ (length_le_columns hrow) fun j cell => length_le_width hrow
  obtain ⟨texts, hlines, haligned⟩ := exists_lines hwritten
  have hrender : render? headers rows =
      some (joinLines (texts.map fun text => String.ofList (trimEnd text))) := by
    rw [shown] at hlines
    simp only [render?, widths?_eq, Option.bind_eq_bind, Option.bind_some, hlines, Option.pure_def]
  refine ⟨texts, ?_, ?_, haligned⟩
  · rw [render, hrender, Option.getD_some]
  · rw [render, hrender, Option.getD_some, joinLines, String.toList_ofList, joinWith_eq, List.map_map]
    congr 1
    refine List.map_congr_left fun text _ => ?_
    rw [Function.comp, String.toList_ofList]

/-- Upper case keeps a header without line feeds and without a blank at its end. -/
theorem forall_shown
    (h : ∀ row ∈ headers :: rows, ∀ cell ∈ row, '\n' ∉ cell.toList ∧ endsBlank cell.toList = false) :
    ∀ row ∈ shown headers rows, ∀ cell ∈ row, '\n' ∉ cell.toList ∧ endsBlank cell.toList = false := by
  obtain ⟨hheaders, hrows⟩ := List.forall_mem_cons.mp h
  refine List.forall_mem_cons.mpr ⟨fun cell hcell => ?_, hrows⟩
  obtain ⟨header, hheader, rfl⟩ := List.mem_map.mp hcell
  obtain ⟨hfeed, hends⟩ := hheaders header hheader
  exact ⟨fun hmem => hfeed (Unicode.mem_of_mem_toUpper (by decide) hmem), Unicode.endsBlank_toUpper hends⟩

/-- **The rows of a table line up.** For all headers and rows, of any numbers of cells, in which no cell holds a
line feed or ends with a blank, the table has a text: each cell finds a column that is wide enough. The text has a
line for the headers, which are in upper case, and one for each row. In each line a cell starts behind the widths
and gaps of the columns before it, all other characters are spaces, and there is no blank at the end. -/
theorem render_aligned
    (h : ∀ row ∈ headers :: rows, ∀ cell ∈ row, '\n' ∉ cell.toList ∧ endsBlank cell.toList = false) :
    render? headers rows = some (render headers rows) ∧
      ((render headers rows).toList.splitOn '\n').length = rows.length + 1 ∧
      List.Forall₂
        (fun row line => Aligned (start (width (shown headers rows))) row line ∧ endsBlank line = false)
        (shown headers rows) ((render headers rows).toList.splitOn '\n') := by
  obtain ⟨texts, hrender, htext, haligned⟩ := exists_render headers rows
  -- what is trimmed is still in line, and has no line feeds
  have hlines : List.Forall₂
      (fun row line => (Aligned (start (width (shown headers rows))) row line ∧ endsBlank line = false) ∧ '\n' ∉ line)
      (shown headers rows) (texts.map trimEnd) := by
    rw [List.forall₂_map_right_iff]
    refine ((List.forall₂_and_left _ _).mpr ⟨forall_shown h, haligned⟩).imp fun row text hrow => ?_
    have htrimmed := hrow.2.trimEnd fun cell hcell => (hrow.1 cell hcell).2
    exact ⟨⟨htrimmed, endsBlank_trimEnd text⟩, htrimmed.not_mem fun cell hcell => (hrow.1 cell hcell).1⟩
  have hfeeds : ∀ line ∈ texts.map trimEnd, '\n' ∉ line :=
    ((List.forall₂_and_left _ _).mp (hlines.imp fun _ _ hrow => ⟨hrow.2, hrow.1⟩).flip).1
  have hlength : (texts.map trimEnd).length = rows.length + 1 := hlines.length_eq.symm
  have hsplit : (render headers rows).toList.splitOn '\n' = texts.map trimEnd := by
    rw [htext]
    exact List.splitOn_intercalate '\n' hfeeds fun hnil => by simp [hnil] at hlength
  rw [hsplit]
  exact ⟨hrender, hlength, hlines.imp fun _ _ hrow => hrow.1⟩

/-- Rows of one to three cells and an empty one, with a header that is longer in upper case. -/
theorem ragged_rows_align :
    let headers := ["straße", "if"]
    let rows := [["7", "", "ü ö"], ["lo", ""], []]
    (∀ row ∈ headers :: rows, ∀ cell ∈ row, '\n' ∉ cell.toList ∧ endsBlank cell.toList = false) ∧
      render headers rows = "STRASSE  IF\n7            ü ö\nlo\n" ∧
      ((render headers rows).toList.splitOn '\n').length = 4 ∧
      List.Forall₂
        (fun row line => Aligned (start (width (shown headers rows))) row line ∧ endsBlank line = false)
        (shown headers rows) ((render headers rows).toList.splitOn '\n') := by
  intro headers rows
  have hcells : ∀ row ∈ headers :: rows, ∀ cell ∈ row, '\n' ∉ cell.toList ∧ endsBlank cell.toList = false := by
    decide
  obtain ⟨-, hlength, hlines⟩ := render_aligned hcells
  exact ⟨hcells, by decide +kernel, hlength, hlines⟩

end Tables

end Table

end RouterShell
