import Mathlib.Data.List.Forall2
import Mathlib.Data.List.Sort
import RouterShell.Proofs.Line.Typing
import RouterShell.Proofs.Lookup.Naming
import RouterShell.Proofs.Text.Lines

/-!
# Tables from files

The names of routing tables, protocols and scopes come with the system, and its owner adds to them in files.
Such files are written by hand, so a line can be anything. This module says which lines of which files make the
table, over any disk and any bytes.

## The model

`EntryLine` is a line that is an entry, said without cutting it into words, and `Entries` goes through lines and
passes over all others. What is read of a file stops at the first line that is no text (`Reads`). `Loads` goes
through the directories up to the first one that has the file, and then through its additional files in the
order of their names.

## What is proved

A loaded table is made of the defaults and then of the entries that `Loads` gives, and it gives just one list of
them (`load_adds_read_entries`). In a file whose lines are all texts, no line gets in the way of another
(`reads_iff_of_texts`). One that is no text hides all lines behind it (`entry_behind_bytes_lost`).
-/

namespace RouterShell

open Text Line

/-! ### Directories -/

theorem nodup_eraseDups {α : Type} [BEq α] [LawfulBEq α] (l : List α) : l.eraseDups.Nodup := by
  cases l with
  | nil => exact List.nodup_nil
  | cons a l =>
    rw [List.eraseDups_cons, List.nodup_cons]
    exact ⟨by simp [List.mem_eraseDups], nodup_eraseDups (l.filter fun b => !b == a)⟩
termination_by l.length
decreasing_by exact Nat.lt_succ_of_le (List.length_filter_le _ _)

namespace Disk

variable {disk : Disk} {dir file : String}

/-- The names in a directory, in order and each once. -/
theorem pairwise_names (disk : Disk) (dir : String) : (disk.names dir).Pairwise (· < ·) := by
  rw [names]
  split
  · exact .nil
  · next found _ =>
    generalize hbelow : (disk.entries.filterMap fun e =>
      if found.isPrefixOf e.1 then (e.1.drop found.length).head? else none) = below
    have hle : (below.eraseDups.mergeSort fun a b => decide (a ≤ b)).Pairwise fun a b => decide (a ≤ b) = true :=
      List.pairwise_mergeSort (fun a b c => by simpa using String.le_trans)
        (fun a b => by simpa using String.le_total a b) _
    have hne : (below.eraseDups.mergeSort fun a b => decide (a ≤ b)).Nodup :=
      (List.mergeSort_perm _ _).nodup_iff.mpr (nodup_eraseDups below)
    refine (hle.and hne).imp fun hab => ?_
    exact String.not_le.mp fun hba => hab.2 (String.le_antisymm (of_decide_eq_true hab.1) hba)

/-- Something in a directory has this name. -/
def Below (disk : Disk) (dir file : String) : Prop :=
  ∃ found e, disk.place dir = .ok found ∧ e ∈ disk.entries ∧ found ++ [file] <+: e.1

theorem head?_drop_eq_some_iff {l found : List String} :
    (if found.isPrefixOf l then (l.drop found.length).head? else none) = some file ↔ found ++ [file] <+: l := by
  constructor
  · intro h
    split at h
    · next hprefix =>
      obtain ⟨below, rfl⟩ := List.isPrefixOf_iff_prefix.mp hprefix
      rw [List.drop_left, List.head?_eq_some_iff] at h
      obtain ⟨rest, rfl⟩ := h
      exact ⟨rest, by rw [List.append_assoc, List.singleton_append]⟩
    · cases h
  · rintro ⟨rest, rfl⟩
    simp [List.append_assoc]

theorem mem_names_iff : file ∈ disk.names dir ↔ disk.Below dir file := by
  rw [names, Below]
  split
  · next hplace => simp [hplace]
  · next found hplace =>
    rw [List.mem_mergeSort, List.mem_eraseDups, List.mem_filterMap]
    simp only [head?_drop_eq_some_iff, hplace, Except.ok.injEq]
    exact ⟨fun ⟨e, he⟩ => ⟨found, e, rfl, he⟩, fun ⟨_, e, hfound, he⟩ => ⟨e, hfound ▸ he⟩⟩

end Disk

namespace Lookup

variable {disk : Disk} {name path dir : String} {id : Nat} {line : List Char} {bytes : List UInt8}
  {lines : List (List UInt8)} {es : List (String × Nat)}

/-! ### Lines -/

/-- A line that is an entry: digits and a name, with blanks between them and perhaps around them. -/
inductive EntryLine : List Char → String → Nat → Prop where
  /-- The blanks, the digits, the blanks between, the name and the blanks at the end. -/
  | intro {b digits g name e : List Char} :
      Blanks b → isNumeral digits = true → Decimal.valueFrom 0 digits ≤ Decimal.max32 →
      Blanks g → g ≠ [] → name ≠ [] → (∀ c ∈ name, isBlank c = false) → Blanks e →
      EntryLine (b ++ digits ++ g ++ name ++ e) (String.ofList name) (Decimal.valueFrom 0 digits)

theorem not_blank_of_isDigit {c : Char} (h : Decimal.isDigit c = true) : isBlank c = false := by
  simp only [Decimal.isDigit, Bool.and_eq_true, decide_eq_true_eq, Char.le_def, UInt32.le_iff_toNat_le] at h
  have hlow : 48 ≤ c.toNat := h.1
  have hhigh : c.toNat ≤ 57 := h.2
  simp [isBlank]
  omega

/-- The words of an entry are the digits and the name. -/
theorem words_of_entry {b digits g name e : List Char} (hb : Blanks b) (hdigits : isNumeral digits = true)
    (hg : Blanks g) (hgap : g ≠ []) (hne : name ≠ []) (hname : ∀ c ∈ name, isBlank c = false) (he : Blanks e) :
    words (b ++ digits ++ g ++ name ++ e) = [digits, name] := by
  simp only [isNumeral, Bool.and_eq_true, Bool.not_eq_true', List.isEmpty_eq_false_iff, List.all_eq_true] at hdigits
  have hblank : ∀ c ∈ digits, isBlank c = false := fun c hc => not_blank_of_isDigit (hdigits.2 c hc)
  have hgap : Boundary (g ++ (name ++ e)) := by
    obtain ⟨c, g, rfl⟩ := List.exists_cons_of_ne_nil hgap
    exact boundary_cons (hg c List.mem_cons_self) _
  have hend : Boundary e := by simpa using he.boundary_append boundary_nil
  rw [List.append_assoc, List.append_assoc, List.append_assoc, words_blanks_append hb,
    words_word_append hdigits.1 hblank hgap, words_blanks_append hg, words_word_append hne hname hend,
    ← List.append_nil e, words_blanks_append he, words_nil]

/-- The lines that are read as an entry are those that are one. -/
theorem entryLine_iff : EntryLine line name id ↔ entry? line = some (name, id) := by
  constructor
  · rintro ⟨hb, hnumeral, hmax, hg, hgap, hne, hname, he⟩
    unfold entry?
    rw [words_of_entry hb hnumeral hg hgap hne hname he]
    simp [readAtMost_of_isNumeral hnumeral, hmax]
  · intro h
    unfold entry? at h
    split at h
    · next digits name' hwords =>
      obtain ⟨id', hread, heq⟩ := Option.map_eq_some_iff.mp h
      obtain ⟨rfl, rfl⟩ := Prod.mk.inj heq
      obtain ⟨hnumeral, rfl, hmax⟩ := readAtMost_eq_some_iff.mp hread
      obtain ⟨b, s, rfl, hb, -, -, hs, hwords⟩ := exists_of_words_eq_cons hwords
      obtain ⟨g, e, rfl, hg, hne, hname, -, hwords⟩ := exists_of_words_eq_cons hwords
      have hgap : g ≠ [] := by
        rintro rfl
        obtain ⟨c, w, rfl⟩ := List.exists_cons_of_ne_nil hne
        exact absurd (hs c (w ++ e) rfl) (by simp [hname c List.mem_cons_self])
      rw [← List.append_assoc, ← List.append_assoc]
      exact .intro hb hnumeral hmax hg hgap hne hname (blanks_of_words_eq_nil hwords)
    · cases h

/-- The entries of lines, in order. A line that is no entry adds nothing, whatever its bytes are. -/
inductive Entries : List (List UInt8) → List (String × Nat) → Prop where
  /-- No lines, no entries. -/
  | nil : Entries [] []
  /-- A line that is an entry. -/
  | entry {line : List Char} {name : String} {id : Nat} {lines : List (List UInt8)} {es : List (String × Nat)} :
      EntryLine line name id → Entries lines es → Entries (utf8 line :: lines) ((name, id) :: es)
  /-- Any other line. -/
  | other {bytes : List UInt8} {lines : List (List UInt8)} {es : List (String × Nat)} :
      (∀ line name id, EntryLine line name id → utf8 line ≠ bytes) → Entries lines es → Entries (bytes :: lines) es

/-- The entry that the bytes of a line spell. -/
def spelledEntry (bytes : List UInt8) : Option (String × Nat) := (decode bytes).bind fun s => entry? s.toList

theorem spelledEntry_eq_some_iff :
    spelledEntry bytes = some (name, id) ↔ ∃ line, EntryLine line name id ∧ utf8 line = bytes := by
  rw [spelledEntry, Option.bind_eq_some_iff]
  constructor
  · rintro ⟨s, hdecode, hentry⟩
    exact ⟨s.toList, entryLine_iff.mpr hentry, decode_eq_some_iff.mp hdecode⟩
  · rintro ⟨line, hentry, hbytes⟩
    refine ⟨String.ofList line, decode_eq_some_iff.mpr ?_, ?_⟩
    · rwa [String.toList_ofList]
    · rw [String.toList_ofList]
      exact entryLine_iff.mp hentry

theorem spelledEntry_eq_none_iff :
    spelledEntry bytes = none ↔ ∀ line name id, EntryLine line name id → utf8 line ≠ bytes := by
  rw [Option.eq_none_iff_forall_ne_some]
  constructor
  · intro h line name id hentry hbytes
    exact h (name, id) (spelledEntry_eq_some_iff.mpr ⟨line, hentry, hbytes⟩)
  · rintro h ⟨name, id⟩ hsome
    obtain ⟨line, hentry, hbytes⟩ := spelledEntry_eq_some_iff.mp hsome
    exact h line name id hentry hbytes

theorem entries_iff : Entries lines es ↔ lines.filterMap spelledEntry = es := by
  constructor
  · intro h
    induction h with
    | nil => rfl
    | entry hentry _ ih => rw [List.filterMap_cons_some (spelledEntry_eq_some_iff.mpr ⟨_, hentry, rfl⟩), ih]
    | other hother _ ih => rw [List.filterMap_cons_none (spelledEntry_eq_none_iff.mpr hother), ih]
  · rintro rfl
    induction lines with
    | nil => exact .nil
    | cons bytes lines ih =>
      cases hline : spelledEntry bytes with
      | none =>
        rw [List.filterMap_cons_none hline]
        exact .other (spelledEntry_eq_none_iff.mp hline) ih
      | some e =>
        obtain ⟨name, id⟩ := e
        obtain ⟨line, hentry, rfl⟩ := spelledEntry_eq_some_iff.mp hline
        rw [List.filterMap_cons_some hline]
        exact .entry hentry ih

/-! ### Files -/

/-- What is read of a file: the entries of its lines up to the first one that is no text. -/
def Reads (bytes : List UInt8) (es : List (String × Nat)) : Prop :=
  ∃ lines rest, Lined 0x0A 0x0D bytes (lines ++ rest) ∧ (∀ l ∈ lines, IsText l) ∧
    (∀ l, rest.head? = some l → ¬ IsText l) ∧ Entries lines es

/-- The entries that are read of a file. -/
def fileEntries (bytes : List UInt8) : List (String × Nat) :=
  (textLines bytes).filterMap fun s => entry? s.toList

theorem filterMap_spelledEntry_linesOf (texts : List String) :
    (linesOf texts).filterMap spelledEntry = texts.filterMap fun s => entry? s.toList := by
  rw [linesOf, List.filterMap_map]
  refine List.filterMap_congr fun s _ => ?_
  rw [Function.comp_apply, spelledEntry, decode_utf8, Option.bind_some]

theorem reads_iff : Reads bytes es ↔ fileEntries bytes = es := by
  constructor
  · rintro ⟨lines, rest, hlined, htext, hrest, hentries⟩
    obtain ⟨texts, rfl⟩ := exists_linesOf htext
    rw [fileEntries, textLines_eq_iff.mpr ⟨rest, hlined, hrest⟩, ← filterMap_spelledEntry_linesOf,
      entries_iff.mp hentries]
  · rintro rfl
    obtain ⟨rest, hlined, hrest⟩ := textLines_eq_iff.mp (rfl : textLines bytes = _)
    exact ⟨linesOf (textLines bytes), rest, hlined, fun _ => isText_of_mem_linesOf, hrest,
      entries_iff.mpr (filterMap_spelledEntry_linesOf _)⟩

/-- In a file whose lines are all texts, every line that is an entry counts, and no other line matters. -/
theorem reads_iff_of_texts (hlines : Lined 0x0A 0x0D bytes lines) (htext : ∀ l ∈ lines, IsText l) :
    Reads bytes es ↔ Entries lines es := by
  obtain ⟨texts, rfl⟩ := exists_linesOf htext
  rw [← List.append_nil (linesOf texts)] at hlines
  rw [reads_iff, entries_iff, fileEntries, textLines_eq_iff.mpr ⟨[], hlines, by simp⟩, filterMap_spelledEntry_linesOf]

/-- A file adds the entries that are read of it. -/
theorem addFile_ofList (entries : List (String × Nat)) (bytes : List UInt8) :
    (ofList entries).addFile bytes = ofList (entries ++ fileEntries bytes) := by
  rw [ofList, ofList, List.foldl_append, fileEntries, List.foldl_filterMap, addFile]
  congr 1
  funext t line
  rw [addLine]
  cases entry? line.toList <;> rfl

/-! ### Tables -/

/-- The names `*.conf` in a directory, in order. -/
structure Snippets (disk : Disk) (dir : String) (files : List String) : Prop where
  /-- Each name comes once, and after the smaller ones. -/
  ordered : files.Pairwise (· < ·)
  /-- All names of this form in the directory, and no others. -/
  mem_iff : ∀ file, file ∈ files ↔ disk.Below dir file ∧ Path.extension file = some "conf"

/-- What is read of a path. -/
inductive ReadsPath (disk : Disk) (path : String) : List (String × Nat) → Prop where
  /-- A regular file. -/
  | file {bytes : List UInt8} {es : List (String × Nat)} :
      disk.fileBytes? path = some bytes → Reads bytes es → ReadsPath disk path es
  /-- Nothing is read of anything else. -/
  | other : disk.fileBytes? path = none → ReadsPath disk path []

/-- What a table takes from directories: the entries in the first one that has the file, those of the file itself
first. -/
inductive Loads (disk : Disk) (name : String) : List String → List (String × Nat) → Prop where
  /-- No directory has the file. -/
  | none : Loads disk name [] []
  /-- This directory has the file. -/
  | found {dir : String} {dirs : List String} {bytes : List UInt8} {es : List (String × Nat)} {files : List String}
      {ess : List (List (String × Nat))} :
      disk.fileBytes? (Path.join dir name) = some bytes → Reads bytes es →
      Snippets disk (Path.join dir (name ++ ".d")) files →
      List.Forall₂ (fun file => ReadsPath disk (Path.join (Path.join dir (name ++ ".d")) file)) files ess →
      Loads disk name (dir :: dirs) (es ++ ess.flatten)
  /-- This directory does not have the file. -/
  | further {dir : String} {dirs : List String} {es : List (String × Nat)} :
      disk.fileBytes? (Path.join dir name) = none → Loads disk name dirs es → Loads disk name (dir :: dirs) es

/-- The names that a directory has for additional files. -/
def snippetNames (disk : Disk) (dir : String) : List String :=
  (disk.names dir).filter fun file => Path.extension file == some "conf"

theorem snippets_iff {files : List String} : Snippets disk dir files ↔ snippetNames disk dir = files := by
  have hordered : (snippetNames disk dir).Pairwise (· < ·) := (disk.pairwise_names dir).filter _
  have hmem : ∀ file, file ∈ snippetNames disk dir ↔ disk.Below dir file ∧ Path.extension file = some "conf" :=
    fun file => by rw [snippetNames, List.mem_filter, Disk.mem_names_iff, beq_iff_eq]
  constructor
  · intro h
    exact hordered.eq_of_mem_iff h.ordered fun file => by rw [hmem, h.mem_iff]
  · rintro rfl
    exact ⟨hordered, hmem⟩

/-- The entries that are read of a path. -/
def pathEntries (disk : Disk) (path : String) : List (String × Nat) :=
  fileEntries ((disk.fileBytes? path).getD [])

theorem readsPath_iff : ReadsPath disk path es ↔ pathEntries disk path = es := by
  rw [pathEntries]
  cases hbytes : disk.fileBytes? path with
  | none =>
    constructor
    · rintro (⟨h, -⟩ | -)
      · rw [hbytes] at h
        cases h
      · rfl
    · rintro rfl
      exact .other hbytes
  | some bytes =>
    rw [Option.getD_some, ← reads_iff]
    constructor
    · rintro (⟨h, hreads⟩ | h)
      · rw [hbytes] at h
        rwa [Option.some.inj h]
      · rw [hbytes] at h
        cases h
    · exact .file hbytes

theorem forall₂_readsPath_iff {paths : String → String} {files : List String} {ess : List (List (String × Nat))} :
    List.Forall₂ (fun file => ReadsPath disk (paths file)) files ess ↔
      files.map (fun file => pathEntries disk (paths file)) = ess := by
  have hreads : (fun file => ReadsPath disk (paths file)) = fun file es => pathEntries disk (paths file) = es := by
    funext file es
    exact propext readsPath_iff
  rw [hreads, ← List.forall₂_map_left_iff (R := (· = ·)), List.forall₂_eq_eq_eq]

/-- The entries that a table takes from directories. -/
def loadedEntries (disk : Disk) (name : String) : List String → List (String × Nat)
  | [] => []
  | dir :: dirs =>
    if (disk.fileBytes? (Path.join dir name)).isSome then
      (Path.join dir name :: additions disk (Path.join dir (name ++ ".d"))).flatMap (pathEntries disk)
    else loadedEntries disk name dirs

theorem loads_iff {dirs : List String} : Loads disk name dirs es ↔ loadedEntries disk name dirs = es := by
  induction dirs with
  | nil =>
    constructor
    · rintro ⟨⟩
      rfl
    · rintro rfl
      exact .none
  | cons dir dirs ih =>
    cases hfile : disk.fileBytes? (Path.join dir name) with
    | none =>
      rw [loadedEntries, hfile, if_neg (by simp), ← ih]
      constructor
      · rintro (_ | ⟨h, -, -, -⟩ | ⟨-, h⟩)
        · rw [hfile] at h
          cases h
        · exact h
      · exact .further hfile
    | some bytes =>
      have hentries : loadedEntries disk name (dir :: dirs) = fileEntries bytes ++
          ((snippetNames disk (Path.join dir (name ++ ".d"))).map fun file =>
            pathEntries disk (Path.join (Path.join dir (name ++ ".d")) file)).flatten := by
        rw [loadedEntries, hfile, if_pos (by simp), List.flatMap_cons, pathEntries, hfile, additions,
          List.flatMap_map, List.flatMap_def]
        rfl
      rw [hentries]
      constructor
      · rintro (_ | ⟨h, hreads, hnames, hfiles⟩ | ⟨h, -⟩)
        · rw [hfile] at h
          cases h
          rw [reads_iff.mp hreads, snippets_iff.mp hnames, forall₂_readsPath_iff.mp hfiles]
        · rw [hfile] at h
          cases h
      · rintro rfl
        exact .found hfile (reads_iff.mpr rfl) (snippets_iff.mpr rfl) (forall₂_readsPath_iff.mpr rfl)

/-- Files add their entries one after the other. -/
theorem foldl_addFile (disk : Disk) (entries : List (String × Nat)) (paths : List String) :
    paths.foldl (fun t path => t.addFile ((disk.fileBytes? path).getD [])) (ofList entries) =
      ofList (entries ++ paths.flatMap (pathEntries disk)) := by
  induction paths generalizing entries with
  | nil => rw [List.flatMap_nil, List.append_nil, List.foldl_nil]
  | cons path paths ih =>
    rw [List.foldl_cons, addFile_ofList, ih, List.flatMap_cons, pathEntries, List.append_assoc]

theorem load_eq (disk : Disk) (name : String) (defaults : List (String × Nat)) (dirs : List String) :
    load disk name defaults dirs = ofList (defaults ++ loadedEntries disk name dirs) := by
  induction dirs with
  | nil =>
    rw [loadedEntries, List.append_nil]
    rfl
  | cons dir dirs ih =>
    cases hfile : (disk.fileBytes? (Path.join dir name)).isSome with
    | true =>
      rw [loadedEntries, if_pos hfile, ← foldl_addFile]
      simp only [load, List.find?_cons, hfile]
    | false =>
      rw [loadedEntries, hfile, if_neg Bool.false_ne_true, ← ih]
      simp only [load, List.find?_cons, hfile]

/-- **A loaded table is what the defaults and the entries read of its files make, in this order.** Over any disk,
whatever the bytes of the files, the entries are those that `Loads` describes and no others, and they do not
depend on the defaults. -/
theorem load_adds_read_entries (disk : Disk) (name : String) (dirs : List String) :
    ∃ entries, (∀ es, Loads disk name dirs es ↔ es = entries) ∧
      ∀ defaults, load disk name defaults dirs = ofList (defaults ++ entries) :=
  ⟨loadedEntries disk name dirs, fun _ => loads_iff.trans eq_comm, fun defaults => load_eq disk name defaults dirs⟩

/-- A line that is no text stands between two entries. It hides the second one, which the lines hold all the
same. -/
theorem entry_behind_bytes_lost :
    let bytes : List UInt8 := [49, 32, 97, 10, 255, 10, 50, 32, 98, 10]
    let lines : List (List UInt8) := [[49, 32, 97], [255], [50, 32, 98]]
    let disk : Disk := ⟨[(["d", "rt_tables"], .file 0o644 bytes)], []⟩
    Lined 0x0A 0x0D bytes lines ∧ Entries lines [("a", 1), ("b", 2)] ∧
      load disk "rt_tables" [] ["d"] = ofList [("a", 1)] ∧
      load disk "rt_tables" [] ["d"] ≠ ofList [("a", 1), ("b", 2)] := by
  intro bytes lines disk
  have hload : load disk "rt_tables" [] ["d"] = ofList [("a", 1)] := by decide +kernel
  refine ⟨lined_iff.mpr (by decide), entries_iff.mpr (by decide), hload, ?_⟩
  rw [hload]
  decide

end Lookup

end RouterShell
