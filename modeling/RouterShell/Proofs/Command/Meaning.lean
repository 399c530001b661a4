import RouterShell.Proofs.Command.Welcome
import RouterShell.Proofs.Lookup.Naming

/-!
# What an offered word means

A completer of one word reads its source twice: to propose the words that are listed there, and to find the
value of a finished word. This module compares the two readings for every source of words: fixed lists, the
interfaces and the namespaces of the network, and tables of names and ids.

## The model

`WordSource` are the sources and `WordSource.Lists` says which words a source lists, each with the value that it
has there. It refers to the data only: the entries of a table in the order in which they were inserted, the
answer to a question about the network. Several interfaces can have one name; of the entries of one name the
last counts.

## What is proved

The value of a listed word is one that is listed for it (`WordSource.exists_listed`), and an offered word is a
listed one, in a form that can be read back (`offered_word_is_listed`). There is one exception: a name of a table
that is a numeral is taken for a number before the table is asked. Then the value is this number and not the id
of the entry, and if the number is too large for an id, the offered name has no value at all.
-/

namespace RouterShell

open Text Line SortedMap

/-- The sources of words. -/
inductive WordSource where
  /-- Words to choose from; any other word will do as well. -/
  | suggested (words : List String)
  /-- Words to choose from, of some kind. -/
  | among (kind : String) (words : List String)
  /-- The interfaces of the active namespace, all or the physical ones. -/
  | links (physical : Bool)
  /-- The named namespaces. -/
  | namespaces
  /-- The names of a table into which entries were inserted in order. -/
  | table (kind : String) (entries : List (String × Nat))

namespace WordSource

/-- The completer that proposes the words of a source. -/
def completer : WordSource → Completer
  | .suggested words => .suggesting words
  | .among kind words => .among kind words
  | .links physical => .ofLinks physical
  | .namespaces => .namespaces
  | .table kind entries => .table kind (.ofList entries)

/-- The words that a source has in a state of the network. -/
def words (net : Network) : WordSource → List String
  | .suggested words => words
  | .among _ words => words
  | .links physical => (Completer.linkNames physical net).value.map Prod.fst
  | .namespaces => (Completer.namespaceNames net).value
  | .table _ entries => (Lookup.ofList entries).names

/-- A source lists a word with a value. -/
inductive Lists (net : Network) : WordSource → String → Value → Prop where
  /-- A suggested word stands for itself. -/
  | suggested {words : List String} {w : String} : w ∈ words → Lists net (.suggested words) w (.text w)
  /-- A word of a kind stands for itself. -/
  | among {kind : String} {words : List String} {w : String} :
      w ∈ words → Lists net (.among kind words) w (.text w)
  /-- The name of an interface stands for it, with its number. -/
  | link {physical : Bool} {links : List Link} {l : Link} :
      net.links.value = .ok links → l ∈ links → (physical = true → l.isPhysical = true) →
      Lists net (.links physical) l.name (.link l.name l.index)
  /-- The name of a namespace stands for itself. -/
  | namespaceName {names : List String} {w : String} :
      net.namespaces.value = .ok names → w ∈ names → Lists net .namespaces w (.text w)
  /-- A name of a table stands for the id that was inserted last for it. -/
  | entry {kind : String} {before after : List (String × Nat)} {w : String} {id : Nat} :
      (∀ e ∈ after, e.1 ≠ w) → Lists net (.table kind (before ++ (w, id) :: after)) w (.id id)

/-- A name of a table that is taken for a number. -/
def TakesForNumber (src : WordSource) (w : String) : Prop :=
  (∃ kind entries, src = .table kind entries) ∧ Lookup.isNumeral w.toList = true

end WordSource

/-! ### What is listed -/

section Listed

variable {net : Network} {w : String}

/-- A name of a table has a last entry. -/
theorem Lookup.exists_entry {entries : List (String × Nat)} (h : w ∈ (ofList entries).names) :
    ∃ before id after, entries = before ++ (w, id) :: after ∧ (∀ e ∈ after, e.1 ≠ w) ∧
      (ofList entries).ids.find? w = some id := by
  obtain ⟨id, hid⟩ := exists_find?_iff.mpr h
  have hlast := hid
  rw [ofList_eq] at hlast
  obtain ⟨before, after, hentries, hafter⟩ := exists_last hlast
  exact ⟨before, id, after, hentries, hafter, hid⟩

theorem Completer.mem_linkNames {physical : Bool} {e : String × Nat} (h : e ∈ (linkNames physical net).value) :
    ∃ links, net.links.value = .ok links ∧
      ∃ l ∈ links, (physical = true → l.isPhysical = true) ∧ e = (l.name, l.index) := by
  rw [linkNames, Logged.value_bind] at h
  cases hlinks : net.links.value with
  | error fault =>
    rw [hlinks] at h
    exact absurd h List.not_mem_nil
  | ok links =>
    rw [hlinks] at h
    obtain ⟨l, hl, rfl⟩ := List.mem_map.mp (List.mem_mergeSort.mp h)
    obtain ⟨hmem, hwanted⟩ := List.mem_filter.mp hl
    refine ⟨links, rfl, l, hmem, fun hphysical => ?_, rfl⟩
    rwa [hphysical, Bool.not_true, Bool.false_or] at hwanted

theorem Completer.mem_namespaceNames (h : w ∈ (namespaceNames net).value) :
    ∃ names, net.namespaces.value = .ok names ∧ w ∈ names := by
  rw [namespaceNames, Logged.value_bind] at h
  cases hnames : net.namespaces.value with
  | error fault =>
    rw [hnames] at h
    exact absurd h List.not_mem_nil
  | ok names =>
    rw [hnames] at h
    exact ⟨names, rfl, h⟩

end Listed

/-! ### Two readings of a source -/

namespace WordSource

section Readings

variable {net : Network} {src : WordSource} {w : String}

theorem candidates_value (src : WordSource) (net : Network) (text : List Char) :
    (src.completer.candidates net text).value = Complete.words text (src.words net) := by
  cases src <;> rfl

/-- An interface that is found under a name is listed under it. -/
theorem lists_of_links {physical : Bool} {v : Value}
    (h : ((Completer.ofLinks physical).parse net w).value = .ok v) : (links physical).Lists net w v := by
  simp only [Completer.ofLinks, Logged.value_bind, Logged.value_pure] at h
  split at h
  · next name index hfind =>
    obtain ⟨found, hlinks, l, hl, hphysical, hentry⟩ :=
      Completer.mem_linkNames (List.mem_of_find?_eq_some hfind)
    obtain ⟨rfl, rfl⟩ := Prod.mk.inj hentry
    have hname := List.find?_some hfind
    rw [← Except.ok.inj h, ← beq_iff_eq.mp hname]
    exact .link hlinks hl hphysical
  · cases h

/-- What a table takes a word for: a number if it is a numeral, and otherwise the id of the name. -/
theorem parse_table (kind : String) (t : Lookup) (net : Network) (w : String) :
    ((Completer.table kind t).parse net w).value =
      if Lookup.isNumeral w.toList = true then
        if Decimal.valueFrom 0 w.toList ≤ Decimal.max32 then .ok (.id (Decimal.valueFrom 0 w.toList))
        else .error (.invalidFor w kind)
      else match t.ids.find? w with
        | some id => .ok (.id id)
        | none => .error (.invalidFor w kind) := by
  rw [Completer.table, Logged.value_pure]
  by_cases hnumeral : Lookup.isNumeral w.toList = true
  · rw [if_pos hnumeral, Lookup.id?_of_isNumeral t hnumeral]
    by_cases hmax : Decimal.valueFrom 0 w.toList ≤ Decimal.max32
    · rw [if_pos hmax, if_pos hmax]
    · rw [if_neg hmax, if_neg hmax]
  · have hid := Lookup.id?_of_not_isNumeral t (Bool.eq_false_of_not_eq_true hnumeral)
    cases hfind : t.ids.find? w with
    | none => simp only [if_neg hnumeral, hid.trans hfind]
    | some id => simp only [if_neg hnumeral, hid.trans hfind]

/-- A word that a source has is listed there, and its value is the listed one, unless the word is taken for a
number. -/
theorem exists_listed (h : w ∈ src.words net) :
    ∃ v, src.Lists net w v ∧ (¬ src.TakesForNumber w → (src.completer.parse net w).value = .ok v) := by
  cases src with
  | suggested words => exact ⟨.text w, .suggested h, fun _ => rfl⟩
  | among kind words =>
    have hmem : w ∈ words := h
    refine ⟨.text w, .among h, fun _ => ?_⟩
    show (if words.contains w then _ else _) = _
    rw [if_pos (List.contains_iff_mem.mpr hmem)]
  | links physical =>
    obtain ⟨v, hv⟩ := takes_links physical w h
    exact ⟨v, lists_of_links hv, fun _ => hv⟩
  | namespaces =>
    have hmem : w ∈ (Completer.namespaceNames net).value := h
    obtain ⟨names, hnames, hlisted⟩ := Completer.mem_namespaceNames hmem
    refine ⟨.text w, .namespaceName hnames hlisted, fun _ => ?_⟩
    show (if (Completer.namespaceNames net).value.contains w then _ else _) = _
    rw [if_pos (List.contains_iff_mem.mpr hmem)]
  | table kind entries =>
    obtain ⟨before, id, after, rfl, hafter, hid⟩ := Lookup.exists_entry h
    refine ⟨.id id, .entry hafter, fun hnumber => ?_⟩
    have hname : ¬ Lookup.isNumeral w.toList = true := fun hnumeral => hnumber ⟨⟨kind, _, rfl⟩, hnumeral⟩
    refine (parse_table kind _ net w).trans ?_
    rw [if_neg hname, hid]

end Readings

end WordSource

/-- **An offered word is a listed one, and unless it is a numeral among the names of a table, its value is the
listed value.** For every source of words, every state of the network and every text before the cursor, a
proposal is the written form of a word that the source lists, and is read back as this word and no other.

If it is not a name of a table that is a numeral, the completer takes the word for a value with which the source
lists it. If it is, it is taken for its number, whatever id the table has for it, and refused if
the number is too large. -/
theorem offered_word_is_listed {src : WordSource} {net : Network} {text : List Char} {c : Candidate}
    (h : c ∈ (src.completer.candidates net text).value) :
    ∃ w v, c.text = String.ofList (quote w) ∧ tokenize c.text.toList = .ok [⟨w, needsQuotes w, 0⟩] ∧
      src.Lists net w v ∧
      (¬ src.TakesForNumber w → (src.completer.parse net w).value = .ok v) ∧
      ∀ kind entries, src = .table kind entries → Lookup.isNumeral w.toList = true →
        (src.completer.parse net w).value =
          if Decimal.valueFrom 0 w.toList ≤ Decimal.max32 then .ok (.id (Decimal.valueFrom 0 w.toList))
          else .error (.invalidFor w kind) := by
  rw [src.candidates_value] at h
  obtain ⟨w, hmem, -, -, rfl⟩ := Complete.mem_words.mp h
  obtain ⟨v, hlists, hvalue⟩ := WordSource.exists_listed hmem
  refine ⟨w, v, rfl, ?_, hlists, hvalue, ?_⟩
  · rw [String.toList_ofList]
    exact tokenize_quote w
  · rintro kind entries rfl hnumeral
    refine (WordSource.parse_table kind _ net w).trans ?_
    rw [if_pos hnumeral]

/-- Of two entries for `main`, the last one counts. -/
theorem main_is_listed_last :
    let src := WordSource.table "table" [("main", 1), ("main", 254), ("100", 7)]
    let net : Network := ⟨.memory .empty [], none⟩
    (⟨"main", 2⟩ : Candidate) ∈ (src.completer.candidates net "ma".toList).value ∧
      ∃ w v, "main" = String.ofList (quote w) ∧ tokenize "main".toList = .ok [⟨w, needsQuotes w, 0⟩] ∧
        src.Lists net w v ∧ (¬ src.TakesForNumber w → (src.completer.parse net w).value = .ok v) ∧
        (src.completer.parse net "main").value = .ok (.id 254) := by
  intro src net
  have hmem : (⟨"main", 2⟩ : Candidate) ∈ (src.completer.candidates net "ma".toList).value := by decide
  obtain ⟨w, v, htext, hread, hlists, hvalue, -⟩ := offered_word_is_listed hmem
  exact ⟨hmem, w, v, htext, hread, hlists, hvalue, by decide⟩

/-- The names `100` and `4294967296` of a table are proposed, but the first is taken for another id and the
second for none. -/
theorem numeral_name_misread :
    let src := WordSource.table "table" [("100", 7), ("4294967296", 5)]
    let net : Network := ⟨.memory .empty [], none⟩
    (src.completer.candidates net []).value = [⟨"100", 0⟩, ⟨"4294967296", 0⟩] ∧
      src.Lists net "100" (.id 7) ∧ (src.completer.parse net "100").value = .ok (.id 100) ∧
      src.Lists net "4294967296" (.id 5) ∧
      (src.completer.parse net "4294967296").value = .error (.invalidFor "4294967296" "table") := by
  intro src net
  have hfirst : src.Lists net "100" (.id 7) :=
    @WordSource.Lists.entry net "table" [] [("4294967296", 5)] "100" 7 (by decide)
  have hlast : src.Lists net "4294967296" (.id 5) :=
    @WordSource.Lists.entry net "table" [("100", 7)] [] "4294967296" 5 (by decide)
  exact ⟨by decide, hfirst, by decide, hlast, by decide⟩

end RouterShell
