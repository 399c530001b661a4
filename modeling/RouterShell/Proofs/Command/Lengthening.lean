import RouterShell.Command.Tree
import RouterShell.Proofs.Abbreviation

/-!
# Longer abbreviations

Whoever types a few letters more of a command word wants the same command. The word may then be a name itself,
or begin fewer names than before, so another rule may select the entry. This module proves that it is the same
entry on every level, whatever names there are, names that begin other ones included.

## The model

`Lengthens` says that words have got more letters of the names that they stand for. It does not say how many:
each word may stay as it is or become the whole name.

## What is proved

A word that lies between an abbreviation and the selected name selects the same entry
(`abbreviate_lengthened`). So going down a level is the same (`resolveFrom_lengthened`), and so is all that is
found in a tree, also if the words lead nowhere further on (`resolve_lengthened`). Nothing has to be known of
the tree for that.
-/

namespace RouterShell

open SortedMap

variable {α : Type}

/-- What is found under a name is an entry of this name. -/
theorem SortedMap.mem_of_find? {m : SortedMap String α} {k : String} {a : α} (h : m.find? k = some a) :
    (k, a) ∈ m := by
  obtain ⟨e, he, rfl⟩ := Option.map_eq_some_iff.mp h
  have hname : e.1 = k := by simpa using List.find?_some he
  rw [← hname]
  exact List.mem_of_find?_eq_some he

section Names

variable {m : SortedMap String α} {word longer name : String} {a : α}

/-- A word selects the entry of its name, or the only entry whose name it begins. -/
theorem abbreviate_cases (h : abbreviate m word = some (name, a)) :
    word ≠ "" ∧ (name = word ∨ m.find? word = none ∧ extensions m word = [(name, a)]) := by
  unfold abbreviate at h
  by_cases hword : word = ""
  · rw [if_pos hword] at h
    cases h
  rw [if_neg hword] at h
  refine ⟨hword, ?_⟩
  cases hfind : m.find? word with
  | some b =>
    rw [hfind] at h
    exact Or.inl (Prod.mk.inj (Option.some.inj h)).1.symm
  | none =>
    simp only [hfind] at h
    split at h
    · next hext => exact Or.inr ⟨rfl, hext.trans (by rw [Option.some.inj h])⟩
    · cases h

/-- A word begins the name that it selects. -/
theorem begins_of_abbreviate (h : abbreviate m word = some (name, a)) : word.toList <+: name.toList := by
  obtain ⟨-, rfl | ⟨-, hext⟩⟩ := abbreviate_cases h
  · exact List.prefix_rfl
  · have hmem : (name, a) ∈ extensions m word := by rw [hext]; exact List.mem_singleton_self _
    exact begins_iff.mp (mem_extensions.mp hmem).2.2

/-- More letters of the selected name select the same entry. -/
theorem abbreviate_lengthened (h : abbreviate m word = some (name, a)) (hlonger : word.toList <+: longer.toList)
    (hname : longer.toList <+: name.toList) : abbreviate m longer = some (name, a) := by
  obtain ⟨hword, rfl | ⟨-, hext⟩⟩ := abbreviate_cases h
  · -- a name cannot get longer
    have hsame : longer = name :=
      String.toList_inj.mp (hname.eq_of_length_le hlonger.length_le)
    rwa [hsame]
  · have hne : longer ≠ "" := by
      rintro rfl
      exact hword (String.toList_eq_nil_iff.mp (List.prefix_nil.mp hlonger))
    unfold abbreviate
    rw [if_neg hne]
    cases hfind : m.find? longer with
    | some b =>
      -- the longer word is a name that the word begins, and there is only one
      have hmem : (longer, b) ∈ extensions m word :=
        mem_extensions.mpr ⟨mem_of_find? hfind, hne, begins_iff.mpr hlonger⟩
      rw [hext, List.mem_singleton] at hmem
      exact congrArg some hmem
    | none =>
      have hfewer : extensions m longer = (extensions m word).filter fun e => begins longer e.1 := by
        rw [extensions, extensions, List.filter_filter]
        refine List.filter_congr fun e _ => ?_
        cases hbegins : begins longer e.1 with
        | false => simp
        | true => simp [begins_iff.mpr (hlonger.trans (begins_iff.mp hbegins))]
      have hone : extensions m longer = [(name, a)] := by
        rw [hfewer, hext, List.filter_singleton, begins_iff.mpr hname]
        rfl
      simp only [hone]

end Names

namespace CommandTree

/-- Words that have got more letters of the names in a path, and the words behind them unchanged. -/
inductive Lengthens : List String → List String → List String → Prop where
  /-- Behind the path all words stay. -/
  | rest (words : List String) : Lengthens [] words words
  /-- A word stands for a name, and so does the longer one. -/
  | word {name word longer : String} {path words words' : List String} :
      word.toList <+: longer.toList → longer.toList <+: name.toList → Lengthens path words words' →
      Lengthens (name :: path) (word :: words) (longer :: words')

section Down

variable {m : Level α} {words words' names path : List String} {depth : Nat}

/-- The path that was found goes on the one that led to a level, and its names are those that the words stand
for. -/
theorem exists_lengthens (m : Level α) (depth : Nat) (path words : List String) :
    ∃ names, (resolveFrom depth path m words).path = path.reverse ++ names ∧
      Lengthens names words (names ++ words.drop names.length) := by
  induction words generalizing m depth path with
  | nil =>
    refine ⟨[], ?_, .rest []⟩
    rw [resolveFrom]
    split <;> simp
  | cons word words ih =>
    cases hword : abbreviate m word with
    | none =>
      refine ⟨[], ?_, .rest _⟩
      rw [resolveFrom, hword, List.append_nil]
    | some e =>
      obtain ⟨name, node⟩ := e
      have hbegins := begins_of_abbreviate hword
      cases node with
      | leaf a =>
        refine ⟨[name], ?_, .word hbegins List.prefix_rfl (.rest words)⟩
        rw [resolveFrom, hword]
        exact List.reverse_cons
      | branch children =>
        obtain ⟨names, hpath, hlengthens⟩ := ih children (depth + 1) (name :: path)
        refine ⟨name :: names, ?_, .word hbegins List.prefix_rfl hlengthens⟩
        rw [resolveFrom, hword]
        dsimp only
        rw [hpath, List.reverse_cons, List.append_assoc, List.singleton_append]

/-- Longer words lead down to the same place. The induction is on the words, level by level. -/
theorem resolveFrom_lengthened (hpath : (resolveFrom depth path m words).path = path.reverse ++ names)
    (h : Lengthens names words words') : resolveFrom depth path m words' = resolveFrom depth path m words := by
  induction words generalizing m depth path names words' with
  | nil =>
    cases h with
    | rest => rfl
  | cons word words ih =>
    cases h with
    | rest => rfl
    | @word name _ longer names _ words' hlonger hname h =>
      cases hword : abbreviate m word with
      | none =>
        rw [resolveFrom, hword] at hpath
        exact absurd (List.self_eq_append_right.mp hpath) (List.cons_ne_nil name names)
      | some e =>
        obtain ⟨name', node⟩ := e
        rw [resolveFrom, hword] at hpath
        cases node with
        | leaf a =>
          dsimp only at hpath
          rw [List.reverse_cons] at hpath
          obtain ⟨rfl, rfl⟩ := List.cons.inj (List.append_cancel_left hpath)
          obtain rfl : words = words' := by
            cases h
            rfl
          rw [resolveFrom, resolveFrom, hword, abbreviate_lengthened hword hlonger hname]
        | branch children =>
          dsimp only at hpath
          obtain ⟨names', hnames', -⟩ := exists_lengthens children (depth + 1) (name' :: path) words
          have hall := hnames'.symm.trans hpath
          rw [List.reverse_cons, List.append_assoc, List.singleton_append] at hall
          obtain ⟨rfl, rfl⟩ := List.cons.inj (List.append_cancel_left hall)
          rw [resolveFrom, resolveFrom, hword, abbreviate_lengthened hword hlonger hname]
          exact ih hnames' h

end Down

/-- **More letters of a command word change nothing.** In every tree and for every list of words: if the words
that were taken for names get more letters of these names, the same names are found, and the same command if
there is one, at the same depth and with the same words left. In particular each of the words can be replaced by
the whole name. -/
theorem resolve_lengthened (t : CommandTree α) (words : List String) :
    (∀ words', Lengthens (t.resolve words).path words words' → t.resolve words' = t.resolve words) ∧
      Lengthens (t.resolve words).path words
        ((t.resolve words).path ++ words.drop (t.resolve words).path.length) := by
  cases words with
  | nil =>
    refine ⟨fun words' h => ?_, .rest []⟩
    cases h with
    | rest => rfl
  | cons word words =>
    obtain ⟨names, hpath, hlengthens⟩ := exists_lengthens t.root 0 [] (word :: words)
    have hresolve : t.resolve (word :: words) = resolveFrom 0 [] t.root (word :: words) := rfl
    rw [hresolve, hpath]
    refine ⟨fun words' h => ?_, hlengthens⟩
    have hsame := resolveFrom_lengthened hpath h
    cases h with
    | rest => rfl
    | word => exact hsame

end CommandTree

end RouterShell
