import RouterShell.Proofs.Command.Entries
import RouterShell.Proofs.Command.Offering
import RouterShell.Shell

/-!
# Completion goes where resolution goes

Two functions go down the tree of commands word by word: `resolve` reads a list of words, and completion
cuts one word after the other off the text before the cursor. This module proves that both take the same
way, so that what is proposed can be followed up, and that nothing is proposed where the words lead nowhere.

## The model

`Descends` is one way down, through exact names and abbreviations alike. Either function is computed along
it (`Descends.resolveFrom_eq`, `wordCandidates_of_descends`), and a way ends in one of three places: at a
level with all words used up, at a command that has the other words for its arguments, or before a word
that selects nothing (`descends_cases`). `levelAt?` finds the level again by the names on the way.

## What is proved

`candidates_follow_resolution`, for every tree that was built by entering commands and every plain text.
-/

namespace RouterShell

open Text Line SortedMap

variable {α : Type}

namespace CommandTree

/-- The level to which names lead. -/
def levelAt? (m : Level α) : List String → Option (Level α)
  | [] => some m
  | name :: names =>
    match m.find? name with
    | some (.branch children) => levelAt? children names
    | _ => none

/-- Words select levels one below the other; `names` are the names of their entries. -/
inductive Descends : Level α → List String → List String → Level α → Prop where
  /-- No word leads nowhere else. -/
  | here (m : Level α) : Descends m [] [] m
  /-- A word leads to the level that it selects. -/
  | down {m m' : Level α} {children : List (String × Node α)} {word name : String}
      {words names : List String} :
      abbreviate m word = some (name, .branch children) → Descends children words names m' →
      Descends m (word :: words) (name :: names) m'

section Descent

variable {m m' : Level α} {words names : List String}

theorem Descends.length_eq (h : Descends m words names m') : names.length = words.length := by
  induction h with
  | here m => rfl
  | down _ _ ih => rw [List.length_cons, List.length_cons, ih]

/-- A selected level is the entry of its name. -/
theorem find?_of_abbreviate (hm : Sound m) {word name : String} {node : Node α}
    (h : abbreviate m word = some (name, node)) : m.find? name = some node :=
  ((abbreviate_eq_some_iff hm.increasing).mp h).2.2.1

theorem Descends.sound (h : Descends m words names m') (hm : Sound m) : Sound m' := by
  induction h with
  | here m => exact hm
  | down hword _ ih => exact ih (hm.children (find?_of_abbreviate hm hword))

/-- The level that words lead to stores what stands behind the names on the way. -/
theorem Descends.levelAt {S : List (List String × α)} {q : List String}
    (h : Descends m words names m') (hm : LevelAt S q m) : LevelAt S (q ++ names) m' := by
  induction h generalizing q with
  | here m => rwa [List.append_nil]
  | @down m m' children word name words names hword _ ih =>
    have hselected := (abbreviate_eq_some_iff hm.sound.increasing).mp hword
    have hnext := ih (hm.child hselected.2.1 hselected.2.2.1)
    rwa [List.append_assoc, List.singleton_append] at hnext

/-- The names on the way lead to the same level, and further on from there. -/
theorem Descends.levelAt?_append (h : Descends m words names m') (hm : Sound m)
    (rest : List String) : levelAt? m (names ++ rest) = levelAt? m' rest := by
  induction h with
  | here m => rfl
  | down hword _ ih =>
    have hfind := find?_of_abbreviate hm hword
    rw [List.cons_append, levelAt?, hfind]
    exact ih (hm.children hfind)

/-- Resolution goes down with the words, and on from where they lead. -/
theorem Descends.resolveFrom_eq (h : Descends m words names m') (depth : Nat) (path rest : List String) :
    resolveFrom depth path m (words ++ rest) =
      resolveFrom (depth + words.length) (names.reverse ++ path) m' rest := by
  induction h generalizing depth path with
  | here m => rfl
  | @down m m' children word name words names hword _ ih =>
    rw [List.cons_append, resolveFrom, hword]
    dsimp only
    rw [ih, List.length_cons, List.reverse_cons, List.append_assoc, List.singleton_append,
      Nat.add_assoc, Nat.add_comm 1]

/-- Words lead down as far as there are levels for them. -/
theorem descends_cases (m : Level α) (words : List String) :
    (∃ names m', Descends m words names m') ∨
      ∃ used word rest names m', words = used ++ word :: rest ∧ Descends m used names m' ∧
        (abbreviate m' word = none ∨ ∃ name a, abbreviate m' word = some (name, .leaf a)) := by
  induction words generalizing m with
  | nil => exact Or.inl ⟨[], m, .here m⟩
  | cons word words ih =>
    cases hword : abbreviate m word with
    | none => exact Or.inr ⟨[], word, words, [], m, rfl, .here m, Or.inl hword⟩
    | some e =>
      obtain ⟨name, node⟩ := e
      cases node with
      | leaf a => exact Or.inr ⟨[], word, words, [], m, rfl, .here m, Or.inr ⟨name, a, hword⟩⟩
      | branch children =>
        rcases ih children with ⟨names, m', h⟩ | ⟨used, word', rest, names, m', rfl, h, hend⟩
        · exact Or.inl ⟨name :: names, m', .down hword h⟩
        · exact Or.inr ⟨word :: used, word', rest, name :: names, m', rfl, .down hword h, hend⟩

/-- The first words of a path that is entered lead to a level. -/
theorem LevelAt.exists_descends {S : List (List String × α)} {q path : List String} {w : String}
    (hm : LevelAt S q m) (h : Follows S (q ++ path) w) : ∃ m', Descends m path path m' := by
  induction path generalizing q m with
  | nil => exact ⟨m, .here m⟩
  | cons name path ih =>
    obtain ⟨r, a, hmem⟩ := h
    rw [List.append_assoc, List.cons_append] at hmem
    obtain ⟨hne, node, hnode⟩ := hm.follows_iff.mp ⟨path ++ w :: r, a, hmem⟩
    cases node with
    | leaf b =>
      -- nothing stands behind a command, but the path goes on
      obtain ⟨v, rest, hrest⟩ := List.exists_cons_of_ne_nil (List.append_ne_nil_of_right_ne_nil path
        (List.cons_ne_nil w r))
      rw [hrest] at hmem
      refine absurd ⟨rest, a, ?_⟩ ((hm.ends_of_leaf hne hnode).2 v)
      rwa [List.append_assoc, List.singleton_append]
    | branch children =>
      have hrest : Follows S (q ++ [name] ++ path) w :=
        ⟨r, a, by rwa [List.append_assoc, List.append_assoc, List.singleton_append]⟩
      obtain ⟨m', hway⟩ := ih (hm.child hne hnode) hrest
      exact ⟨m', .down (abbreviate_exact hne hnode) hway⟩

/-- Every level on the way down is in order. -/
theorem sound_of_levelAt? (hm : Sound m) {path : List String} (h : levelAt? m path = some m') :
    Sound m' := by
  induction path generalizing m with
  | nil =>
    obtain rfl := Option.some.inj h
    exact hm
  | cons name path ih =>
    rw [levelAt?] at h
    split at h
    · next children hfind => exact ih (hm.children hfind) h
    · cases h

/-- Resolving words that lead to a level and one name more selects the entry of this name. It uses up all the
words, and asks for another one if it finds no command. -/
theorem Descends.resolveFrom_name (h : Descends m words names m') {name : String} (hname : name ≠ "")
    (hmem : name ∈ m'.keys) :
    (resolveFrom 0 [] m (words ++ [name])).path = names ++ [name] ∧
      (resolveFrom 0 [] m (words ++ [name])).remaining = [] ∧
      words.length < (resolveFrom 0 [] m (words ++ [name])).depth ∧
      ((resolveFrom 0 [] m (words ++ [name])).command? = none →
        words.length + 1 < (resolveFrom 0 [] m (words ++ [name])).depth) := by
  obtain ⟨node, hnode⟩ := exists_find?_iff.mpr hmem
  rw [h.resolveFrom_eq, resolveFrom, abbreviate_exact hname hnode, List.append_nil, Nat.zero_add]
  cases node with
  | leaf a => exact ⟨by simp, rfl, Nat.lt_succ_self _, fun h => absurd h (Option.some_ne_none a)⟩
  | branch children =>
    dsimp only
    rw [resolveFrom]
    split
    · exact ⟨by simp, rfl, Nat.lt_succ_self _, fun h => absurd h (Option.some_ne_none _)⟩
    · exact ⟨by simp, rfl, Nat.lt_succ_of_lt (Nat.lt_succ_self _), fun _ => Nat.lt_succ_self _⟩

/-- The names on the way are the path that resolution answers, also for no words at all. -/
theorem Descends.resolve_path {t : CommandTree α} (h : Descends t.root words names m') :
    (t.resolve words).path = names := by
  unfold resolve
  split
  · next hnil =>
    rw [List.isEmpty_iff] at hnil
    subst hnil
    cases h
    rfl
  · have hfrom := h.resolveFrom_eq 0 [] []
    rw [List.append_nil, List.append_nil] at hfrom
    rw [hfrom, resolveFrom]
    split
    · exact List.reverse_reverse names
    · exact List.reverse_reverse names

/-- A word behind which there is no level ends resolution. -/
theorem Descends.resolve_end {t : CommandTree α} (h : Descends t.root words names m') (word : String)
    (rest : List String) :
    (abbreviate m' word = none →
      t.resolve (words ++ word :: rest) = ⟨words.length + 1, none, names, []⟩) ∧
    ∀ name a, abbreviate m' word = some (name, .leaf a) →
      t.resolve (words ++ word :: rest) = ⟨words.length + 1, some a, names ++ [name], rest⟩ := by
  have hne : ¬ (words ++ word :: rest).isEmpty = true := by simp
  rw [resolve, if_neg hne, h.resolveFrom_eq, resolveFrom, List.append_nil, Nat.zero_add]
  constructor
  · intro hnone
    rw [hnone, List.reverse_reverse]
  · intro name a hleaf
    rw [hleaf]
    simp

/-- Words that all lead down leave resolution at a level, where it finds the level's own command or asks for
one word more. -/
theorem Descends.depth_of_command_none {t : CommandTree α} (h : Descends t.root words names m')
    (hne : words ≠ []) (hnone : (t.resolve words).command? = none) :
    words.length < (t.resolve words).depth := by
  have hfrom := h.resolveFrom_eq 0 [] []
  rw [List.append_nil] at hfrom
  rw [resolve, if_neg (by simp [hne]), hfrom, resolveFrom] at hnone ⊢
  split
  · next hself =>
    rw [hself] at hnone
    cases hnone
  · exact Nat.lt_succ_of_le (Nat.le_add_left _ _)

/-- At a word that selects nothing resolution ends, whatever words follow. -/
theorem resolve_append_of_unselected {t : CommandTree α} (hne : words ≠ [])
    (hnone : (t.resolve words).command? = none) (hle : (t.resolve words).depth ≤ words.length)
    (more : List String) : t.resolve (words ++ more) = t.resolve words := by
  rcases descends_cases t.root words with ⟨names, m', hway⟩ | ⟨used, word, rest, names, m', rfl, hway, hend⟩
  · exact absurd (hway.depth_of_command_none hne hnone) (Nat.not_lt.mpr hle)
  · rcases hend with hnothing | ⟨name, a, hleaf⟩
    · rw [List.append_assoc, List.cons_append, (hway.resolve_end word _).1 hnothing,
        (hway.resolve_end word _).1 hnothing]
    · rw [(hway.resolve_end word rest).2 name a hleaf] at hnone
      cases hnone

end Descent

end CommandTree

namespace Shell

open CommandTree

section Candidates

variable {net : Network} {m m' : Level Command} {used names : List String} {text : List Char}

/-- Completion goes down with the finished words, and on from where they lead. -/
theorem wordCandidates_of_descends (h : Descends m used names m') {rest : List String}
    (hwords : finishedWords text = used ++ rest) (fuel : Nat) :
    wordCandidates net (fuel + used.length) m (trimStart text) =
      wordCandidates net fuel m' (afterWords used.length text) := by
  induction h generalizing text with
  | here m => rfl
  | @down m m' children word name words names hword _ ih =>
    cases hcut : cutAtBlank (trimStart text) with
    | none =>
      rw [(typedWord_of_cut hcut).1] at hwords
      cases hwords
    | some e =>
      obtain ⟨first, after⟩ := e
      rw [(finishedWords_of_cut hcut).1, List.cons_append, List.cons.injEq] at hwords
      obtain ⟨rfl, hwords⟩ := hwords
      rw [List.length_cons, ← Nat.add_assoc, wordCandidates, hcut]
      simp only [hword]
      rw [ih hwords, afterWords, ← (of_cutAtBlank hcut).2.2.2.2.2]

/-- The proposals of the commands, from where the first finished words lead. There is fuel left, as every
word takes up a character. -/
theorem commandCandidates_of_descends (net : Network) {s : Shell}
    (h : Descends s.commands.root used names m') {rest : List String}
    (hwords : finishedWords text = used ++ rest) :
    ∃ fuel, s.commandCandidates net text =
      wordCandidates net (fuel + 1) m' (trimStart (afterWords used.length text)) := by
  have hlength := length_finishedWords_le text
  rw [hwords, List.length_append] at hlength
  refine ⟨text.length - used.length, ?_⟩
  rw [trimStart_afterWords, ← wordCandidates_of_descends h hwords, commandCandidates]
  congr 1
  omega

/-- Where the finished words of a text lead, and what is proposed there. -/
inductive Completes (t : CommandTree Command) (net : Network) (text : List Char) :
    Logged (List Candidate) → Prop where
  /-- All words are used up at a level, and its names are proposed. -/
  | level {names : List String} {m : Level Command} :
      Descends t.root (finishedWords text) names m →
      Completes t net text (pure (proposals (typedWord text) m.keys))
  /-- A word selects a command, and its completer gets the text behind this word. -/
  | arguments {used rest names : List String} {word name : String} {m : Level Command} {c : Command} :
      finishedWords text = used ++ word :: rest → Descends t.root used names m →
      abbreviate m word = some (name, .leaf c) →
      Completes t net text (c.completer.candidates net (afterWords (used.length + 1) text))
  /-- A word selects nothing. -/
  | nothing {used rest names : List String} {word : String} {m : Level Command} :
      finishedWords text = used ++ word :: rest → Descends t.root used names m →
      abbreviate m word = none → Completes t net text (pure [])

/-- What is proposed for a plain text is found where its finished words lead. -/
theorem commandCandidates_completes (s : Shell) (net : Network) (h : Plain text) :
    Completes s.commands net text (s.commandCandidates net text) := by
  rcases descends_cases s.commands.root (finishedWords text) with
    ⟨names, m', hway⟩ | ⟨used, word, rest, names, m', hwords, hway, hend⟩
  · obtain ⟨fuel, hfuel⟩ := commandCandidates_of_descends net hway (List.append_nil _).symm
    obtain ⟨hafter, htyped⟩ := finishedWords_afterWords (Nat.le_refl (finishedWords text).length)
    rw [List.drop_length] at hafter
    cases hcut : cutAtBlank (trimStart (afterWords (finishedWords text).length text)) with
    | none =>
      rw [hfuel, wordCandidates, hcut]
      dsimp only
      rw [Complete.words_of_plain (h.afterWords _).trimmed, (finishedWords_trimStart _).2, htyped]
      exact .level hway
    | some e =>
      rw [(finishedWords_of_cut hcut).1] at hafter
      cases hafter
  · have hshort : used.length ≤ (finishedWords text).length := by
      rw [hwords, List.length_append]
      exact Nat.le_add_right _ _
    have hafter := (finishedWords_afterWords hshort).1
    rw [hwords, List.drop_left] at hafter
    obtain ⟨fuel, hfuel⟩ := commandCandidates_of_descends net hway hwords
    cases hcut : cutAtBlank (trimStart (afterWords used.length text)) with
    | none =>
      rw [(typedWord_of_cut hcut).1] at hafter
      cases hafter
    | some e =>
      obtain ⟨first, after⟩ := e
      rw [(finishedWords_of_cut hcut).1, List.cons.injEq] at hafter
      obtain ⟨rfl, -⟩ := hafter
      rw [hfuel, wordCandidates, hcut]
      rcases hend with hnone | ⟨name, c, hleaf⟩
      · simp only [hnone]
        exact .nothing hwords hway hnone
      · simp only [hleaf]
        have hnext : trimStart after = afterWords (used.length + 1) text := by
          rw [← afterWords_one, afterWords, afterWords, ← (of_cutAtBlank hcut).2.2.2.2.2]
        rw [hnext]
        exact .arguments hwords hway hleaf

end Candidates

/-- **Completion goes where resolution goes**, for every tree that was built by entering commands and
every plain text. The finished words of the text are resolved:
- if all of them are used up at a level, the proposals are the names of this level that extend the word
  being typed, in order, each in the place of exactly this word; and each name selects its own entry there;
- if they lead to a command that is not the own command of a level, the proposals are those of its
  completer for the text behind the words of its path;
- else there are none, and there is a finished word that selects nothing. -/
theorem candidates_follow_resolution (calls : List (List String × Command)) (s : Shell) :
    (∀ path m, levelAt? (entered calls).1.root path = some m → Increasing m) ∧
    ∀ net text, Plain text → ∀ r, (entered calls).1.resolve (finishedWords text) = r →
      (∀ m, r.path.length = (finishedWords text).length →
        levelAt? (entered calls).1.root r.path = some m →
        { s with commands := (entered calls).1 }.commandCandidates net text =
          pure ((m.keys.filter fun name =>
              name != "" && begins (String.ofList (typedWord text)) name).map fun name =>
            ⟨String.ofList (quote name), byteLength (typedWord text)⟩) ∧
        ∀ name ∈ m.keys, name ≠ "" →
          ((entered calls).1.resolve (finishedWords text ++ [name])).path = r.path ++ [name] ∧
          ((entered calls).1.resolve (finishedWords text ++ [name])).remaining = []) ∧
      (∀ c, r.command? = some c → levelAt? (entered calls).1.root r.path = none →
        { s with commands := (entered calls).1 }.commandCandidates net text =
          c.completer.candidates net (afterWords r.path.length text)) ∧
      ((∀ m, levelAt? (entered calls).1.root r.path = some m →
          r.path.length ≠ (finishedWords text).length) →
        (∀ c, r.command? = some c → levelAt? (entered calls).1.root r.path ≠ none) →
        { s with commands := (entered calls).1 }.commandCandidates net text = pure [] ∧
        r.command? = none ∧
        ∃ m word, levelAt? (entered calls).1.root r.path = some m ∧
          (finishedWords text)[r.path.length]? = some word ∧ abbreviate m word = none) := by
  have hsound := (represents_entered calls).sound
  generalize (entered calls).1 = t at hsound ⊢
  refine ⟨fun path m h => (sound_of_levelAt? hsound h).increasing, ?_⟩
  rintro net text hplain r rfl
  have hcompletes := commandCandidates_completes { s with commands := t } net hplain
  generalize { s with commands := t }.commandCandidates net text = answer at hcompletes ⊢
  cases hcompletes with
  | @level names m' hway =>
    have hlevel := hway.levelAt?_append hsound []
    rw [List.append_nil] at hlevel
    rw [hway.resolve_path, hlevel]
    refine ⟨fun m _ hm => ?_, fun c _ hnone => ?_, fun hnot => ?_⟩
    · obtain rfl := Option.some.inj hm
      refine ⟨rfl, fun name hmem hname => ?_⟩
      rw [resolve, if_neg (by simp)]
      obtain ⟨hpath, hremaining, -⟩ := hway.resolveFrom_name hname hmem
      exact ⟨hpath, hremaining⟩
    · cases hnone
    · exact absurd hway.length_eq (hnot m' rfl)
  | @arguments used rest names word name m' c hwords hway hleaf =>
    have hlevel := hway.levelAt?_append hsound [name]
    rw [levelAt?, find?_of_abbreviate (hway.sound hsound) hleaf] at hlevel
    rw [hwords, (hway.resolve_end word rest).2 name c hleaf]
    dsimp only
    rw [hlevel]
    refine ⟨fun m _ hm => ?_, fun c' hc' _ => ?_, fun _ hnot => ?_⟩
    · cases hm
    · obtain rfl := Option.some.inj hc'
      rw [List.length_append, List.length_singleton, hway.length_eq]
    · exact absurd rfl (hnot c rfl)
  | @nothing used rest names word m' hwords hway hnone =>
    have hlevel := hway.levelAt?_append hsound []
    rw [List.append_nil] at hlevel
    rw [hwords, (hway.resolve_end word rest).1 hnone]
    dsimp only
    rw [hlevel, hway.length_eq]
    refine ⟨fun m hlen => ?_, fun c hc => ?_, fun _ _ => ?_⟩
    · rw [List.length_append, List.length_cons] at hlen
      omega
    · cases hc
    · exact ⟨rfl, rfl, m', word, rfl, by simp, hnone⟩

end Shell

end RouterShell
