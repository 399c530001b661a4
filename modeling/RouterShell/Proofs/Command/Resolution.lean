import RouterShell.Proofs.Command.Paths

/-!
# Words and the paths they select

This module says which command the words of a line select in terms of nothing but the set of paths that
were entered, and proves that going down the tree selects the same.

Words are followed greedily. Each word is taken for one of the words that continue the path so far: for
itself if it is one of them, else for the only one it begins. A path that no other one continues is
not continued either, so the words behind it are left for its command.

## The model

`S` lists the paths that were accepted, each with its command. `Follows`, `Selects` and `Greedy` speak
of `S` only. A level of the tree is tied to `S` by `LevelAt`: what it stores under a path is what `S`
has behind the words that lead to it. Going down one word leads from such a level to another one
(`LevelAt.child`), so the induction is on the words of the line.

## What is proved

`resolve_greedy`: for every history of entering commands and every list of words.
-/

namespace RouterShell.CommandTree

open SortedMap

variable {α : Type}

section Paths

variable (S : List (List String × α))

/-- A word that follows the words `q` in a path of `S`. -/
def Follows (q : List String) (w : String) : Prop := ∃ r a, (q ++ w :: r, a) ∈ S

/-- A word `t` of a line selects the word `w` behind `q`. -/
def Selects (q : List String) (t w : String) : Prop :=
  t ≠ "" ∧ Follows S q w ∧
    (t = w ∨ ¬ Follows S q t ∧ t.toList <+: w.toList ∧
      ∀ v, Follows S q v → t.toList <+: v.toList → v = w)

/-- A path of `S` that no other path continues. -/
def Ends (q : List String) : Prop := (∃ a, (q, a) ∈ S) ∧ ∀ w, ¬ Follows S q w

/-- The words of a line lead from the path `q` to the path `p` and leave `rest`. -/
inductive Greedy : List String → List String → List String → List String → Prop where
  /-- There are no more words. -/
  | exhausted (q : List String) : Greedy q [] q []
  /-- The path cannot be continued. -/
  | ended {q ws : List String} : Ends S q → Greedy q ws q ws
  /-- The next word selects nothing. -/
  | unmatched {q ws : List String} {t : String} :
      (∀ w, ¬ Selects S q t w) → Greedy q (t :: ws) q (t :: ws)
  /-- The next word continues the path. -/
  | next {q ws p rest : List String} {t w : String} :
      ¬ Ends S q → Selects S q t w → Greedy (q ++ [w]) ws p rest → Greedy q (t :: ws) p rest

end Paths

variable {S : List (List String × α)}

/-- A word selects at most one word. -/
theorem Selects.unique {q : List String} {t v w : String} (hv : Selects S q t v)
    (hw : Selects S q t w) : v = w := by
  obtain ⟨-, hvf, hv⟩ := hv
  obtain ⟨-, hwf, hw⟩ := hw
  rcases hv with rfl | ⟨hnot, hbeg, -⟩
  · rcases hw with rfl | ⟨hnot, -, -⟩
    · rfl
    · exact absurd hvf hnot
  · rcases hw with rfl | ⟨-, -, huniq⟩
    · exact absurd hwf hnot
    · exact huniq v hvf hbeg

/-- Words lead to one path only. -/
theorem Greedy.unique {q ws p p' rest rest' : List String} (h : Greedy S q ws p rest)
    (h' : Greedy S q ws p' rest') : p' = p ∧ rest' = rest := by
  induction h with
  | exhausted q =>
    cases h' with
    | exhausted => exact ⟨rfl, rfl⟩
    | ended _ => exact ⟨rfl, rfl⟩
  | ended hends =>
    cases h' with
    | exhausted => exact ⟨rfl, rfl⟩
    | ended _ => exact ⟨rfl, rfl⟩
    | unmatched _ => exact ⟨rfl, rfl⟩
    | next hnot _ _ => exact absurd hends hnot
  | unmatched hnone =>
    cases h' with
    | ended _ => exact ⟨rfl, rfl⟩
    | unmatched _ => exact ⟨rfl, rfl⟩
    | next _ hsel _ => exact absurd hsel (hnone _)
  | next hnot hsel _ ih =>
    cases h' with
    | ended hends => exact absurd hends hnot
    | unmatched hnone => exact absurd hsel (hnone _)
    | next _ hsel' hrest =>
      rw [hsel'.unique hsel] at hrest
      exact ih hrest

/-- As many words are used up as the path has grown. -/
theorem Greedy.rest_eq {q ws p rest : List String} (h : Greedy S q ws p rest) :
    q.length ≤ p.length ∧ rest = ws.drop (p.length - q.length) := by
  induction h with
  | exhausted q => simp
  | ended _ => simp
  | unmatched _ => simp
  | @next q ws p rest t w _ _ _ ih =>
    obtain ⟨hle, hrest⟩ := ih
    rw [List.length_append, List.length_singleton] at hle hrest
    refine ⟨by omega, ?_⟩
    rw [hrest, show p.length - q.length = p.length - (q.length + 1) + 1 by omega, List.drop_succ_cons]

/-! ### Levels of the tree -/

/-- A level stores what `S` has behind the words `q`, and if these are a path of `S` themselves, there
are longer ones. -/
structure LevelAt (S : List (List String × α)) (q : List String) (m : Level α) : Prop where
  /-- The level has the shape that entering keeps. -/
  sound : Sound m
  /-- What is stored under a path. -/
  lookup_iff : ∀ r a, lookup m r = some a ↔ (q ++ r, a) ∈ S
  /-- The words are not all of a path, or not of this one only. -/
  continues : ∀ a, (q, a) ∈ S → ∃ w, Follows S q w

/-- A sound level stores a command behind each of its words. -/
theorem Sound.exists_lookup {m : Level α} (h : Sound m) {word : String} {node : Node α}
    (hw : word ≠ selfKey) (hfind : m.find? word = some node) :
    ∃ r a, lookup m (word :: r) = some a := by
  induction h generalizing word node with
  | @mk m _ _ hnext _ ih =>
    cases node with
    | leaf a => exact ⟨[], a, by rw [lookup_cons hw, hfind, lookup_leaf, if_pos rfl]⟩
    | branch children =>
      obtain ⟨next, node, hself, hnode⟩ := hnext word children hfind
      obtain ⟨r, a, hr⟩ := ih word children hfind hself hnode
      exact ⟨next :: r, a, by rw [lookup_cons hw, hfind]; exact hr⟩

/-- The words that follow are those that the level has entries for. -/
theorem LevelAt.follows_iff {q : List String} {m : Level α} (h : LevelAt S q m) {w : String} :
    Follows S q w ↔ w ≠ selfKey ∧ ∃ node, m.find? w = some node := by
  constructor
  · rintro ⟨r, a, hmem⟩
    rw [← h.lookup_iff] at hmem
    by_cases hw : w = selfKey
    · rw [hw, lookup, if_pos rfl] at hmem
      cases hmem
    · refine ⟨hw, ?_⟩
      rw [lookup_cons hw] at hmem
      cases hfind : m.find? w with
      | some node => exact ⟨node, rfl⟩
      | none =>
        rw [hfind, Node.level, lookup_nil_level] at hmem
        cases hmem
  · rintro ⟨hw, node, hfind⟩
    obtain ⟨r, a, hr⟩ := h.sound.exists_lookup hw hfind
    exact ⟨r, a, (h.lookup_iff _ a).mp hr⟩

/-- A word of a line selects an entry of the level as it selects a word of the paths. -/
theorem LevelAt.abbreviate_iff {q : List String} {m : Level α} (h : LevelAt S q m)
    {t w : String} {node : Node α} :
    abbreviate m t = some (w, node) ↔ Selects S q t w ∧ m.find? w = some node := by
  rw [abbreviate_eq_some_iff h.sound.increasing]
  constructor
  · rintro ⟨ht, hw, hfind, hsel⟩
    have hfw : Follows S q w := h.follows_iff.mpr ⟨hw, node, hfind⟩
    refine ⟨⟨ht, hfw, ?_⟩, hfind⟩
    rcases hsel with heq | ⟨hnone, hbeg, huniq⟩
    · exact Or.inl heq
    · refine Or.inr ⟨?_, begins_iff.mp hbeg, ?_⟩
      · intro hf
        obtain ⟨-, node', hnode'⟩ := h.follows_iff.mp hf
        rw [hnone] at hnode'
        cases hnode'
      · intro v hv hvbeg
        obtain ⟨hv, node', hnode'⟩ := h.follows_iff.mp hv
        exact huniq v node' hnode' hv (begins_iff.mpr hvbeg)
  · rintro ⟨⟨ht, hfw, hsel⟩, hfind⟩
    obtain ⟨hw, -⟩ := h.follows_iff.mp hfw
    refine ⟨ht, hw, hfind, ?_⟩
    rcases hsel with heq | ⟨hnot, hbeg, huniq⟩
    · exact Or.inl heq
    · refine Or.inr ⟨?_, begins_iff.mpr hbeg, ?_⟩
      · cases hnone : m.find? t with
        | none => rfl
        | some node' => exact absurd (h.follows_iff.mpr ⟨ht, node', hnone⟩) hnot
      · intro v node' hv hvne hvbeg
        exact huniq v (h.follows_iff.mpr ⟨hvne, node', hv⟩) (begins_iff.mp hvbeg)

/-- A word that selects no entry selects no word of the paths. -/
theorem LevelAt.abbreviate_none {q : List String} {m : Level α} (h : LevelAt S q m) {t : String}
    (hnone : abbreviate m t = none) (w : String) : ¬ Selects S q t w := by
  intro hsel
  obtain ⟨-, node, hfind⟩ := h.follows_iff.mp hsel.2.1
  rw [h.abbreviate_iff.mpr ⟨hsel, hfind⟩] at hnone
  cases hnone

/-- A command that stands alone ends its path. -/
theorem LevelAt.ends_of_leaf {q : List String} {m : Level α} (h : LevelAt S q m) {w : String}
    (hw : w ≠ selfKey) {a : α} (hfind : m.find? w = some (.leaf a)) :
    (∀ b, (q ++ [w], b) ∈ S ↔ b = a) ∧ ∀ v, ¬ Follows S (q ++ [w]) v := by
  have hstored : ∀ r b, (q ++ w :: r, b) ∈ S ↔ r = [] ∧ b = a := by
    intro r b
    rw [← h.lookup_iff, lookup_cons hw, hfind, lookup_leaf]
    by_cases hr : r = []
    · simp [hr, eq_comm]
    · simp [hr]
  refine ⟨fun b => by rw [hstored]; simp, ?_⟩
  rintro v ⟨r, b, hmem⟩
  rw [List.append_assoc, List.singleton_append, hstored] at hmem
  exact List.cons_ne_nil v r hmem.1

/-- The words that lead to a level are never all of a path. -/
theorem LevelAt.not_ends {q : List String} {m : Level α} (h : LevelAt S q m) : ¬ Ends S q := by
  rintro ⟨⟨a, ha⟩, hends⟩
  obtain ⟨w, hw⟩ := h.continues a ha
  exact hends w hw

/-- Going down a word leads to the level behind it. -/
theorem LevelAt.child {q : List String} {m : Level α} (h : LevelAt S q m) {w : String}
    (hw : w ≠ selfKey) {children : List (String × Node α)}
    (hfind : m.find? w = some (.branch children)) : LevelAt S (q ++ [w]) children := by
  have hlookup : ∀ r a, lookup children r = some a ↔ ((q ++ [w]) ++ r, a) ∈ S := by
    intro r a
    rw [List.append_assoc, List.singleton_append, ← h.lookup_iff, lookup_cons hw, hfind]
    rfl
  obtain ⟨next, node, hnext, hnode⟩ := h.sound.has_next hfind
  have hsound := h.sound.children hfind
  obtain ⟨r, a, hr⟩ := hsound.exists_lookup hnext hnode
  exact ⟨hsound, hlookup, fun _ _ => ⟨next, r, a, (hlookup _ a).mp hr⟩⟩

/-- The command that a level keeps for itself. -/
theorem LevelAt.self_iff {q : List String} {m : Level α} (h : LevelAt S q m) (a : α) :
    (m.find? selfKey).bind Node.command? = some a ↔ (q, a) ∈ S := by
  have key := h.lookup_iff [] a
  rwa [List.append_nil] at key

/-! ### Looking up words -/

/-- What looking up words answers if they lead to the path `p` and leave `rest`: the command of `p`, if
`p` is a path of `S` that is not continued or there are no words left to continue it, else nothing, at
the first word that is left or would have to follow. -/
def Answers (S : List (List String × α)) (p rest : List String) (r : Resolution α) : Prop :=
  (∀ a, (p, a) ∈ S → (∀ w, ¬ Follows S p w) ∨ rest = [] → r = ⟨p.length, some a, p, rest⟩) ∧
  (¬ ((∃ a, (p, a) ∈ S) ∧ ((∀ w, ¬ Follows S p w) ∨ rest = [])) → r = ⟨p.length + 1, none, p, []⟩)

/-- Going down from a level follows the words greedily. The induction is on the words; the level that
the first of them leads to stores what `S` has behind it. -/
theorem LevelAt.resolveFrom_greedy {q : List String} {m : Level α} (h : LevelAt S q m)
    (ws : List String) :
    ∃ p rest, Greedy S q ws p rest ∧ Answers S p rest (resolveFrom q.length q.reverse m ws) := by
  induction ws generalizing q m with
  | nil =>
    refine ⟨q, [], .exhausted q, ?_, ?_⟩
    · intro a ha _
      rw [resolveFrom, (h.self_iff a).mpr ha, List.reverse_reverse]
    · intro hnot
      cases hself : (m.find? selfKey).bind Node.command? with
      | some a => exact absurd ⟨⟨a, (h.self_iff a).mp hself⟩, Or.inr rfl⟩ hnot
      | none => rw [resolveFrom, hself, List.reverse_reverse]
  | cons t ws ih =>
    cases hab : abbreviate m t with
    | none =>
      refine ⟨q, t :: ws, .unmatched (h.abbreviate_none hab), ?_, ?_⟩
      · rintro a ha (hends | hrest)
        · exact absurd ⟨⟨a, ha⟩, hends⟩ h.not_ends
        · cases hrest
      · intro _
        rw [resolveFrom, hab, List.reverse_reverse]
    | some e =>
      obtain ⟨w, node⟩ := e
      obtain ⟨hsel, hfind⟩ := h.abbreviate_iff.mp hab
      have hw : w ≠ selfKey := (h.follows_iff.mp hsel.2.1).1
      have hrev : (w :: q.reverse).reverse = q ++ [w] := by simp
      have hlen : q.length + 1 = (q ++ [w]).length := by simp
      cases node with
      | leaf a =>
        obtain ⟨hstored, hends⟩ := h.ends_of_leaf hw hfind
        have hin : (q ++ [w], a) ∈ S := (hstored a).mpr rfl
        refine ⟨q ++ [w], ws, .next h.not_ends hsel (.ended ⟨⟨a, hin⟩, hends⟩), ?_, ?_⟩
        · intro b hb _
          rw [resolveFrom, hab, (hstored b).mp hb, ← hlen]
          simp only [hrev]
        · exact fun hnot => absurd ⟨⟨a, hin⟩, Or.inl hends⟩ hnot
      | branch children =>
        obtain ⟨p, rest, hgreedy, hanswer⟩ := ih (h.child hw hfind)
        refine ⟨p, rest, .next h.not_ends hsel hgreedy, ?_⟩
        rw [resolveFrom, hab]
        rwa [List.reverse_append, ← hlen] at hanswer

/-- The level of first words. -/
theorem Represents.levelAt {t : CommandTree α} (h : Represents t S) : LevelAt S [] t.root where
  sound := h.sound
  lookup_iff := h.lookup_iff
  continues a ha := absurd ha (h.nil_notMem a)

/-- **Looking up words is following paths greedily**: after any commands were entered, a list of words
leads to exactly one of the paths that begin an accepted one, and leaves the words behind it. If that
path is an accepted one, and no longer one begins with it or no word is left, its command is found.
Else nothing is found, and a further word is missing exactly if none was left. -/
theorem resolve_greedy (calls : List (List String × α)) :
    (entered calls).1.resolve [] = ⟨0, none, [], []⟩ ∧
    ∀ word words, ∃ p rest,
      (∀ p' rest', Greedy (entered calls).2 [] (word :: words) p' rest' ↔ p' = p ∧ rest' = rest) ∧
      rest = (word :: words).drop p.length ∧
      (∀ a, (p, a) ∈ (entered calls).2 → (∀ w, ¬ Follows (entered calls).2 p w) ∨ rest = [] →
        (entered calls).1.resolve (word :: words) = ⟨p.length, some a, p, rest⟩) ∧
      (¬ ((∃ a, (p, a) ∈ (entered calls).2) ∧
          ((∀ w, ¬ Follows (entered calls).2 p w) ∨ rest = [])) →
        (entered calls).1.resolve (word :: words) = ⟨p.length + 1, none, p, []⟩ ∧
        (((entered calls).1.resolve (word :: words)).isIncomplete (word :: words).length = true ↔
          rest = [])) := by
  refine ⟨rfl, fun word words => ?_⟩
  obtain ⟨p, rest, hgreedy, hfound, hnone⟩ :=
    (represents_entered calls).levelAt.resolveFrom_greedy (word :: words)
  have hrest : rest = (word :: words).drop p.length := hgreedy.rest_eq.2
  refine ⟨p, rest, fun p' rest' => ⟨hgreedy.unique, ?_⟩, hrest, hfound, fun hnot => ?_⟩
  · rintro ⟨rfl, rfl⟩
    exact hgreedy
  · have hresolve : (entered calls).1.resolve (word :: words) = ⟨p.length + 1, none, p, []⟩ :=
      hnone hnot
    refine ⟨hresolve, ?_⟩
    rw [hresolve, hrest, List.drop_eq_nil_iff]
    simp only [Resolution.isIncomplete, Option.isNone_none, Bool.true_and, decide_eq_true_eq]
    omega

end RouterShell.CommandTree
