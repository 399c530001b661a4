import RouterShell.Command.Tree
import RouterShell.Proofs.Abbreviation

/-!
# The paths of the command tree

This module reads the tree as a map from paths to commands and says what entering a command does to
this map. A tree that was built by entering commands stores exactly those that were accepted
(`represents_entered`), each under its path.

## The model

`lookup` goes down a path word by word and forgets how the tree is laid out: a command that stands
alone and one that was moved to the self entry of a level are found under the same path, since
`Node.level` makes a level of the first, too. `Sound` is the shape that entering keeps: entries are in
order, a self entry is a command, and every level below an entry has an entry of its own.

`entered` enters commands one after the other and goes on with the tree as it was when one of them is
refused.
-/

namespace RouterShell

variable {α : Type}

namespace CommandTree

open SortedMap

/-- The command that a level stores under a path. -/
def lookup (m : Level α) : List String → Option α
  | [] => (m.find? selfKey).bind Node.command?
  | word :: rest => if word = selfKey then none else lookup (Node.level (m.find? word)) rest

theorem lookup_cons {word : String} (hw : word ≠ selfKey) (m : Level α) (rest : List String) :
    lookup m (word :: rest) = lookup (Node.level (m.find? word)) rest := by
  rw [lookup, if_neg hw]

/-- Nothing is stored in a level without entries. -/
theorem lookup_nil_level (path : List String) : lookup ([] : Level α) path = none := by
  induction path with
  | nil => rfl
  | cons word rest ih =>
    unfold lookup
    split
    · rfl
    · exact ih

/-- A command that stands alone is stored under its own path only. -/
theorem lookup_leaf (a : α) (path : List String) :
    lookup (Node.level (some (.leaf a))) path = if path = [] then some a else none := by
  cases path with
  | nil => rfl
  | cons word rest =>
    by_cases hw : word = selfKey
    · simp [lookup, hw]
    · have hfind : SortedMap.find? (Node.level (some (.leaf a))) word = none := by
        simp [Node.level, find?_cons, Ne.symm hw]
      rw [lookup_cons hw, hfind]
      exact lookup_nil_level rest

/-- Putting an entry under a word leaves the self entry as it is. -/
theorem lookup_insert_nil {word : String} (hw : word ≠ selfKey) (node : Node α) (m : Level α) :
    lookup (SortedMap.insert word node m) [] = lookup m [] := by
  simp [lookup, find?_insert, hw]

/-- Putting an entry into a level changes what is stored behind its word, and nothing else. -/
theorem lookup_insert_cons {word : String} (hw : word ≠ selfKey) (node : Node α) (m : Level α)
    (w : String) (rest : List String) :
    lookup (SortedMap.insert word node m) (w :: rest) =
      if w = word then lookup (Node.level (some node)) rest else lookup m (w :: rest) := by
  by_cases hself : w = selfKey
  · simp [lookup, hself, Ne.symm hw]
  · by_cases heq : w = word
    · subst heq
      simp [lookup_cons hself, find?_insert]
    · simp [lookup_cons hself, find?_insert, heq, Ne.symm heq]

/-- Putting a command into the self entry changes what is stored under the empty path, and nothing
else. -/
theorem lookup_insert_self (a : α) (m : Level α) (path : List String) :
    lookup (SortedMap.insert selfKey (.leaf a) m) path = if path = [] then some a else lookup m path := by
  cases path with
  | nil => simp [lookup, find?_insert, Node.command?]
  | cons w rest =>
    by_cases hself : w = selfKey
    · simp [lookup, hself]
    · simp [lookup_cons hself, find?_insert, Ne.symm hself]

/-! ### The shape of a level -/

/-- The shape that entering commands keeps. -/
inductive Sound : Level α → Prop where
  /-- Entries are in order, the self entry is a command, and below an entry there is a sound level
  with an entry of its own. -/
  | mk {m : Level α} :
      Increasing m →
      (∀ children, m.find? selfKey ≠ some (.branch children)) →
      (∀ word children, m.find? word = some (.branch children) →
        ∃ next node, next ≠ selfKey ∧ SortedMap.find? children next = some node) →
      (∀ word children, m.find? word = some (.branch children) → Sound children) →
      Sound m

theorem Sound.increasing {m : Level α} (h : Sound m) : Increasing m := by
  cases h with
  | mk h _ _ _ => exact h

theorem Sound.self_ne_branch {m : Level α} (h : Sound m) (children : List (String × Node α)) :
    m.find? selfKey ≠ some (.branch children) := by
  cases h with
  | mk _ h _ _ => exact h children

theorem Sound.has_next {m : Level α} (h : Sound m) {word : String}
    {children : List (String × Node α)} (hw : m.find? word = some (.branch children)) :
    ∃ next node, next ≠ selfKey ∧ SortedMap.find? children next = some node := by
  cases h with
  | mk _ _ h _ => exact h word children hw

theorem Sound.children {m : Level α} (h : Sound m) {word : String}
    {children : List (String × Node α)} (hw : m.find? word = some (.branch children)) :
    Sound children := by
  cases h with
  | mk _ _ _ h => exact h word children hw

/-- A level without branches is sound if it is in order. -/
theorem Sound.of_no_branch {m : Level α} (h : Increasing m)
    (hb : ∀ word children, m.find? word ≠ some (.branch children)) : Sound m :=
  .mk h (hb selfKey) (fun word children hw => absurd hw (hb word children))
    (fun word children hw => absurd hw (hb word children))

theorem sound_nil : Sound ([] : Level α) := .of_no_branch List.Pairwise.nil (by simp)

theorem sound_self (a : α) : Sound [(selfKey, Node.leaf a)] := by
  refine .of_no_branch (List.pairwise_singleton _ _) fun word children h => ?_
  rw [find?_cons] at h
  split at h
  · cases h
  · cases h

/-- The level that a longer path goes through is sound. -/
theorem Sound.level {m : Level α} (h : Sound m) (word : String) :
    Sound (Node.level (m.find? word)) := by
  cases hw : m.find? word with
  | none => exact sound_nil
  | some node =>
    cases node with
    | leaf a => exact sound_self a
    | branch children => exact h.children hw

/-- Putting a command under a word keeps the shape. -/
theorem Sound.insert_leaf {m : Level α} (h : Sound m) (word : String) (a : α) :
    Sound (SortedMap.insert word (.leaf a) m) := by
  have hfind : ∀ {w children}, SortedMap.find? (SortedMap.insert word (.leaf a) m) w =
      some (.branch children) → m.find? w = some (.branch children) := by
    intro w children hw
    rw [find?_insert] at hw
    split at hw
    · cases hw
    · exact hw
  exact .mk (increasing_insert word _ h.increasing)
    (fun children hw => h.self_ne_branch children (hfind hw))
    (fun _ _ hw => h.has_next (hfind hw)) (fun _ _ hw => h.children (hfind hw))

/-- Putting a sound level with an entry under a word keeps the shape. -/
theorem Sound.insert_branch {m : Level α} (h : Sound m) {word : String} (hw : word ≠ selfKey)
    {children : List (String × Node α)} (hc : Sound children)
    (hnext : ∃ next node, next ≠ selfKey ∧ SortedMap.find? children next = some node) :
    Sound (SortedMap.insert word (.branch children) m) := by
  have hfind : ∀ {w c}, SortedMap.find? (SortedMap.insert word (.branch children) m) w =
      some (.branch c) → (w = word ∧ c = children) ∨ m.find? w = some (.branch c) := by
    intro w c hw'
    rw [find?_insert] at hw'
    split at hw'
    · next heq =>
      rw [Option.some.injEq, Node.branch.injEq] at hw'
      exact Or.inl ⟨heq.symm, hw'.symm⟩
    · exact Or.inr hw'
  refine .mk (increasing_insert word _ h.increasing) (fun c hself => ?_) (fun w c hw' => ?_)
    (fun w c hw' => ?_)
  · rcases hfind hself with ⟨heq, -⟩ | hself
    · exact hw heq.symm
    · exact h.self_ne_branch c hself
  · rcases hfind hw' with ⟨-, rfl⟩ | hw'
    · exact hnext
    · exact h.has_next hw'
  · rcases hfind hw' with ⟨-, rfl⟩ | hw'
    · exact hc
    · exact h.children hw'

/-! ### Entering a command -/

section Entering

variable {word : String} {a : α} {m m' : Level α}

/-- A command is entered under a word that has no entry, or for itself into the level of the word. -/
theorem insertLast_cases (h : insertLast word a m = some m') :
    (m.find? word = none ∧ m' = SortedMap.insert word (.leaf a) m) ∨
      ∃ children, m.find? word = some (.branch children) ∧
        SortedMap.find? children selfKey = none ∧
        m' = SortedMap.insert word (.branch (SortedMap.insert selfKey (.leaf a) children)) m := by
  unfold insertLast at h
  split at h
  · next hnone =>
    rw [Option.some.injEq] at h
    exact Or.inl ⟨hnone, h.symm⟩
  · cases h
  · next children hbranch =>
    split at h
    · cases h
    · next hself =>
      rw [Option.some.injEq] at h
      exact Or.inr ⟨children, hbranch, by simpa [has] using hself, h.symm⟩

/-- A command with a longer path is entered into the level of its first word. -/
theorem insertPath_cons_cases {next : String} {rest : List String}
    (h : insertPath a word (next :: rest) m = some m') :
    ∃ children, insertPath a next rest (Node.level (m.find? word)) = some children ∧
      m' = SortedMap.insert word (.branch children) m := by
  simp only [insertPath, Option.bind_eq_bind, Option.bind_eq_some_iff, Option.pure_def,
    Option.some.injEq] at h
  obtain ⟨children, hchildren, h⟩ := h
  exact ⟨children, hchildren, h.symm⟩

/-- Entering a command under one word stores it under this path, and nothing else changes. -/
theorem lookup_insertLast (hw : word ≠ selfKey) (h : insertLast word a m = some m')
    (path : List String) :
    lookup m' path = if path = [word] then some a else lookup m path := by
  cases path with
  | nil =>
    rcases insertLast_cases h with ⟨-, rfl⟩ | ⟨children, -, -, rfl⟩
    · simp [lookup_insert_nil hw]
    · simp [lookup_insert_nil hw]
  | cons w rest =>
    rcases insertLast_cases h with ⟨hnone, rfl⟩ | ⟨children, hbranch, -, rfl⟩
    · rw [lookup_insert_cons hw]
      by_cases heq : w = word
      · subst heq
        rw [if_pos rfl, lookup_leaf]
        simp [lookup_cons hw, hnone, Node.level, lookup_nil_level]
      · simp [heq]
    · rw [lookup_insert_cons hw]
      by_cases heq : w = word
      · subst heq
        have hself := lookup_insert_self a children rest
        simp [lookup_cons hw, hbranch, Node.level, hself]
      · simp [heq]

theorem sound_insertLast (hw : word ≠ selfKey) (h : insertLast word a m = some m')
    (hm : Sound m) : Sound m' := by
  rcases insertLast_cases h with ⟨-, rfl⟩ | ⟨children, hbranch, -, rfl⟩
  · exact hm.insert_leaf word a
  · obtain ⟨next, node, hnext, hfind⟩ := hm.has_next hbranch
    refine hm.insert_branch hw ((hm.children hbranch).insert_leaf selfKey a) ⟨next, node, hnext, ?_⟩
    rw [find?_insert, if_neg (Ne.symm hnext)]
    exact hfind

/-- The first word of an entered path has an entry. -/
theorem insertPath_has {rest : List String} (h : insertPath a word rest m = some m') :
    ∃ node, m'.find? word = some node := by
  obtain ⟨node, rfl⟩ : ∃ node, m' = SortedMap.insert word node m := by
    cases rest with
    | nil =>
      rcases insertLast_cases h with ⟨-, hm'⟩ | ⟨_, -, -, hm'⟩
      · exact ⟨_, hm'⟩
      · exact ⟨_, hm'⟩
    | cons next rest =>
      obtain ⟨children, -, hm'⟩ := insertPath_cons_cases h
      exact ⟨_, hm'⟩
  exact ⟨node, by rw [find?_insert, if_pos rfl]⟩

/-- Entering a command stores it under its path, and nothing else changes. -/
theorem lookup_insertPath {rest : List String} (hwords : ∀ w ∈ word :: rest, w ≠ selfKey)
    (h : insertPath a word rest m = some m') (path : List String) :
    lookup m' path = if path = word :: rest then some a else lookup m path := by
  have hw := hwords word List.mem_cons_self
  induction rest generalizing word m m' path with
  | nil => exact lookup_insertLast hw h path
  | cons next rest ih =>
    obtain ⟨children, hchildren, rfl⟩ := insertPath_cons_cases h
    have hnext : ∀ w ∈ next :: rest, w ≠ selfKey := fun w h => hwords w (List.mem_cons_of_mem word h)
    cases path with
    | nil => simp [lookup_insert_nil hw]
    | cons w tail =>
      rw [lookup_insert_cons hw]
      by_cases heq : w = word
      · subst heq
        have key := ih hnext hchildren tail (hnext next List.mem_cons_self)
        simp [lookup_cons hw, Node.level, key]
      · simp [heq]

/-- A command is only entered where there was none. -/
theorem lookup_eq_none_of_insertPath {rest : List String}
    (hwords : ∀ w ∈ word :: rest, w ≠ selfKey) (h : insertPath a word rest m = some m') :
    lookup m (word :: rest) = none := by
  have hw := hwords word List.mem_cons_self
  rw [lookup_cons hw]
  induction rest generalizing word m m' with
  | nil =>
    rcases insertLast_cases h with ⟨hnone, -⟩ | ⟨children, hbranch, hself, -⟩
    · rw [hnone]
      rfl
    · simp [hbranch, Node.level, lookup, hself]
  | cons next rest ih =>
    obtain ⟨children, hchildren, -⟩ := insertPath_cons_cases h
    have hnext : ∀ w ∈ next :: rest, w ≠ selfKey := fun w h => hwords w (List.mem_cons_of_mem word h)
    have hself := hnext next List.mem_cons_self
    rw [lookup_cons hself]
    exact ih hnext hchildren hself

theorem sound_insertPath {rest : List String} (hwords : ∀ w ∈ word :: rest, w ≠ selfKey)
    (h : insertPath a word rest m = some m') (hm : Sound m) : Sound m' := by
  have hw := hwords word List.mem_cons_self
  induction rest generalizing word m m' with
  | nil => exact sound_insertLast hw h hm
  | cons next rest ih =>
    obtain ⟨children, hchildren, rfl⟩ := insertPath_cons_cases h
    have hnext : ∀ w ∈ next :: rest, w ≠ selfKey := fun w h => hwords w (List.mem_cons_of_mem word h)
    have hself := hnext next List.mem_cons_self
    obtain ⟨node, hnode⟩ := insertPath_has hchildren
    exact hm.insert_branch hw (ih hnext hchildren (hm.level word) hself) ⟨next, node, hself, hnode⟩

end Entering

/-! ### Entering commands one after the other -/

/-- Enter one more command; a refused one changes nothing. The list has the accepted ones. -/
def enter (st : CommandTree α × List (List String × α)) (e : List String × α) :
    CommandTree α × List (List String × α) :=
  match st.1.register e.1 e.2 with
  | .ok t => (t, st.2 ++ [e])
  | .error _ => st

/-- The tree after commands were entered one after the other, and those that were accepted. -/
def entered (calls : List (List String × α)) : CommandTree α × List (List String × α) :=
  calls.foldl enter (empty, [])

/-- A tree stores certain commands under certain paths. -/
structure Represents (t : CommandTree α) (S : List (List String × α)) : Prop where
  /-- The tree has the shape that entering keeps. -/
  sound : Sound t.root
  /-- What is stored under a path is the command that stands beside it. -/
  lookup_iff : ∀ path a, lookup t.root path = some a ↔ (path, a) ∈ S
  /-- No command has the path without words. -/
  nil_notMem : ∀ a, ([], a) ∉ S

/-- What an accepted command does to the tree. -/
theorem register_eq_ok {t t' : CommandTree α} {path : List String} {a : α}
    (h : t.register path a = .ok t') :
    ∃ word rest, path = word :: rest ∧ (∀ w ∈ word :: rest, w ≠ selfKey) ∧
      insertPath a word rest t.root = some t'.root := by
  unfold register at h
  split at h
  · cases h
  · next word rest =>
    split at h
    · cases h
    · next hwords =>
      split at h
      · next root hroot =>
        rw [Except.ok.injEq] at h
        subst h
        refine ⟨word, rest, rfl, fun w hw => ?_, hroot⟩
        simp only [Bool.not_eq_true, Bool.not_eq_false', List.all_eq_true] at hwords
        have := hwords w hw
        simp only [isWord, Bool.and_eq_true, bne_iff_ne] at this
        exact this.1
      · cases h

theorem Represents.empty : Represents (empty : CommandTree α) [] where
  sound := sound_nil
  lookup_iff path a := by
    rw [CommandTree.empty, lookup_nil_level]
    simp
  nil_notMem _ := List.not_mem_nil

/-- Entering a command, accepted or refused, keeps track of what is stored. -/
theorem Represents.enter {st : CommandTree α × List (List String × α)}
    (h : Represents st.1 st.2) (e : List String × α) :
    Represents (enter st e).1 (enter st e).2 := by
  obtain ⟨path, a⟩ := e
  unfold CommandTree.enter
  split
  · next t ht =>
    obtain ⟨word, rest, rfl, hwords, hroot⟩ := register_eq_ok ht
    refine ⟨sound_insertPath hwords hroot h.sound, fun path b => ?_, fun b => ?_⟩
    · rw [lookup_insertPath hwords hroot, List.mem_append, List.mem_singleton, Prod.mk.injEq]
      split
      · next heq =>
        subst heq
        have hold := h.lookup_iff (word :: rest) b
        rw [lookup_eq_none_of_insertPath hwords hroot] at hold
        simp only [reduceCtorEq, false_iff] at hold
        simp [hold, eq_comm]
      · next hne => simp [h.lookup_iff, hne]
    · simp [h.nil_notMem]
  · exact h

/-- **A tree stores what was entered**: after any commands were entered, each accepted one is stored
under its path, and nothing else is. -/
theorem represents_entered (calls : List (List String × α)) :
    Represents (entered calls).1 (entered calls).2 := by
  have key : ∀ (calls : List (List String × α)) (st : CommandTree α × List (List String × α)),
      Represents st.1 st.2 → Represents (calls.foldl CommandTree.enter st).1
        (calls.foldl CommandTree.enter st).2 := by
    intro calls
    induction calls with
    | nil => exact fun st h => h
    | cons e calls ih => exact fun st h => ih _ (h.enter e)
  exact key calls _ .empty

end CommandTree

end RouterShell
