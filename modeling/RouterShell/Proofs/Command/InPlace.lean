import RouterShell.Proofs.Command.Entries

/-!
# Entering commands in place

A tree that is changed where it stands has to be right at every moment: on the way down a missing level
is made, and a command in the way becomes the own command of a new level, before it is known whether the
place at the end of the path is free. This module follows a tree through these changes and proves that a
command that is refused leaves no trace of them, and that the tree is in the end the one of `register`.

## The model

`placeFrom` goes down a path and answers the level as it stands when it stops, with the refusal if there
is one. Besides the faults that `register` knows, the way down can stop at an entry that is no level
even after room was made below it (`Refusal.cannotNest`).

## What is proved

`registerInPlace_eq`: on a tree with the shape that entering keeps, both ways of entering agree, also on
the tree that a refused command leaves. The reason is that a command is only refused at a place that is
taken, and on the way to such a place all levels are there already (`exists_insertPath`).
-/

namespace RouterShell.CommandTree

open SortedMap

variable {α : Type}

/-- Why entering in place stops. -/
inductive Refusal where
  /-- The command cannot be entered. -/
  | fault (fault : TreeFault)
  /-- The entry of a word on the way is no level. -/
  | cannotNest (word : String)
  deriving DecidableEq, Repr

/-- Make the entry of a word a level: a missing one becomes an empty level, and a command the own
command of a new level. -/
def makeRoom (word : String) (m : Level α) : Level α :=
  match m.find? word with
  | none => SortedMap.insert word (.branch []) m
  | some (.leaf a) =>
    SortedMap.insert word (.branch (SortedMap.insert selfKey (.leaf a) [])) m
  | some (.branch _) => m

/-- Put a command under the last word of its path. -/
def placeLast (path : List String) (a : α) (word : String) (m : Level α) :
    Level α × Option Refusal :=
  match m.find? word with
  | none => (SortedMap.insert word (.leaf a) m, none)
  | some (.leaf _) => (m, some (.fault (.duplicate path)))
  | some (.branch children) =>
    if SortedMap.has children selfKey then (m, some (.fault (.duplicate path)))
    else (SortedMap.insert word (.branch (SortedMap.insert selfKey (.leaf a) children)) m, none)

/-- Put the command of a path under the words `word :: rest`, making room on the way down. -/
def placeFrom (path : List String) (a : α) (word : String) :
    List String → Level α → Level α × Option Refusal
  | [], m => placeLast path a word m
  | next :: rest, m =>
    let m := makeRoom word m
    match m.find? word with
    | some (.branch children) =>
      let (children, refusal) := placeFrom path a next rest children
      (SortedMap.insert word (.branch children) m, refusal)
    | _ => (m, some (.cannotNest word))

/-- Enter a command under a path, in place. -/
def registerInPlace (t : CommandTree α) (path : List String) (a : α) :
    CommandTree α × Option Refusal :=
  match path with
  | [] => (t, some (.fault .emptyPath))
  | word :: rest =>
    if !path.all isWord then (t, some (.fault (.invalidPath path)))
    else
      let (root, refusal) := placeFrom path a word rest t.root
      (⟨root⟩, refusal)

/-- What entering in place leaves and answers, if it agrees with the answer of `register`. -/
def settled (t : CommandTree α) : Except TreeFault (CommandTree α) → CommandTree α × Option Refusal
  | .ok t' => (t', none)
  | .error fault => (t, some (.fault fault))

/-! ### Making room -/

section Room

variable {word : String} {m : Level α}

/-- Where room was made there is a level: the one that a longer path goes through. -/
theorem find?_makeRoom (word : String) (m : Level α) :
    (makeRoom word m).find? word = some (.branch (Node.level (m.find? word))) := by
  unfold makeRoom
  cases hfind : m.find? word with
  | none => simp [find?_insert, Node.level]
  | some node =>
    cases node with
    | leaf a => simp [find?_insert, Node.level, SortedMap.insert]
    | branch children => simpa [Node.level] using hfind

/-- Room that was made is filled as if nothing had been there. -/
theorem insert_makeRoom (word : String) (node : Node α) (m : Level α) :
    SortedMap.insert word node (makeRoom word m) = SortedMap.insert word node m := by
  unfold makeRoom
  split
  · exact insert_insert word _ node m
  · exact insert_insert word _ node m
  · rfl

/-- Below a word with something stored behind it, there is a level already. -/
theorem find?_of_lookup_ne_none {next : String} {rest : List String}
    (h : lookup (Node.level (m.find? word)) (next :: rest) ≠ none) :
    m.find? word = some (.branch (Node.level (m.find? word))) := by
  cases hfind : m.find? word with
  | none =>
    rw [hfind] at h
    exact absurd (lookup_nil_level _) h
  | some node =>
    cases node with
    | leaf b =>
      rw [hfind, lookup_leaf, if_neg (List.cons_ne_nil _ _)] at h
      exact absurd rfl h
    | branch children => rfl

end Room

/-! ### Both ways of entering agree -/

theorem placeLast_eq (path : List String) (a : α) (word : String) (m : Level α) :
    placeLast path a word m =
      match insertLast word a m with
      | some m' => (m', none)
      | none => (m, some (.fault (.duplicate path))) := by
  unfold placeLast insertLast
  cases m.find? word with
  | none => rfl
  | some node =>
    cases node with
    | leaf b => rfl
    | branch children => dsimp only; split <;> rfl

/-- Going down in place gives the level that `insertPath` gives, or leaves the level as it was. The
induction goes down the path; if the place at its end is taken, the level below the first word was
there before and is put back as it was. -/
theorem placeFrom_eq {m : Level α} (hm : Sound m) (path : List String) (a : α) {word : String}
    {rest : List String} (hwords : ∀ w ∈ word :: rest, w ≠ selfKey) :
    placeFrom path a word rest m =
      match insertPath a word rest m with
      | some m' => (m', none)
      | none => (m, some (.fault (.duplicate path))) := by
  induction rest generalizing word m with
  | nil => exact placeLast_eq path a word m
  | cons next rest ih =>
    have hnext : ∀ w ∈ next :: rest, w ≠ selfKey := fun w h => hwords w (List.mem_cons_of_mem word h)
    have hbelow := ih (hm.level word) hnext
    simp only [placeFrom, find?_makeRoom, insert_makeRoom, hbelow]
    cases hpath : insertPath a next rest (Node.level (m.find? word)) with
    | some children =>
      rw [insertPath, hpath]
      rfl
    | none =>
      have htaken : lookup (Node.level (m.find? word)) (next :: rest) ≠ none := by
        intro hfree
        obtain ⟨m', hm'⟩ := exists_insertPath (hm.level word) a hnext hfree
        rw [hpath] at hm'
        cases hm'
      rw [insertPath, hpath]
      dsimp only [Option.bind_eq_bind, Option.bind_none]
      rw [insert_of_find? hm.increasing (find?_of_lookup_ne_none htaken)]

/-- **Entering in place leaves no trace of a refused command**: on a tree with the shape that entering
keeps, it gives the tree that `register` gives, or the tree as it was with the fault of `register`. -/
theorem registerInPlace_eq {t : CommandTree α} (ht : Sound t.root) (path : List String) (a : α) :
    t.registerInPlace path a = settled t (t.register path a) := by
  cases path with
  | nil => rfl
  | cons word rest =>
    unfold registerInPlace register
    dsimp only
    split
    · rfl
    · next hall =>
      rw [Bool.not_eq_true, Bool.not_eq_false', List.all_eq_true] at hall
      have hpath : IsPath (word :: rest) := ⟨List.cons_ne_nil word rest, hall⟩
      rw [placeFrom_eq ht _ a fun w hw => hpath.ne_selfKey hw]
      cases insertPath a word rest t.root with
      | some root => rfl
      | none => rfl

/-- Enter one more command in place. The list has the accepted ones. -/
def enterInPlace (st : CommandTree α × List (List String × α)) (e : List String × α) :
    CommandTree α × List (List String × α) :=
  match st.1.registerInPlace e.1 e.2 with
  | (t, none) => (t, st.2 ++ [e])
  | (t, some _) => (t, st.2)

/-- The tree after commands were entered in place one after the other, and those that were accepted. -/
def enteredInPlace (calls : List (List String × α)) : CommandTree α × List (List String × α) :=
  calls.foldl enterInPlace (empty, [])

/-- Entering one more command in place is entering it. -/
theorem enterInPlace_eq {st : CommandTree α × List (List String × α)} (h : Represents st.1 st.2)
    (e : List String × α) : enterInPlace st e = enter st e := by
  rw [enterInPlace, registerInPlace_eq h.sound, enter]
  cases st.1.register e.1 e.2 with
  | ok t => rfl
  | error fault => rfl

/-- In place, too, the accepted commands make up the tree, and the refused ones nothing. -/
theorem enteredInPlace_eq (calls : List (List String × α)) : enteredInPlace calls = entered calls := by
  have key : ∀ (calls : List (List String × α)) (st : CommandTree α × List (List String × α)),
      Represents st.1 st.2 → calls.foldl enterInPlace st = calls.foldl enter st := by
    intro calls
    induction calls with
    | nil => exact fun st _ => rfl
    | cons e calls ih =>
      intro st hst
      rw [List.foldl_cons, List.foldl_cons, enterInPlace_eq hst]
      exact ih _ (hst.enter e)
  exact key calls (empty, []) .empty

end RouterShell.CommandTree
