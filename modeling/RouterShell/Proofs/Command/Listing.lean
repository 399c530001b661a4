import Mathlib.Data.List.Induction
import Mathlib.Data.List.Nodup
import RouterShell.Proofs.Command.InPlace

/-!
# The tree is what was entered

A tree can be read in two ways, by looking up a path and by listing all commands. This module proves that
either reading gives exactly the accepted commands, and that there is nothing more to a tree: trees with
the same commands are the same (`Sound.ext`), in whatever order these were entered.

The commands are listed in the order of their paths, word by word. The command of a level stands before
those with longer paths, because its word is the empty one and so the least.

## What is proved

`entered_exactly`, for every history of entering commands: which command is accepted, that a refused one
changes nothing, what is listed, and that the order of entering does not matter.
-/

namespace RouterShell.CommandTree

open SortedMap

variable {α : Type}

/-! ### What is stored decides the tree -/

section Shape

variable {m : Level α} {word : String}

/-- The entry of a level for itself is the command stored under the empty path. -/
theorem Sound.find?_self (h : Sound m) : m.find? selfKey = (lookup m []).map Node.leaf := by
  rw [lookup]
  cases hfind : m.find? selfKey with
  | none => rfl
  | some node =>
    cases node with
    | leaf a => rfl
    | branch children => exact absurd hfind (h.self_ne_branch children)

/-- An entry with nothing stored below it is the command stored under its word. -/
theorem Sound.find?_eq (h : Sound m) (hw : word ≠ selfKey)
    (hnone : ∀ next r, lookup m (word :: next :: r) = none) :
    m.find? word = (lookup m [word]).map Node.leaf := by
  rw [lookup_cons hw]
  cases hfind : m.find? word with
  | none => rfl
  | some node =>
    cases node with
    | leaf a => rw [lookup_leaf, if_pos rfl, Option.map_some]
    | branch children =>
      obtain ⟨next, node, hnext, hnode⟩ := h.has_next hfind
      obtain ⟨r, a, hr⟩ := (h.children hfind).exists_lookup hnext hnode
      have hbelow := hnone next r
      rw [lookup_cons hw, hfind, Node.level, hr] at hbelow
      cases hbelow

/-- An entry with something stored below it is a level. -/
theorem exists_branch_of_lookup (hw : word ≠ selfKey) {next : String} {r : List String} {a : α}
    (h : lookup m (word :: next :: r) = some a) :
    ∃ children, m.find? word = some (.branch children) := by
  rw [lookup_cons hw] at h
  exact ⟨_, find?_of_lookup_ne_none (h ▸ Option.some_ne_none a)⟩

end Shape

/-- Levels that store the same are the same. The induction is on the shape of the first one. -/
theorem Sound.ext {m m' : Level α} (h : Sound m) (h' : Sound m')
    (hsame : ∀ path, lookup m path = lookup m' path) : m = m' := by
  induction h generalizing m' with
  | @mk m hincreasing hself hnext hchildren ih =>
    have hm : Sound m := .mk hincreasing hself hnext hchildren
    refine hincreasing.ext h'.increasing fun word => ?_
    by_cases hw : word = selfKey
    · rw [hw, hm.find?_self, h'.find?_self, hsame]
    by_cases hbelow : ∃ next r a, lookup m (word :: next :: r) = some a
    · obtain ⟨next, r, a, hr⟩ := hbelow
      obtain ⟨children, hfind⟩ := exists_branch_of_lookup hw hr
      obtain ⟨children', hfind'⟩ := exists_branch_of_lookup hw (hsame _ ▸ hr)
      have hlevels : children = children' := by
        refine ih word children hfind (h'.children hfind') fun path => ?_
        have hpath := hsame (word :: path)
        rwa [lookup_cons hw, lookup_cons hw, hfind, hfind'] at hpath
      rw [hfind, hfind', hlevels]
    · have hnone : ∀ next r, lookup m (word :: next :: r) = none := fun next r =>
        Option.eq_none_iff_forall_ne_some.mpr fun a hr => hbelow ⟨next, r, a, hr⟩
      rw [hm.find?_eq hw hnone, h'.find?_eq hw fun next r => hsame _ ▸ hnone next r, hsame]

/-- Trees with the same commands are the same. -/
theorem Represents.ext {t t' : CommandTree α} {S S' : List (List String × α)} (h : Represents t S)
    (h' : Represents t' S') (hsame : ∀ e, e ∈ S ↔ e ∈ S') : t = t' := by
  have hroot : t.root = t'.root := by
    refine h.sound.ext h'.sound fun path => Option.ext fun a => ?_
    rw [h.lookup_iff, h'.lookup_iff, hsame]
  cases t
  cases t'
  exact congrArg CommandTree.mk hroot

/-! ### The order of the listing -/

/-- A level is listed entry by entry. -/
theorem levelEntries_eq_flatMap (path : List String) (m : Level α) :
    levelEntries path m =
      m.flatMap fun e => nodeEntries (if e.1 = selfKey then path else path ++ [e.1]) e.2 := by
  induction m with
  | nil => rfl
  | cons e m ih => rw [levelEntries, ih, List.flatMap_cons]

/-- What is listed for an entry stands behind its word, or is the command of the level itself. -/
theorem Sound.of_mem_nodeEntries {m : Level α} (h : Sound m) {word : String} {node : Node α}
    (hfind : m.find? word = some node) {path : List String} {x : List String × α}
    (hx : x ∈ nodeEntries (if word = selfKey then path else path ++ [word]) node) :
    (word = selfKey ∧ x.1 = path) ∨ ∃ r, x.1 = path ++ word :: r := by
  by_cases hw : word = selfKey
  · rw [if_pos hw] at hx
    cases node with
    | leaf a => exact Or.inl ⟨hw, by rw [List.mem_singleton.mp hx]⟩
    | branch children => exact absurd (hw ▸ hfind) (h.self_ne_branch children)
  · rw [if_neg hw] at hx
    refine Or.inr ?_
    cases node with
    | leaf a => exact ⟨[], by rw [List.mem_singleton.mp hx]⟩
    | branch children =>
      obtain ⟨r, hr, -⟩ := (h.children hfind).mem_levelEntries_iff.mp hx
      exact ⟨r, by rw [hr, List.append_assoc, List.singleton_append]⟩

/-- A sound level is listed in the order of the paths. -/
theorem Sound.pairwise_levelEntries {m : Level α} (h : Sound m) (path : List String) :
    (levelEntries path m).Pairwise fun x y => x.1 < y.1 := by
  induction h generalizing path with
  | @mk m hincreasing hself hnext hchildren ih =>
    have hm : Sound m := .mk hincreasing hself hnext hchildren
    rw [levelEntries_eq_flatMap, List.pairwise_flatMap]
    constructor
    · rintro ⟨word, node⟩ he
      cases node with
      | leaf a => exact List.pairwise_singleton _ _
      | branch children => exact ih word children ((find?_eq_some_iff hincreasing).mpr he) _
    · refine (List.pairwise_map.mp hincreasing).imp_of_mem fun {e e'} he he' hlt x hx y hy => ?_
      have hx := hm.of_mem_nodeEntries ((find?_eq_some_iff hincreasing).mpr he) hx
      have hy := hm.of_mem_nodeEntries ((find?_eq_some_iff hincreasing).mpr he') hy
      rcases hy with ⟨hself', -⟩ | ⟨r', hr'⟩
      · -- no word is less than the empty one
        rw [hself'] at hlt
        exact absurd (String.lt_iff_toList_lt.mp hlt) (List.not_lt_nil _)
      · rw [hr']
        rcases hx with ⟨-, hpath⟩ | ⟨r, hr⟩
        · rw [hpath]
          conv_lhs => rw [← List.append_nil path]
          exact List.Lex.append_left _ List.Lex.nil path
        · rw [hr]
          exact List.Lex.append_left _ (List.Lex.rel hlt) path

/-! ### Written paths -/

/-- A written path tells its words: a space stands in none of them. -/
theorem pathText_inj {p p' : List String} (hp : IsPath p) (hp' : IsPath p')
    (h : pathText p = pathText p') : p = p' := by
  have hsplit : ∀ {q : List String}, IsPath q →
      (pathText q).toList.splitOn ' ' = q.map String.toList := by
    intro q hq
    have hspace : " ".toList = [' '] := rfl
    rw [pathText, String.toList_intercalate, hspace]
    refine List.splitOn_intercalate ' ' (fun w hw hin => ?_) (by simp [hq.1])
    obtain ⟨word, hword, rfl⟩ := List.mem_map.mp hw
    have hblank := (isWord_iff.mp (hq.2 word hword)).2 ' ' hin
    exact absurd hblank (by decide)
  have hwords : p.map String.toList = p'.map String.toList := by rw [← hsplit hp, ← hsplit hp', h]
  exact List.map_injective_iff.mpr (fun _ _ heq => String.toList_inj.mp heq) hwords

/-! ### Histories of entering -/

theorem entered_append_singleton (calls : List (List String × α)) (e : List String × α) :
    entered (calls ++ [e]) = enter (entered calls) e := by
  simp only [entered, List.foldl_append, List.foldl_cons, List.foldl_nil]

theorem isPath_of_register {t t' : CommandTree α} {path : List String} {a : α}
    (h : t.register path a = .ok t') : IsPath path := by
  unfold register at h
  split at h
  · cases h
  · next word rest =>
    split at h
    · cases h
    · next hwords =>
      rw [Bool.not_eq_true, Bool.not_eq_false', List.all_eq_true] at hwords
      exact ⟨List.cons_ne_nil word rest, hwords⟩

/-- A command is accepted if its path is well-formed and not taken, and only then. -/
theorem Represents.register_iff {t : CommandTree α} {S : List (List String × α)}
    (h : Represents t S) (path : List String) (a : α) :
    (∃ t', t.register path a = .ok t') ↔ IsPath path ∧ path ∉ S.map Prod.fst := by
  constructor
  · rintro ⟨t', ht'⟩
    refine ⟨isPath_of_register ht', fun hmem => ?_⟩
    obtain ⟨e, he, rfl⟩ := List.mem_map.mp hmem
    obtain ⟨word, rest, hpath, hwords, hroot⟩ := register_eq_ok ht'
    have hstored := (h.lookup_iff e.1 e.2).mpr he
    rw [hpath, lookup_eq_none_of_insertPath hwords hroot] at hstored
    cases hstored
  · rintro ⟨hpath, hfree⟩
    exact exists_register h hpath (fun b hb => hfree (List.mem_map_of_mem hb)) a

/-- The accepted commands have well-formed and distinct paths. -/
theorem entered_paths (calls : List (List String × α)) :
    (∀ e ∈ (entered calls).2, IsPath e.1) ∧ ((entered calls).2.map Prod.fst).Nodup := by
  induction calls using List.reverseRecOn with
  | nil => exact ⟨fun e he => absurd he List.not_mem_nil, List.nodup_nil⟩
  | append_singleton calls e ih =>
    rw [entered_append_singleton, enter]
    cases hreg : (entered calls).1.register e.1 e.2 with
    | error fault => exact ih
    | ok t =>
      obtain ⟨hpath, hfree⟩ := ((represents_entered calls).register_iff e.1 e.2).mp ⟨t, hreg⟩
      obtain ⟨hpaths, hnodup⟩ := ih
      dsimp only
      constructor
      · intro e' he'
        rcases List.mem_append.mp he' with he' | he'
        · exact hpaths e' he'
        · rw [List.mem_singleton.mp he']
          exact hpath
      · rw [List.map_append, List.map_singleton, List.nodup_append]
        refine ⟨hnodup, List.nodup_singleton _, fun p hp q hq => ?_⟩
        rw [List.mem_singleton.mp hq]
        exact fun heq => hfree (heq ▸ hp)

/-- Commands with well-formed and distinct paths are all accepted. -/
theorem entered_of_nodup {calls : List (List String × α)} (hpaths : ∀ e ∈ calls, IsPath e.1)
    (hnodup : (calls.map Prod.fst).Nodup) : (entered calls).2 = calls := by
  induction calls using List.reverseRecOn with
  | nil => rfl
  | append_singleton calls e ih =>
    rw [List.map_append, List.map_singleton, List.nodup_append] at hnodup
    have hbefore := ih (fun e' he' => hpaths e' (List.mem_append_left _ he')) hnodup.1
    have hpath := hpaths e (List.mem_append_right _ List.mem_cons_self)
    have hfree : e.1 ∉ (entered calls).2.map Prod.fst := by
      rw [hbefore]
      exact fun hmem => hnodup.2.2 e.1 hmem e.1 List.mem_cons_self rfl
    obtain ⟨t, ht⟩ := ((represents_entered calls).register_iff e.1 e.2).mpr ⟨hpath, hfree⟩
    rw [entered_append_singleton, enter, ht, hbefore]

/-- **The tree is exactly what was entered**, after any commands were entered one after the other:
- one more is accepted if and only if its path has words, none of them is empty or has a blank in it,
  and no command of this path was accepted before;
- entering in place gives the same tree, a refused command leaves it as it was, and no command is
  refused for a word on the way (`settled`);
- the accepted commands are listed, each once, in the order of their paths, and no two of them are
  written alike;
- the tree depends on nothing but the set of accepted commands, and commands with well-formed and
  distinct paths are all accepted, in any order. -/
theorem entered_exactly (calls : List (List String × α)) :
    (∀ path a,
      ((∃ t, (entered calls).1.register path a = .ok t) ↔
        path ≠ [] ∧ (∀ word ∈ path, word ≠ "" ∧ ∀ c ∈ word.toList, Text.isBlank c = false) ∧
          path ∉ (entered calls).2.map Prod.fst) ∧
      (entered calls).1.registerInPlace path a =
        settled (entered calls).1 ((entered calls).1.register path a)) ∧
    enteredInPlace calls = entered calls ∧
    (entered calls).1.entries.Perm (entered calls).2 ∧
    ((entered calls).1.entries.map Prod.fst).Pairwise (· < ·) ∧
    ((entered calls).1.entries.map fun e => pathText e.1).Nodup ∧
    (∀ others : List (List String × α), (∀ e, e ∈ (entered others).2 ↔ e ∈ (entered calls).2) →
      (entered others).1 = (entered calls).1) ∧
    ((∀ e ∈ calls, IsPath e.1) → (calls.map Prod.fst).Nodup → ∀ others, others.Perm calls →
      (entered others).2 = others ∧ (entered others).1 = (entered calls).1) := by
  have hrep := represents_entered calls
  obtain ⟨hpaths, hnodup⟩ := entered_paths calls
  have hincreasing : (entered calls).1.entries.Pairwise fun x y => x.1 < y.1 :=
    hrep.sound.pairwise_levelEntries []
  have hdistinct : ((entered calls).1.entries.map Prod.fst).Nodup :=
    (List.pairwise_map.mpr hincreasing).imp fun hlt heq => absurd (heq ▸ hlt) (lt_irrefl _)
  have hperm : (entered calls).1.entries.Perm (entered calls).2 :=
    (List.perm_ext_iff_of_nodup hdistinct.of_map hnodup.of_map).mpr fun e => hrep.mem_entries_iff
  refine ⟨fun path a => ⟨?_, registerInPlace_eq hrep.sound path a⟩, enteredInPlace_eq calls, hperm,
    List.pairwise_map.mpr hincreasing, ?_, fun others hsame => ?_, fun hwords hdiffer others hothers => ?_⟩
  · rw [hrep.register_iff]
    simp only [IsPath, isWord_iff, and_assoc]
  · refine hdistinct.of_map.map_on fun e he e' he' heq => ?_
    refine List.inj_on_of_nodup_map hdistinct he he' ?_
    exact pathText_inj (hpaths e (hrep.mem_entries_iff.mp he))
      (hpaths e' (hrep.mem_entries_iff.mp he')) heq
  · exact (represents_entered others).ext hrep hsame
  · have hcalls := entered_of_nodup hwords hdiffer
    have hall := entered_of_nodup (fun e he => hwords e (hothers.mem_iff.mp he))
      ((hothers.map Prod.fst).nodup_iff.mpr hdiffer)
    refine ⟨hall, (represents_entered others).ext hrep fun e => ?_⟩
    rw [hall, hcalls]
    exact hothers.mem_iff

end RouterShell.CommandTree
