import RouterShell.Proofs.Command.Resolution

/-!
# Accepted commands

This module says when a command is accepted and what becomes of accepted commands. A command with a
well-formed path is refused only if there is one of this path already (`exists_register`), so a list of
well-formed, distinct paths is accepted as a whole (`foldlM_register`). The commands that are listed
(`mem_entries_iff`) and the commands that words select (`mem_of_resolve`) are the accepted ones, and
typing the whole path of a command selects it, unless a longer path begins with it (`resolve_append`).
-/

namespace RouterShell.CommandTree

open SortedMap

variable {α : Type}

/-! ### Commands are accepted -/

/-- A place that stores nothing can be taken. The induction goes down the path; a level is sound, so its
own entry is a command, and an entry for a longer path is a level. -/
theorem exists_insertPath {m : Level α} (hm : Sound m) (a : α) {word : String} {rest : List String}
    (hwords : ∀ w ∈ word :: rest, w ≠ selfKey) (hfree : lookup m (word :: rest) = none) :
    ∃ m', insertPath a word rest m = some m' := by
  induction rest generalizing word m with
  | nil =>
    rw [lookup_cons (hwords word List.mem_cons_self)] at hfree
    rw [insertPath, insertLast]
    cases hfind : m.find? word with
    | none => exact ⟨_, rfl⟩
    | some node =>
      cases node with
      | leaf b =>
        rw [hfind, lookup_leaf, if_pos rfl] at hfree
        cases hfree
      | branch children =>
        have hself : SortedMap.find? children selfKey = none := by
          rw [hfind, Node.level, lookup] at hfree
          cases hown : SortedMap.find? children selfKey with
          | none => rfl
          | some node =>
            cases node with
            | leaf b =>
              rw [hown] at hfree
              cases hfree
            | branch c => exact absurd hown ((hm.children hfind).self_ne_branch c)
        have hhas : ¬ SortedMap.has children selfKey = true := by
          rw [SortedMap.has, hself]
          exact Bool.false_ne_true
        exact ⟨_, if_neg hhas⟩
  | cons next rest ih =>
    rw [lookup_cons (hwords word List.mem_cons_self)] at hfree
    obtain ⟨children, hchildren⟩ :=
      ih (hm.level word) (fun w hw => hwords w (List.mem_cons_of_mem word hw)) hfree
    exact ⟨SortedMap.insert word (.branch children) m, by rw [insertPath, hchildren]; rfl⟩

/-- A path that commands can have. -/
def IsPath (path : List String) : Prop := path ≠ [] ∧ ∀ word ∈ path, isWord word = true

instance (path : List String) : Decidable (IsPath path) :=
  inferInstanceAs (Decidable (path ≠ [] ∧ ∀ word ∈ path, isWord word = true))

theorem isWord_iff {word : String} :
    isWord word = true ↔ word ≠ "" ∧ ∀ c ∈ word.toList, Text.isBlank c = false := by
  simp [isWord]

/-- No word of a path is the one under which a level keeps its own command. -/
theorem IsPath.ne_selfKey {path : List String} (h : IsPath path) {word : String}
    (hw : word ∈ path) : word ≠ selfKey :=
  (isWord_iff.mp (h.2 word hw)).1

/-- A well-formed path that is not taken is accepted. -/
theorem exists_register {t : CommandTree α} {S : List (List String × α)} (ht : Represents t S)
    {path : List String} (hpath : IsPath path) (hfree : ∀ b, (path, b) ∉ S) (a : α) :
    ∃ t', t.register path a = .ok t' := by
  obtain ⟨word, rest, rfl⟩ := List.exists_cons_of_ne_nil hpath.1
  have hnone : lookup t.root (word :: rest) = none := by
    cases hstored : lookup t.root (word :: rest) with
    | none => rfl
    | some b => exact absurd ((ht.lookup_iff _ b).mp hstored) (hfree b)
  obtain ⟨root, hroot⟩ := exists_insertPath ht.sound a (fun w hw => hpath.ne_selfKey hw) hnone
  have hall : (word :: rest).all isWord = true := List.all_eq_true.mpr hpath.2
  refine ⟨⟨root⟩, ?_⟩
  rw [register, hall, hroot]
  rfl

/-- Entering commands that are all accepted gives the tree that stores them. -/
theorem foldlM_register {calls : List (List String × α)} {t : CommandTree α}
    {S : List (List String × α)} (ht : Represents t S) (hpaths : ∀ e ∈ calls, IsPath e.1)
    (hnodup : ((S ++ calls).map Prod.fst).Nodup) :
    ∃ t', calls.foldlM (fun t e => t.register e.1 e.2) t = .ok t' ∧ Represents t' (S ++ calls) := by
  induction calls generalizing t S with
  | nil => exact ⟨t, rfl, by rwa [List.append_nil]⟩
  | cons e calls ih =>
    have hfree : ∀ b, (e.1, b) ∉ S := by
      intro b hb
      rw [List.map_append, List.map_cons, List.nodup_append] at hnodup
      exact hnodup.2.2 e.1 (List.mem_map.mpr ⟨_, hb, rfl⟩) e.1 List.mem_cons_self rfl
    obtain ⟨t', ht'⟩ := exists_register ht (hpaths e List.mem_cons_self) hfree e.2
    have hnext : Represents t' (S ++ [e]) := by
      have hpair : Represents (t, S).1 (t, S).2 := ht
      have h : Represents (enter (t, S) e).1 (enter (t, S) e).2 := hpair.enter e
      rwa [enter, ht'] at h
    obtain ⟨t'', hrun, hrep⟩ := ih hnext (fun e he => hpaths e (List.mem_cons_of_mem _ he))
      (by rwa [List.append_assoc, List.singleton_append])
    refine ⟨t'', ?_, ?_⟩
    · rw [List.foldlM_cons, ht']
      exact hrun
    · rwa [List.append_assoc, List.singleton_append] at hrep

/-! ### Commands are listed -/

theorem mem_levelEntries {path : List String} {m : Level α} {x : List String × α} :
    x ∈ levelEntries path m ↔
      ∃ word node, (word, node) ∈ m ∧
        x ∈ nodeEntries (if word = selfKey then path else path ++ [word]) node := by
  induction m with
  | nil => simp [levelEntries]
  | cons e m ih =>
    obtain ⟨word, node⟩ := e
    rw [levelEntries, List.mem_append, ih]
    constructor
    · rintro (h | ⟨w, n, hmem, h⟩)
      · exact ⟨word, node, List.mem_cons_self, h⟩
      · exact ⟨w, n, List.mem_cons_of_mem _ hmem, h⟩
    · rintro ⟨w, n, hmem, h⟩
      rcases List.mem_cons.mp hmem with heq | hmem
      · obtain ⟨rfl, rfl⟩ := Prod.mk.inj heq
        exact Or.inl h
      · exact Or.inr ⟨w, n, hmem, h⟩

/-- A sound level lists what it stores, behind the words that lead to it. -/
theorem Sound.mem_levelEntries_iff {m : Level α} (h : Sound m) {path p : List String} {a : α} :
    (p, a) ∈ levelEntries path m ↔ ∃ r, p = path ++ r ∧ lookup m r = some a := by
  induction h generalizing path with
  | @mk m hincreasing hself hnext _ ih =>
    rw [mem_levelEntries]
    constructor
    · rintro ⟨word, node, hmem, h⟩
      have hfind := (find?_eq_some_iff hincreasing).mpr hmem
      cases node with
      | leaf b =>
        rw [nodeEntries, List.mem_singleton, Prod.mk.injEq] at h
        obtain ⟨rfl, rfl⟩ := h
        by_cases hw : word = selfKey
        · refine ⟨[], by rw [if_pos hw, List.append_nil], ?_⟩
          rw [lookup, ← hw, hfind]
          rfl
        · refine ⟨[word], by rw [if_neg hw], ?_⟩
          rw [lookup_cons hw, hfind, lookup_leaf, if_pos rfl]
      | branch children =>
        have hw : word ≠ selfKey := by
          rintro rfl
          exact hself children hfind
        rw [nodeEntries, if_neg hw] at h
        obtain ⟨r, rfl, hr⟩ := (ih word children hfind).mp h
        refine ⟨word :: r, by rw [List.append_assoc, List.singleton_append], ?_⟩
        rw [lookup_cons hw, hfind]
        exact hr
    · rintro ⟨r, rfl, hr⟩
      cases r with
      | nil =>
        rw [lookup, Option.bind_eq_some_iff] at hr
        obtain ⟨node, hfind, hnode⟩ := hr
        refine ⟨selfKey, node, (find?_eq_some_iff hincreasing).mp hfind, ?_⟩
        cases node with
        | leaf b =>
          obtain rfl := Option.some.inj hnode
          rw [if_pos rfl, nodeEntries, List.append_nil, List.mem_singleton]
        | branch children => cases hnode
      | cons word r =>
        by_cases hw : word = selfKey
        · rw [lookup, if_pos hw] at hr
          cases hr
        rw [lookup_cons hw] at hr
        cases hfind : m.find? word with
        | none =>
          rw [hfind, Node.level, lookup_nil_level] at hr
          cases hr
        | some node =>
          refine ⟨word, node, (find?_eq_some_iff hincreasing).mp hfind, ?_⟩
          rw [if_neg hw]
          rw [hfind] at hr
          cases node with
          | leaf b =>
            rw [lookup_leaf] at hr
            split at hr
            · next hnil =>
              obtain rfl := Option.some.inj hr
              rw [hnil, nodeEntries, List.mem_singleton]
            · cases hr
          | branch children =>
            rw [nodeEntries]
            exact (ih word children hfind).mpr ⟨r, by rw [List.append_assoc, List.singleton_append], hr⟩

section Stored

variable {t : CommandTree α} {S : List (List String × α)}

/-- What is listed is what was accepted. -/
theorem Represents.mem_entries_iff (h : Represents t S) {e : List String × α} :
    e ∈ t.entries ↔ e ∈ S := by
  obtain ⟨p, a⟩ := e
  rw [entries, h.sound.mem_levelEntries_iff, ← h.lookup_iff]
  constructor
  · rintro ⟨r, rfl, hr⟩
    exact hr
  · exact fun hp => ⟨p, rfl, hp⟩

/-! ### Commands are selected -/

/-- What words select was accepted, under the path that they select. -/
theorem Represents.mem_of_resolve (h : Represents t S) {words : List String} {a : α}
    (ha : (t.resolve words).command? = some a) : ((t.resolve words).path, a) ∈ S := by
  unfold resolve at ha ⊢
  split at ha
  · cases ha
  · next hwords =>
    rw [if_neg hwords]
    obtain ⟨p, rest, -, hfound, hnone⟩ := h.levelAt.resolveFrom_greedy words
    by_cases hp : (∃ a, (p, a) ∈ S) ∧ ((∀ w, ¬ Follows S p w) ∨ rest = [])
    · obtain ⟨⟨b, hb⟩, hends⟩ := hp
      have hresolve := hfound b hb hends
      rw [List.length_nil, List.reverse_nil] at hresolve
      rw [hresolve] at ha ⊢
      obtain rfl := Option.some.inj ha
      exact hb
    · have hresolve := hnone hp
      rw [List.length_nil, List.reverse_nil] at hresolve
      rw [hresolve] at ha
      cases ha

/-- The words of a path lead to it. -/
theorem greedy_append {q p args : List String} {a : α} (hwords : ∀ w ∈ p, w ≠ "")
    (hmem : (q ++ p, a) ∈ S) (hends : ∀ w, ¬ Follows S (q ++ p) w) :
    Greedy S q (p ++ args) (q ++ p) args := by
  induction p generalizing q with
  | nil =>
    rw [List.append_nil] at hmem hends ⊢
    exact .ended ⟨⟨a, hmem⟩, hends⟩
  | cons w p ih =>
    have hfollows : Follows S q w := ⟨p, a, hmem⟩
    have happend : q ++ w :: p = (q ++ [w]) ++ p := by simp
    rw [happend] at hmem hends ⊢
    refine .next (fun hq => hq.2 w hfollows) ⟨hwords w List.mem_cons_self, hfollows, Or.inl rfl⟩ ?_
    exact ih (fun v hv => hwords v (List.mem_cons_of_mem w hv)) hmem hends

/-- The whole path of a command selects it, and leaves the words behind it, if no longer path begins with
it. -/
theorem Represents.resolve_append (h : Represents t S) {p : List String} {a : α} (hp : IsPath p)
    (hmem : (p, a) ∈ S) (hends : ∀ w, ¬ Follows S p w) (args : List String) :
    t.resolve (p ++ args) = ⟨p.length, some a, p, args⟩ := by
  have hwords : ∀ w ∈ p, w ≠ "" := fun w hw => hp.ne_selfKey hw
  obtain ⟨p', rest, hgreedy, hfound, -⟩ := h.levelAt.resolveFrom_greedy (p ++ args)
  have hpath : Greedy S [] (p ++ args) p args := by
    have h := @greedy_append _ S [] p args a hwords hmem hends
    rwa [List.nil_append] at h
  obtain ⟨rfl, rfl⟩ := hpath.unique hgreedy
  have hne : ¬ (p' ++ rest).isEmpty = true := by simp [hp.1]
  rw [resolve, if_neg hne]
  exact hfound a hmem (Or.inl hends)

end Stored

end RouterShell.CommandTree
