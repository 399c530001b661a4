import Mathlib.Data.String.Basic
import RouterShell.Abbreviation

/-!
# Names and their abbreviations

A map of names has each name once, so what is stored under a name is what stands beside it in the
list of entries. This module proves that entering a name keeps the order of the names
(`increasing_insert`), that nothing else but what is stored makes two maps differ (`Increasing.ext`),
and says without the list of entries which entry a word selects (`abbreviate_eq_some_iff`).
-/

namespace RouterShell

variable {α : Type}

namespace SortedMap

/-- The keys of an inserted entry and of the old ones. -/
theorem mem_keys_insert {k k' : String} {v : α} {m : SortedMap String α}
    (h : k' ∈ keys (insert k v m)) : k' = k ∨ k' ∈ keys m := by
  induction m with
  | nil => simpa [insert] using h
  | cons e m ih =>
    unfold insert at h
    split at h
    · simp only [keys_cons, List.mem_cons] at h ⊢
      rcases h with h | h
      · exact Or.inl h
      · exact Or.inr (Or.inr h)
    · split at h
      · simpa only [keys_cons, List.mem_cons] using h
      · simp only [keys_cons, List.mem_cons] at h ⊢
        rcases h with h | h
        · exact Or.inr (Or.inl h)
        · rcases ih h with h | h
          · exact Or.inl h
          · exact Or.inr (Or.inr h)

/-- Entering a key keeps the keys in order. -/
theorem increasing_insert (k : String) (v : α) {m : SortedMap String α} (h : Increasing m) :
    Increasing (insert k v m) := by
  induction m with
  | nil => simp [Increasing, insert]
  | cons e m ih =>
    simp only [Increasing, keys_cons, List.pairwise_cons] at h
    unfold insert
    split
    · next heq =>
      simp only [Increasing, keys_cons, List.pairwise_cons]
      exact ⟨fun k' hk' => heq ▸ h.1 k' hk', h.2⟩
    · next hne =>
      split
      · next hlt =>
        simp only [Increasing, keys_cons, List.pairwise_cons, List.mem_cons]
        refine ⟨fun k' hk' => ?_, h.1, h.2⟩
        rcases hk' with rfl | hk'
        · exact hlt
        · exact lt_trans hlt (h.1 k' hk')
      · next hnlt =>
        have hgt : e.1 < k := lt_of_le_of_ne (not_lt.mp hnlt) (Ne.symm hne)
        simp only [Increasing, keys_cons, List.pairwise_cons]
        refine ⟨fun k' hk' => ?_, ih h.2⟩
        rcases mem_keys_insert hk' with rfl | hk'
        · exact hgt
        · exact h.1 k' hk'

theorem Increasing.nodup {m : SortedMap String α} (h : Increasing m) : (keys m).Nodup :=
  h.imp fun hlt => ne_of_lt hlt

/-- What is stored under a key is what stands beside it. -/
theorem find?_eq_some_iff {m : SortedMap String α} (h : Increasing m) {k : String} {v : α} :
    m.find? k = some v ↔ (k, v) ∈ m := by
  induction m with
  | nil => simp
  | cons e m ih =>
    have hnodup := h.nodup
    simp only [Increasing, keys_cons, List.pairwise_cons] at h
    simp only [keys_cons, List.nodup_cons] at hnodup
    rw [find?_cons, List.mem_cons]
    split
    · next heq =>
      subst heq
      constructor
      · intro hv
        exact Or.inl (by rw [← Option.some.inj hv])
      · rintro (hv | hv)
        · rw [← hv]
        · exact absurd (List.mem_map_of_mem hv) hnodup.1
    · next hne =>
      rw [ih h.2]
      constructor
      · exact Or.inr
      · rintro (hv | hv)
        · exact absurd (by rw [← hv]) hne
        · exact hv

/-- A name has a value in a map exactly if it is one of its keys. -/
theorem exists_find?_iff {m : SortedMap String α} {k : String} :
    (∃ a, m.find? k = some a) ↔ k ∈ m.keys := by
  induction m with
  | nil => simp
  | cons e m ih =>
    rw [find?_cons, keys_cons, List.mem_cons, ← ih]
    by_cases he : e.1 = k
    · simp [he]
    · simp [he, Ne.symm he]

/-- Storing under a key again replaces what was stored. -/
theorem insert_insert (k : String) (u v : α) (m : SortedMap String α) :
    insert k v (insert k u m) = insert k v m := by
  induction m with
  | nil => simp [insert]
  | cons e m ih =>
    by_cases heq : k = e.1
    · simp [insert, heq]
    · by_cases hlt : k < e.1
      · simp [insert, heq, hlt]
      · simp [insert, heq, hlt, ih]

/-- Storing what is stored already changes nothing. -/
theorem insert_of_find? {m : SortedMap String α} (h : Increasing m) {k : String} {v : α}
    (hk : m.find? k = some v) : insert k v m = m := by
  induction m with
  | nil => cases hk
  | cons e m ih =>
    simp only [Increasing, keys_cons, List.pairwise_cons] at h
    rw [find?_cons] at hk
    unfold insert
    split at hk
    · next heq =>
      rw [if_pos heq.symm, ← Option.some.inj hk, ← heq]
    · next hne =>
      -- the key stands further on, so it is greater than the first one
      have hmem : k ∈ keys m := List.mem_map_of_mem ((find?_eq_some_iff h.2).mp hk)
      rw [if_neg (Ne.symm hne), if_neg (not_lt.mpr (le_of_lt (h.1 k hmem))), ih h.2 hk]

/-- Maps with the same values under all keys are the same. -/
theorem Increasing.ext {m m' : SortedMap String α} (h : Increasing m) (h' : Increasing m')
    (hfind : ∀ k, m.find? k = m'.find? k) : m = m' := by
  have hmem : ∀ e, e ∈ m ↔ e ∈ m' := by
    rintro ⟨k, v⟩
    rw [← find?_eq_some_iff h, ← find?_eq_some_iff h', hfind]
  have hnodup : ∀ {l : SortedMap String α}, Increasing l → l.Nodup := fun hl =>
    (List.pairwise_map.mp hl).imp fun hlt heq => absurd (congrArg Prod.fst heq) (ne_of_lt hlt)
  have hperm : m.Perm m' := (List.perm_ext_iff_of_nodup (hnodup h) (hnodup h')).mpr hmem
  refine hperm.eq_of_pairwise (fun a b _ _ hab hba => ?_) (List.pairwise_map.mp h)
    (List.pairwise_map.mp h')
  exact absurd hba (lt_asymm hab)

/-- Values of two names may be entered in either order. -/
theorem insert_comm {k k' : String} (hne : k ≠ k') (u v : α) {m : SortedMap String α} (h : Increasing m) :
    insert k u (insert k' v m) = insert k' v (insert k u m) := by
  refine Increasing.ext (increasing_insert _ _ (increasing_insert _ _ h))
    (increasing_insert _ _ (increasing_insert _ _ h)) fun key => ?_
  rw [find?_insert, find?_insert, find?_insert, find?_insert]
  by_cases hkey : k = key
  · rw [if_pos hkey, if_pos hkey, if_neg fun hkey' => hne (hkey.trans hkey'.symm)]
  · rw [if_neg hkey, if_neg hkey]

end SortedMap

open SortedMap

/-- A word begins a name if the name starts with it. -/
theorem begins_iff {word name : String} : begins word name = true ↔ word.toList <+: name.toList := by
  rw [begins, List.isPrefixOf_iff_prefix]

theorem mem_extensions {m : SortedMap String α} {word : String} {e : String × α} :
    e ∈ extensions m word ↔ e ∈ m ∧ e.1 ≠ "" ∧ begins word e.1 = true := by
  simp [extensions]

/-- Entries of one name, if each name stands only once, are at most one entry. -/
theorem eq_singleton_of_nodup {l : SortedMap String α} (hl : (keys l).Nodup) {e : String × α}
    (he : e ∈ l) (hall : ∀ e' ∈ l, e'.1 = e.1) : l = [e] := by
  rcases l with _ | ⟨e₁, _ | ⟨e₂, l⟩⟩
  · exact absurd he List.not_mem_nil
  · rw [List.mem_singleton.mp he]
  · have h₁ := hall e₁ List.mem_cons_self
    have h₂ := hall e₂ (List.mem_cons_of_mem e₁ List.mem_cons_self)
    simp [h₁, h₂] at hl

/-- An entry is the only one whose name a word begins. -/
theorem extensions_eq_singleton_iff {m : SortedMap String α} (hm : Increasing m)
    {word name : String} {a : α} :
    extensions m word = [(name, a)] ↔
      name ≠ "" ∧ m.find? name = some a ∧ begins word name = true ∧
        ∀ k b, m.find? k = some b → k ≠ "" → begins word k = true → k = name := by
  constructor
  · intro h
    have hmem : (name, a) ∈ extensions m word := by
      rw [h]
      exact List.mem_singleton.mpr rfl
    obtain ⟨hin, hname, hbeg⟩ := mem_extensions.mp hmem
    refine ⟨hname, (find?_eq_some_iff hm).mpr hin, hbeg, ?_⟩
    intro k b hk hkne hkbeg
    have hkmem : (k, b) ∈ extensions m word :=
      mem_extensions.mpr ⟨(find?_eq_some_iff hm).mp hk, hkne, hkbeg⟩
    rw [h, List.mem_singleton, Prod.mk.injEq] at hkmem
    exact hkmem.1
  · rintro ⟨hname, hin, hbeg, huniq⟩
    have hnodup : (keys (extensions m word)).Nodup :=
      (List.filter_sublist.map Prod.fst).nodup hm.nodup
    have hmem : (name, a) ∈ extensions m word :=
      mem_extensions.mpr ⟨(find?_eq_some_iff hm).mp hin, hname, hbeg⟩
    refine eq_singleton_of_nodup hnodup hmem ?_
    rintro ⟨k, b⟩ he
    obtain ⟨hkin, hkne, hkbeg⟩ := mem_extensions.mp he
    exact huniq k b ((find?_eq_some_iff hm).mpr hkin) hkne hkbeg

/-- A word selects an entry if it is the entry's name, or if it is no name and begins no name but
the entry's. -/
theorem abbreviate_eq_some_iff {m : SortedMap String α} (hm : Increasing m) {word name : String}
    {a : α} :
    abbreviate m word = some (name, a) ↔
      word ≠ "" ∧ name ≠ "" ∧ m.find? name = some a ∧
        (word = name ∨ m.find? word = none ∧ begins word name = true ∧
          ∀ k b, m.find? k = some b → k ≠ "" → begins word k = true → k = name) := by
  unfold abbreviate
  by_cases hw : word = ""
  · simp [hw]
  rw [if_neg hw]
  cases hfind : m.find? word with
  | some b =>
    simp only [Option.some.injEq, Prod.mk.injEq, reduceCtorEq, false_and, or_false]
    constructor
    · rintro ⟨rfl, rfl⟩
      exact ⟨hw, hw, hfind, rfl⟩
    · rintro ⟨-, -, hname, rfl⟩
      rw [hfind] at hname
      exact ⟨rfl, Option.some.inj hname⟩
  | none =>
    have hne : m.find? name = some a → word ≠ name := by
      rintro hname rfl
      rw [hfind] at hname
      cases hname
    dsimp only
    constructor
    · intro h
      split at h
      · next e hext =>
        rw [Option.some.injEq] at h
        subst h
        obtain ⟨hname, hin, hbeg, huniq⟩ := (extensions_eq_singleton_iff hm).mp hext
        exact ⟨hw, hname, hin, Or.inr ⟨rfl, hbeg, huniq⟩⟩
      · cases h
    · rintro ⟨-, hname, hin, heq | ⟨-, hbeg, huniq⟩⟩
      · exact absurd heq (hne hin)
      · rw [(extensions_eq_singleton_iff hm).mpr ⟨hname, hin, hbeg, huniq⟩]

end RouterShell
