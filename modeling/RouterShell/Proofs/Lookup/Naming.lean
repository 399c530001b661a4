import Mathlib.Data.List.Induction
import RouterShell.Lookup

/-!
# Names and ids, there and back

A table of names and ids is shown by names and read by names. It keeps two maps for that, and an entry is stored
in both without regard to what they held before. So what is shown for an id need not be read as this id. This
module says exactly when it is.

## The model

A table is what a list of entries makes of the empty one, inserted in order. `ShownFor` says of such a list
which name was inserted last for an id, and which entries came later.

## What is proved

Each of the two maps has the last entry of a key (`SortedMap.find?_ofList`). An id without a name is shown by
its digits, which are always read as this id (`Lookup.id?_toString`). A name is read as the id for which it is
shown unless it was inserted again later, for another id, or is a numeral of another number
(`Lookup.shown_name_reads_back_iff`).
-/

namespace RouterShell

/-! ### The last entry of a key -/

namespace SortedMap

variable {κ α : Type} [DecidableEq κ] [LT κ] [DecidableLT κ] {k : κ} {v : α} {entries before later : List (κ × α)}

theorem ofList_concat (entries : List (κ × α)) (e : κ × α) :
    ofList (entries ++ [e]) = insert e.1 e.2 (ofList entries) := by
  rw [ofList, List.foldl_append]
  rfl

/-- A key has the value of its last entry. The induction goes over the entries from the last one on. -/
theorem find?_ofList (entries : List (κ × α)) (k : κ) :
    (ofList entries).find? k = (entries.reverse.find? fun e => decide (e.1 = k)).map Prod.snd := by
  induction entries using List.reverseRecOn with
  | nil => rfl
  | append_singleton entries e ih =>
    rw [ofList_concat, find?_insert, ih, List.reverse_append, List.reverse_singleton, List.singleton_append,
      List.find?_cons]
    by_cases hkey : e.1 = k
    · rw [if_pos hkey, decide_eq_true hkey]
      rfl
    · rw [if_neg hkey, decide_eq_false hkey]

/-- Later entries come first. -/
theorem find?_ofList_append (before later : List (κ × α)) (k : κ) :
    (ofList (before ++ later)).find? k = ((ofList later).find? k).or ((ofList before).find? k) := by
  rw [find?_ofList, find?_ofList, find?_ofList, List.reverse_append, List.find?_append, Option.map_or]

theorem find?_ofList_eq_none_iff : (ofList entries).find? k = none ↔ ∀ e ∈ entries, e.1 ≠ k := by
  rw [find?_ofList, Option.map_eq_none_iff, List.find?_eq_none]
  simp

theorem find?_ofList_of_last (h : ∀ e ∈ later, e.1 ≠ k) :
    (ofList (before ++ (k, v) :: later)).find? k = some v := by
  rw [← List.singleton_append, find?_ofList_append, find?_ofList_append, find?_ofList_eq_none_iff.mpr h,
    Option.none_or, find?_ofList]
  simp

/-- A key with a value has a last entry. -/
theorem exists_last (h : (ofList entries).find? k = some v) :
    ∃ before later, entries = before ++ (k, v) :: later ∧ ∀ e ∈ later, e.1 ≠ k := by
  rw [find?_ofList, Option.map_eq_some_iff] at h
  obtain ⟨⟨k', v'⟩, hfind, rfl⟩ := h
  obtain ⟨hkey, later, before, hentries, hlater⟩ := List.find?_eq_some_iff_append.mp hfind
  obtain rfl : k' = k := by simpa using hkey
  refine ⟨before.reverse, later.reverse, ?_, fun e he => ?_⟩
  · rw [← List.reverse_reverse entries, hentries]
    simp
  · simpa using hlater e (List.mem_reverse.mp he)

end SortedMap

/-! ### Digits -/

namespace Lookup

theorem isNumeral_toString (n : Nat) : isNumeral (toString n).toList = true := by
  rw [Nat.toString_eq_repr, Nat.toList_repr, isNumeral, Bool.and_eq_true, List.all_eq_true]
  refine ⟨by simp [Nat.toDigits_ne_nil], fun c hc => ?_⟩
  exact Nat.isDigit_of_mem_toDigits (by decide) (by decide) hc

/-- The digits of a number have its value. -/
theorem valueFrom_toString (n : Nat) : Decimal.valueFrom 0 (toString n).toList = n := by
  rw [Nat.toString_eq_repr, Nat.toList_repr, Decimal.valueFrom]
  have hvalue : Nat.ofDigitChars 10 (Nat.toDigits 10 n) 0 = n := Nat.ofDigitChars_ten_toDigits
  rw [Nat.ofDigitChars_eq_foldl] at hvalue
  simpa only [Decimal.digitValue, Nat.mul_comm] using hvalue

/-! ### Reading and showing -/

variable {t : Lookup} {word name : String} {id : Nat} {entries before later : List (String × Nat)}

/-- A numeral has a value, which can be too large. -/
theorem readAtMost_of_isNumeral {s : List Char} (h : isNumeral s = true) (max : Nat) :
    Decimal.readAtMost max s =
      if Decimal.valueFrom 0 s ≤ max then some (Decimal.valueFrom 0 s) else none := by
  simp only [isNumeral, Bool.and_eq_true, Bool.not_eq_true'] at h
  rw [Decimal.readAtMost, Decimal.readDigits, h.1, h.2, Bool.not_true, Bool.or_false, if_neg (by decide),
    Option.filter_some]
  simp only [decide_eq_true_eq]

/-- What is read as a number is a numeral whose value is not too large. -/
theorem readAtMost_eq_some_iff {max n : Nat} {s : List Char} :
    Decimal.readAtMost max s = some n ↔ isNumeral s = true ∧ Decimal.valueFrom 0 s = n ∧ n ≤ max := by
  by_cases hs : isNumeral s = true
  · rw [readAtMost_of_isNumeral hs]
    grind
  · have hdigits : Decimal.readDigits s = none := by
      simp_all [isNumeral, Decimal.readDigits]
    simp [Decimal.readAtMost, hdigits, hs]

/-- A numeral stands for its number, whatever the table holds. -/
theorem id?_of_isNumeral (t : Lookup) (h : isNumeral word.toList = true) :
    t.id? word = if Decimal.valueFrom 0 word.toList ≤ Decimal.max32 then
      some (Decimal.valueFrom 0 word.toList) else none := by
  rw [id?, if_pos h, readAtMost_of_isNumeral h]

/-- Any other word stands for the id that the table has for it. -/
theorem id?_of_not_isNumeral (t : Lookup) (h : isNumeral word.toList = false) : t.id? word = t.ids.find? word := by
  rw [id?, h, if_neg Bool.false_ne_true]

/-- The digits of an id stand for it. -/
theorem id?_toString (t : Lookup) (hid : id ≤ Decimal.max32) : t.id? (toString id) = some id := by
  rw [id?_of_isNumeral t (isNumeral_toString id), valueFrom_toString, if_pos hid]

theorem ofList_concat (entries : List (String × Nat)) (e : String × Nat) :
    ofList (entries ++ [e]) = (ofList entries).insert e.1 e.2 := by
  rw [ofList, List.foldl_append]
  rfl

/-- Either map of a table is made of its entries in order. -/
theorem ofList_eq (entries : List (String × Nat)) :
    ofList entries = ⟨SortedMap.ofList entries, SortedMap.ofList (entries.map Prod.swap)⟩ := by
  induction entries using List.reverseRecOn with
  | nil => rfl
  | append_singleton entries e ih =>
    rw [ofList_concat, ih, SortedMap.ofList_concat, List.map_append, List.map_singleton,
      SortedMap.ofList_concat]
    rfl

/-- Among entries, a name was inserted last for an id, and some came later. -/
def ShownFor (entries : List (String × Nat)) (id : Nat) (name : String) (later : List (String × Nat)) : Prop :=
  (∃ before, entries = before ++ (name, id) :: later) ∧ ∀ e ∈ later, e.2 ≠ id

theorem ShownFor.name_eq (h : ShownFor entries id name later) : (ofList entries).name id = name := by
  obtain ⟨⟨before, rfl⟩, hlater⟩ := h
  have hshown : (ofList (before ++ (name, id) :: later)).shown.find? id = some name := by
    rw [ofList_eq, List.map_append, List.map_cons]
    refine SortedMap.find?_ofList_of_last fun e he => ?_
    obtain ⟨e', he', rfl⟩ := List.mem_map.mp he
    exact hlater e' he'
  rw [Lookup.name, hshown, Option.getD_some]

/-- An id is shown by the name that was inserted last for it, or by its digits. -/
theorem shownFor_or_unnamed (entries : List (String × Nat)) (id : Nat) :
    (∃ name later, ShownFor entries id name later) ∨
      (∀ e ∈ entries, e.2 ≠ id) ∧ (ofList entries).name id = toString id := by
  cases hfind : (SortedMap.ofList (entries.map Prod.swap)).find? id with
  | none =>
    refine Or.inr ⟨fun e he => ?_, by rw [Lookup.name, ofList_eq, hfind, Option.getD_none]⟩
    exact SortedMap.find?_ofList_eq_none_iff.mp hfind e.swap (List.mem_map_of_mem he)
  | some name =>
    obtain ⟨before, later, hentries, hlater⟩ := SortedMap.exists_last hfind
    have hswap := congrArg (List.map Prod.swap) hentries
    rw [List.map_map, Prod.swap_swap_eq, List.map_id, List.map_append, List.map_cons] at hswap
    refine Or.inl ⟨name, later.map Prod.swap, ⟨before.map Prod.swap, hswap⟩, fun e he => ?_⟩
    obtain ⟨e', he', rfl⟩ := List.mem_map.mp he
    exact hlater e' he'

/-- The id that a table has for a name is the one for which the name is shown, unless the name was inserted again
later. -/
theorem ShownFor.find?_eq_some_iff (h : ShownFor entries id name later) :
    (ofList entries).ids.find? name = some id ↔ ∀ e ∈ later, e.1 ≠ name := by
  obtain ⟨⟨before, rfl⟩, hlater⟩ := h
  rw [ofList_eq]
  constructor
  · intro hfind
    cases hlast : (SortedMap.ofList later).find? name with
    | none => exact SortedMap.find?_ofList_eq_none_iff.mp hlast
    | some id' =>
      -- an entry that came later is one of another id
      rw [List.append_cons, SortedMap.find?_ofList_append, hlast, Option.some_or, Option.some.injEq] at hfind
      obtain ⟨before', later', rfl, -⟩ := SortedMap.exists_last hlast
      exact absurd hfind (hlater (name, id') (by simp))
  · exact fun hname => SortedMap.find?_ofList_of_last hname

/-- **What is shown for an id is read as this id, unless the name was taken by another one.** A table is made by
any sequence of entries. The name or the digits shown for an id stand for this id again if and only if the name,
in case there is one, has not been inserted for another id since, or if it is a numeral, is one of this id.
Numerals are never looked up among the names. -/
theorem shown_name_reads_back_iff (entries : List (String × Nat)) (hid : id ≤ Decimal.max32) :
    (ofList entries).id? ((ofList entries).name id) = some id ↔
      ∀ name later, ShownFor entries id name later →
        (isNumeral name.toList = true → Decimal.valueFrom 0 name.toList = id) ∧
        (isNumeral name.toList = false → ∀ e ∈ later, e.1 ≠ name) := by
  constructor
  · intro hread name later hshown
    rw [hshown.name_eq] at hread
    refine ⟨fun hnumeral => ?_, fun hname => ?_⟩
    · rw [id?_of_isNumeral _ hnumeral] at hread
      split at hread
      · exact Option.some.inj hread
      · cases hread
    · rw [id?_of_not_isNumeral _ hname] at hread
      exact hshown.find?_eq_some_iff.mp hread
  · intro h
    rcases shownFor_or_unnamed entries id with ⟨name, later, hshown⟩ | ⟨-, hdigits⟩
    · obtain ⟨hnumeral, hname⟩ := h name later hshown
      rw [hshown.name_eq]
      cases hkind : isNumeral name.toList with
      | true => rw [id?_of_isNumeral _ hkind, hnumeral hkind, if_pos hid]
      | false =>
        rw [id?_of_not_isNumeral _ hkind]
        exact hshown.find?_eq_some_iff.mpr (hname hkind)
    · rw [hdigits, id?_toString _ hid]

/-- In a table of two names that are used once, the first name stands for its id. -/
theorem main_reads_back :
    254 ≤ Decimal.max32 ∧ (ofList [("main", 254), ("local", 255)]).name 254 = "main" ∧
      (ofList [("main", 254), ("local", 255)]).id? "main" = some 254 := by
  have hid : 254 ≤ Decimal.max32 := by decide
  have hname : (ofList [("main", 254), ("local", 255)]).name 254 = "main" := by decide
  refine ⟨hid, hname, ?_⟩
  rw [← hname]
  refine (shown_name_reads_back_iff _ hid).mpr ?_
  rintro name later ⟨⟨before, hentries⟩, -⟩
  rcases before with _ | ⟨_, _ | ⟨_, before⟩⟩
  · obtain ⟨hentry, rfl⟩ := List.cons.inj hentries
    obtain ⟨rfl, -⟩ := Prod.mk.inj hentry
    exact ⟨fun h => absurd h (by decide), fun _ => by decide⟩
  · exact absurd (Prod.mk.inj (List.cons.inj (List.cons.inj hentries).2).1).2 (by decide)
  · exact absurd (List.cons.inj (List.cons.inj hentries).2).2.symm (by simp)

/-- After `a` was inserted for 1 and then for 2, the name `a` is shown for 1, but stands for 2. A name of digits
stands for another id or for none. -/
theorem shown_name_misread :
    let rebound := ofList [("a", 1), ("a", 2)]
    let numerals := ofList [("5", 7), ("4294967296", 8)]
    rebound.name 1 = "a" ∧ rebound.id? (rebound.name 1) = some 2 ∧
      numerals.name 7 = "5" ∧ numerals.id? (numerals.name 7) = some 5 ∧
      numerals.name 8 = "4294967296" ∧ numerals.id? (numerals.name 8) = none := by
  decide

end Lookup

end RouterShell
