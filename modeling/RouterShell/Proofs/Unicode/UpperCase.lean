import Mathlib.Data.List.Induction
import RouterShell.Text.Blank
import RouterShell.Unicode.Case

/-!
# Upper case and white space

Headers of tables are shown in upper case, and lines are laid out and trimmed with upper case in them. This module
says that upper case does not bring in blanks: the mappings of single characters and the list of those that become
several have no blank among their images.

## The model

The class of blanks is given by its ranges (`blankRanges`), with which the rows of the mapping are compared as a
whole, by their first and last image.

## What is proved

A blank in the upper case of a character is the character itself (`eq_of_mem_upperChar`), so a text in upper case
holds the blanks that it held before (`mem_of_mem_toUpper`) and ends with a blank only if it did
(`endsBlank_toUpper`).
-/

namespace RouterShell.Unicode

open Text

/-- The first and last code points of the ranges of blanks. -/
def blankRanges : List (Nat × Nat) :=
  [(9, 13), (0x20, 0x20), (0x85, 0x85), (0xA0, 0xA0), (0x1680, 0x1680), (0x2000, 0x200A), (0x2028, 0x2029),
    (0x202F, 0x202F), (0x205F, 0x205F), (0x3000, 0x3000)]

/-- The images of a row of a mapping lie outside the ranges of blanks. -/
def missesBlanks (row : Nat × Nat × Nat × Int) : Bool :=
  blankRanges.all fun r => decide (row.2.1 + row.2.2.2 < (r.1 : Int)) || decide ((r.2 : Int) < row.1 + row.2.2.2)

section Images

variable {c d : Char} {n m : Nat}

theorem exists_range (h : isBlank c = true) : ∃ r ∈ blankRanges, r.1 ≤ c.toNat ∧ c.toNat ≤ r.2 := by
  simp only [isBlank, Bool.or_eq_true, Bool.and_eq_true, decide_eq_true_eq, beq_iff_eq] at h
  simp only [blankRanges, List.mem_cons, List.not_mem_nil, or_false, exists_eq_or_imp, exists_eq_left]
  omega

theorem exists_row {runs : List (Nat × Nat × Nat × Int)} (h : runImage n runs = some m) :
    ∃ row ∈ runs, row.1 ≤ n ∧ n ≤ row.2.1 ∧ m = Int.toNat (n + row.2.2.2) := by
  induction runs with
  | nil => cases h
  | cons row runs ih =>
    obtain ⟨first, last, step, delta⟩ := row
    rw [runImage] at h
    split at h
    · next hrow =>
      simp only [Bool.and_eq_true, decide_eq_true_eq] at hrow
      exact ⟨_, List.mem_cons_self, hrow.1.1, hrow.1.2, (Option.some.inj h).symm⟩
    · obtain ⟨row, hmem, himage⟩ := ih h
      exact ⟨row, List.mem_cons_of_mem _ hmem, himage⟩

/-- A number stands for the character with this code point, or for the one with none if there is no such
character. -/
theorem toNat_ofNat (n : Nat) : (Char.ofNat n).toNat = n ∨ (Char.ofNat n).toNat = 0 := by
  by_cases hvalid : n.isValidChar
  · exact .inl (by rw [Char.ofNat, dif_pos hvalid]; rfl)
  · exact .inr (by rw [Char.ofNat, dif_neg hvalid]; rfl)

/-- A single image is no blank. -/
theorem not_blank_of_runImage (h : runImage n upperRuns = some m) : isBlank (Char.ofNat m) = false := by
  have hrows : upperRuns.all missesBlanks = true := by decide +kernel
  obtain ⟨row, hmem, hfirst, hlast, rfl⟩ := exists_row h
  refine Bool.eq_false_iff.mpr fun hblank => ?_
  obtain ⟨r, hr, hlow, hhigh⟩ := exists_range hblank
  have hmiss := List.all_eq_true.mp (List.all_eq_true.mp hrows row hmem) r hr
  rw [Bool.or_eq_true, decide_eq_true_eq, decide_eq_true_eq] at hmiss
  have hpos : ∀ r ∈ blankRanges, 0 < r.1 := by decide
  have hpos := hpos r hr
  rcases toNat_ofNat (Int.toNat (n + row.2.2.2)) with hcode | hcode
  · omega
  · omega

/-- None of several images is a blank, and there is one. -/
theorem not_blank_of_specials {e : Nat × List Nat} (h : e ∈ upperSpecials) :
    e.2 ≠ [] ∧ ∀ m ∈ e.2, isBlank (Char.ofNat m) = false := by
  have hall : ∀ e ∈ upperSpecials, e.2 ≠ [] ∧ ∀ m ∈ e.2, isBlank (Char.ofNat m) = false := by decide +kernel
  exact hall e h

/-- A blank is not the upper case of another character. -/
theorem eq_of_mem_upperChar (hd : d ∈ upperChar c) (hblank : isBlank d = true) : d = c := by
  rw [upperChar] at hd
  split at hd
  · next hascii =>
    rw [List.mem_singleton.mp hd] at hblank ⊢
    have hall : ∀ n < 128, isBlank (Char.ofNat n).toUpper = true → (Char.ofNat n).toUpper = Char.ofNat n := by
      decide +kernel
    have hc := hall c.toNat hascii
    rw [Char.ofNat_toNat] at hc
    exact hc hblank
  · rw [mapChar] at hd
    split at hd
    · next e hfind =>
      obtain ⟨m, hm, rfl⟩ := List.mem_map.mp hd
      have := (not_blank_of_specials (List.mem_of_find?_eq_some hfind)).2 m hm
      rw [hblank] at this
      cases this
    · split at hd
      · next m himage =>
        rw [List.mem_singleton.mp hd, not_blank_of_runImage himage] at hblank
        cases hblank
      · exact List.mem_singleton.mp hd

theorem upperChar_ne_nil (c : Char) : upperChar c ≠ [] := by
  rw [upperChar]
  split
  · exact List.cons_ne_nil _ _
  · rw [mapChar]
    split
    · next e hfind =>
      rw [Ne, List.map_eq_nil_iff]
      exact (not_blank_of_specials (List.mem_of_find?_eq_some hfind)).1
    · split <;> exact List.cons_ne_nil _ _

end Images

section Texts

variable {s : String} {c : Char}

/-- The blanks of a text in upper case are blanks of the text. -/
theorem mem_of_mem_toUpper (hc : isBlank c = true) (h : c ∈ (toUpper s).toList) : c ∈ s.toList := by
  rw [toUpper, String.toList_ofList] at h
  obtain ⟨d, hd, hcd⟩ := List.mem_flatMap.mp h
  rwa [eq_of_mem_upperChar hcd hc]

/-- A text in upper case ends with a blank only if the text does. -/
theorem endsBlank_toUpper (h : endsBlank s.toList = false) : endsBlank (toUpper s).toList = false := by
  rw [toUpper, String.toList_ofList]
  generalize s.toList = t at h ⊢
  induction t using List.reverseRecOn with
  | nil => rfl
  | append_singleton t c _ =>
    -- the last image belongs to the last character
    obtain ⟨front, d, hd⟩ : ∃ front d, upperChar c = front ++ [d] :=
      ⟨_, _, (List.dropLast_concat_getLast (upperChar_ne_nil c)).symm⟩
    rw [endsBlank, List.getLast?_append, List.getLast?_singleton] at h
    rw [endsBlank, List.flatMap_append, List.flatMap_singleton, hd, ← List.append_assoc, List.getLast?_append,
      List.getLast?_singleton]
    refine Bool.eq_false_iff.mpr fun hblank => ?_
    have hdc : d = c := eq_of_mem_upperChar (by rw [hd]; simp) hblank
    rw [hdc] at hblank
    exact Bool.false_ne_true (h.symm.trans hblank)

end Texts

end RouterShell.Unicode
