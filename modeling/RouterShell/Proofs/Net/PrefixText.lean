import RouterShell.Completion
import RouterShell.Proofs.Net.AddressText
import RouterShell.Proofs.Net.Truncation

/-!
# Prefixes as text

A prefix is typed by a user and reported by tools. What is typed is read strictly, and what is reported is
truncated, by readers that share the reading of addresses and numbers only. This module says which texts are read
as which prefix, and that both readers agree on what is written for a prefix.

## The model

`Prefix.Spells` says which texts stand for an address and a length: a bare address, or an address, a slash and
digits, with one of some signs before the digits. It refers to the bits of the address and the value of the
digits, and to no reader of prefixes.

## What is proved

The typed texts that are accepted are those of `Prefix.Spells` where the sign is a plus or missing
(`Prefix.read_iff_spells`), and with the plus more is accepted than digits (`Prefix.plus_sign_accepted`). Whatever
is accepted there is read as the same prefix where tools report it, and the written form of a prefix is accepted
as this prefix in all places (`Prefix.shown_reads_back`).
-/

namespace RouterShell

/-! ### Numbers behind a sign -/

namespace Decimal

variable {max n : Nat} {s : List Char}

theorem readSignedAtMost_eq_some_iff :
    readSignedAtMost max s = some n ↔
      ∃ digits, (s = digits ∨ s = '+' :: digits) ∧ Lookup.isNumeral digits = true ∧
        valueFrom 0 digits = n ∧ n ≤ max := by
  unfold readSignedAtMost
  split
  · next digits =>
    rw [Lookup.readAtMost_eq_some_iff]
    constructor
    · exact fun h => ⟨digits, .inr rfl, h⟩
    · rintro ⟨digits', rfl | heq, h⟩
      · -- a plus sign is no digit
        have hplus := h.1
        rw [Lookup.isNumeral, List.all_cons, show isDigit '+' = false from rfl] at hplus
        simp at hplus
      · rwa [(List.cons.inj heq).2]
  · next hplus =>
    rw [Lookup.readAtMost_eq_some_iff]
    constructor
    · exact fun h => ⟨s, .inl rfl, h⟩
    · rintro ⟨digits, rfl | heq, h⟩
      · exact h
      · exact absurd heq (hplus digits)

/-- A number is read off a sign and a text of digits. -/
theorem readSignedAtMost_iff_sign :
    readSignedAtMost max s = some n ↔
      ∃ sign ∈ ["", "+"], ∃ digits : String, s = sign.toList ++ digits.toList ∧ digits ≠ "" ∧
        (∀ c ∈ digits.toList, isDigit c = true) ∧ valueFrom 0 digits.toList = n ∧ n ≤ max := by
  rw [readSignedAtMost_eq_some_iff]
  constructor
  · rintro ⟨digits, hs, hnumeral, hvalue⟩
    obtain ⟨hne, hdigits⟩ := Lookup.isNumeral_iff.mp hnumeral
    have hsign : ∃ sign ∈ ["", "+"], s = sign.toList ++ (String.ofList digits).toList := by
      rw [String.toList_ofList]
      rcases hs with rfl | rfl
      · exact ⟨"", by simp, rfl⟩
      · exact ⟨"+", by simp, rfl⟩
    obtain ⟨sign, hsign, hs⟩ := hsign
    refine ⟨sign, hsign, String.ofList digits, hs, ?_⟩
    rw [Ne, String.ofList_eq_empty_iff, String.toList_ofList]
    exact ⟨hne, hdigits, hvalue⟩
  · rintro ⟨sign, hsign, digits, hs, hne, hdigits, hvalue⟩
    rw [Ne, ← String.toList_eq_nil_iff] at hne
    refine ⟨digits.toList, ?_, Lookup.isNumeral_iff.mpr ⟨hne, hdigits⟩, hvalue⟩
    rcases List.mem_cons.mp hsign with rfl | hsign
    · exact .inl hs
    · obtain rfl := List.mem_singleton.mp hsign
      exact .inr hs

end Decimal

namespace Prefix

/-! ### Texts of prefixes -/

/-- A text stands for an address and a length; `signs` may stand before the digits of the length. -/
inductive Spells (signs : List String) : String → IpAddr → Nat → Prop where
  /-- A bare address is as long as it can be. -/
  | bare {text : String} {a : IpAddr} : IpAddr.read text = some a → Spells signs text a a.family.bits
  /-- The length stands behind a slash; it is not larger than the address, and no bit behind it is set. -/
  | long {addr sign digits : String} {a : IpAddr} :
      sign ∈ signs → IpAddr.read addr = some a → digits ≠ "" → (∀ c ∈ digits.toList, Decimal.isDigit c = true) →
      Decimal.valueFrom 0 digits.toList ≤ a.family.bits →
      (∀ i, Decimal.valueFrom 0 digits.toList ≤ i → a.bit i = false) →
      Spells signs (addr ++ "/" ++ sign ++ digits) a (Decimal.valueFrom 0 digits.toList)

section Texts

variable {before after s : List Char} {text : String} {a : IpAddr} {p : Prefix} {len : Nat}

theorem cutAtSlash_of_not_mem (h : '/' ∉ s) : cutAtSlash s = (s, none) := by
  have hnil : s.dropWhile (· ≠ '/') = [] :=
    List.dropWhile_eq_nil_iff.mpr fun c hc => decide_eq_true fun heq => h (heq ▸ hc)
  rw [cutAtSlash, hnil]

theorem cutAtSlash_append (h : '/' ∉ before) (after : List Char) :
    cutAtSlash (before ++ '/' :: after) = (before, some after) := by
  have hbefore : ∀ c ∈ before, decide (c ≠ '/') = true := fun c hc => decide_eq_true fun heq => h (heq ▸ hc)
  have hslash : Stops (fun c => decide (c ≠ '/')) ('/' :: after) := .cons (by decide)
  rw [cutAtSlash, dropWhile_run hbefore hslash]
  simp only [takeWhile_run hbefore hslash]

theorem not_mem_of_read (h : IpAddr.read text = some a) : '/' ∉ text.toList := by
  intro hmem
  exact absurd (IpAddr.isAddressChar_of_read h _ hmem) (by decide)

theorem read_bare (h : '/' ∉ text.toList) :
    read text = match IpAddr.read text with
      | none => .error (.notAnAddress text)
      | some a => make a a.family.bits := by
  unfold read
  cases hread : IpAddr.read text with
  | none => simp only [cutAtSlash_of_not_mem h, String.ofList_toList, hread]
  | some a => simp only [cutAtSlash_of_not_mem h, String.ofList_toList, hread]

theorem read_long (h : '/' ∉ before) (after : List Char) :
    read (String.ofList (before ++ '/' :: after)) = match IpAddr.read (String.ofList before) with
      | none => .error (.notAnAddress (String.ofList before))
      | some a => match Decimal.readSignedAtMost maxWritten after with
        | none => .error (.notALength (String.ofList after))
        | some len => make a len := by
  unfold read
  cases hread : IpAddr.read (String.ofList before) with
  | none => simp only [String.toList_ofList, cutAtSlash_append h, hread]
  | some a =>
    cases hlen : Decimal.readSignedAtMost maxWritten after with
    | none => simp only [String.toList_ofList, cutAtSlash_append h, hread, hlen]
    | some len => simp only [String.toList_ofList, cutAtSlash_append h, hread, hlen]

/-- A text is read as a prefix either as its bare address, or as its address and length. -/
theorem read_eq_ok_iff :
    read text = .ok p ↔
      (IpAddr.read text = some p.addr ∧ p.len = p.addr.family.bits) ∨
      ∃ before after, text = String.ofList (before ++ '/' :: after) ∧
        IpAddr.read (String.ofList before) = some p.addr ∧
        Decimal.readSignedAtMost maxWritten after = some p.len := by
  constructor
  · intro h
    by_cases hslash : '/' ∈ text.toList
    · obtain ⟨before, after, htext, hbefore⟩ := List.eq_append_cons_of_mem hslash
      rw [← String.ofList_toList (s := text), htext] at h ⊢
      rw [read_long hbefore] at h
      refine .inr ⟨before, after, rfl, ?_⟩
      split at h
      · cases h
      · next a hread =>
        split at h
        · cases h
        · next len hlen =>
          obtain ⟨rfl, rfl⟩ := make_eq_ok_iff_eq.mp h
          exact ⟨hread, hlen⟩
    · rw [read_bare hslash] at h
      split at h
      · cases h
      · next a hread =>
        obtain ⟨rfl, hlen⟩ := make_eq_ok_iff_eq.mp h
        exact .inl ⟨hread, hlen⟩
  · rintro (⟨hread, hlen⟩ | ⟨before, after, rfl, hread, hlen⟩)
    · rw [read_bare (not_mem_of_read hread), hread]
      exact make_eq_ok_iff_eq.mpr ⟨rfl, hlen⟩
    · have hbefore := not_mem_of_read hread
      rw [String.toList_ofList] at hbefore
      rw [read_long hbefore, hread]
      dsimp only
      rw [hlen]
      exact make_eq_ok_iff_eq.mpr ⟨rfl, rfl⟩

/-- The parts of a text with a slash. -/
theorem ofList_long (before : List Char) (sign digits : String) :
    String.ofList (before ++ '/' :: (sign.toList ++ digits.toList)) =
      String.ofList before ++ "/" ++ sign ++ digits := by
  rw [← String.toList_inj]
  simp

/-- A length that fits an address is one that is understood as a length. -/
theorem bits_le_maxWritten (f : Family) : f.bits ≤ maxWritten := by
  cases f <;> decide

end Texts

/-! ### What is typed -/

/-- **What is accepted as a prefix is an address, or an address and its length.** A text is read as the prefix of
an address and a length exactly if it stands for them; a bare address has its full length. The digits of a length
may have a plus sign in front. -/
theorem read_iff_spells (text : String) (a : IpAddr) (len : Nat) :
    (∃ p, read text = .ok p ∧ p.addr = a ∧ p.len = len) ↔ Spells ["", "+"] text a len := by
  constructor
  · rintro ⟨p, h, rfl, rfl⟩
    rcases read_eq_ok_iff.mp h with ⟨hread, hlen⟩ | ⟨before, after, rfl, hread, hlen⟩
    · rw [hlen]
      exact .bare hread
    · obtain ⟨sign, hsign, digits, rfl, hne, hdigits, hvalue, -⟩ := Decimal.readSignedAtMost_iff_sign.mp hlen
      obtain ⟨hlength, hclear⟩ := exists_iff.mp ⟨p, rfl, rfl⟩
      rw [ofList_long, ← hvalue]
      rw [← hvalue] at hlength hclear
      exact .long hsign hread hne hdigits hlength hclear
  · intro h
    cases h with
    | bare hread =>
      obtain ⟨p, rfl, hlen⟩ := exists_iff.mpr ⟨Nat.le_refl a.family.bits, fun i => IpAddr.bit_of_le⟩
      exact ⟨p, read_eq_ok_iff.mpr (.inl ⟨hread, hlen⟩), rfl, hlen⟩
    | @long addr sign digits _ hsign hread hne hdigits hlength hclear =>
      obtain ⟨p, rfl, hlen⟩ := exists_iff.mpr ⟨hlength, hclear⟩
      have hnumber := Decimal.readSignedAtMost_iff_sign.mpr
        ⟨sign, hsign, digits, rfl, hne, hdigits, hlen.symm, p.len_le.trans (bits_le_maxWritten p.family)⟩
      rw [← String.ofList_toList (s := addr)] at hread ⊢
      exact ⟨p, read_eq_ok_iff.mpr (.inr ⟨_, _, (ofList_long _ _ _).symm, hread, hnumber⟩), rfl, hlen⟩

/-- A length is accepted with a sign in front, which is no digit. -/
theorem plus_sign_accepted :
    (∃ p, read "10.0.0.0/+8" = .ok p ∧ p.text = "10.0.0.0/8") ∧ ∀ a len, ¬ Spells [""] "10.0.0.0/+8" a len := by
  refine ⟨⟨_, rfl, by decide⟩, fun a len h => ?_⟩
  generalize htext : "10.0.0.0/+8" = text at h
  cases h with
  | bare hread =>
    subst htext
    exact not_mem_of_read hread (by decide)
  | @long addr sign digits _ hsign hread _ hdigits _ _ =>
    obtain rfl : sign = "" := List.mem_singleton.mp hsign
    -- the only slash of the text is the one in front of the digits
    have hcut : cutAtSlash "10.0.0.0/+8".toList = (addr.toList, some digits.toList) := by
      rw [htext, ← cutAtSlash_append (not_mem_of_read hread)]
      congr 1
      simp
    have hafter : "+8".toList = digits.toList := Option.some.inj (congrArg Prod.snd hcut)
    rw [← hafter] at hdigits
    exact absurd (hdigits '+' (by decide)) (by decide)

/-! ### What is reported -/

/-- What is accepted where it is typed is the same prefix where it is reported. -/
theorem destination_of_read {text : String} {p : Prefix} (h : read text = .ok p) (family : Family) :
    Report.destination? text family = some p := by
  have hdefault : text ≠ "default" := by
    rintro rfl
    cases h
  unfold Report.destination?
  rw [if_neg hdefault]
  rcases read_eq_ok_iff.mp h with ⟨hread, hlen⟩ | ⟨before, after, rfl, hread, hlen⟩
  · rw [cutAtSlash_of_not_mem (not_mem_of_read hread)]
    dsimp only
    rw [String.ofList_toList, hread]
    refine congrArg some ?_
    rw [host, ← hlen, truncating_self]
  · have hbefore := not_mem_of_read hread
    rw [String.toList_ofList] at hbefore
    rw [String.toList_ofList, cutAtSlash_append hbefore]
    dsimp only
    rw [hread]
    dsimp only
    rw [hlen, Option.map_some, truncating_self]

/-- The written form of a prefix is read as this prefix. -/
theorem read_text (p : Prefix) : read p.text = .ok p := by
  refine read_eq_ok_iff.mpr (.inr ⟨p.addr.text.toList, (toString p.len).toList, ?_, ?_, ?_⟩)
  · rw [← String.toList_inj, show p.text = p.addr.text ++ "/" ++ toString p.len from rfl]
    simp
  · rw [String.ofList_toList, IpAddr.read_text]
  · exact Decimal.readSignedAtMost_eq_some_iff.mpr ⟨_, .inl rfl, Lookup.isNumeral_toString p.len,
      Lookup.valueFrom_toString p.len, p.len_le.trans (bits_le_maxWritten p.family)⟩

/-- **A prefix is read back from its written form, wherever prefixes are read.** For every prefix, its written
form is accepted as this prefix where one is typed, with no family asked for or its own, and refused for its family
where another one is asked for. Where it is reported it names this prefix as well, whatever the family of the
query. Any other text that is accepted as this prefix names it in reports too. -/
theorem shown_reads_back (p : Prefix) :
    read p.text = .ok p ∧
      (∀ family, Report.destination? p.text family = some p) ∧
      (∀ net, (Completer.net none).parse net p.text = pure (.ok (.net p)) ∧
        (Completer.net (some p.family)).parse net p.text = pure (.ok (.net p)) ∧
        ∀ family, family ≠ p.family →
          (Completer.net (some family)).parse net p.text = pure (.error (.prefixFamily p.text family))) ∧
      ∀ text, read text = .ok p → ∀ family, Report.destination? text family = some p := by
  have hread := read_text p
  refine ⟨hread, destination_of_read hread, fun net => ⟨?_, ?_, fun family hfamily => ?_⟩,
    fun text => destination_of_read⟩
  · simp only [Completer.net, hread]
  · simp only [Completer.net, hread, if_true]
  · simp only [Completer.net, hread, if_neg hfamily.symm]

end Prefix

end RouterShell
