import Mathlib.Data.List.TakeWhile
import Mathlib.Tactic.Ring
import RouterShell.Net.Address
import RouterShell.Proofs.Lookup.Naming

/-!
# Addresses as text

An address is read as it is written. Readers look at a text from left to right and answer what is left of it, so
each is shown to read what its writer writes, whatever text follows, as long as that text does not go on with the
same kind of character.

## The model

`Stops` says that a run of characters of a kind is over. `groupsText` are groups with colons between them, or in
front of each, and `Open` texts are those that may follow them: nothing, or two colons. `Takes` says that a reader
has used up characters of addresses only.

## What is proved

Numbers are restored from their parts (`IpAddr.unsplit_split`). Groups are read as they are written
(`IpAddr.readGroups_groupsText`), where nothing is mistaken for an address of version 4 because no dot follows
(`IpAddr.readV4_eq_none`). The zeros that are left out between two colons are zeros (`IpAddr.longestZeros_zeros`),
so that every address is read back from its written form (`IpAddr.read_text`). A text that is read as an address
holds hexadecimal digits, dots and colons only (`IpAddr.isAddressChar_of_read`).
-/

namespace RouterShell

/-! ### Runs of characters -/

/-- A text does not start with a character of a kind. -/
def Stops (kind : Char → Bool) (rest : List Char) : Prop :=
  ∀ c ∈ rest.head?, kind c = false

section Runs

variable {kind : Char → Bool} {run rest : List Char}

theorem Stops.nil : Stops kind [] :=
  fun _ hc => nomatch hc

theorem Stops.cons {c : Char} (h : kind c = false) : Stops kind (c :: rest) := by
  intro d hd
  obtain rfl : c = d := Option.some.inj hd
  exact h

theorem takeWhile_run (hrun : ∀ c ∈ run, kind c = true) (hrest : Stops kind rest) :
    (run ++ rest).takeWhile kind = run := by
  rw [List.takeWhile_append_of_pos hrun]
  cases rest with
  | nil => exact List.append_nil run
  | cons c rest => rw [List.takeWhile_cons_of_neg (by simp [hrest c rfl]), List.append_nil]

theorem dropWhile_run (hrun : ∀ c ∈ run, kind c = true) (hrest : Stops kind rest) :
    (run ++ rest).dropWhile kind = rest := by
  rw [List.dropWhile_append_of_pos hrun]
  cases rest with
  | nil => rfl
  | cons c rest => rw [List.dropWhile_cons_of_neg (by simp [hrest c rfl])]

end Runs

/-! ### Digits -/

theorem Lookup.isNumeral_iff {digits : List Char} :
    isNumeral digits = true ↔ digits ≠ [] ∧ ∀ c ∈ digits, Decimal.isDigit c = true := by
  rw [isNumeral, Bool.and_eq_true, Bool.not_eq_true', List.isEmpty_eq_false_iff, List.all_eq_true]

theorem Decimal.isDigit_of_mem_toDigits {n : Nat} : ∀ c ∈ Nat.toDigits 10 n, isDigit c = true := by
  have hnumeral := Lookup.isNumeral_toString n
  rw [Nat.toString_eq_repr, Nat.toList_repr] at hnumeral
  exact (Lookup.isNumeral_iff.mp hnumeral).2

/-- A number above zero is written without a zero in front. -/
theorem Decimal.head?_toDigits_ne {n : Nat} (h : 0 < n) : (Nat.toDigits 10 n).head? ≠ some '0' := by
  induction n using Nat.strongRecOn with
  | ind n ih =>
    rw [Nat.toDigits_eq_if (by decide)]
    split
    · next hlt =>
      intro hzero
      have := Nat.digitChar_eq_zero.mp (Option.some.inj hzero)
      omega
    · next hle =>
      obtain ⟨c, front, hfront⟩ := List.exists_cons_of_ne_nil (Nat.toDigits_ne_nil (n := n / 10) (b := 10))
      have hne := ih (n / 10) (by omega) (by omega)
      rw [hfront] at hne ⊢
      exact hne

namespace Hexadecimal

theorem isDigit_of_decimal {c : Char} (h : Decimal.isDigit c = true) : isDigit c = true := by
  rw [Decimal.isDigit] at h
  rw [isDigit, value?, if_pos h]
  rfl

theorem value?_digitChar {n : Nat} (h : n < 16) : value? n.digitChar = some n := by
  have hall : ∀ n < 16, value? (Nat.digitChar n) = some n := by decide
  exact hall n h

theorem isDigit_of_mem_text {n : Nat} {c : Char} (hc : c ∈ text n) : isDigit c = true := by
  induction n using Nat.strongRecOn with
  | ind n ih =>
    rw [text, Nat.toDigits_eq_if (by decide)] at hc
    split at hc
    · next hlt =>
      rw [List.mem_singleton.mp hc, isDigit, value?_digitChar hlt]
      rfl
    · next hle =>
      rcases List.mem_append.mp hc with hc | hc
      · exact ih (n / 16) (by omega) hc
      · rw [List.mem_singleton.mp hc, isDigit, value?_digitChar (Nat.mod_lt n (by decide))]
        rfl

/-- The digits of a number have its value. -/
theorem number_text (n : Nat) : number (text n) = n := by
  induction n using Nat.strongRecOn with
  | ind n ih =>
    rw [text, Nat.toDigits_eq_if (by decide)]
    split
    · next hlt => simp [number, value?_digitChar hlt]
    · next hle =>
      have hfront : number (Nat.toDigits 16 (n / 16)) = n / 16 := ih (n / 16) (by omega)
      rw [number] at hfront
      rw [number, List.foldl_append, hfront]
      simp only [List.foldl_cons, List.foldl_nil, value?_digitChar (Nat.mod_lt n (by decide)), Option.getD_some]
      omega

end Hexadecimal

namespace IpAddr

/-! ### Groups of bits -/

theorem foldl_split (width count n acc : Nat) :
    (split width count n).foldl (fun n p => (n <<< width) + p) acc =
      acc * 2 ^ (width * count) + n % 2 ^ (width * count) := by
  induction count generalizing acc with
  | zero => simp [split, Nat.mod_one]
  | succ count ih =>
    have hpart : 2 ^ (width * (count + 1)) = 2 ^ (width * count) * 2 ^ width := by
      rw [Nat.mul_succ, Nat.pow_add]
    rw [split, List.foldl_cons, ih, hpart, Nat.mod_mul, Nat.shiftLeft_eq, Nat.shiftRight_eq_div_pow,
      Nat.one_shiftLeft]
    ring

/-- The parts of a number make up the number, as far as they reach. -/
theorem unsplit_split (width count n : Nat) : unsplit width (split width count n) = n % 2 ^ (width * count) := by
  rw [unsplit, foldl_split, Nat.zero_mul, Nat.zero_add]

theorem lt_of_mem_split {width count n p : Nat} (h : p ∈ split width count n) : p < 2 ^ width := by
  induction count with
  | zero => cases h
  | succ count ih =>
    rcases List.mem_cons.mp h with rfl | h
    · rw [Nat.one_shiftLeft]
      exact Nat.mod_lt _ (Nat.two_pow_pos width)
    · exact ih h

theorem length_split (width count n : Nat) : (split width count n).length = count := by
  induction count with
  | zero => rfl
  | succ count ih => rw [split, List.length_cons, ih]

theorem ofNat_unsplit_octets (a : BitVec 32) : BitVec.ofNat 32 (unsplit 8 (octets a)) = a := by
  rw [octets, unsplit_split, Nat.mod_eq_of_lt a.isLt, BitVec.ofNat_toNat, BitVec.setWidth_eq]

theorem ofNat_unsplit_groups (a : BitVec 128) : BitVec.ofNat 128 (unsplit 16 (groups a)) = a := by
  rw [groups, unsplit_split, Nat.mod_eq_of_lt a.isLt, BitVec.ofNat_toNat, BitVec.setWidth_eq]

/-! ### Version 4 -/

section Dotted

variable {s rest : List Char} {n : Nat}

theorem readOctet_append (h : n ≤ 255) (hrest : Stops Decimal.isDigit rest) :
    readOctet (Nat.toDigits 10 n ++ rest) = some (n, rest) := by
  have hrun := Decimal.isDigit_of_mem_toDigits (n := n)
  have hshort : (Nat.toDigits 10 n).length ≤ 3 :=
    (Nat.length_toDigits_le_iff (by decide) (by decide)).mpr (by omega)
  -- a number of several digits is not zero, so no zero stands in front
  have hfront : 1 < (Nat.toDigits 10 n).length → (Nat.toDigits 10 n).head? ≠ some '0' := by
    intro hlong
    have hone : (Nat.toDigits 10 n).length ≤ 1 ↔ n < 10 ^ 1 :=
      Nat.length_toDigits_le_iff (by decide) (by decide)
    exact Decimal.head?_toDigits_ne (by omega)
  have hvalue := Lookup.valueFrom_toString n
  rw [Nat.toString_eq_repr, Nat.toList_repr] at hvalue
  rw [readOctet, takeWhile_run hrun hrest, dropWhile_run hrun hrest, hvalue]
  rw [if_neg, if_pos h]
  simp only [List.isEmpty_iff, Nat.toDigits_ne_nil, Bool.or_eq_true, Bool.and_eq_true, decide_eq_true_eq,
    beq_iff_eq, false_or, not_or, not_and]
  exact ⟨by omega, hfront⟩

/-- Of a text the digits are used up. -/
theorem rest_of_readOctet (h : readOctet s = some (n, rest)) : rest = s.dropWhile Decimal.isDigit := by
  rw [readOctet] at h
  dsimp only at h
  split at h
  · cases h
  · split at h
    · cases h
      rfl
    · cases h

theorem readChar_cons (c : Char) (rest : List Char) : readChar c (c :: rest) = some ((), rest) := by
  rw [readChar, if_pos rfl]

theorem toList_dottedText (a : BitVec 32) :
    (dottedText a).toList = ['.'].intercalate ((octets a).map (Nat.toDigits 10)) := by
  rw [dottedText, String.toList_intercalate, List.map_map]
  congr 1
  refine List.map_congr_left fun p _ => ?_
  rw [Function.comp, Nat.toString_eq_repr, Nat.toList_repr]

theorem readV4_dotted (a : BitVec 32) (hrest : Stops Decimal.isDigit rest) :
    readV4 ((dottedText a).toList ++ rest) = some (a, rest) := by
  have hdot : ∀ s, Stops Decimal.isDigit ('.' :: s) := fun s => .cons (by decide)
  have hvalue := ofNat_unsplit_octets a
  have hmem : ∀ p ∈ octets a, p ≤ 255 := fun p hp => Nat.le_of_lt_succ (lt_of_mem_split hp)
  rw [toList_dottedText]
  obtain ⟨x, y, z, w, hparts⟩ : ∃ x y z w, octets a = [x, y, z, w] := ⟨_, _, _, _, rfl⟩
  rw [hparts] at hvalue hmem ⊢
  simp only [List.forall_mem_cons] at hmem
  obtain ⟨hx, hy, hz, hw, -⟩ := hmem
  simp only [List.map_cons, List.map_nil, List.intercalate_cons_cons, List.intercalate_singleton,
    List.append_assoc, List.cons_append, List.nil_append]
  rw [readV4]
  simp only [readOctet_append hx (hdot _), readOctet_append hy (hdot _), readOctet_append hz (hdot _),
    readOctet_append hw hrest, readChar_cons, Option.bind_eq_bind, Option.bind_some, Option.pure_def, hvalue]

/-- What is read as an address of version 4 has a dot behind its first digits. -/
theorem readV4_eq_none (h : (s.dropWhile Decimal.isDigit).head? ≠ some '.') : readV4 s = none := by
  cases hread : readOctet s with
  | none => rw [readV4, hread]; rfl
  | some r =>
    obtain ⟨n, rest⟩ := r
    have hdot : readChar '.' rest = none := by
      rw [rest_of_readOctet hread]
      cases hcs : s.dropWhile Decimal.isDigit with
      | nil => rfl
      | cons c cs =>
        rw [hcs] at h
        rw [readChar, if_neg fun heq => h (congrArg some heq)]
    rw [readV4, hread]
    simp only [Option.bind_eq_bind, Option.bind_some, hdot, Option.bind_none]

end Dotted

/-! ### Version 6 -/

/-- Groups with a colon between them, and in front of the first one unless nothing stands before it. -/
def groupsText : Bool → List Nat → List Char
  | _, [] => []
  | true, g :: gs => Hexadecimal.text g ++ groupsText false gs
  | false, g :: gs => ':' :: (Hexadecimal.text g ++ groupsText false gs)

/-- What may follow groups: nothing, or the two colons for groups that are left out. -/
inductive Open : List Char → Prop where
  /-- The end. -/
  | nil : Open []
  /-- Two colons. -/
  | colons (rest : List Char) : Open (':' :: ':' :: rest)

section Groups

variable {run rest s : List Char} {gs : List Nat} {g : Nat} {first : Bool}

theorem colonText_eq (gs : List Nat) : colonText gs = groupsText true gs := by
  induction gs using colonText.induct with
  | case1 => rfl
  | case2 g => exact (List.append_nil _).symm
  | case3 g gs hne ih =>
    obtain ⟨g', gs, rfl⟩ := List.exists_cons_of_ne_nil hne
    rw [colonText, ih]
    · rfl
    · exact hne

/-- A text in which a colon or nothing follows the first digits is no address of version 4. -/
theorem readV4_run (hrun : ∀ c ∈ run, Hexadecimal.isDigit c = true)
    (hrest : rest.head? = none ∨ rest.head? = some ':') : readV4 (run ++ rest) = none := by
  have hcolon : Decimal.isDigit ':' = false := by decide
  refine readV4_eq_none fun hdot => ?_
  induction run with
  | nil =>
    rw [List.nil_append] at hdot
    cases rest with
    | nil => cases hdot
    | cons c rest =>
      obtain rfl : c = ':' := by simpa using hrest
      rw [List.dropWhile_cons_of_neg (by simp [hcolon])] at hdot
      cases hdot
  | cons c run ih =>
    obtain ⟨hc, hrun⟩ := List.forall_mem_cons.mp hrun
    rw [List.cons_append] at hdot
    cases hdigit : Decimal.isDigit c with
    | true =>
      rw [List.dropWhile_cons_of_pos hdigit] at hdot
      exact ih hrun hdot
    | false =>
      rw [List.dropWhile_cons_of_neg (by simp [hdigit])] at hdot
      obtain rfl : c = '.' := Option.some.inj hdot
      exact absurd hc (by decide)

theorem readV4_of_head? (h : rest.head? = none ∨ rest.head? = some ':') : readV4 rest = none := by
  have hread := @readV4_run [] rest (by simp) h
  rwa [List.nil_append] at hread

theorem readGroup_append (h : g < 65536) (hrest : Stops Hexadecimal.isDigit rest) :
    readGroup (Hexadecimal.text g ++ rest) = some (g, rest) := by
  have hrun : ∀ c ∈ Hexadecimal.text g, Hexadecimal.isDigit c = true := fun c => Hexadecimal.isDigit_of_mem_text
  have hshort : (Hexadecimal.text g).length ≤ 4 :=
    (Nat.length_toDigits_le_iff (by decide) (by decide)).mpr h
  have hne : Hexadecimal.text g ≠ [] := Nat.toDigits_ne_nil
  rw [readGroup, takeWhile_run hrun hrest, dropWhile_run hrun hrest, Hexadecimal.number_text, if_neg]
  simp only [List.isEmpty_iff, hne, Bool.or_eq_true, decide_eq_true_eq, false_or]
  omega

theorem readGroup_of_stops (h : Stops Hexadecimal.isDigit s) : readGroup s = none := by
  have hempty : s.takeWhile Hexadecimal.isDigit = [] := by
    cases s with
    | nil => rfl
    | cons c s => rw [List.takeWhile_cons_of_neg (by simp [h c rfl])]
  rw [readGroup, hempty]
  rfl

theorem Open.head? (h : Open rest) : rest.head? = none ∨ rest.head? = some ':' := by
  cases h with
  | nil => exact .inl rfl
  | colons => exact .inr rfl

theorem stops_of_head? (h : rest.head? = none ∨ rest.head? = some ':') : Stops Hexadecimal.isDigit rest := by
  intro c hc
  rcases h with h | h
  · rw [h] at hc
    cases hc
  · rw [h] at hc
    obtain rfl : ':' = c := Option.some.inj hc
    decide

/-- Behind a group stands a colon, or nothing. -/
theorem head?_groupsText (gs : List Nat) (h : Open rest) :
    (groupsText false gs ++ rest).head? = none ∨ (groupsText false gs ++ rest).head? = some ':' := by
  cases gs with
  | nil => exact h.head?
  | cons g gs => exact .inr rfl

theorem readV4_groupsText (gs : List Nat) (h : Open rest) : readV4 (groupsText true gs ++ rest) = none := by
  cases gs with
  | nil => exact readV4_of_head? h.head?
  | cons g gs =>
    rw [groupsText, List.append_assoc]
    exact readV4_run (fun c => Hexadecimal.isDigit_of_mem_text) (head?_groupsText gs h)

/-- Where groups end, no further one is read. -/
theorem readGroups_open (slots : Nat) (first : Bool) (h : Open rest) :
    readGroups slots first rest = ([], false, rest) := by
  cases slots with
  | zero => rfl
  | succ slots =>
    have htail : ∀ s ∈ readSeparator first rest, s.head? = none ∨ s.head? = some ':' := by
      intro s hs
      cases first with
      | true =>
        obtain rfl : rest = s := Option.some.inj hs
        exact h.head?
      | false =>
        cases h with
        | nil => cases hs
        | colons rest =>
          obtain rfl : ':' :: rest = s := Option.some.inj hs
          exact .inr rfl
    have hv4 : (readSeparator first rest).bind readV4 = none := by
      rw [Option.bind_eq_none_iff]
      exact fun s hs => readV4_of_head? (htail s hs)
    have hgroup : (readSeparator first rest).bind readGroup = none := by
      rw [Option.bind_eq_none_iff]
      exact fun s hs => readGroup_of_stops (stops_of_head? (htail s hs))
    simp only [readGroups, hv4, hgroup, ite_self]

/-- Groups are read as they are written. The induction goes over the groups, for any number of slots. -/
theorem readGroups_groupsText (hgs : ∀ g ∈ gs, g < 65536) (h : Open rest) :
    ∀ slots first, gs.length ≤ slots →
      readGroups slots first (groupsText first gs ++ rest) = (gs, false, rest) := by
  induction gs with
  | nil => exact fun slots first _ => readGroups_open slots first h
  | cons g gs ih =>
    obtain ⟨hg, hgs⟩ := List.forall_mem_cons.mp hgs
    intro slots first hslots
    obtain ⟨slots, rfl⟩ : ∃ n, slots = n + 1 := ⟨slots - 1, by rw [List.length_cons] at hslots; omega⟩
    have htail : readSeparator first (groupsText first (g :: gs) ++ rest) =
        some (Hexadecimal.text g ++ (groupsText false gs ++ rest)) := by
      cases first with
      | true => rw [readSeparator, if_pos rfl, groupsText, List.append_assoc]
      | false =>
        rw [readSeparator, if_neg Bool.false_ne_true, groupsText, List.cons_append, readChar_cons,
          List.append_assoc]
        rfl
    have hv4 : readV4 (Hexadecimal.text g ++ (groupsText false gs ++ rest)) = none :=
      readV4_run (fun c => Hexadecimal.isDigit_of_mem_text) (head?_groupsText gs h)
    have hgroup := readGroup_append hg (stops_of_head? (head?_groupsText gs h))
    simp only [readGroups, htail, Option.bind_some, hv4, hgroup, ite_self,
      ih hgs slots false (by rw [List.length_cons] at hslots; omega)]

/-- A run of zeros that is left out is one of the groups, and counted from the first one. -/
theorem longestZeros_zeros {pos start len : Nat} (h : longestZeros pos gs = (start, len)) (hlen : 0 < len) :
    ∃ head tail, gs = head ++ (List.replicate len 0 ++ tail) ∧ start = pos + head.length := by
  induction gs generalizing pos with
  | nil =>
    cases h
    cases hlen
  | cons g gs ih =>
    rw [longestZeros] at h
    dsimp only at h
    split at h
    · obtain ⟨head, tail, rfl, rfl⟩ := ih h
      exact ⟨g :: head, tail, rfl, by rw [List.length_cons]; omega⟩
    · obtain ⟨rfl, rfl⟩ := Prod.mk.inj h
      refine ⟨[], (g :: gs).dropWhile (· = 0), ?_, rfl⟩
      have hzeros : (g :: gs).takeWhile (· = 0) = List.replicate (zeroRun (g :: gs)) 0 :=
        List.eq_replicate_iff.mpr ⟨rfl, fun z hz => by simpa using List.mem_takeWhile_imp hz⟩
      rw [List.nil_append, ← hzeros, List.takeWhile_append_dropWhile]

end Groups

/-- The groups of an address, written in full. -/
theorem readV6_full {gs : List Nat} (hgs : ∀ g ∈ gs, g < 65536) (hlength : gs.length = 8) :
    readV6 (groupsText true gs) = some (BitVec.ofNat 128 (unsplit 16 gs), []) := by
  have hread := readGroups_groupsText hgs .nil 8 true (Nat.le_of_eq hlength)
  rw [List.append_nil] at hread
  simp only [readV6, hread, hlength, if_true, Option.pure_def]

/-- The groups of an address with zeros left out. -/
theorem readV6_zeros {head tail : List Nat} {len : Nat} (hhead : ∀ g ∈ head, g < 65536)
    (htail : ∀ g ∈ tail, g < 65536) (hlength : head.length + (len + tail.length) = 8) (hlen : 0 < len) :
    readV6 (groupsText true head ++ ':' :: ':' :: groupsText true tail) =
      some (BitVec.ofNat 128 (unsplit 16 (head ++ (List.replicate len 0 ++ tail))), []) := by
  have hfront := readGroups_groupsText hhead (.colons (groupsText true tail)) 8 true (by omega)
  have hback := readGroups_groupsText htail .nil (7 - head.length) true (by omega)
  rw [List.append_nil] at hback
  have hzeros : 8 - head.length - tail.length = len := by omega
  simp only [readV6, hfront, hback, readChar_cons, hzeros, if_neg (show ¬ head.length = 8 by omega),
    Bool.false_eq_true, if_false, Option.bind_eq_bind, Option.bind_some, Option.pure_def, List.append_assoc]

theorem toNat_of_mapped {bits : BitVec 128} {a : BitVec 32} (h : mapped? bits = some a) :
    bits.toNat = 65535 * 2 ^ 32 + a.toNat := by
  rw [mapped?] at h
  split at h
  · next hfront =>
    rw [Nat.shiftRight_eq_div_pow] at hfront
    rw [← Option.some.inj h, BitVec.toNat_ofNat, ← hfront, Nat.mul_comm, Nat.div_add_mod]
  · cases h

/-- An address that stands for one of version 4. -/
theorem readV6_mapped {bits : BitVec 128} {a : BitVec 32} (h : mapped? bits = some a) :
    readV6 ("::ffff:".toList ++ (dottedText a).toList) = some (bits, []) := by
  have htext : "::ffff:".toList ++ (dottedText a).toList =
      ':' :: ':' :: (Hexadecimal.text 65535 ++ ':' :: (dottedText a).toList) := rfl
  have hfront := readGroups_open 8 true (.colons (Hexadecimal.text 65535 ++ ':' :: (dottedText a).toList))
  have hv4 : readV4 (Hexadecimal.text 65535 ++ ':' :: (dottedText a).toList) = none :=
    readV4_run (fun c => Hexadecimal.isDigit_of_mem_text) (.inr rfl)
  have hgroup : readGroup (Hexadecimal.text 65535 ++ ':' :: (dottedText a).toList) =
      some (65535, ':' :: (dottedText a).toList) :=
    readGroup_append (by decide) (stops_of_head? (.inr rfl))
  have hdotted := readV4_dotted a Stops.nil
  rw [List.append_nil] at hdotted
  have hback : readGroups 7 true (Hexadecimal.text 65535 ++ ':' :: (dottedText a).toList) =
      (65535 :: split 16 2 a.toNat, true, []) := by
    simp [readGroups, readSeparator, hv4, hgroup, readChar_cons, hdotted]
  have hread : readV6 ("::ffff:".toList ++ (dottedText a).toList) =
      some (BitVec.ofNat 128 (unsplit 16 (65535 :: split 16 2 a.toNat)), []) := by
    rw [htext]
    simp [readV6, hfront, hback, readChar_cons, length_split, unsplit, List.replicate]
  have hvalue : BitVec.ofNat 128 (unsplit 16 (65535 :: split 16 2 a.toNat)) = bits := by
    refine BitVec.eq_of_toNat_eq ?_
    have hlt := a.isLt
    rw [unsplit, List.foldl_cons, foldl_split, toNat_of_mapped h, BitVec.toNat_ofNat]
    omega
  rw [hread, hvalue]

/-- The groups of an address, where a longest run of zeros is left out. -/
theorem readV6_leftOut {a : BitVec 128} {start len : Nat} (h : longestZeros 0 (groups a) = (start, len))
    (hlen : 0 < len) :
    readV6 (groupsText true ((groups a).take start) ++
      ':' :: ':' :: groupsText true ((groups a).drop (start + len))) = some (a, []) := by
  have hgroups : ∀ g ∈ groups a, g < 65536 := fun g hg => lt_of_mem_split hg
  have hlength : (groups a).length = 8 := length_split 16 8 a.toNat
  have hvalue := ofNat_unsplit_groups a
  obtain ⟨head, tail, hparts, hstart⟩ := longestZeros_zeros h hlen
  have htake : (groups a).take start = head := by
    rw [hparts, List.take_left' (by omega)]
  have hdrop : (groups a).drop (start + len) = tail := by
    rw [hparts, ← List.append_assoc, List.drop_left' (by simp; omega)]
  rw [hparts] at hgroups hlength hvalue
  obtain ⟨hhead, hgroups⟩ := List.forall_mem_append.mp hgroups
  obtain ⟨-, htail⟩ := List.forall_mem_append.mp hgroups
  simp only [List.length_append, List.length_replicate] at hlength
  rw [htake, hdrop, readV6_zeros hhead htail hlength hlen, hvalue]

/-- An address of version 6 is read as it is written, and not as one of version 4. -/
theorem readV6_v6Text (a : BitVec 128) :
    readV4 (v6Text a).toList = none ∧ readV6 (v6Text a).toList = some (a, []) := by
  rw [v6Text]
  split
  · next v4 hmapped =>
    rw [String.toList_append]
    exact ⟨readV4_of_head? (.inr rfl), readV6_mapped hmapped⟩
  · dsimp only
    generalize hruns : longestZeros 0 (groups a) = runs
    obtain ⟨start, len⟩ := runs
    rw [String.toList_ofList, colonText_eq, colonText_eq, colonText_eq]
    split
    · exact ⟨readV4_groupsText _ (.colons _), readV6_leftOut hruns (by omega)⟩
    · have hv4 := readV4_groupsText (groups a) .nil
      rw [List.append_nil] at hv4
      have hread := readV6_full (fun g hg => lt_of_mem_split hg) (length_split 16 8 a.toNat)
      rw [← groups, ofNat_unsplit_groups] at hread
      exact ⟨hv4, hread⟩

/-- **An address is read back from its written form.** -/
theorem read_text (a : IpAddr) : read a.text = some a := by
  rw [read]
  cases a with
  | v4 a =>
    have hread := readV4_dotted a Stops.nil
    rw [List.append_nil] at hread
    rw [text, hread]
    rfl
  | v6 a =>
    obtain ⟨hv4, hv6⟩ := readV6_v6Text a
    rw [text, hv4, hv6]
    rfl

/-! ### The characters of addresses -/

/-- The characters that addresses are written with. -/
def isAddressChar (c : Char) : Bool :=
  Hexadecimal.isDigit c || c == '.' || c == ':'

/-- Of a text, characters of addresses are used up. -/
def Takes (s rest : List Char) : Prop :=
  ∃ used, s = used ++ rest ∧ ∀ c ∈ used, isAddressChar c = true

section Characters

variable {s t rest : List Char} {n slots : Nat} {first : Bool}

theorem Takes.refl (s : List Char) : Takes s s :=
  ⟨[], rfl, fun _ hc => nomatch hc⟩

theorem Takes.trans (hst : Takes s t) (ht : Takes t rest) : Takes s rest := by
  obtain ⟨used, rfl, hused⟩ := hst
  obtain ⟨used', rfl, hused'⟩ := ht
  exact ⟨used ++ used', by rw [List.append_assoc], List.forall_mem_append.mpr ⟨hused, hused'⟩⟩

theorem takes_dropWhile {kind : Char → Bool} (h : ∀ c, kind c = true → Hexadecimal.isDigit c = true)
    (s : List Char) : Takes s (s.dropWhile kind) := by
  refine ⟨s.takeWhile kind, List.takeWhile_append_dropWhile.symm, fun c hc => ?_⟩
  rw [isAddressChar, h c (List.mem_takeWhile_imp hc)]
  rfl

theorem takes_readChar {c : Char} (hc : isAddressChar c = true) {u : Unit} (h : readChar c s = some (u, rest)) :
    Takes s rest := by
  cases s with
  | nil => cases h
  | cons d s =>
    rw [readChar] at h
    split at h
    · next heq =>
      cases h
      exact ⟨[d], rfl, List.forall_mem_singleton.mpr (heq ▸ hc)⟩
    · cases h

theorem takes_readOctet (h : readOctet s = some (n, rest)) : Takes s rest :=
  rest_of_readOctet h ▸ takes_dropWhile (fun _ => Hexadecimal.isDigit_of_decimal) s

theorem takes_readV4 {a : BitVec 32} (h : readV4 s = some (a, rest)) : Takes s rest := by
  have hdot : isAddressChar '.' = true := by decide
  simp only [readV4, Option.bind_eq_bind, Option.pure_def, Option.bind_eq_some_iff, Prod.exists,
    Option.some.injEq, Prod.mk.injEq] at h
  obtain ⟨x, s₁, hx, _, s₂, hx', y, s₃, hy, _, s₄, hy', z, s₅, hz, _, s₆, hz', w, s₇, hw, -, rfl⟩ := h
  exact (takes_readOctet hx).trans <| (takes_readChar hdot hx').trans <| (takes_readOctet hy).trans <|
    (takes_readChar hdot hy').trans <| (takes_readOctet hz).trans <| (takes_readChar hdot hz').trans <|
    takes_readOctet hw

theorem takes_readGroup (h : readGroup s = some (n, rest)) : Takes s rest := by
  rw [readGroup] at h
  split at h
  · cases h
  · cases h
    exact takes_dropWhile (fun _ => id) s

theorem takes_readSeparator (h : readSeparator first s = some rest) : Takes s rest := by
  cases first with
  | true =>
    obtain rfl : s = rest := Option.some.inj h
    exact .refl s
  | false =>
    obtain ⟨⟨u, rest'⟩, hread, rfl⟩ := Option.map_eq_some_iff.mp h
    exact takes_readChar (by decide) hread

theorem takes_readGroups (slots : Nat) (first : Bool) (s : List Char) :
    Takes s (readGroups slots first s).2.2 := by
  induction slots generalizing first s with
  | zero => exact .refl s
  | succ slots ih =>
    rw [readGroups]
    split
    · next a rest hv4 =>
      split at hv4
      · cases hv4
      · obtain ⟨tail, htail, hread⟩ := Option.bind_eq_some_iff.mp hv4
        exact (takes_readSeparator htail).trans (takes_readV4 hread)
    · split
      · next g rest hgroup =>
        obtain ⟨tail, htail, hread⟩ := Option.bind_eq_some_iff.mp hgroup
        exact ((takes_readSeparator htail).trans (takes_readGroup hread)).trans (ih false rest)
      · exact .refl s

theorem takes_readV6 {a : BitVec 128} (h : readV6 s = some (a, rest)) : Takes s rest := by
  have hcolon : isAddressChar ':' = true := by decide
  have hfront := takes_readGroups 8 true s
  rw [readV6] at h
  generalize readGroups 8 true s = front at h hfront
  obtain ⟨head, dotted, behind⟩ := front
  by_cases hlength : head.length = 8
  · simp only [hlength, if_true, Option.pure_def, Option.some.injEq, Prod.mk.injEq] at h
    obtain ⟨-, rfl⟩ := h
    exact hfront
  · cases dotted with
    | true => simp [hlength] at h
    | false =>
      simp only [hlength, Bool.false_eq_true, if_false, Option.bind_eq_bind, Option.pure_def,
        Option.bind_eq_some_iff, Prod.exists, Option.some.injEq, Prod.mk.injEq] at h
      obtain ⟨_, s₁, hs₁, _, s₂, hs₂, -, rfl⟩ := h
      exact hfront.trans <| (takes_readChar hcolon hs₁).trans <| (takes_readChar hcolon hs₂).trans <|
        takes_readGroups (7 - head.length) true s₂

theorem Takes.all (h : Takes s []) : ∀ c ∈ s, isAddressChar c = true := by
  obtain ⟨used, rfl, hused⟩ := h
  rwa [List.append_nil]

end Characters

/-- Only characters of addresses are read as an address. -/
theorem isAddressChar_of_read {text : String} {a : IpAddr} (h : read text = some a) :
    ∀ c ∈ text.toList, isAddressChar c = true := by
  rw [read] at h
  split at h
  · next a rest hv4 =>
    cases rest with
    | nil => exact (takes_readV4 hv4).all
    | cons => cases h
  · obtain ⟨bits, hv6, -⟩ := Option.map_eq_some_iff.mp h
    cases hread : readV6 text.toList with
    | none =>
      rw [hread] at hv6
      cases hv6
    | some r =>
      obtain ⟨bits', rest⟩ := r
      rw [hread] at hv6
      cases rest with
      | nil => exact (takes_readV6 hread).all
      | cons => cases hv6

end IpAddr

end RouterShell
