import RouterShell.Net.Prefix

/-!
# The bits of prefixes

A prefix is made from an address and a length in two ways: by refusing an address that has host bits, or by
clearing them. Both compute a mask by a shift, which exists only for some amounts. This module says what comes
out of either, bit by bit, for all addresses and all lengths.

## The model

`IpAddr.bit` counts the bits of an address from the most significant one, as lengths of prefixes do. It does not
refer to masks.

## What is proved

There is a mask for every length up to the width of the address and for no other (`IpAddr.mask?_eq_some_iff`). It
keeps the bits before the length and clears those behind it (`IpAddr.bit_of_truncate?`), and an address is
determined by its bits (`IpAddr.ext_bit`). What the two ways to make a prefix have to do with each other, and how
lengths combine, is derived from this alone (`Prefix.truncation_exact`).
-/

namespace RouterShell

/-! ### Masks and bits -/

namespace IpAddr

/-- The bit of an address at a place, counted from the most significant one; none is set behind the last one. -/
def bit : IpAddr → Nat → Bool
  | .v4 a => a.getMsbD
  | .v6 a => a.getMsbD

section Bits

variable {a b t : IpAddr} {len width i : Nat}

theorem mask?_eq_some_iff {m : BitVec width} :
    mask? width len = some m ↔ len ≤ width ∧ ∀ i, m.getMsbD i = decide (i < len) := by
  constructor
  · intro h
    have hlen : len ≤ width := by
      unfold mask? shiftLeft? at h
      split at h
      · omega
      · split at h
        · omega
        · cases h
    rw [mask?_of_le hlen, Option.some.injEq] at h
    subst h
    refine ⟨hlen, fun i => ?_⟩
    rw [BitVec.getMsbD_shiftLeft, BitVec.getMsbD_allOnes, decide_eq_decide]
    omega
  · rintro ⟨hlen, hbits⟩
    rw [mask?_of_le hlen, Option.some.injEq]
    refine BitVec.eq_of_getMsbD_eq fun i _ => ?_
    rw [hbits, BitVec.getMsbD_shiftLeft, BitVec.getMsbD_allOnes, decide_eq_decide]
    omega

/-- No bit is set behind the last one. -/
theorem bit_of_le (h : a.family.bits ≤ i) : a.bit i = false := by
  cases a with
  | v4 a => exact BitVec.getMsbD_of_ge a i h
  | v6 a => exact BitVec.getMsbD_of_ge a i h

/-- Of one family, the bits determine the address. -/
theorem ext_bit (hfamily : a.family = b.family) (hbits : ∀ i, a.bit i = b.bit i) : a = b := by
  cases a with
  | v4 a =>
    cases b with
    | v4 b => exact congrArg v4 (BitVec.eq_of_getMsbD_eq fun i _ => hbits i)
    | v6 b => cases hfamily
  | v6 a =>
    cases b with
    | v4 b => cases hfamily
    | v6 b => exact congrArg v6 (BitVec.eq_of_getMsbD_eq fun i _ => hbits i)

/-- Truncating keeps the first bits and clears the others. -/
theorem bit_of_truncate? (h : a.truncate? len = some t) (i : Nat) : t.bit i = (decide (i < len) && a.bit i) := by
  cases a with
  | v4 a =>
    obtain ⟨m, hm, rfl⟩ := Option.map_eq_some_iff.mp h
    rw [bit, BitVec.getMsbD_and, (mask?_eq_some_iff.mp hm).2, Bool.and_comm, bit]
  | v6 a =>
    obtain ⟨m, hm, rfl⟩ := Option.map_eq_some_iff.mp h
    rw [bit, BitVec.getMsbD_and, (mask?_eq_some_iff.mp hm).2, Bool.and_comm, bit]

/-- An address is left as it is exactly if no bit behind the length is set. -/
theorem truncate?_self_iff (hlen : len ≤ a.family.bits) :
    a.truncate? len = some a ↔ ∀ i, len ≤ i → a.bit i = false := by
  obtain ⟨t, ht⟩ := Option.isSome_iff_exists.mp (isSome_truncate? hlen)
  constructor
  · intro h i hi
    rw [bit_of_truncate? h, decide_eq_false (by omega), Bool.false_and]
  · intro hclear
    rw [ht, Option.some.injEq]
    refine ext_bit (family_of_truncate? ht) fun i => ?_
    rw [bit_of_truncate? ht]
    by_cases hi : i < len
    · rw [decide_eq_true hi, Bool.true_and]
    · rw [decide_eq_false hi, Bool.false_and, hclear i (by omega)]

end Bits

end IpAddr

/-! ### Prefixes -/

namespace Prefix

variable {a b : IpAddr} {l m i : Nat} {p q : Prefix}

theorem ext (haddr : p.addr = q.addr) (hlen : p.len = q.len) : p = q := by
  obtain ⟨addr, len, _, _⟩ := p
  obtain ⟨addr', len', _, _⟩ := q
  obtain rfl : addr = addr' := haddr
  obtain rfl : len = len' := hlen
  rfl

/-- A prefix has no host bits. -/
theorem bit_of_len_le (p : Prefix) (h : p.len ≤ i) : p.addr.bit i = false :=
  (IpAddr.truncate?_self_iff p.len_le).mp p.truncate_addr i h

/-- There is a prefix of an address and a length exactly if the address is as long and has no host bits. -/
theorem exists_iff : (∃ p : Prefix, p.addr = a ∧ p.len = l) ↔ l ≤ a.family.bits ∧ ∀ i, l ≤ i → a.bit i = false := by
  constructor
  · rintro ⟨p, rfl, rfl⟩
    exact ⟨p.len_le, fun i => p.bit_of_len_le⟩
  · rintro ⟨hlen, hclear⟩
    exact ⟨⟨a, l, hlen, (IpAddr.truncate?_self_iff hlen).mpr hclear⟩, rfl, rfl⟩

theorem make_eq_ok_iff_eq : make a l = .ok p ↔ p.addr = a ∧ p.len = l := by
  constructor
  · intro h
    unfold make at h
    split at h
    · split at h
      · cases h
        exact ⟨rfl, rfl⟩
      · cases h
    · cases h
  · rintro ⟨rfl, rfl⟩
    rw [make, dif_pos p.len_le, dif_pos p.truncate_addr]

theorem truncate?_truncating (a : IpAddr) (l : Nat) :
    a.truncate? (min l a.family.bits) = some (truncating a l).addr :=
  (Option.some_get _).symm

@[simp] theorem len_truncating (a : IpAddr) (l : Nat) : (truncating a l).len = min l a.family.bits :=
  rfl

@[simp] theorem family_truncating (a : IpAddr) (l : Nat) : (truncating a l).addr.family = a.family :=
  IpAddr.family_of_truncate? (truncate?_truncating a l)

theorem bit_truncating (a : IpAddr) (l i : Nat) :
    (truncating a l).addr.bit i = (decide (i < min l a.family.bits) && a.bit i) :=
  IpAddr.bit_of_truncate? (truncate?_truncating a l) i

/-- A length beyond the address cuts nothing off, so bits are kept up to the length itself. -/
theorem bit_truncating_eq (a : IpAddr) (l i : Nat) :
    (truncating a l).addr.bit i = (decide (i < l) && a.bit i) := by
  rw [bit_truncating]
  by_cases hi : i < a.family.bits
  · congr 1
    rw [decide_eq_decide]
    omega
  · rw [IpAddr.bit_of_le (by omega), Bool.and_false, Bool.and_false]

/-- Truncations of two addresses of one family are the same exactly if the addresses have the same first bits. -/
theorem truncating_eq_iff (hfamily : b.family = a.family) :
    truncating a l = truncating b l ↔ ∀ i < min l a.family.bits, a.bit i = b.bit i := by
  constructor
  · intro h i hi
    have hbit := congrArg (fun p : Prefix => p.addr.bit i) h
    simp only [bit_truncating, hfamily, decide_eq_true hi, Bool.true_and] at hbit
    exact hbit
  · intro h
    refine ext (IpAddr.ext_bit ?_ fun i => ?_) ?_
    · rw [family_truncating, family_truncating, hfamily]
    · rw [bit_truncating, bit_truncating, hfamily]
      by_cases hi : i < min l a.family.bits
      · rw [h i hi]
      · rw [decide_eq_false hi, Bool.false_and, Bool.false_and]
    · rw [len_truncating, len_truncating, hfamily]

/-- Truncating to a longer prefix first makes no difference. -/
theorem truncating_truncating (h : l ≤ m) : truncating (truncating a m).addr l = truncating a l := by
  rw [truncating_eq_iff (family_truncating a m).symm, family_truncating]
  intro i hi
  rw [bit_truncating_eq, decide_eq_true (by omega), Bool.true_and]

/-- A prefix is the truncation of its own address. -/
theorem truncating_self (p : Prefix) : truncating p.addr p.len = p := by
  refine ext (IpAddr.ext_bit (family_truncating p.addr p.len) fun i => ?_) (Nat.min_eq_left p.len_le)
  rw [bit_truncating_eq]
  by_cases hi : i < p.len
  · rw [decide_eq_true hi, Bool.true_and]
  · rw [decide_eq_false hi, Bool.false_and, p.bit_of_len_le (by omega)]

/-- An address is refused for its length, or for what truncating would change. -/
theorem make_eq (a : IpAddr) (l : Nat) :
    make a l =
      if a.family.bits < l then .error (.tooLong l a.family.bits)
      else if (truncating a l).addr = a then .ok (truncating a l)
      else .error (.hostBits a l) := by
  by_cases hlen : a.family.bits < l
  · rw [make, dif_neg (by omega), if_pos hlen]
  · have htruncated := truncate?_truncating a l
    rw [Nat.min_eq_left (by omega)] at htruncated
    rw [make, dif_pos (by omega), if_neg hlen]
    by_cases haddr : (truncating a l).addr = a
    · rw [dif_pos (by rw [htruncated, haddr]), if_pos haddr]
      refine congrArg Except.ok (ext haddr.symm ?_)
      rw [len_truncating, Nat.min_eq_left (by omega)]
    · rw [dif_neg fun h => haddr (Option.some.inj (htruncated.symm.trans h)), if_neg haddr]

theorem make_eq_ok_iff :
    make a l = .ok p ↔ l ≤ a.family.bits ∧ (truncating a l).addr = a ∧ p = truncating a l := by
  rw [make_eq]
  split
  · next hlen => simp [Nat.not_le.mpr hlen]
  · next hlen =>
    rw [Nat.not_lt] at hlen
    split
    · next haddr => simp [hlen, haddr, eq_comm]
    · next haddr => simp [haddr]

theorem make_eq_tooLong_iff : make a l = .error (.tooLong l a.family.bits) ↔ a.family.bits < l := by
  rw [make_eq]
  split
  · next hlen => simp [hlen]
  · next hlen =>
    rw [Nat.not_lt] at hlen
    split <;> simp [hlen]

theorem make_eq_hostBits_iff :
    make a l = .error (.hostBits a l) ↔ l ≤ a.family.bits ∧ (truncating a l).addr ≠ a := by
  rw [make_eq]
  split
  · next hlen => simp [Nat.not_le.mpr hlen]
  · next hlen =>
    rw [Nat.not_lt] at hlen
    split
    · next haddr => simp [haddr]
    · next haddr => simp [hlen, haddr]

/-- **Prefixes are exact, for every address and every length.** Both ways to make one shift by amounts that exist
only. Truncating gives the prefix of the length, or of the whole address if the length is larger, that has just
the first bits of the address. Making a prefix gives the same if truncating changes nothing; otherwise the length
is too large, or else there are host bits. Lengths combine to the smaller one, and two addresses of a family
have the same prefix exactly if they have the same first bits. No prefix has host bits or a length beyond its
family. -/
theorem truncation_exact (a : IpAddr) (l : Nat) :
    ((∀ n ≤ a.family.bits, ∃ t, a.truncate? n = some t) ∧
        a.truncate? (min l a.family.bits) = some (truncating a l).addr) ∧
      ((truncating a l).len = min l a.family.bits ∧ (truncating a l).family = a.family ∧
        (∀ i < min l a.family.bits, (truncating a l).addr.bit i = a.bit i) ∧
        ∀ i, min l a.family.bits ≤ i → (truncating a l).addr.bit i = false) ∧
      ((∀ p, make a l = .ok p ↔ l ≤ a.family.bits ∧ (truncating a l).addr = a ∧ p = truncating a l) ∧
        (make a l = .error (.tooLong l a.family.bits) ↔ a.family.bits < l) ∧
        (make a l = .error (.hostBits a l) ↔ l ≤ a.family.bits ∧ (truncating a l).addr ≠ a)) ∧
      (∀ m, l ≤ m → truncating (truncating a m).addr l = truncating a l) ∧
      (∀ b : IpAddr, b.family = a.family →
        (truncating a l = truncating b l ↔ ∀ i < min l a.family.bits, a.bit i = b.bit i)) ∧
      ∀ p : Prefix, p.len ≤ p.family.bits ∧ ∀ i, p.len ≤ i → p.addr.bit i = false := by
  refine ⟨⟨fun n hn => ?_, truncate?_truncating a l⟩, ⟨rfl, family_truncating a l, fun i hi => ?_, fun i hi => ?_⟩,
    ⟨fun p => make_eq_ok_iff, make_eq_tooLong_iff, make_eq_hostBits_iff⟩, fun m hm => truncating_truncating hm,
    fun b hb => truncating_eq_iff hb, fun p => ⟨p.len_le, fun i hi => p.bit_of_len_le hi⟩⟩
  · exact Option.isSome_iff_exists.mp (IpAddr.isSome_truncate? hn)
  · rw [bit_truncating, decide_eq_true hi, Bool.true_and]
  · exact bit_of_len_le (truncating a l) hi

end Prefix

end RouterShell
