import Mathlib.Data.List.DropRight
import RouterShell.Proofs.Line.Ending
import RouterShell.Proofs.Line.RoundTrip

/-!
# A line while it is typed

Completion looks at the text before the cursor. If nothing in it is quoted, this text is a number of
finished words, each with a blank behind it, and the word being typed, which may be empty. This module
says what the scanner and the functions that cut a text at blanks find in such a text, and what becomes of
the line when another word is written in the place of the one being typed.

## The model

`Plain` is a text without quotes and backslashes. `beforeTyped` and `typedWord` cut it behind its last
blank, `finishedWords` are the words of the first part, and `afterWords` is the text behind the first of
them. The scanner has no say in these definitions.

## What is proved

The words of a plain text are those of its tokens (`scan_plain`). Cutting a text at its first blank takes
away one finished word and leaves the others and the one being typed (`finishedWords_of_cut`). A word
written behind a text in which the last word is over becomes one more token (`scan_append_word`).
-/

namespace RouterShell.Line

open Text

/-- A text in which nothing is quoted. -/
def Plain (text : List Char) : Prop := ∀ c ∈ text, c ≠ '\'' ∧ c ≠ '"' ∧ c ≠ '\\'

instance (text : List Char) : Decidable (Plain text) :=
  List.decidableBAll (fun c => c ≠ '\'' ∧ c ≠ '"' ∧ c ≠ '\\') text

/-- The word being typed: what stands behind the last blank. -/
def typedWord (text : List Char) : List Char := text.rtakeWhile fun c => !isBlank c

/-- The text before the word being typed. -/
def beforeTyped (text : List Char) : List Char := text.rdropWhile fun c => !isBlank c

/-- The words with a blank behind them. -/
def finishedWords (text : List Char) : List String := (words (beforeTyped text)).map String.ofList

/-- The text behind the first `n` words and the blanks that follow them. -/
def afterWords : Nat → List Char → List Char
  | 0, text => trimStart text
  | n + 1, text => afterWords n ((trimStart text).dropWhile fun c => !isBlank c)

/-- A text behind which a word begins anew: it is empty or ends with a blank. -/
def WordOver (s : List Char) : Prop := ∀ r c, s = r ++ [c] → isBlank c = true

theorem Plain.of_append_left {s t : List Char} (h : Plain (s ++ t)) : Plain s :=
  fun c hc => h c (List.mem_append_left t hc)

theorem Plain.of_append_right {s t : List Char} (h : Plain (s ++ t)) : Plain t :=
  fun c hc => h c (List.mem_append_right s hc)

theorem Plain.trimmed {text : List Char} (h : Plain text) : Plain (trimStart text) :=
  fun c hc => h c ((List.dropWhile_suffix isBlank).subset hc)

/-! ### The words of a text -/

section Words

variable {s w : List Char} {c : Char}

theorem words_nil : words [] = [] := rfl

theorem words_cons_blank (hc : isBlank c = true) (s : List Char) : words (c :: s) = words s := by
  simp [words, splitWords, hc, pushWord]

theorem words_blanks_append {b : List Char} (hb : Blanks b) (s : List Char) :
    words (b ++ s) = words s := by
  induction b with
  | nil => rfl
  | cons c b ih =>
    rw [List.cons_append, words_cons_blank (hb c List.mem_cons_self),
      ih fun d hd => hb d (List.mem_cons_of_mem c hd)]

/-- A text that does not go on a word has no word at its start. -/
theorem splitWords_boundary (hs : Boundary s) : splitWords s = ([], words s) := by
  cases s with
  | nil => rfl
  | cons c s => simp [words, splitWords, hs c s rfl, pushWord]

theorem splitWords_word_append (hw : ∀ c ∈ w, isBlank c = false) (s : List Char) :
    splitWords (w ++ s) = (w ++ (splitWords s).1, (splitWords s).2) := by
  induction w with
  | nil => rfl
  | cons c w ih =>
    rw [List.cons_append, splitWords, ih fun d hd => hw d (List.mem_cons_of_mem c hd)]
    simp [hw c List.mem_cons_self]

/-- The first word of a text goes up to the next blank. -/
theorem exists_splitWords (s : List Char) :
    ∃ rest, s = (splitWords s).1 ++ rest ∧ Boundary rest ∧ ∀ c ∈ (splitWords s).1, isBlank c = false := by
  induction s with
  | nil => exact ⟨[], rfl, boundary_nil, by simp [splitWords]⟩
  | cons c s ih =>
    cases hc : isBlank c with
    | true =>
      rw [splitWords_boundary (boundary_cons hc s)]
      exact ⟨c :: s, rfl, boundary_cons hc s, by simp⟩
    | false =>
      obtain ⟨rest, hs, hrest, hword⟩ := ih
      have hsplit : splitWords (c :: s) = (c :: (splitWords s).1, (splitWords s).2) := by
        simp [splitWords, hc]
      rw [hsplit]
      refine ⟨rest, by rw [List.cons_append, ← hs], hrest, fun d hd => ?_⟩
      rcases List.mem_cons.mp hd with rfl | hd
      · exact hc
      · exact hword d hd

/-- A word is over at the next blank. -/
theorem words_word_append (hne : w ≠ []) (hw : ∀ c ∈ w, isBlank c = false) (hs : Boundary s) :
    words (w ++ s) = w :: words s := by
  rw [words, splitWords_word_append hw, splitWords_boundary hs]
  simp [pushWord, hne]

/-- A text without words is blanks. -/
theorem blanks_of_words_eq_nil (h : words s = []) : Blanks s := by
  induction s with
  | nil => exact fun _ hc => absurd hc List.not_mem_nil
  | cons c s ih =>
    cases hc : isBlank c with
    | true =>
      rw [words_cons_blank hc] at h
      exact List.forall_mem_cons.mpr ⟨hc, ih h⟩
    | false => simp [words, splitWords, hc, pushWord] at h

/-- The first of the words stands behind blanks, and the others stand behind it. -/
theorem exists_of_words_eq_cons {ws : List (List Char)} (h : words s = w :: ws) :
    ∃ b rest, s = b ++ w ++ rest ∧ Blanks b ∧ w ≠ [] ∧ (∀ c ∈ w, isBlank c = false) ∧ Boundary rest ∧
      words rest = ws := by
  induction s with
  | nil => cases h
  | cons c s ih =>
    cases hc : isBlank c with
    | true =>
      rw [words_cons_blank hc] at h
      obtain ⟨b, rest, rfl, hb, hrest⟩ := ih h
      exact ⟨c :: b, rest, rfl, List.forall_mem_cons.mpr ⟨hc, hb⟩, hrest⟩
    | false =>
      obtain ⟨rest, hs, hrest, hword⟩ := exists_splitWords (c :: s)
      have hne : (splitWords (c :: s)).1 ≠ [] := by simp [splitWords, hc]
      rw [hs, words_word_append hne hword hrest] at h
      obtain ⟨rfl, rfl⟩ := List.cons.inj h
      exact ⟨[], rest, hs, fun _ hc => absurd hc List.not_mem_nil, hne, hword, hrest, rfl⟩

/-- Every word takes up a character. -/
theorem length_words_le (s : List Char) : (words s).length ≤ s.length := by
  induction s with
  | nil => exact Nat.le_refl 0
  | cons c s ih =>
    cases hc : isBlank c with
    | true =>
      rw [words_cons_blank hc]
      exact Nat.le_succ_of_le ih
    | false =>
      have hpush : (splitWords s).2.length ≤ (words s).length := by
        simp only [words, pushWord]
        split
        · exact Nat.le_refl _
        · exact Nat.le_succ _
      have hwords : words (c :: s) = (c :: (splitWords s).1) :: (splitWords s).2 := by
        simp [words, splitWords, hc, pushWord]
      rw [hwords, List.length_cons, List.length_cons]
      omega

end Words

/-! ### The word being typed -/

section Typed

variable {text before typed : List Char}

theorem beforeTyped_append_typedWord (text : List Char) : beforeTyped text ++ typedWord text = text :=
  List.rdropWhile_append_rtakeWhile

theorem typedWord_not_blank (text : List Char) : ∀ c ∈ typedWord text, isBlank c = false := by
  intro c hc
  have h := List.mem_rtakeWhile_imp hc
  rwa [Bool.not_eq_true'] at h

theorem wordOver_nil : WordOver [] :=
  fun r c h => absurd h.symm (List.append_ne_nil_of_right_ne_nil r (List.cons_ne_nil c []))

theorem wordOver_concat {c : Char} (hc : isBlank c = true) (r : List Char) : WordOver (r ++ [c]) := by
  intro r' c' h
  obtain ⟨-, h⟩ := List.append_inj' h rfl
  rwa [← (List.cons.inj h).1]

theorem WordOver.append (h : WordOver typed) (hne : typed ≠ []) (before : List Char) :
    WordOver (before ++ typed) := by
  obtain ⟨r, c, rfl⟩ := (List.eq_nil_or_concat' typed).resolve_left hne
  rw [← List.append_assoc]
  exact wordOver_concat (h r c rfl) (before ++ r)

theorem WordOver.cons {c : Char} (h : WordOver before) (hc : before = [] → isBlank c = true) :
    WordOver (c :: before) := by
  by_cases hnil : before = []
  · rw [hnil]
    exact wordOver_concat (hc hnil) []
  · exact h.append hnil [c]

theorem wordOver_beforeTyped (text : List Char) : WordOver (beforeTyped text) := by
  intro r c h
  have hne : beforeTyped text ≠ [] := by
    rw [h]
    exact List.append_ne_nil_of_right_ne_nil r (List.cons_ne_nil c [])
  have hlast := List.rdropWhile_last_not (fun c => !isBlank c) text hne
  have hc : (beforeTyped text).getLast hne = c := by
    simp only [h, List.getLast_append_singleton]
  unfold beforeTyped at hc
  rw [hc] at hlast
  simpa using hlast

/-- There is one way only to cut a text behind its last blank. -/
theorem typed_of_append (hover : WordOver before) (htyped : ∀ c ∈ typed, isBlank c = false) :
    beforeTyped (before ++ typed) = before ∧ typedWord (before ++ typed) = typed := by
  have hstop : ∀ c r, before.reverse = c :: r → isBlank c = true := by
    intro c r h
    refine hover r.reverse c ?_
    rw [← List.reverse_reverse before, h, List.reverse_cons]
  have hgo : ∀ c ∈ typed.reverse, (!isBlank c) = true := by
    intro c hc
    rw [htyped c (List.mem_reverse.mp hc), Bool.not_false]
  constructor
  · rw [beforeTyped, List.rdropWhile, List.reverse_append, List.dropWhile_append_of_pos hgo]
    cases hrev : before.reverse with
    | nil => rw [List.dropWhile_nil, ← hrev, List.reverse_reverse]
    | cons c r =>
      rw [List.dropWhile_cons_of_neg (by simp [hstop c r hrev]), ← hrev, List.reverse_reverse]
  · rw [typedWord, List.rtakeWhile, List.reverse_append, List.takeWhile_append_of_pos hgo]
    cases hrev : before.reverse with
    | nil => simp
    | cons c r =>
      rw [List.takeWhile_cons_of_neg (by simp [hstop c r hrev]), List.append_nil,
        List.reverse_reverse]

/-- The bytes of a text are those before the word being typed and those of this word. -/
theorem byteLength_eq_typed (text : List Char) :
    byteLength text = byteLength (beforeTyped text) + byteLength (typedWord text) := by
  rw [← byteLength_append, beforeTyped_append_typedWord]

theorem Plain.beforeTyped (h : Plain text) : Plain (beforeTyped text) := by
  rw [← beforeTyped_append_typedWord text] at h
  exact h.of_append_left

theorem Plain.typedWord (h : Plain text) : Plain (typedWord text) := by
  rw [← beforeTyped_append_typedWord text] at h
  exact h.of_append_right

/-- No blank stands behind a word that is being typed. -/
theorem endsBlank_of_typed (h : typedWord text ≠ []) : endsBlank text = false := by
  obtain ⟨r, c, hr⟩ := (List.eq_nil_or_concat' (typedWord text)).resolve_left h
  have hc := typedWord_not_blank text c (by rw [hr]; exact List.mem_append_right r List.mem_cons_self)
  rw [← beforeTyped_append_typedWord text, hr, ← List.append_assoc]
  simp [endsBlank, hc]

/-- If no word is being typed, a blank stands at the end of what there is. -/
theorem endsBlank_of_typed_nil (h : typedWord text = []) (hne : text ≠ []) : endsBlank text = true := by
  have htext := beforeTyped_append_typedWord text
  rw [h, List.append_nil] at htext
  obtain ⟨r, c, hr⟩ := (List.eq_nil_or_concat' text).resolve_left hne
  have hc := wordOver_beforeTyped text r c (htext.trans hr)
  rw [hr]
  simp [endsBlank, hc]

end Typed

/-- Behind a blank it does not matter what stands before it. -/
theorem typed_of_boundary {rest : List Char} (hne : rest ≠ []) (hrest : Boundary rest)
    (s : List Char) :
    beforeTyped (s ++ rest) = s ++ beforeTyped rest ∧ typedWord (s ++ rest) = typedWord rest := by
  have hbefore : beforeTyped rest ≠ [] := by
    -- the blank at the start is not part of the word being typed
    intro hnil
    obtain ⟨c, r, rfl⟩ := List.exists_cons_of_ne_nil hne
    have hall := beforeTyped_append_typedWord (c :: r)
    rw [hnil, List.nil_append] at hall
    have hmem : c ∈ typedWord (c :: r) := by
      rw [hall]
      exact List.mem_cons_self
    have hc := typedWord_not_blank _ c hmem
    rw [hrest c r rfl] at hc
    cases hc
  have hover := (wordOver_beforeTyped rest).append hbefore s
  have key := typed_of_append hover (typedWord_not_blank rest)
  rwa [List.append_assoc, beforeTyped_append_typedWord] at key

/-! ### Cutting at the first blank -/

section Cut

variable {text word after : List Char}

/-- A text is the blanks that it starts with and the rest. -/
theorem exists_blanks (text : List Char) : ∃ b, Blanks b ∧ text = b ++ trimStart text :=
  ⟨text.takeWhile isBlank, fun _ hc => List.mem_takeWhile_imp hc,
    List.takeWhile_append_dropWhile.symm⟩

theorem trimStart_trimStart (text : List Char) : trimStart (trimStart text) = trimStart text :=
  List.dropWhile_idempotent _ _

/-- Without a blank behind it, the first word is the one being typed. -/
theorem typedWord_of_cut (h : cutAtBlank (trimStart text) = none) :
    finishedWords text = [] ∧ typedWord text = trimStart text := by
  obtain ⟨b, hb, htext⟩ := exists_blanks text
  have hword : ∀ c ∈ trimStart text, isBlank c = false := by
    unfold cutAtBlank at h
    split at h
    · next hnil =>
      intro c hc
      have := List.dropWhile_eq_nil_iff.mp hnil c hc
      rwa [Bool.not_eq_true'] at this
    · cases h
  have hover : WordOver b := fun r c hr => hb c (by rw [hr]; simp)
  obtain ⟨hbefore, htyped⟩ := typed_of_append hover hword
  rw [← htext] at hbefore htyped
  have hblank := words_blanks_append hb []
  rw [List.append_nil, words_nil] at hblank
  exact ⟨by rw [finishedWords, hbefore, hblank, List.map_nil], htyped⟩

/-- What cutting at the first blank gives: a word, and the text from the blank on. -/
theorem of_cutAtBlank (h : cutAtBlank (trimStart text) = some (word, after)) :
    trimStart text = word ++ after ∧ word ≠ [] ∧ (∀ c ∈ word, isBlank c = false) ∧
      after ≠ [] ∧ Boundary after ∧ after = (trimStart text).dropWhile fun c => !isBlank c := by
  have happend := append_of_cutAtBlank h
  unfold cutAtBlank at h
  split at h
  · cases h
  · next hrest =>
    simp only [Option.some.injEq, Prod.mk.injEq] at h
    obtain ⟨hword, hafter⟩ := h
    have hboundary : Boundary after := by
      intro c r hc
      rw [← hafter] at hc
      have := List.head?_dropWhile_not (fun c => !isBlank c) (trimStart text)
      rw [hc] at this
      simpa using this
    refine ⟨happend.symm, ?_, ?_, ?_, hboundary, hafter.symm⟩
    · rintro rfl
      rw [List.nil_append] at happend
      -- a trimmed text does not start with a blank
      cases hcs : trimStart text with
      | nil => exact hrest (by rw [hcs]; rfl)
      | cons c r =>
        have hblank := hboundary c r (by rw [happend, hcs])
        have := List.head?_dropWhile_not isBlank text
        rw [show List.dropWhile isBlank text = c :: r from hcs] at this
        rw [List.head?_cons] at this
        simp [hblank] at this
    · intro c hc
      rw [← hword] at hc
      have := List.mem_takeWhile_imp hc
      rwa [Bool.not_eq_true'] at this
    · rintro rfl
      exact hrest hafter

theorem Plain.of_cut (h : Plain text) (hcut : cutAtBlank (trimStart text) = some (word, after)) :
    Plain after := by
  have htrim := h.trimmed
  rw [(of_cutAtBlank hcut).1] at htrim
  exact htrim.of_append_right

/-- Cutting at the first blank takes away the first finished word. -/
theorem finishedWords_of_cut (h : cutAtBlank (trimStart text) = some (word, after)) :
    finishedWords text = String.ofList word :: finishedWords after ∧ typedWord text = typedWord after := by
  obtain ⟨happend, hne, hword, hafter, hboundary, -⟩ := of_cutAtBlank h
  obtain ⟨b, hb, htext⟩ := exists_blanks text
  have htext' : text = (b ++ word) ++ after := by
    rw [List.append_assoc, ← happend, ← htext]
  obtain ⟨hleft, hright⟩ := typed_of_boundary hafter hboundary (b ++ word)
  rw [← htext', List.append_assoc] at hleft
  rw [← htext'] at hright
  have hb' : Boundary (beforeTyped after) := by
    intro c r hc
    refine hboundary c (r ++ typedWord after) ?_
    conv_lhs => rw [← beforeTyped_append_typedWord after, hc]
    rfl
  refine ⟨?_, hright⟩
  rw [finishedWords, hleft, words_blanks_append hb, words_word_append hne hword hb', List.map_cons]
  rfl

/-- Blanks at the start do not count. -/
theorem finishedWords_trimStart (text : List Char) :
    finishedWords (trimStart text) = finishedWords text ∧ typedWord (trimStart text) = typedWord text := by
  have htrim := trimStart_trimStart text
  cases hcut : cutAtBlank (trimStart text) with
  | none =>
    obtain ⟨hwords, htyped⟩ := typedWord_of_cut hcut
    rw [← htrim] at hcut
    obtain ⟨hwords', htyped'⟩ := typedWord_of_cut hcut
    rw [hwords, hwords', htyped, htyped', htrim]
    exact ⟨rfl, rfl⟩
  | some e =>
    obtain ⟨word, after⟩ := e
    obtain ⟨hwords, htyped⟩ := finishedWords_of_cut hcut
    rw [← htrim] at hcut
    obtain ⟨hwords', htyped'⟩ := finishedWords_of_cut hcut
    rw [hwords, hwords', htyped, htyped']
    exact ⟨rfl, rfl⟩

/-- Passing over one word more. -/
theorem afterWords_succ (n : Nat) (text : List Char) :
    afterWords (n + 1) text = trimStart ((afterWords n text).dropWhile fun c => !isBlank c) := by
  induction n generalizing text with
  | zero => rfl
  | succ n ih => rw [afterWords, ih, afterWords]

theorem trimStart_afterWords (n : Nat) (text : List Char) :
    trimStart (afterWords n text) = afterWords n text := by
  cases n with
  | zero => exact trimStart_trimStart text
  | succ n => rw [afterWords_succ, trimStart_trimStart]

theorem afterWords_one (n : Nat) (text : List Char) :
    afterWords 1 (afterWords n text) = afterWords (n + 1) text := by
  rw [afterWords_succ n, afterWords_succ 0, afterWords, trimStart_afterWords]

theorem Plain.afterWords (h : Plain text) (n : Nat) : Plain (afterWords n text) := by
  induction n generalizing text with
  | zero => exact h.trimmed
  | succ n ih => exact ih fun c hc => h.trimmed c ((List.dropWhile_suffix _).subset hc)

/-- Behind the first words there are the other ones, and the word being typed. -/
theorem finishedWords_afterWords {n : Nat} (hn : n ≤ (finishedWords text).length) :
    finishedWords (afterWords n text) = (finishedWords text).drop n ∧
      typedWord (afterWords n text) = typedWord text := by
  induction n generalizing text with
  | zero => exact finishedWords_trimStart text
  | succ n ih =>
    cases hcut : cutAtBlank (trimStart text) with
    | none =>
      rw [(typedWord_of_cut hcut).1] at hn
      exact absurd hn (Nat.not_succ_le_zero n)
    | some e =>
      obtain ⟨word, after⟩ := e
      obtain ⟨hwords, htyped⟩ := finishedWords_of_cut hcut
      rw [hwords, List.length_cons, Nat.add_le_add_iff_right] at hn
      rw [hwords, htyped, List.drop_succ_cons, afterWords, ← (of_cutAtBlank hcut).2.2.2.2.2]
      exact ih hn

end Cut

theorem length_finishedWords_le (text : List Char) : (finishedWords text).length ≤ text.length := by
  have hlength := congrArg List.length (beforeTyped_append_typedWord text)
  rw [List.length_append] at hlength
  have hwords := length_words_le (beforeTyped text)
  rw [finishedWords, List.length_map]
  omega

/-! ### The scanner on a plain text -/

/-- A token stands in a text that begins at byte offset `pos`, with its word between blanks. -/
structure StandsIn (pos : Nat) (s before after : List Char) (t : Token) : Prop where
  /-- The word is the part of the text between the two others. -/
  text_eq : s = before ++ (t.text.toList ++ after)
  /-- The token begins behind the first part. -/
  start_eq : t.start = pos + byteLength before
  /-- Nothing of the word is quoted. -/
  unquoted : t.quoted = false
  /-- The word is not empty. -/
  ne_nil : t.text.toList ≠ []
  /-- No blank stands in the word. -/
  not_blank : ∀ c ∈ t.text.toList, isBlank c = false
  /-- The word begins behind a blank or at the start. -/
  wordOver : WordOver before
  /-- The word goes up to a blank or to the end. -/
  boundary : Boundary after

/-- A token also stands in the text with a character more at the start. -/
theorem StandsIn.cons {pos : Nat} {s before after : List Char} {t : Token} {c : Char}
    (h : StandsIn (pos + c.utf8Size) s before after t) (hc : before = [] → isBlank c = true) :
    StandsIn pos (c :: s) (c :: before) after t where
  text_eq := by rw [List.cons_append, ← h.text_eq]
  start_eq := by rw [h.start_eq, byteLength_cons, Nat.add_assoc]
  unquoted := h.unquoted
  ne_nil := h.ne_nil
  not_blank := h.not_blank
  wordOver := h.wordOver.cons hc
  boundary := h.boundary

theorem StandsIn.start_lt {s before after : List Char} {t : Token} (h : StandsIn 0 s before after t) :
    t.start < byteLength s := by
  obtain ⟨c, r, hcr⟩ := List.exists_cons_of_ne_nil h.ne_nil
  have hc := c.utf8Size_pos
  rw [h.start_eq, h.text_eq, hcr]
  simp only [byteLength_append, List.cons_append, byteLength_cons]
  omega

/-- The scanner cuts a plain text into its words, and leaves nothing open. The induction goes over the
text, in a word and between words at once. -/
theorem scanFrom_of_plain {s : List Char} (h : Plain s) (pos : Nat) :
    (∃ ts, scanFrom .plain pos s = ⟨(splitWords s).1, false, ⟨ts, none, false⟩⟩ ∧
      ts.map Token.text = (splitWords s).2.map String.ofList ∧
      ∀ t ∈ ts, ∃ before after, before ≠ [] ∧ StandsIn pos s before after t) ∧
    ∃ ts, scanFrom .between pos s = ⟨[], false, ⟨ts, none, false⟩⟩ ∧
      ts.map Token.text = (words s).map String.ofList ∧
      ∀ t ∈ ts, ∃ before after, StandsIn pos s before after t := by
  induction s generalizing pos with
  | nil => exact ⟨⟨[], rfl, rfl, by simp⟩, [], rfl, rfl, by simp⟩
  | cons c s ih =>
    obtain ⟨⟨ts, hplain, htexts, hstand⟩, us, hbetween, hutexts, hustand⟩ :=
      ih (fun d hd => h d (List.mem_cons_of_mem c hd)) (pos + c.utf8Size)
    cases hc : isBlank c with
    | true =>
      have hstand' : ∀ t ∈ us, ∃ before after, before ≠ [] ∧ StandsIn pos (c :: s) before after t := by
        intro t ht
        obtain ⟨before, after, hin⟩ := hustand t ht
        exact ⟨c :: before, after, List.cons_ne_nil c before, hin.cons fun _ => hc⟩
      have hsplit : splitWords (c :: s) = ([], words s) := by
        rw [splitWords_boundary (boundary_cons hc s), words_cons_blank hc]
      rw [scanFrom_plain_blank hc, scanFrom_between_blank hc, words_cons_blank hc, hsplit]
      refine ⟨⟨us, hbetween, hutexts, hstand'⟩, us, hbetween, hutexts, fun t ht => ?_⟩
      obtain ⟨before, after, -, hin⟩ := hstand' t ht
      exact ⟨before, after, hin⟩
    | false =>
      obtain ⟨h1, h2, h3⟩ := h c List.mem_cons_self
      have hstand' : ∀ t ∈ ts, ∃ before after, before ≠ [] ∧ StandsIn pos (c :: s) before after t := by
        intro t ht
        obtain ⟨before, after, hne, hin⟩ := hstand t ht
        exact ⟨c :: before, after, List.cons_ne_nil c before, hin.cons fun hnil => absurd hnil hne⟩
      have hsplit : splitWords (c :: s) = (c :: (splitWords s).1, (splitWords s).2) := by
        simp [splitWords, hc]
      have hread : scanFrom .plain pos (c :: s) =
          ⟨c :: (splitWords s).1, false, ⟨ts, none, false⟩⟩ := by
        rw [scanFrom_plain_char hc h1 h2 h3, hplain]
        rfl
      refine ⟨⟨ts, by rw [hread, hsplit], by rw [hsplit]; exact htexts, hstand'⟩,
        ⟨String.ofList (c :: (splitWords s).1), false, pos⟩ :: ts, ?_, ?_, ?_⟩
      · rw [scanFrom_between_char hc, hread]
        rfl
      · rw [words, hsplit, List.map_cons, htexts]
        rfl
      · intro t ht
        rcases List.mem_cons.mp ht with rfl | ht
        · -- the word that begins here goes up to the next blank
          obtain ⟨rest, hs, hrest, hword⟩ := exists_splitWords (c :: s)
          rw [hsplit] at hs hword
          refine ⟨[], rest, ?_, rfl, rfl, ?_, ?_, wordOver_nil, hrest⟩
          · rw [String.toList_ofList]
            exact hs
          · simp
          · rw [String.toList_ofList]
            exact hword
        · obtain ⟨before, after, -, hin⟩ := hstand' t ht
          exact ⟨before, after, hin⟩

/-- **The tokens of a plain text are its words**: each stands in the text between blanks, and nothing is
left open at the end. -/
theorem scan_plain {text : List Char} (h : Plain text) :
    ∃ ts, scan text = ⟨ts, none, false⟩ ∧ ts.map Token.text = (words text).map String.ofList ∧
      ∀ t ∈ ts, ∃ before after, StandsIn 0 text before after t := by
  obtain ⟨-, ts, hts, htexts, hstand⟩ := scanFrom_of_plain h 0
  exact ⟨ts, by rw [scan, hts], htexts, hstand⟩

theorem isLine_of_plain {text : List Char} (h : Plain text) : IsLine text (scan text).tokens := by
  obtain ⟨ts, hts, -, -⟩ := scan_plain h
  rw [← tokenize_eq_ok_iff, tokenize, hts]
  rfl

/-! ### Writing a word -/

theorem EndsBetween.of_plain {before : List Char} (h : Plain before) (hover : WordOver before) :
    EndsBetween before := by
  rcases List.eq_nil_or_concat' before with rfl | ⟨r, c, rfl⟩
  · exact .nil
  · exact .blank (isLine_of_plain h.of_append_left) (hover r c rfl)

/-- **A word written behind words that are over is one more token.** -/
theorem scan_append_word {before v m : List Char} {q : Bool} (h : Plain before)
    (hover : WordOver before) (hv : Word v m q) :
    scan (before ++ v) =
      ⟨(scan before).tokens ++ [⟨String.ofList m, q, byteLength before⟩], none, false⟩ :=
  ((tokenize_eq_ok_iff _ _).mp ((EndsBetween.of_plain h hover).tokenize_append_word hv)).scan_eq

/-- In a plain text the word being typed, if there is one, is the last token. -/
theorem scan_eq_of_plain {text : List Char} (h : Plain text) :
    scan text = ⟨(scan (beforeTyped text)).tokens ++
      if typedWord text = [] then []
      else [⟨String.ofList (typedWord text), false, byteLength (beforeTyped text)⟩], none, false⟩ := by
  have htext := beforeTyped_append_typedWord text
  split
  · next hnil =>
    rw [hnil, List.append_nil] at htext
    obtain ⟨ts, hts, -, -⟩ := scan_plain h
    rw [htext, hts, List.append_nil]
  · next hne =>
    have hword : Word (typedWord text) (typedWord text) false := by
      refine word_of_pieces hne fun c hc => ?_
      obtain ⟨h1, h2, h3⟩ := h c (by rw [← htext]; exact List.mem_append_right _ hc)
      exact .plain (typedWord_not_blank text c hc) h1 h2 h3
    have key := scan_append_word h.beforeTyped (wordOver_beforeTyped text) hword
    rwa [htext] at key

end RouterShell.Line
