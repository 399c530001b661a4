import RouterShell.Proofs.Line.Cutting
import RouterShell.Proofs.Line.Ending
import RouterShell.Proofs.Shell.Splicing

/-!
# The place of the word being typed

A completer of words proposes those that extend the word at the end of the text, each for the place of that
word. Where this word begins, and whether there is one at all, it tells from three things: whether the scanner
found an open quote, where the last token starts, and whether the last character of the text is a blank. The
scanner has more to go by. This module compares the two for every text, whatever is quoted or unfinished in it.

## The model

`Finished` (in `Proofs/Line/Ending`) are the tokens of a text without the word that is still being typed. It
refers to the grammar of lines and not to what the completer looks at.

## What is proved

An accepted proposal takes the place of the word being typed, or is written behind the words if the last one is
over, with one exception: a blank that a backslash protects is taken for the end of the word it belongs to.
Then the proposal is not compared with this word and is written to it. `accepted_word_takes_place` says both.
-/

namespace RouterShell

open Text Line

section Place

variable {text : List Char}

/-- Behind a blank outside quotes no word is being typed, if the completer is to be believed. -/
theorem partialWord_of_blank (hopen : (scan text).openQuote = none) (hblank : endsBlank text = true) :
    Complete.partialWord text = ("", 0) := by
  unfold Complete.partialWord
  simp only [hopen, hblank, Option.isNone_none, Bool.and_self, if_true]
  split <;> rfl

/-- Anywhere else it is the last token. -/
theorem partialWord_of_last {before : List Token} {last : Token}
    (h : ¬ ((scan text).openQuote = none ∧ endsBlank text = true))
    (hlast : (scan text).tokens = before ++ [last]) :
    Complete.partialWord text = (last.text, byteLength text - last.start) := by
  have hbetween : ¬ ((scan text).openQuote.isNone && endsBlank text) = true := by
    rwa [Bool.and_eq_true, Option.isNone_iff_eq_none]
  unfold Complete.partialWord
  simp only [hlast, List.getLast?_concat, if_neg hbetween]

theorem partialWord_of_endsBetween (h : EndsBetween text) : Complete.partialWord text = ("", 0) := by
  obtain ⟨ts, hline⟩ := h.isLine
  cases h with
  | nil => rfl
  | blank _ hc => exact partialWord_of_blank (by rw [hline.scan_eq]) (by simp [endsBlank, hc])

theorem endsBlank_of_endsProtected (h : EndsProtected text) : endsBlank text = true := by
  cases h with
  | mk _ hc => simp [endsBlank, hc]

theorem partialWord_of_endsProtected (h : EndsProtected text) : Complete.partialWord text = ("", 0) := by
  obtain ⟨ts, hline⟩ := h.isLine
  exact partialWord_of_blank (by rw [hline.scan_eq]) (endsBlank_of_endsProtected h)

/-- A word that is written where a token starts, in the place of the rest, is the last token. -/
theorem tokenize_splice_last {before : List Token} {last : Token}
    (hlast : (scan text).tokens = before ++ [last]) (w : String) :
    tokenize ((⟨String.ofList (quote w), byteLength text - last.start⟩ : Candidate).splice text) =
      .ok (before ++ [⟨w, needsQuotes w, last.start⟩]) := by
  obtain ⟨pre, rest, rfl, hstart, -, hmore⟩ := exists_cut hlast
  have hkept : byteLength (pre ++ rest) - (byteLength (pre ++ rest) - last.start) = byteLength pre := by
    rw [hstart, byteLength_append]
    omega
  have hsplice : (⟨String.ofList (quote w), byteLength (pre ++ rest) - last.start⟩ : Candidate).splice
      (pre ++ rest) = pre ++ quote w := by
    rw [Candidate.splice, hkept, takeBytes_append, String.toList_ofList]
  have hword := ((tokenize_eq_ok_iff _ _).mp (tokenize_quote w)).scan_eq
  rw [hsplice, tokenize, hmore, hword]
  rfl

end Place

/-- **An accepted proposal takes the place of the word being typed, unless a backslash protects the blank before
the cursor.** For every text before the cursor, with any quoting, escapes and unfinished quotes, and for all
words, a proposal is the written form of one of them. The text with it can be read, and has the finished words
of the text and then this word.

If the text ends with a protected blank, the proposal replaces nothing, and the word that is being typed there
becomes part of it. -/
theorem accepted_word_takes_place {text : List Char} {names : List String} {c : Candidate}
    (h : c ∈ Complete.words text names) :
    ∃ w ∈ names, c.text = String.ofList (quote w) ∧ ∃ ts, Finished text ts ∧
      (¬ EndsProtected text → ∃ t, tokenize (c.splice text) = .ok (ts ++ [t]) ∧ t.text = w) ∧
      (EndsProtected text → c.replace = 0 ∧ ∃ last t, (scan text).tokens = ts ++ [last] ∧
        tokenize (c.splice text) = .ok (ts ++ [t]) ∧ t.text = last.text ++ w) := by
  obtain ⟨w, hw, -, -, rfl⟩ := Complete.mem_words.mp h
  refine ⟨w, hw, rfl, ?_⟩
  by_cases hover : EndsBetween text
  · -- the proposal is written behind the words
    refine ⟨(scan text).tokens, .all hover, fun _ => ?_, fun hprotected => ?_⟩
    · have htokens := hover.tokenize_append_word (word_quote w)
      rw [String.ofList_toList] at htokens
      rw [partialWord_of_endsBetween hover, splice_behind]
      exact ⟨_, htokens, rfl⟩
    · exact absurd hover hprotected.not_endsBetween
  · obtain ⟨before, last, hlast⟩ := exists_last_of_not_endsBetween hover
    refine ⟨before, .butLast hover hlast, fun hprotected => ?_, fun hprotected => ?_⟩
    · have hplace : ¬ ((scan text).openQuote = none ∧ endsBlank text = true) := fun ⟨hopen, hblank⟩ =>
        (endsBetween_or_endsProtected hopen hblank).elim hover hprotected
      rw [partialWord_of_last hplace hlast]
      exact ⟨_, tokenize_splice_last hlast w, rfl⟩
    · -- the word that goes on is not seen, so the proposal is written to it
      obtain ⟨us, hline⟩ := hprotected.isLine
      obtain ⟨before', last', hus, htokens⟩ := hline.append_word_of_not_endsBetween hover (word_quote w)
      have hsame : before ++ [last] = before' ++ [last'] := by rw [← hlast, hline.scan_eq, ← hus]
      obtain ⟨rfl, hsingle⟩ := List.append_inj' hsame rfl
      obtain rfl := (List.cons.inj hsingle).1
      rw [partialWord_of_endsProtected hprotected, splice_behind]
      refine ⟨rfl, last, last.glue w.toList (needsQuotes w), hlast, htokens, ?_⟩
      rw [Token.glue, String.ofList_toList]

/-- An unfinished quote is part of what is replaced. -/
theorem my_link_takes_place :
    let text := "show 'my".toList
    (⟨"'my link'", 3⟩ : Candidate) ∈ Complete.words text ["eth0", "my link"] ∧
      ∃ ts t, Finished text ts ∧ tokenize "show 'my link'".toList = .ok (ts ++ [t]) ∧ t.text = "my link" := by
  intro text
  have hmem : (⟨"'my link'", 3⟩ : Candidate) ∈ Complete.words text ["eth0", "my link"] := by decide
  obtain ⟨w, hw, htext, ts, hts, htaken, -⟩ := accepted_word_takes_place hmem
  have hprotected : ¬ EndsProtected text := fun h => absurd (endsBlank_of_endsProtected h) (by decide)
  obtain ⟨t, hread, hword⟩ := htaken hprotected
  rcases List.mem_cons.mp hw with rfl | hw
  · exact absurd htext (by decide)
  · exact ⟨hmem, ts, t, hts, hread, hword.trans (List.mem_singleton.mp hw)⟩

/-- Behind `a`, a backslash and a blank, the word `a b` is proposed in the place of nothing. Accepting it gives
one word, and this is not `a b`. -/
theorem protected_blank_ends_no_word :
    let text := ['a', '\\', ' ']
    let c : Candidate := ⟨"'a b'", 0⟩
    c ∈ Complete.words text ["a b"] ∧ tokenize (c.splice text) = .ok [⟨"a a b", true, 0⟩] ∧
      ¬ ∃ ts t, Finished text ts ∧ tokenize (c.splice text) = .ok (ts ++ [t]) ∧ t.text = "a b" := by
  intro text c
  have htokens : tokenize (c.splice text) = .ok [⟨"a a b", true, 0⟩] := by decide
  refine ⟨by decide, htokens, ?_⟩
  rintro ⟨ts, t, -, hread, hword⟩
  rw [htokens] at hread
  have hlist : [] ++ [⟨"a a b", true, 0⟩] = ts ++ [t] := Except.ok.inj hread
  obtain ⟨-, hlast⟩ := List.append_inj' hlist rfl
  rw [← (List.cons.inj hlast).1] at hword
  exact absurd hword (by decide)

end RouterShell
