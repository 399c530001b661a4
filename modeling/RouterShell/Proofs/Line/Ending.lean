import Mathlib.Data.List.Basic
import RouterShell.Proofs.Line.Grammar

/-!
# How a text ends

What is typed at the end of a text begins a new word there, or goes on the last one. A blank at the end does
not decide this by its looks: between quotes it belongs to the word, and so it does behind a backslash. This
module says in terms of the quoting grammar how a text ends, and what comes of a word written behind it.

## The model

`EndsBetween` are the texts in which the last word is over, `EndsProtected` those that end with a blank behind
a backslash. Both speak of lines of the grammar only, and no text is both (`EndsProtected.not_endsBetween`).
`Finished` are the tokens of a text without a word that is not over.

## What is proved

If no quote is open, a blank at the end is of one of the two kinds (`endsBetween_or_endsProtected`). Behind a
text of the first kind reading begins anew (`EndsBetween.scan_append`), so a word there is one more token
(`EndsBetween.tokenize_append_word`). Behind any other line a word is written to the last token
(`IsLine.append_word_of_not_endsBetween`).
-/

namespace RouterShell

/-- The token that a word becomes if more is written to it. -/
def Token.glue (t : Token) (m : List Char) (q : Bool) : Token :=
  ⟨t.text ++ String.ofList m, t.quoted || q, t.start⟩

namespace Line

open Text

/-- A text in which the last word, if there is one, is over. -/
inductive EndsBetween : List Char → Prop where
  /-- Nothing is typed yet. -/
  | nil : EndsBetween []
  /-- A blank stands behind a line, so it is outside quotes and no backslash protects it. -/
  | blank {p : List Char} {ts : List Token} {c : Char} :
      IsLine p ts → isBlank c = true → EndsBetween (p ++ [c])

/-- A text that ends with a protected blank: behind a line stand a backslash and the blank. -/
inductive EndsProtected : List Char → Prop where
  /-- The backslash may go on the last word of the line or begin another one. -/
  | mk {p : List Char} {ts : List Token} {c : Char} :
      IsLine p ts → isBlank c = true → EndsProtected (p ++ ['\\', c])

/-- The tokens of a text without the one that is still being typed, if there is one. -/
inductive Finished (text : List Char) : List Token → Prop where
  /-- The last word is over. -/
  | all : EndsBetween text → Finished text (scan text).tokens
  /-- The last word is still being typed. -/
  | butLast {before : List Token} {last : Token} :
      ¬ EndsBetween text → (scan text).tokens = before ++ [last] → Finished text before

/-! ### Putting texts together -/

section Append

variable {b s t m n v w : List Char} {q r : Bool} {c : Char}

theorem Blanks.concat (hb : Blanks b) (hc : isBlank c = true) : Blanks (b ++ [c]) := by
  intro d hd
  rcases List.mem_append.mp hd with hd | hd
  · exact hb d hd
  · rw [List.mem_singleton.mp hd]
    exact hc

theorem Inside.append (hs : Inside s m) (ht : Inside t n) : Inside (s ++ t) (m ++ n) := by
  induction hs with
  | nil => exact ht
  | protect hc _ ih => exact .protect hc ih
  | backslash hc hc' _ ih => exact .backslash hc hc' ih
  | char hc hc' _ ih => exact .char hc hc' ih

theorem Word.append (hw : Word w m q) (hv : Word v n r) : Word (w ++ v) (m ++ n) (q || r) := by
  induction hw with
  | one hp => exact .more hp hv
  | more hp _ ih =>
    rw [List.append_assoc, List.append_assoc, Bool.or_assoc]
    exact .more hp ih

/-- A blank is no quote and no backslash. -/
theorem ne_of_isBlank (hc : isBlank c = true) : c ≠ '\'' ∧ c ≠ '"' ∧ c ≠ '\\' := by
  refine ⟨?_, ?_, ?_⟩ <;>
  · rintro rfl
    exact absurd hc (by decide)

/-- A blank between double quotes stands for itself. -/
theorem inside_blank (hc : isBlank c = true) : Inside [c] [c] :=
  .char (ne_of_isBlank hc).2.1 (ne_of_isBlank hc).2.2 .nil

end Append

/-! ### Behind the last word -/

namespace EndsBetween

variable {p v m : List Char} {q : Bool}

theorem isLine (h : EndsBetween p) : ∃ ts, IsLine p ts := by
  cases h with
  | nil => exact ⟨[], .blank blanks_nil⟩
  | @blank p ts c hp hc =>
    cases hp with
    | blank hb => exact ⟨[], .blank (hb.concat hc)⟩
    | words hb hs he =>
      rw [List.append_assoc]
      exact ⟨ts, .words hb hs (he.concat hc)⟩

/-- Behind a text in which the last word is over, reading begins anew. -/
theorem scan_append (h : EndsBetween p) (rest : List Char) :
    scan (p ++ rest) = prependTokens (scan p).tokens (scanFrom .between (byteLength p) rest).scan := by
  cases h with
  | nil => rfl
  | @blank p ts c hp hc =>
    have key : ∀ s, scan (p ++ [c] ++ s) =
        prependTokens ts (scanFrom .between (byteLength (p ++ [c])) s).scan := by
      intro s
      rw [List.append_assoc, List.singleton_append, hp.scan_append (boundary_cons hc s),
        scanFrom_between_blank hc, byteLength_append]
      rfl
    have hsame : (scan (p ++ [c])).tokens = ts := by
      have hnone := key []
      rw [List.append_nil] at hnone
      rw [hnone]
      simp [prependTokens, scanFrom, Mode.finish, Tail.done]
    rw [key, hsame]

/-- A word behind a text in which the last word is over is one more token. -/
theorem tokenize_append_word (h : EndsBetween p) (hv : Word v m q) :
    tokenize (p ++ v) = .ok ((scan p).tokens ++ [⟨String.ofList m, q, byteLength p⟩]) := by
  have hword := scan_between_word hv boundary_nil (byteLength p)
  rw [List.append_nil] at hword
  rw [tokenize, h.scan_append, hword]
  rfl

end EndsBetween

/-! ### On the last word -/

section Glued

variable {pos : Nat} {p s v m : List Char} {q : Bool} {ts : List Token}

/-- A word written to the last one of some words. -/
theorem Words.append_word (h : Words pos s ts) (hv : Word v m q) :
    ∃ before last, ts = before ++ [last] ∧ Words pos (s ++ v) (before ++ [last.glue m q]) := by
  induction h with
  | @one pos w n r hw =>
    refine ⟨[], ⟨String.ofList n, r, pos⟩, rfl, ?_⟩
    show Words pos (w ++ v) [⟨String.ofList n ++ String.ofList m, r || q, pos⟩]
    rw [← String.ofList_append]
    exact .one (hw.append hv)
  | @more pos w n g s r ts hw hg hne _ ih =>
    obtain ⟨before, last, rfl, hwords⟩ := ih
    refine ⟨_ :: before, last, rfl, ?_⟩
    rw [List.append_assoc]
    exact .more hw hg hne hwords

/-- A line in which the last word is not over ends with it. -/
theorem IsLine.endsBetween_or_words (h : IsLine p ts) :
    EndsBetween p ∨ ∃ b s, Blanks b ∧ Words (byteLength b) s ts ∧ p = b ++ s := by
  cases h with
  | blank hb =>
    rcases List.eq_nil_or_concat' p with rfl | ⟨r, c, rfl⟩
    · exact Or.inl .nil
    · exact Or.inl (.blank (.blank fun d hd => hb d (List.mem_append_left [c] hd)) (hb c (by simp)))
  | @words b s e ts hb hs he =>
    rcases List.eq_nil_or_concat' e with rfl | ⟨r, c, rfl⟩
    · exact Or.inr ⟨b, s, hb, hs, List.append_nil _⟩
    · rw [← List.append_assoc]
      exact Or.inl
        (.blank (.words hb hs fun d hd => he d (List.mem_append_left [c] hd)) (he c (by simp)))

/-- A word behind a line in which the last word is not over is written to that word. -/
theorem IsLine.append_word_of_not_endsBetween (h : IsLine p ts) (hp : ¬ EndsBetween p) (hv : Word v m q) :
    ∃ before last, ts = before ++ [last] ∧ tokenize (p ++ v) = .ok (before ++ [last.glue m q]) := by
  obtain ⟨b, s, hb, hs, rfl⟩ := h.endsBetween_or_words.resolve_left hp
  obtain ⟨before, last, hts, hwords⟩ := hs.append_word hv
  refine ⟨before, last, hts, tokenize_of_isLine ?_⟩
  have key := IsLine.words hb hwords blanks_nil
  rwa [List.append_nil, ← List.append_assoc] at key

/-- A word behind a line makes a line of it, in one way or the other. -/
theorem IsLine.exists_append_word (h : IsLine p ts) (hv : Word v m q) : ∃ ts', IsLine (p ++ v) ts' := by
  by_cases hp : EndsBetween p
  · exact ⟨_, (tokenize_eq_ok_iff _ _).mp (hp.tokenize_append_word hv)⟩
  · obtain ⟨before, last, -, htokens⟩ := h.append_word_of_not_endsBetween hp hv
    exact ⟨_, (tokenize_eq_ok_iff _ _).mp htokens⟩

end Glued

/-! ### Which end it is -/

section Which

variable {text : List Char}

theorem EndsProtected.isLine (h : EndsProtected text) : ∃ ts, IsLine text ts := by
  cases h with
  | mk hp _ => exact hp.exists_append_word (.one (.escaped _))

/-- A protected blank ends no word, as the backslash before it needs it. -/
theorem EndsProtected.not_endsBetween (h : EndsProtected text) : ¬ EndsBetween text := by
  intro hover
  obtain @⟨p, ts, c, hp, -⟩ := h
  generalize htext : p ++ ['\\', c] = text at hover
  cases hover with
  | nil => exact List.append_ne_nil_of_right_ne_nil p (List.cons_ne_nil _ _) htext
  | @blank r us d hr _ =>
    rw [show p ++ ['\\', c] = (p ++ ['\\']) ++ [c] by simp] at htext
    obtain ⟨rfl, -⟩ := List.append_inj' htext rfl
    have hcut := tokenize_of_endsCut ⟨p, ts, ['\\'], hp, .escape, rfl⟩
    rw [tokenize_of_isLine hr] at hcut
    cases hcut

/-- Outside quotes, a blank at the end is behind a line or protected by a backslash. -/
theorem endsBetween_or_endsProtected (hopen : (scan text).openQuote = none) (hblank : endsBlank text = true) :
    EndsBetween text ∨ EndsProtected text := by
  rcases List.eq_nil_or_concat' text with rfl | ⟨r, c, rfl⟩
  · exact Or.inl .nil
  have hc : isBlank c = true := by simpa [endsBlank] using hblank
  have hclosed : ∀ p ts u, IsLine p ts → Cut u .missingClosingQuote → r ++ [c] ≠ p ++ u := by
    intro p ts u hp hu htext
    have hfault := hp.fault_append hu
    rw [← htext, Scan.fault, hopen, Option.isSome_none, if_neg Bool.false_ne_true] at hfault
    split at hfault <;> cases hfault
  rcases isLine_or_endsCut r with ⟨ts, hr⟩ | ⟨f, p, ts, u, hp, hu, rfl⟩
  · exact Or.inl (.blank hr hc)
  · -- a quote that is open before the blank is open behind it
    rw [List.append_assoc] at hclosed ⊢
    cases hu with
    | single hs => exact absurd rfl (hclosed p ts _ hp (.single (by simp [hs, (ne_of_isBlank hc).1.symm])))
    | double hs => exact absurd rfl (hclosed p ts _ hp (.double (hs.append (inside_blank hc))))
    | backslash hs =>
      have hprotected := Inside.backslash (ne_of_isBlank hc).2.1 (ne_of_isBlank hc).2.2 (inside_blank hc)
      refine absurd ?_ (hclosed p ts _ hp (.double (hs.append hprotected)))
      simp
    | escape => exact Or.inr (.mk hp hc)

/-- A text in which the last word is not over has a last word. -/
theorem exists_last_of_not_endsBetween (h : ¬ EndsBetween text) :
    ∃ before last, (scan text).tokens = before ++ [last] := by
  rcases List.eq_nil_or_concat' (scan text).tokens with hnil | hlast
  · have hline := (tokenize_eq_ok_iff text []).mp ((scan_tokens_nil_iff text).mp hnil)
    obtain ⟨b, s, -, hs, -⟩ := hline.endsBetween_or_words.resolve_left h
    nomatch hs
  · exact hlast

end Which

end Line

end RouterShell
