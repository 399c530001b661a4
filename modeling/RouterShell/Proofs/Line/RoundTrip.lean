import RouterShell.Line.Pipeline
import RouterShell.Line.Quoted
import RouterShell.Proofs.Line.Grammar

/-!
# Reading back what was written

`quote` and `join` write words into a line, the scanner reads them out of it. This module proves that
reading undoes writing: the line that `join` writes has the same words as the tokens it was written
from, the same of them are separating pipes, and each begins where the text before it ends.

Both are compared with the grammar and not with each other: what `quote` writes is a word of the
grammar whose meaning is the word (`word_quote`), so what `join` writes is a line of the grammar
(`isLine_join`), and the scanner accepts the grammar.

## The model

The tokens read back are not the tokens written: a token keeps the quoting and the place it was first
typed with. `reread` says what becomes of a token, and `rereadFrom` of all tokens of a line. What
matters further on is the same for both, as the command and the segments of a line
(`Pipeline.ofTokens`) depend only on texts and pipes.
-/

namespace RouterShell.Line

open Text

/-! ### A quoted word is a word of the grammar -/

/-- Whether a word is written in quotes. -/
def needsQuotes (word : String) : Bool := word.toList.isEmpty || !word.toList.all isSafe

/-- Safe characters are among the visible ones of ASCII. -/
theorem isSafe_range {c : Char} (h : isSafe c = true) : 0x20 < c.toNat ∧ c.toNat < 0x7F := by
  simp only [isSafe, Bool.or_eq_true] at h
  rcases h with h | h
  · have hval : c.toNat = c.val.toNat := rfl
    have hranges : ((decide (0x41 ≤ c.val ∧ c.val ≤ 0x5A) || (0x61 ≤ c.val && c.val ≤ 0x7A)) ||
        (0x30 ≤ c.val && c.val ≤ 0x39)) = true := h
    simp only [Bool.or_eq_true, Bool.and_eq_true, decide_eq_true_eq, UInt32.le_iff_toNat_le,
      UInt32.reduceToNat] at hranges
    omega
  · have hall : ("@%+=:,./_-".toList.all fun c => 0x20 < c.toNat && c.toNat < 0x7F) = true := rfl
    have hc := List.all_eq_true.mp hall c (List.contains_iff_mem.mp h)
    simpa only [Bool.and_eq_true, decide_eq_true_eq] using hc

theorem isBlank_eq_false {c : Char} (h : 0x20 < c.toNat ∧ c.toNat < 0x7F) : isBlank c = false := by
  simp only [isBlank, Bool.or_eq_false_iff, Bool.and_eq_false_iff, decide_eq_false_iff_not,
    beq_eq_false_iff_ne]
  omega

/-- A safe character stands for itself. -/
theorem Piece.of_isSafe {c : Char} (h : isSafe c = true) : Piece [c] [c] false := by
  have hq : c ≠ '\'' := by rintro rfl; exact absurd h (by decide)
  have hd : c ≠ '"' := by rintro rfl; exact absurd h (by decide)
  have hb : c ≠ '\\' := by rintro rfl; exact absurd h (by decide)
  exact .plain (isBlank_eq_false (isSafe_range h)) hq hd hb

/-- Characters that stand for themselves make up a word that means itself. -/
theorem word_of_pieces : ∀ {s : List Char}, s ≠ [] → (∀ c ∈ s, Piece [c] [c] false) → Word s s false
  | [], h, _ => absurd rfl h
  | [c], _, h => .one (h c List.mem_cons_self)
  | c :: d :: s, _, h =>
    .more (h c List.mem_cons_self) <|
      word_of_pieces (List.cons_ne_nil d s) fun e he => h e (List.mem_cons_of_mem c he)

/-- What stands between single quotes is one word: every single quote in it closes them, comes
between double quotes, and opens them again. `pre` is the text since they were last opened. -/
theorem word_quoteInside (s : List Char) {pre : List Char} (hpre : '\'' ∉ pre) :
    Word ('\'' :: (pre ++ (quoteInside s ++ ['\'']))) (pre ++ s) true := by
  induction s generalizing pre with
  | nil =>
    rw [quoteInside, List.nil_append, List.append_nil]
    exact .one (.single hpre)
  | cons c s ih =>
    by_cases hc : c = '\''
    · subst hc
      have hquote : Inside ['\''] ['\''] := .char (by decide) (by decide) .nil
      have hrest : Word ('\'' :: (quoteInside s ++ ['\''])) s true := ih List.not_mem_nil
      have key := Word.more (.single hpre) (.more (.double hquote) hrest)
      simpa [quoteInside] using key
    · have hpre' : '\'' ∉ pre ++ [c] := by
        simp only [List.mem_append, List.mem_singleton, not_or]
        exact ⟨hpre, fun h => hc h.symm⟩
      have key := ih hpre'
      simpa [quoteInside, hc] using key

/-- The written form of a word is a word of the grammar that means it. -/
theorem word_quote (word : String) : Word (quote word) word.toList (needsQuotes word) := by
  unfold quote needsQuotes
  by_cases hne : word.toList.isEmpty = true
  · rw [List.isEmpty_iff] at hne
    simp only [hne]
    exact .one (.single List.not_mem_nil)
  · have hne' : word.toList ≠ [] := fun h => hne (List.isEmpty_iff.mpr h)
    by_cases hs : word.toList.all isSafe = true
    · simp only [hne, hs]
      exact word_of_pieces hne' fun c hc => .of_isSafe (List.all_eq_true.mp hs c hc)
    · simp only [hne, hs]
      exact word_quoteInside word.toList List.not_mem_nil

/-- A written word is read back as the only word of its line. -/
theorem tokenize_quote (word : String) : tokenize (quote word) = .ok [⟨word, needsQuotes word, 0⟩] := by
  have key := IsLine.words blanks_nil (.one (word_quote word)) blanks_nil
  rw [List.nil_append, List.append_nil, String.ofList_toList] at key
  exact tokenize_of_isLine key

/-! ### A joined line is a line of the grammar -/

/-- Whether a token is written in quotes. -/
def isTypedQuoted (t : Token) : Bool := !t.isPipe && needsQuotes t.text

/-- What is read of a token that is written at byte offset `pos`. -/
def reread (t : Token) (pos : Nat) : Token := ⟨t.text, isTypedQuoted t, pos⟩

/-- What is read of tokens that are written from byte offset `pos` on. -/
def rereadFrom : Nat → List Token → List Token
  | _, [] => []
  | pos, t :: ts => reread t pos :: rereadFrom (pos + byteLength (Token.typed t) + 1) ts

theorem isPipe_iff (t : Token) : t.isPipe = true ↔ t.quoted = false ∧ t.text = "|" := by
  simp [Token.isPipe]

/-- A token is written as a word of the grammar that means its text. -/
theorem word_typed (t : Token) : Word (Token.typed t) t.text.toList (isTypedQuoted t) := by
  unfold Token.typed isTypedQuoted
  cases h : t.isPipe with
  | true =>
    rw [((isPipe_iff t).mp h).2]
    exact .one (.plain (by decide) (by decide) (by decide) (by decide))
  | false => exact word_quote t.text

/-- A separating pipe comes back as one, and nothing else does. -/
theorem isPipe_reread (t : Token) (pos : Nat) : (reread t pos).isPipe = t.isPipe := by
  cases h : t.isPipe with
  | true =>
    rw [isPipe_iff]
    exact ⟨by simp [reread, isTypedQuoted, h], ((isPipe_iff t).mp h).2⟩
  | false =>
    -- a pipe that is a word is not safe, so it comes back quoted
    rw [← Bool.not_eq_true, isPipe_iff]
    rintro ⟨hq, htext⟩
    have htext' : t.text = "|" := htext
    simp only [reread, isTypedQuoted, h, htext', Bool.not_false, Bool.true_and] at hq
    exact absurd hq (by decide)

theorem join_cons_cons (t u : Token) (ts : List Token) :
    join (t :: u :: ts) = Token.typed t ++ [' '] ++ join (u :: ts) := rfl

theorem reread_eq (t : Token) (pos : Nat) :
    reread t pos = ⟨String.ofList t.text.toList, isTypedQuoted t, pos⟩ := by
  rw [String.ofList_toList]
  rfl

/-- Joined tokens are words of the grammar with single spaces between them. -/
theorem words_join (t : Token) (ts : List Token) (pos : Nat) :
    Words pos (join (t :: ts)) (rereadFrom pos (t :: ts)) := by
  induction ts generalizing t pos with
  | nil =>
    rw [rereadFrom, rereadFrom, reread_eq]
    exact .one (word_typed t)
  | cons u ts ih =>
    have hgap : Blanks [' '] := blanks_cons (by decide) blanks_nil
    have hnext := ih u (pos + byteLength (Token.typed t ++ [' ']))
    rw [join_cons_cons, rereadFrom, reread_eq]
    refine .more (word_typed t) hgap (List.cons_ne_nil _ _) ?_
    rw [byteLength_append, ← Nat.add_assoc] at hnext ⊢
    exact hnext

theorem isLine_join (ts : List Token) : IsLine (join ts) (rereadFrom 0 ts) := by
  cases ts with
  | nil => exact .blank blanks_nil
  | cons t ts =>
    have key := IsLine.words blanks_nil (words_join t ts 0) blanks_nil
    rwa [List.nil_append, List.append_nil] at key

/-! ### What is read back -/

/-- The byte offset at which the token with an index is written: a space parts it from the tokens
before it. -/
def offsetOf (ts : List Token) (i : Nat) : Nat :=
  byteLength (join (ts.take i)) + if i = 0 then 0 else 1

/-- The text before a later token is the first token, a space, and what the other tokens have before
it. -/
theorem offsetOf_cons_succ (t : Token) {ts : List Token} {i : Nat} (h : i < ts.length) :
    offsetOf (t :: ts) (i + 1) = byteLength (Token.typed t) + 1 + offsetOf ts i := by
  unfold offsetOf
  cases i with
  | zero => rfl
  | succ i =>
    obtain ⟨u, us, rfl⟩ := List.exists_cons_of_length_pos (Nat.zero_lt_of_lt h)
    have hspace : byteLength [' '] = 1 := rfl
    rw [List.take_succ_cons, List.take_succ_cons, join_cons_cons, byteLength_append,
      byteLength_append, hspace, if_neg (Nat.succ_ne_zero _), if_neg (Nat.succ_ne_zero _)]
    omega

theorem length_rereadFrom (ts : List Token) (pos : Nat) :
    (rereadFrom pos ts).length = ts.length := by
  induction ts generalizing pos with
  | nil => rfl
  | cons t ts ih => rw [rereadFrom, List.length_cons, ih, List.length_cons]

theorem getElem?_rereadFrom (ts : List Token) (pos i : Nat) :
    (rereadFrom pos ts)[i]? = ts[i]?.map fun t => reread t (pos + offsetOf ts i) := by
  induction ts generalizing pos i with
  | nil => rfl
  | cons t ts ih =>
    cases i with
    | zero => rfl
    | succ i =>
      rw [rereadFrom, List.getElem?_cons_succ, List.getElem?_cons_succ, ih]
      cases hi : ts[i]? with
      | none => rfl
      | some u =>
        rw [Option.map_some, Option.map_some,
          offsetOf_cons_succ t (List.getElem?_eq_some_iff.mp hi).1]
        congr 2
        omega

/-- Only texts and pipes count when tokens are cut into a command and segments. -/
theorem ofTokensFrom_rereadFrom (ts : List Token) (pos i : Nat) :
    Pipeline.ofTokensFrom i (rereadFrom pos ts) = Pipeline.ofTokensFrom i ts := by
  induction ts generalizing pos i with
  | nil => rfl
  | cons t ts ih =>
    simp only [rereadFrom, Pipeline.ofTokensFrom, isPipe_reread, ih]
    rfl

/-- Only texts and pipes count when tokens are written. -/
theorem join_rereadFrom (ts : List Token) (pos : Nat) : join (rereadFrom pos ts) = join ts := by
  have htyped : (rereadFrom pos ts).map Token.typed = ts.map Token.typed := by
    induction ts generalizing pos with
    | nil => rfl
    | cons t ts ih =>
      simp only [rereadFrom, List.map_cons, ih, Token.typed, isPipe_reread]
      rfl
  rw [join, join, htyped]

/-- **Reading undoes writing**: the line that tokens are joined to has as many tokens, each with the
text of the token it was written from, a separating pipe where that one was, and beginning right
behind the text and the space before it. So the command and the segments are the same, and the line
is joined again to itself. -/
theorem tokenize_join (ts : List Token) :
    ∃ us, tokenize (join ts) = .ok us ∧ us.length = ts.length ∧
      (∀ i, us[i]?.map (fun u => (u.text, u.isPipe, u.start)) =
        ts[i]?.map fun t =>
          (t.text, t.isPipe, byteLength (join (ts.take i)) + if i = 0 then 0 else 1)) ∧
      Pipeline.ofTokens us = Pipeline.ofTokens ts ∧ join us = join ts := by
  refine ⟨rereadFrom 0 ts, tokenize_of_isLine (isLine_join ts), length_rereadFrom ts 0,
    fun i => ?_, ofTokensFrom_rereadFrom ts 0 0, join_rereadFrom ts 0⟩
  rw [getElem?_rereadFrom, Option.map_map]
  congr 1
  funext t
  simp only [Function.comp, isPipe_reread, Nat.zero_add]
  rfl

end RouterShell.Line
