import Mathlib.Data.List.Basic
import Mathlib.Data.List.TakeWhile
import RouterShell.Line.Pipeline

/-!
# Words and their tokens

The words of the command and of the segments of a line are the texts of its tokens. This module says
which token a word comes from: the words of the command are the first tokens, and the words of a
segment are the tokens from its offset on.

## What is proved

The command takes the tokens up to the first pipe, and each segment those from right behind its pipe up to the
next one (`command_eq`, `exists_pipe_of_mem_segments`). So the command and the segments, with a pipe before each
of them, are all tokens in their order, and every offset is the place of a word (`split_loses_nothing`).
-/

namespace RouterShell.Pipeline

/-- A word of the command is the text of the token with its index. -/
theorem command_getElem? {tokens : List Token} {i j : Nat} {w : String}
    (h : (ofTokensFrom i tokens).command[j]? = some w) :
    ∃ t, tokens[j]? = some t ∧ t.text = w := by
  induction tokens generalizing i j with
  | nil => simp [ofTokensFrom] at h
  | cons t tokens ih =>
    rw [ofTokensFrom] at h
    split at h
    · simp at h
    · cases j with
      | zero =>
        rw [List.getElem?_cons_zero, Option.some.injEq] at h
        exact ⟨t, rfl, h⟩
      | succ j =>
        rw [List.getElem?_cons_succ] at h
        exact ih h

/-- A segment stands behind a pipe, and its words are the command of what follows that pipe. -/
theorem exists_pipe_of_mem_segments {tokens : List Token} {i : Nat} {seg : Segment}
    (h : seg ∈ (ofTokensFrom i tokens).segments) :
    ∃ before pipe behind, tokens = before ++ pipe :: behind ∧ pipe.isPipe = true ∧
      seg.offset = i + before.length + 1 ∧ seg.words = (ofTokensFrom seg.offset behind).command := by
  induction tokens generalizing i with
  | nil => simp [ofTokensFrom] at h
  | cons t tokens ih =>
    have hrest : seg ∈ (ofTokensFrom (i + 1) tokens).segments →
        ∃ before pipe behind, t :: tokens = before ++ pipe :: behind ∧ pipe.isPipe = true ∧
          seg.offset = i + before.length + 1 ∧ seg.words = (ofTokensFrom seg.offset behind).command := by
      intro hmem
      obtain ⟨before, pipe, behind, rfl, hpipe, hoffset, hwords⟩ := ih hmem
      refine ⟨t :: before, pipe, behind, rfl, hpipe, ?_, hwords⟩
      rw [hoffset, List.length_cons]
      omega
    rw [ofTokensFrom] at h
    split at h
    · next hpipe =>
      rcases List.mem_cons.mp h with rfl | hmem
      · exact ⟨[], t, tokens, rfl, hpipe, rfl, rfl⟩
      · exact hrest hmem
    · exact hrest h

/-- A word of a segment is the text of the token with its index behind the offset of the segment. -/
theorem segment_getElem? {tokens : List Token} {i j : Nat} {seg : Segment} {w : String}
    (hseg : seg ∈ (ofTokensFrom i tokens).segments) (h : seg.words[j]? = some w) :
    ∃ k t, seg.offset = i + k ∧ tokens[k + j]? = some t ∧ t.text = w := by
  obtain ⟨before, pipe, behind, rfl, -, hoffset, hwords⟩ := exists_pipe_of_mem_segments hseg
  rw [hwords] at h
  obtain ⟨t, ht, htext⟩ := command_getElem? h
  refine ⟨before.length + 1, t, hoffset, ?_, htext⟩
  rw [List.getElem?_append_right (by omega), show before.length + 1 + j - before.length = j + 1 by omega,
    List.getElem?_cons_succ, ht]

/-- Without separating pipes all tokens are words of the command. -/
theorem ofTokensFrom_unpiped {tokens : List Token} (h : ∀ t ∈ tokens, t.isPipe = false) (i : Nat) :
    ofTokensFrom i tokens = ⟨tokens.map Token.text, []⟩ := by
  induction tokens generalizing i with
  | nil => rfl
  | cons t tokens ih =>
    have ht : ¬ t.isPipe = true := by
      rw [h t List.mem_cons_self]
      exact Bool.false_ne_true
    rw [ofTokensFrom, if_neg ht, ih fun u hu => h u (List.mem_cons_of_mem t hu)]
    rfl

/-- A line without command words begins with a pipe. -/
theorem isPipe_of_command_nil {t : Token} {tokens : List Token} {i : Nat}
    (h : (ofTokensFrom i (t :: tokens)).command = []) : t.isPipe = true := by
  rw [ofTokensFrom] at h
  split at h
  · next hpipe => exact hpipe
  · cases h

/-- A line that begins with a pipe has no command words. -/
theorem command_eq_nil_of_isPipe {t : Token} (h : t.isPipe = true) (tokens : List Token) (i : Nat) :
    (ofTokensFrom i (t :: tokens)).command = [] := by
  rw [ofTokensFrom]
  rw [if_pos h]

/-! ### Putting the parts together again -/

section Parts

variable {tokens : List Token}

/-- The command takes the tokens up to the first pipe. -/
theorem command_eq (i : Nat) (tokens : List Token) :
    (ofTokensFrom i tokens).command = (tokens.takeWhile fun t : Token => !t.isPipe).map Token.text := by
  induction tokens generalizing i with
  | nil => rfl
  | cons t tokens ih =>
    cases ht : t.isPipe with
    | true => rw [command_eq_nil_of_isPipe ht, List.takeWhile_cons_of_neg (by simp [ht]), List.map_nil]
    | false =>
      rw [List.takeWhile_cons_of_pos (by simp [ht]), List.map_cons, ← ih (i + 1), ofTokensFrom, ht]
      rfl

/-- There is a segment for each pipe, and its offset is the place right behind that pipe. -/
theorem offsets_eq (i : Nat) (tokens : List Token) :
    (ofTokensFrom i tokens).segments.map Segment.offset =
      (tokens.findIdxs Token.isPipe i).map (· + 1) := by
  induction tokens generalizing i with
  | nil => rfl
  | cons t tokens ih =>
    rw [ofTokensFrom, List.findIdxs_cons]
    split
    · rw [List.map_cons, List.map_cons, ih]
    · exact ih (i + 1)

/-- The command and the segments, with a pipe before each of them, are all tokens. -/
theorem command_append_segments (i : Nat) (tokens : List Token) :
    (ofTokensFrom i tokens).command ++ (ofTokensFrom i tokens).segments.flatMap (fun seg => "|" :: seg.words) =
      tokens.map Token.text := by
  induction tokens generalizing i with
  | nil => rfl
  | cons t tokens ih =>
    rw [ofTokensFrom, List.map_cons, ← ih (i + 1)]
    split
    · next hpipe =>
      have htext : t.text = "|" := by
        rw [Token.isPipe, Bool.and_eq_true, beq_iff_eq] at hpipe
        exact hpipe.2
      rw [List.flatMap_cons, htext]
      rfl
    · rfl

/-- A segment among the tokens it comes from. -/
structure IsPart (tokens : List Token) (seg : Segment) : Prop where
  /-- Right before it stands a pipe. -/
  behind_pipe : 0 < seg.offset ∧ ∃ pipe, tokens[seg.offset - 1]? = some pipe ∧ pipe.isPipe = true
  /-- Its words are the texts of the tokens from its offset on, none of them a pipe. -/
  words_are_tokens : ∀ j w, seg.words[j]? = some w →
    ∃ t, tokens[seg.offset + j]? = some t ∧ t.isPipe = false ∧ t.text = w
  /-- It goes on up to the next pipe. -/
  ends_at_pipe : ∀ t, tokens[seg.offset + seg.words.length]? = some t → t.isPipe = true

/-- Behind what is taken from a list with a test, the test fails. -/
theorem getElem?_length_takeWhile (p : Token → Bool) (tokens : List Token) :
    tokens[(tokens.takeWhile p).length]? = tokens.find? fun t => !p t := by
  have h : (tokens.takeWhile p ++ tokens.dropWhile p)[(tokens.takeWhile p).length]? = (tokens.dropWhile p)[0]? := by
    rw [List.getElem?_append_right (Nat.le_refl _), Nat.sub_self]
  rw [List.takeWhile_append_dropWhile] at h
  rw [h, ← List.head?_eq_getElem?, List.find?_not_eq_head?_dropWhile]

theorem isPart_of_mem {seg : Segment} (h : seg ∈ (ofTokens tokens).segments) : IsPart tokens seg := by
  obtain ⟨before, pipe, behind, rfl, hpipe, hoffset, hwords⟩ := exists_pipe_of_mem_segments h
  rw [Nat.zero_add] at hoffset
  rw [command_eq] at hwords
  have hbehind : ∀ j, (before ++ pipe :: behind)[seg.offset + j]? = behind[j]? := by
    intro j
    rw [List.getElem?_append_right (by omega), show seg.offset + j - before.length = j + 1 by omega,
      List.getElem?_cons_succ]
  constructor
  case behind_pipe =>
    refine ⟨by omega, pipe, ?_, hpipe⟩
    rw [hoffset, Nat.add_sub_cancel, List.getElem?_append_right (Nat.le_refl _), Nat.sub_self,
      List.getElem?_cons_zero]
  case words_are_tokens =>
    intro j w hw
    rw [hwords, List.getElem?_map, Option.map_eq_some_iff] at hw
    obtain ⟨t, ht, rfl⟩ := hw
    have hkept := List.mem_takeWhile_imp (List.mem_of_getElem? ht)
    refine ⟨t, ?_, by simpa using hkept, rfl⟩
    obtain ⟨hj, rfl⟩ := List.getElem?_eq_some_iff.mp ht
    rw [hbehind]
    exact List.prefix_iff_getElem?.mp (List.takeWhile_prefix _) j hj
  case ends_at_pipe =>
    intro t ht
    rw [hbehind, hwords, List.length_map, getElem?_length_takeWhile] at ht
    simpa using List.find?_some ht

/-- **Cutting at pipes loses, reorders and misplaces nothing.** The command takes the tokens up to the first pipe.
There is one segment for each pipe, in their order, each behind its pipe and up to the next one, with its words in
the places that its offset says. With a pipe before each segment all of them are the tokens again. -/
theorem split_loses_nothing (tokens : List Token) :
    ((ofTokens tokens).command = (tokens.takeWhile fun t : Token => !t.isPipe).map Token.text ∧
      ∀ (j : Nat) (w : String), (ofTokens tokens).command[j]? = some w → ∃ t, tokens[j]? = some t ∧ t.text = w) ∧
    (ofTokens tokens).segments.map Segment.offset = (tokens.findIdxs Token.isPipe).map (· + 1) ∧
    (∀ seg ∈ (ofTokens tokens).segments, IsPart tokens seg) ∧
    (ofTokens tokens).command ++ (ofTokens tokens).segments.flatMap (fun seg => "|" :: seg.words) =
      tokens.map Token.text :=
  ⟨⟨command_eq 0 tokens, fun _ _ => command_getElem?⟩, offsets_eq 0 tokens, fun _ => isPart_of_mem,
    command_append_segments 0 tokens⟩

end Parts

end RouterShell.Pipeline
