import RouterShell.Proofs.Line.Grammar
import RouterShell.Proofs.Line.Segments

/-!
# Lines that go on

Text typed at the end of a line leaves the words alone that stand before a blank. This module says
what such text does to the tokens of a line and to the parts that its pipes cut off: the tokens stay and
further ones come behind them, so only the last part gets more words, and further parts come behind it.

## What is proved

`tokens_isPrefix` for the tokens, and `continues_ofTokensFrom` for the parts (`Continues`). That the last
part is the one that ends with the line, and no other part is, is `segment_end` and `segment_end_lt`;
the command is the last part exactly if there is no pipe (`segments_eq_nil_iff`).
-/

namespace RouterShell

/-- The tokens of a line are the first ones of a line that goes on behind a blank. -/
theorem Line.tokens_isPrefix {line more : List Char} {tokens tokens' : List Token}
    (hmore : Line.Boundary more) (h : Line.tokenize line = .ok tokens)
    (h' : Line.tokenize (line ++ more) = .ok tokens') : tokens <+: tokens' := by
  have hscan := ((Line.tokenize_eq_ok_iff line tokens).mp h).scan_append hmore
  rw [((Line.tokenize_eq_ok_iff (line ++ more) tokens').mp h').scan_eq] at hscan
  exact ⟨_, (congrArg Scan.tokens hscan).symm⟩

/-- Tokens that are there stay at their places. -/
theorem getElem?_of_isPrefix {tokens tokens' : List Token} (h : tokens <+: tokens') {i : Nat} {t : Token}
    (ht : tokens[i]? = some t) : tokens'[i]? = some t := by
  obtain ⟨hi, rfl⟩ := List.getElem?_eq_some_iff.mp ht
  exact List.prefix_iff_getElem?.mp h i hi

namespace Pipeline

/-- The parts of a line and those of a line that goes on behind them: the last part may get more words,
and further segments may follow it. -/
inductive Continues : Pipeline → Pipeline → Prop where
  /-- The last part is the command. -/
  | command {words words' : List String} {behind : List Segment} :
      words <+: words' → Continues ⟨words, []⟩ ⟨words', behind⟩
  /-- The last part is a segment. -/
  | segment {command words words' : List String} {before behind : List Segment} {i : Nat} :
      words <+: words' →
      Continues ⟨command, before ++ [⟨i, words⟩]⟩ ⟨command, before ++ ⟨i, words'⟩ :: behind⟩

section Continues

variable {p p' : Pipeline}

/-- A word before both commands. -/
theorem Continues.cons (h : Continues p p') (word : String) :
    Continues ⟨word :: p.command, p.segments⟩ ⟨word :: p'.command, p'.segments⟩ := by
  cases h with
  | command hwords => exact .command ((List.prefix_cons_inj word).mpr hwords)
  | segment hwords => exact .segment hwords

/-- A pipe before both commands. -/
theorem Continues.pipe (h : Continues p p') (i : Nat) :
    Continues ⟨[], ⟨i, p.command⟩ :: p.segments⟩ ⟨[], ⟨i, p'.command⟩ :: p'.segments⟩ := by
  cases h with
  | command hwords => exact @segment _ _ _ [] _ _ hwords
  | @segment command _ _ before _ _ hwords =>
    exact @segment _ _ _ (⟨i, command⟩ :: before) _ _ hwords

/-- The words of the command stay. -/
theorem Continues.command_isPrefix (h : Continues p p') : p.command <+: p'.command := by
  cases h with
  | command hwords => exact hwords
  | segment _ => exact List.prefix_rfl

/-- The command of a line with a pipe gets no more words. -/
theorem Continues.command_eq (h : Continues p p') (hpipe : p.segments ≠ []) :
    p'.command = p.command := by
  cases h with
  | command _ => exact absurd rfl hpipe
  | segment _ => rfl

/-- The last segment may get more words, and others may follow it. -/
theorem Continues.exists_segment (h : Continues p p') (hpipe : p.segments ≠ []) :
    ∃ before i words more behind, p.segments = before ++ [⟨i, words⟩] ∧
      p'.segments = before ++ ⟨i, words ++ more⟩ :: behind := by
  cases h with
  | command _ => exact absurd rfl hpipe
  | @segment _ words _ before behind i hwords =>
    obtain ⟨more, rfl⟩ := hwords
    exact ⟨before, i, words, more, behind, rfl, rfl⟩

end Continues

/-- Tokens behind those of a line continue its last part. -/
theorem continues_ofTokensFrom (tokens more : List Token) (i : Nat) :
    Continues (ofTokensFrom i tokens) (ofTokensFrom i (tokens ++ more)) := by
  induction tokens generalizing i with
  | nil => exact .command List.nil_prefix
  | cons t tokens ih =>
    rw [List.cons_append, ofTokensFrom, ofTokensFrom]
    split
    · exact (ih (i + 1)).pipe (i + 1)
    · exact (ih (i + 1)).cons t.text

theorem continues_ofTokens {tokens tokens' : List Token} (h : tokens <+: tokens') :
    Continues (ofTokens tokens) (ofTokens tokens') := by
  obtain ⟨more, rfl⟩ := h
  exact continues_ofTokensFrom tokens more 0

/-! ### Where the parts end -/

section Ends

variable {tokens : List Token} {i : Nat} {before after : List Segment} {seg next : Segment}

/-- There are segments exactly if there are pipes. -/
theorem segments_eq_nil_iff :
    (ofTokensFrom i tokens).segments = [] ↔ ∀ t ∈ tokens, t.isPipe = false := by
  induction tokens generalizing i with
  | nil => simp [ofTokensFrom]
  | cons t tokens ih =>
    rw [ofTokensFrom]
    split
    · next hpipe => simp [hpipe]
    · next hpipe => simp [hpipe, ih]

/-- Without segments the command ends with the line. -/
theorem command_length_of_unsegmented (h : (ofTokensFrom i tokens).segments = []) :
    (ofTokensFrom i tokens).command.length = tokens.length := by
  rw [ofTokensFrom_unpiped (segments_eq_nil_iff.mp h), List.length_map]

/-- A command that a segment follows ends before the line. -/
theorem command_length_lt (h : (ofTokensFrom i tokens).segments ≠ []) :
    (ofTokensFrom i tokens).command.length < tokens.length := by
  induction tokens generalizing i with
  | nil => exact absurd rfl h
  | cons t tokens ih =>
    rw [ofTokensFrom] at h ⊢
    split
    · exact Nat.zero_lt_succ _
    · next hpipe =>
      rw [if_neg hpipe] at h
      exact Nat.succ_lt_succ (ih h)

/-- The command does not reach beyond the line. -/
theorem command_length_le (i : Nat) (tokens : List Token) :
    (ofTokensFrom i tokens).command.length ≤ tokens.length := by
  by_cases hsegments : (ofTokensFrom i tokens).segments = []
  · exact Nat.le_of_eq (command_length_of_unsegmented hsegments)
  · exact Nat.le_of_lt (command_length_lt hsegments)

/-- The last segment ends with the line. -/
theorem segment_end (h : (ofTokensFrom i tokens).segments = before ++ [seg]) :
    seg.offset + seg.words.length = i + tokens.length := by
  induction tokens generalizing i before with
  | nil => simp [ofTokensFrom] at h
  | cons t tokens ih =>
    rw [List.length_cons]
    rw [ofTokensFrom] at h
    split at h
    · cases before with
      | nil =>
        obtain ⟨rfl, hlast⟩ := List.cons.inj h
        have hcommand := command_length_of_unsegmented hlast
        show i + 1 + (ofTokensFrom (i + 1) tokens).command.length = _
        omega
      | cons first before =>
        have hrest := ih (List.cons.inj h).2
        omega
    · have hrest := ih h
      omega

/-- A segment that another one follows ends before the line. -/
theorem segment_end_lt (h : (ofTokensFrom i tokens).segments = before ++ seg :: next :: after) :
    seg.offset + seg.words.length < i + tokens.length := by
  induction tokens generalizing i before with
  | nil => simp [ofTokensFrom] at h
  | cons t tokens ih =>
    rw [List.length_cons]
    rw [ofTokensFrom] at h
    split at h
    · cases before with
      | nil =>
        obtain ⟨rfl, hmore⟩ := List.cons.inj h
        have hcommand : (ofTokensFrom (i + 1) tokens).command.length < tokens.length :=
          command_length_lt (by simp [hmore])
        show i + 1 + (ofTokensFrom (i + 1) tokens).command.length < _
        omega
      | cons first before =>
        have hrest := ih (List.cons.inj h).2
        omega
    · have hrest := ih h
      omega

end Ends

end Pipeline

end RouterShell
