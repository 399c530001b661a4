import RouterShell.Proofs.Line.RoundTrip
import RouterShell.Proofs.Shell.Outcome

/-!
# The layout of a line

The same words can be typed in many ways: with other blanks between them, in other quotes, with
backslashes. This module says that a line is executed and judged by its words alone.

## The model

`Respells` relates two lines with their tokens: there are as many of them, and they are cut into the same
command and segments. How a token was quoted and where it stands may differ. What is judged of the one line
is judged of the other (`SameVerdict`), at the corresponding place (`SamePlace`): both speak of the ends of
their lines or of tokens with the same index.

## What is proved

Executing does the same for both lines (`Respells.dispatch_eq`), and judging says the same
(`Respells.validate`). A line that is joined again from its tokens respells the line that it was typed as
(`respells_join`), so its layout has no part in what it does (`layout_has_no_part`).
-/

namespace RouterShell

open Text Line

namespace Line

/-! ### Where tokens stand -/

theorem Word.byteLength_pos {w m : List Char} {q : Bool} (h : Word w m q) : 0 < byteLength w := by
  obtain ⟨c, v, rfl, -⟩ := h.head
  rw [byteLength_cons]
  exact Nat.add_pos_left c.utf8Size_pos (byteLength v)

theorem Words.start_lt {pos : Nat} {s : List Char} {ts : List Token} (h : Words pos s ts) :
    ∀ t ∈ ts, t.start < pos + byteLength s := by
  induction h with
  | one hword =>
    intro t ht
    obtain rfl := List.mem_singleton.mp ht
    exact Nat.lt_add_of_pos_right hword.byteLength_pos
  | more hword _ _ _ ih =>
    intro t ht
    rw [byteLength_append, byteLength_append]
    rcases List.mem_cons.mp ht with rfl | ht
    · have hpos := hword.byteLength_pos
      dsimp only
      omega
    · have hlt := ih t ht
      rw [byteLength_append] at hlt
      omega

/-- A token begins before the end of its line. -/
theorem IsLine.start_lt {s : List Char} {ts : List Token} (h : IsLine s ts) :
    ∀ t ∈ ts, t.start < byteLength s := by
  cases h with
  | blank _ => exact fun t ht => absurd ht List.not_mem_nil
  | words _ hwords _ =>
    intro t ht
    have hlt := hwords.start_lt t ht
    rw [byteLength_append, byteLength_append]
    omega

end Line

namespace Shell

/-- Places in two lines that correspond to each other. -/
inductive SamePlace (line line' : List Char) (tokens tokens' : List Token) : Nat → Nat → Prop where
  /-- The ends of the lines. -/
  | atEnd : SamePlace line line' tokens tokens' (byteLength line) (byteLength line')
  /-- The starts of tokens with the same index, which are before the ends. -/
  | atToken {i : Nat} {t t' : Token} : tokens[i]? = some t → tokens'[i]? = some t' →
      t.start < byteLength line → t'.start < byteLength line' →
      SamePlace line line' tokens tokens' t.start t'.start

/-- Verdicts on two lines that say the same, of corresponding places. -/
inductive SameVerdict (line line' : List Char) (tokens tokens' : List Token) :
    Verdict → Verdict → Prop where
  /-- Both lines can be executed. -/
  | valid : SameVerdict line line' tokens tokens' .valid .valid
  /-- The same is missing in both. -/
  | incomplete {position position' : Nat} {message : String} :
      SamePlace line line' tokens tokens' position position' →
      SameVerdict line line' tokens tokens' (.incomplete position message) (.incomplete position' message)
  /-- The same is wrong with both. -/
  | invalid {position position' : Nat} {message : String} :
      SamePlace line line' tokens tokens' position position' →
      SameVerdict line line' tokens tokens' (.invalid position message) (.invalid position' message)

/-- Two lines with the same words, in whatever layout. -/
structure Respells (line line' : List Char) (tokens tokens' : List Token) : Prop where
  /-- The one line is read. -/
  readable : tokenize line = .ok tokens
  /-- The other line is read. -/
  readable' : tokenize line' = .ok tokens'
  /-- They have as many words. -/
  length : tokens'.length = tokens.length
  /-- They have the same command and the same segments. -/
  pipeline : Pipeline.ofTokens tokens' = Pipeline.ofTokens tokens

section Respelt

variable {s : Shell} {net : Network} {line line' : List Char} {tokens tokens' : List Token}

theorem Respells.isEmpty_eq (h : Respells line line' tokens tokens') : tokens'.isEmpty = tokens.isEmpty := by
  rw [Bool.eq_iff_iff, List.isEmpty_iff_length_eq_zero, List.isEmpty_iff_length_eq_zero, h.length]

/-- Executing does not look beyond the words. -/
theorem Respells.dispatch_eq (h : Respells line line' tokens tokens') :
    s.dispatch line' = s.dispatch line := by
  simp only [dispatch, h.readable, h.readable', Action.ofExcept, pure_bind, h.isEmpty_eq, h.pipeline]

/-! ### Corresponding places -/

/-- The tokens with an index are both there, or both missing. -/
theorem Respells.token_cases (h : Respells line line' tokens tokens') (i : Nat) :
    (tokens[i]? = none ∧ tokens'[i]? = none) ∨
      ∃ t t', tokens[i]? = some t ∧ tokens'[i]? = some t' ∧
        SamePlace line line' tokens tokens' t.start t'.start := by
  cases ht : tokens[i]? with
  | none =>
    rw [List.getElem?_eq_none_iff, ← h.length, ← List.getElem?_eq_none_iff] at ht
    exact Or.inl ⟨rfl, ht⟩
  | some t =>
    have hi := (List.getElem?_eq_some_iff.mp ht).1
    rw [← h.length] at hi
    have ht' : tokens'[i]? = some tokens'[i] := List.getElem?_eq_getElem hi
    have hlt := ((tokenize_eq_ok_iff line tokens).mp h.readable).start_lt t (List.mem_of_getElem? ht)
    have hlt' := ((tokenize_eq_ok_iff line' tokens').mp h.readable').start_lt _ (List.mem_of_getElem? ht')
    exact Or.inr ⟨t, tokens'[i], rfl, ht', .atToken ht ht' hlt hlt'⟩

theorem Respells.startOf (h : Respells line line' tokens tokens') (i : Nat) :
    SamePlace line line' tokens tokens' (startOf line tokens i) (startOf line' tokens' i) := by
  unfold Shell.startOf
  rcases h.token_cases i with ⟨ht, ht'⟩ | ⟨t, t', ht, ht', hplace⟩
  · rw [ht, ht']
    exact .atEnd
  · rw [ht, ht']
    exact hplace

theorem Respells.anchored (h : Respells line line' tokens tokens') (i : Nat) (message : String) :
    SameVerdict line line' tokens tokens' (anchored line tokens i message)
      (anchored line' tokens' i message) := by
  unfold Shell.anchored
  rcases h.token_cases i with ⟨ht, ht'⟩ | ⟨t, t', ht, ht', hplace⟩
  · rw [ht, ht']
    exact .incomplete .atEnd
  · rw [ht, ht']
    exact .invalid hplace

/-! ### Judging -/

/-- The segments are judged the same. -/
theorem Respells.judgeSegments (h : Respells line line' tokens tokens') (segments : List Segment) :
    SameVerdict line line' tokens tokens' (s.judgeSegments line tokens segments)
      (s.judgeSegments line' tokens' segments) := by
  induction segments with
  | nil => exact .valid
  | cons seg rest ih =>
    rw [Shell.judgeSegments, Shell.judgeSegments]
    split
    · exact .incomplete .atEnd
    · split
      · exact ih
      · exact .invalid (h.startOf seg.offset)
      · exact h.anchored _ _

/-- The words are judged the same, and the same is asked for that. -/
theorem Respells.judge (h : Respells line line' tokens tokens') :
    (s.judge net line' tokens').runs = (s.judge net line tokens).runs ∧
      SameVerdict line line' tokens tokens' (s.judge net line tokens).value
        (s.judge net line' tokens').value := by
  cases hc : (s.commands.resolve (Pipeline.ofTokens tokens).command).command? with
  | none =>
    rw [judge_unselected rfl rfl hc, judge_unselected h.pipeline rfl hc]
    refine ⟨rfl, ?_⟩
    rw [Logged.value_pure, Logged.value_pure]
    split
    · exact .invalid (h.startOf 0)
    · split
      · exact .incomplete .atEnd
      · exact .invalid (h.startOf _)
  | some c =>
    rw [judge_selected rfl rfl hc, judge_selected h.pipeline rfl hc]
    refine ⟨rfl, ?_⟩
    dsimp only
    split
    · exact h.anchored _ _
    · exact h.judgeSegments _

theorem Respells.validate (h : Respells line line' tokens tokens') :
    (s.validate net line').runs = (s.validate net line).runs ∧
      SameVerdict line line' tokens tokens' (s.validate net line).value (s.validate net line').value := by
  rw [validate_readable h.readable, validate_readable h.readable', h.isEmpty_eq]
  split
  · exact ⟨rfl, .valid⟩
  · exact h.judge

end Respelt

/-- Joining the tokens of a line gives a line with the same words. -/
theorem respells_join {line : List Char} {tokens : List Token} (h : tokenize line = .ok tokens) :
    Respells line (join tokens) tokens (rereadFrom 0 tokens) where
  readable := h
  readable' := tokenize_of_isLine (isLine_join tokens)
  length := length_rereadFrom tokens 0
  pipeline := ofTokensFrom_rereadFrom tokens 0 0

/-- **The layout of a line and its way of quoting have no part in what it does.** Take a line that can be
read, and join its tokens to a line again. In every world both do the same when they are executed: they
answer or fail the same, and leave the same world. The joined line is read as well, with as many tokens,
and judging it asks the same questions and says the same, of its end if the end of the first line was meant
and else of the token with the same index. -/
theorem layout_has_no_part (s : Shell) {line : List Char} {tokens : List Token}
    (h : tokenize line = .ok tokens) :
    s.dispatch (join tokens) = s.dispatch line ∧
      ∃ tokens', tokenize (join tokens) = .ok tokens' ∧ tokens'.length = tokens.length ∧
        ∀ net, (s.validate net (join tokens)).runs = (s.validate net line).runs ∧
          SameVerdict line (join tokens) tokens tokens' (s.validate net line).value
            (s.validate net (join tokens)).value := by
  have hrespells := respells_join h
  exact ⟨hrespells.dispatch_eq, _, hrespells.readable', hrespells.length, fun net => hrespells.validate⟩

/-- A line with blanks, quotes and a backslash does what the joined line `show netns | inc 'a b'` does. -/
theorem layout_of_quoted_line :
    ∃ s, bare = .ok s ∧
      ∃ tokens, tokenize "  show ne't'ns  | inc a\\ b ".toList = .ok tokens ∧
        s.dispatch "show netns | inc 'a b'".toList = s.dispatch "  show ne't'ns  | inc a\\ b ".toList ∧
        ∃ tokens', tokenize "show netns | inc 'a b'".toList = .ok tokens' ∧
          tokens'.length = tokens.length ∧
          ∀ net, SameVerdict "  show ne't'ns  | inc a\\ b ".toList "show netns | inc 'a b'".toList tokens
            tokens' (s.validate net "  show ne't'ns  | inc a\\ b ".toList).value
            (s.validate net "show netns | inc 'a b'".toList).value := by
  obtain ⟨s, hbare, -⟩ := exists_bare
  have htokens : tokenize "  show ne't'ns  | inc a\\ b ".toList =
      .ok [⟨"show", false, 2⟩, ⟨"netns", true, 7⟩, ⟨"|", false, 16⟩, ⟨"inc", false, 18⟩,
        ⟨"a b", true, 22⟩] := by decide
  have hjoin : join [⟨"show", false, 2⟩, ⟨"netns", true, 7⟩, ⟨"|", false, 16⟩, ⟨"inc", false, 18⟩,
      ⟨"a b", true, 22⟩] = "show netns | inc 'a b'".toList := by decide
  have key := layout_has_no_part s htokens
  rw [hjoin] at key
  obtain ⟨hdispatch, tokens', htokens', hlength, hvalidate⟩ := key
  exact ⟨s, hbare, _, htokens, hdispatch, tokens', htokens', hlength, fun net => (hvalidate net).2⟩

end Shell

end RouterShell
