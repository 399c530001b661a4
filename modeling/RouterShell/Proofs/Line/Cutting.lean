import RouterShell.Proofs.Line.Grammar

/-!
# Cutting a line before a word

Completion scans parts of a line by themselves: the text behind a pipe, the text behind a word, the word at
the end. This module says what the scanner finds in a part that begins where a token begins. A token begins
outside quotes, so reading anew from there gives the same tokens.

## What is proved

Only the offsets depend on where reading begins (`scanFrom_shift`). A text can be cut before each of its
tokens, reading from there on finds this token and those behind it, and whatever else is written there is read
by itself (`exists_cut`). So the end of a text, from its last token on, is one word (`exists_last_word`),
however it is quoted and also if it is not finished.

Where the bytes before a token are taken away, the text is cut between two characters, and each of its two parts
has just its own tokens (`cut_at_start`).
-/

namespace RouterShell

/-- A token in a text that begins `n` bytes further on. -/
def Token.shift (n : Nat) (t : Token) : Token := { t with start := n + t.start }

/-- A token in a text without its first `n` bytes. -/
def Token.unshift (n : Nat) (t : Token) : Token := { t with start := t.start - n }

theorem Token.unshift_shift (n : Nat) (t : Token) : (t.shift n).unshift n = t := by
  rw [unshift, shift, Nat.add_sub_cancel_left]

/-- What is found in a text that begins `n` bytes further on. -/
def Scan.shift (n : Nat) (s : Scan) : Scan := { s with tokens := s.tokens.map (Token.shift n) }

/-- What is found in a text without its first `n` bytes. -/
def Scan.unshift (n : Nat) (s : Scan) : Scan := { s with tokens := s.tokens.map (Token.unshift n) }

theorem Scan.unshift_shift (n : Nat) (s : Scan) : (s.shift n).unshift n = s := by
  rw [unshift, shift, List.map_map, show Token.unshift n ∘ Token.shift n = id from funext (Token.unshift_shift n),
    List.map_id]

namespace Line

open Text

/-! ### Reading from another place -/

/-- What a part of a line contributes if the line begins `n` bytes further on. -/
def Tail.shift (n : Nat) (t : Tail) : Tail := { t with scan := t.scan.shift n }

section Shift

variable (n : Nat)

theorem Tail.shift_cons (c : Char) (t : Tail) : (t.cons c).shift n = (t.shift n).cons c := rfl

theorem Tail.shift_mark (t : Tail) : t.mark.shift n = (t.shift n).mark := rfl

theorem Tail.shift_close (start : Nat) (t : Tail) :
    (t.close start).shift n = (t.shift n).close (n + start) := rfl

theorem Tail.shift_finish (mode : Mode) : mode.finish.shift n = mode.finish := by
  cases mode <;> rfl

/-- Reading from another place finds the same, at other offsets. -/
theorem scanFrom_shift (mode : Mode) (pos : Nat) (s : List Char) :
    scanFrom mode (n + pos) s = (scanFrom mode pos s).shift n := by
  induction s generalizing mode pos with
  | nil => exact (Tail.shift_finish n mode).symm
  | cons c s ih =>
    have hnext : ∀ mode, scanFrom mode (n + pos + c.utf8Size) s =
        (scanFrom mode (pos + c.utf8Size) s).shift n := by
      intro mode
      rw [Nat.add_assoc, ih]
    cases mode <;>
      simp only [scanFrom, hnext, apply_ite (Tail.shift n), Tail.shift_cons, Tail.shift_mark,
        Tail.shift_close]

/-- Reading a text by itself finds what reading it at its place finds, at offsets from its start. -/
theorem scanFrom_between_shift (s : List Char) : (scanFrom .between n s).scan = (scan s).shift n := by
  have h := scanFrom_shift n .between 0 s
  rw [Nat.add_zero] at h
  rw [h]
  rfl

end Shift

/-! ### Cutting before a token -/

/-- In a word, a character begins no token. It is put in front of what is found behind it, in a way and in a
mode that depend on the character only, not on where it stands. -/
theorem exists_prepend {mode : Mode} (hmode : mode ≠ .between) (c : Char) :
    ∃ mode' m q, ∀ pos s,
      scanFrom mode pos (c :: s) = (scanFrom mode' (pos + c.utf8Size) s).prepend m q := by
  cases mode with
  | between => exact absurd rfl hmode
  | plain =>
    cases hb : isBlank c with
    | true => exact ⟨.between, [], false, fun pos s => scanFrom_plain_blank hb pos s⟩
    | false =>
      by_cases h1 : c = '\''
      · subst h1
        exact ⟨.single, [], true, fun pos s => scanFrom_plain_single pos s⟩
      by_cases h2 : c = '"'
      · subst h2
        exact ⟨.double, [], true, fun pos s => scanFrom_plain_double pos s⟩
      by_cases h3 : c = '\\'
      · subst h3
        exact ⟨.escaped, [], true, fun pos s => scanFrom_plain_escape pos s⟩
      · exact ⟨.plain, [c], false, fun pos s => scanFrom_plain_char hb h1 h2 h3 pos s⟩
  | escaped => exact ⟨.plain, [c], false, fun _ _ => rfl⟩
  | single =>
    by_cases h : c = '\''
    · exact ⟨.plain, [], false, fun _ _ => by rw [scanFrom, if_pos h]; rfl⟩
    · exact ⟨.single, [c], false, fun _ _ => by rw [scanFrom, if_neg h]; rfl⟩
  | double =>
    by_cases h : c = '"'
    · exact ⟨.plain, [], false, fun _ _ => by rw [scanFrom, if_pos h]; rfl⟩
    by_cases h' : c = '\\'
    · exact ⟨.doubleEscaped, [], false, fun _ _ => by rw [scanFrom, if_neg h, if_pos h']; rfl⟩
    · exact ⟨.double, [c], false, fun _ _ => by rw [scanFrom, if_neg h, if_neg h']; rfl⟩
  | doubleEscaped =>
    by_cases h : (c = '"' || c = '\\') = true
    · exact ⟨.double, [c], false, fun _ _ => by rw [scanFrom, if_pos h]; rfl⟩
    · exact ⟨.double, ['\\', c], false, fun _ _ => by rw [scanFrom, if_neg h]; rfl⟩

/-- A text can be cut before a token: what stands before it has as many bytes as the offset says, and whatever
is written there in the place of the rest is read by itself, behind the tokens that come before. The induction
goes over the text, in all modes at once. -/
theorem exists_cut_from {mode : Mode} {pos : Nat} {s : List Char} {before after : List Token} {t : Token}
    (h : (scanFrom mode pos s).scan.tokens = before ++ t :: after) :
    ∃ pre rest, s = pre ++ rest ∧ t.start = pos + byteLength pre ∧
      ∀ more, scanFrom mode pos (pre ++ more) =
        { scanFrom mode pos s with
          scan := prependTokens before (scanFrom .between t.start more).scan } := by
  induction s generalizing mode pos before with
  | nil =>
    have hnil : (scanFrom mode pos []).scan.tokens = [] := by cases mode <;> rfl
    rw [hnil] at h
    exact absurd h.symm (List.append_ne_nil_of_right_ne_nil before (List.cons_ne_nil t after))
  | cons c s ih =>
    have hstart : ∀ pre, t.start = pos + c.utf8Size + byteLength pre →
        t.start = pos + byteLength (c :: pre) := by
      intro pre h
      rw [h, byteLength_cons, Nat.add_assoc]
    by_cases hmode : mode = .between
    · subst hmode
      cases hb : isBlank c with
      | true =>
        rw [scanFrom_between_blank hb] at h ⊢
        obtain ⟨pre, rest, rfl, hpre, hmore⟩ := ih h
        refine ⟨c :: pre, rest, rfl, hstart pre hpre, fun more => ?_⟩
        rw [List.cons_append, scanFrom_between_blank hb, hmore]
      | false =>
        obtain ⟨mode', m, q, hmode'⟩ := @exists_prepend .plain (by decide) c
        have hword : ∀ s, scanFrom .between pos (c :: s) =
            ((scanFrom mode' (pos + c.utf8Size) s).prepend m q).close pos := by
          intro s
          rw [scanFrom_between_char hb, hmode']
        rw [hword] at h ⊢
        cases before with
        | nil =>
          -- the token begins here
          obtain ⟨rfl, -⟩ := List.cons.inj h
          refine ⟨[], c :: s, rfl, rfl, fun more => ?_⟩
          rw [List.nil_append, scanFrom_between_eq]
          rfl
        | cons first before =>
          obtain ⟨rfl, htokens⟩ := List.cons.inj h
          obtain ⟨pre, rest, rfl, hpre, hmore⟩ := ih htokens
          refine ⟨c :: pre, rest, rfl, hstart pre hpre, fun more => ?_⟩
          rw [List.cons_append, hword, hmore]
          rfl
    · obtain ⟨mode', m, q, hmode'⟩ := exists_prepend hmode c
      rw [hmode'] at h ⊢
      obtain ⟨pre, rest, rfl, hpre, hmore⟩ := ih h
      refine ⟨c :: pre, rest, rfl, hstart pre hpre, fun more => ?_⟩
      rw [List.cons_append, hmode', hmore]
      rfl

/-- A line can be cut before each of its tokens. Reading from there on finds this token and those behind it, and
whatever is written there is read behind the tokens before it. -/
theorem exists_cut {line : List Char} {before after : List Token} {t : Token}
    (h : (scan line).tokens = before ++ t :: after) :
    ∃ pre rest, line = pre ++ rest ∧ t.start = byteLength pre ∧
      (scan rest).shift t.start = { scan line with tokens := t :: after } ∧
      ∀ more, scan (pre ++ more) = prependTokens before ((scan more).shift t.start) := by
  obtain ⟨pre, rest, hline, hstart, hmore⟩ := exists_cut_from h
  rw [Nat.zero_add] at hstart
  have hbehind : ∀ more, scan (pre ++ more) = prependTokens before ((scan more).shift t.start) := by
    intro more
    rw [scan, hmore, scanFrom_between_shift]
  refine ⟨pre, rest, hline, hstart, ?_, hbehind⟩
  have hrest : scan line = prependTokens before ((scan rest).shift t.start) := by
    rw [hline, hbehind]
  have htokens : ((scan rest).shift t.start).tokens = t :: after := by
    rw [hrest] at h
    exact List.append_cancel_left h
  rw [hrest, ← htokens]
  rfl

/-- **The end of a line, from its last token on, is one word**, and has what the line leaves open. -/
theorem exists_last_word {line : List Char} {t : Token} (h : (scan line).tokens.getLast? = some t) :
    ∃ before word, line = before ++ word ∧ t.start = byteLength before ∧
      scan word = ⟨[⟨t.text, t.quoted, 0⟩], (scan line).openQuote, (scan line).danglingEscape⟩ := by
  obtain ⟨tokens, htokens⟩ := List.getLast?_eq_some_iff.mp h
  obtain ⟨before, word, hline, hstart, hword, -⟩ := exists_cut htokens
  refine ⟨before, word, hline, hstart, ?_⟩
  obtain ⟨first, hfirst, hshift⟩ := List.map_eq_singleton_iff.mp (congrArg Scan.tokens hword)
  have hzero : first.start = 0 := by
    have h := congrArg Token.start hshift
    rwa [Token.shift, Nat.add_eq_left] at h
  have htoken : first = ⟨t.text, t.quoted, 0⟩ := by
    rw [← hshift, Token.shift, ← hzero]
  have hopen : ((scan word).shift t.start).openQuote = (scan line).openQuote := by rw [hword]
  have hdangling : ((scan word).shift t.start).danglingEscape = (scan line).danglingEscape := by
    rw [hword]
  rw [← htoken, ← hfirst, ← hopen, ← hdangling]
  rfl

/-! ### What stands at the start of a token -/

/-- A token at the very start of a text begins with a character that is no blank. -/
theorem head_of_start_zero {s : List Char} {first : Token} {ts : List Token} (h : (scan s).tokens = first :: ts)
    (hstart : first.start = 0) : ∃ c r, s = c :: r ∧ isBlank c = false := by
  cases s with
  | nil => nomatch h
  | cons c r =>
    cases hb : isBlank c with
    | false => exact ⟨c, r, rfl, hb⟩
    | true =>
      -- behind a blank, every token is further on
      rw [scan, scanFrom_between_blank hb, scanFrom_between_shift] at h
      obtain ⟨u, us, -, rfl, -⟩ := List.map_eq_cons_iff.mp h
      have hpos := c.utf8Size_pos
      have hplace : 0 + c.utf8Size + u.start = 0 := hstart
      omega

/-- A word without quotes goes on with a character that stands for itself, or is over. -/
theorem boundary_or_char_of_unquoted {pos : Nat} {s : List Char} (h : (scanFrom .plain pos s).quoted = false) :
    Boundary s ∨ ∃ c r, s = c :: r ∧ scanFrom .plain pos s = (scanFrom .plain (pos + c.utf8Size) r).cons c := by
  cases s with
  | nil => exact Or.inl boundary_nil
  | cons c r =>
    cases hb : isBlank c with
    | true => exact Or.inl (boundary_cons hb r)
    | false =>
      by_cases h1 : c = '\''
      · rw [h1, scanFrom_plain_single] at h
        nomatch h
      by_cases h2 : c = '"'
      · rw [h2, scanFrom_plain_double] at h
        nomatch h
      by_cases h3 : c = '\\'
      · rw [h3, scanFrom_plain_escape] at h
        nomatch h
      exact Or.inr ⟨c, r, rfl, scanFrom_plain_char hb h1 h2 h3 pos r⟩

/-- A text that begins with a pipe begins with the character, and nothing goes on the word. -/
theorem pipe_of_first_token {s : List Char} {first : Token} {ts : List Token} (h : (scan s).tokens = first :: ts)
    (hstart : first.start = 0) (hpipe : first.isPipe = true) : ∃ r, s = '|' :: r ∧ Boundary r := by
  obtain ⟨c, r, rfl, hb⟩ := head_of_start_zero h hstart
  rw [scan, scanFrom_between_char hb] at h
  obtain ⟨rfl, -⟩ := List.cons.inj h
  simp only [Token.isPipe, Bool.and_eq_true, Bool.not_eq_true', beq_iff_eq] at hpipe
  obtain ⟨hquoted, htext⟩ := hpipe
  have hchars : (scanFrom .plain 0 (c :: r)).chars = ['|'] := by
    rw [← String.toList_ofList (l := (scanFrom .plain 0 (c :: r)).chars), htext]
    rfl
  rcases boundary_or_char_of_unquoted hquoted with hover | ⟨_, _, hcons, hplain⟩
  · rw [hover c r rfl] at hb
    cases hb
  obtain ⟨rfl, rfl⟩ := List.cons.inj hcons
  rw [hplain] at hchars hquoted
  obtain ⟨rfl, hnone⟩ := List.cons.inj hchars
  refine ⟨r, rfl, ?_⟩
  rcases boundary_or_char_of_unquoted hquoted with hover | ⟨d, r', rfl, hplain'⟩
  · exact hover
  · rw [hplain'] at hnone
    cases hnone

/-- A token begins before the end of the text. -/
theorem start_lt_of_mem {s : List Char} {t : Token} (h : t ∈ (scan s).tokens) : t.start < byteLength s := by
  obtain ⟨before, after, htokens⟩ := List.append_of_mem h
  obtain ⟨pre, rest, rfl, hstart, hrest, -⟩ := exists_cut htokens
  cases rest with
  | nil => nomatch congrArg Scan.tokens hrest
  | cons c r =>
    have hpos := c.utf8Size_pos
    rw [hstart, byteLength_append, byteLength_cons]
    omega

/-! ### The two parts of a cut line -/

/-- **Cutting a line at the start of a token separates the tokens.** The start lies between two characters, of which
the second is no blank, and behind the starts of all tokens before. The first part has just the tokens before this
one and is finished. The second part has this one and those behind it, with their starts counted from here, and
leaves open what the line leaves open. If the token is a pipe, the second part begins with it, and a blank or nothing
follows. -/
theorem cut_at_start {line : List Char} {i : Nat} {t : Token} (h : (scan line).tokens[i]? = some t) :
    (takeBytes t.start line ++ dropBytes t.start line = line ∧ byteLength (takeBytes t.start line) = t.start) ∧
    (∃ c r, dropBytes t.start line = c :: r ∧ isBlank c = false) ∧
    (∀ u ∈ (scan line).tokens.take i, u.start < t.start) ∧
    scan (takeBytes t.start line) = ⟨(scan line).tokens.take i, none, false⟩ ∧
    scan (dropBytes t.start line) =
      ⟨((scan line).tokens.drop i).map (Token.unshift t.start), (scan line).openQuote,
        (scan line).danglingEscape⟩ ∧
    (t.isPipe = true → ∃ r, dropBytes t.start line = '|' :: r ∧ Boundary r) := by
  obtain ⟨hi, hget⟩ := List.getElem?_eq_some_iff.mp h
  have hdrop : (scan line).tokens.drop i = t :: (scan line).tokens.drop (i + 1) := by
    rw [List.drop_eq_getElem_cons hi, hget]
  have htokens : (scan line).tokens = (scan line).tokens.take i ++ t :: (scan line).tokens.drop (i + 1) := by
    rw [← hdrop, List.take_append_drop]
  obtain ⟨pre, rest, hline, hstart, hrest, hmore⟩ := exists_cut htokens
  have htake : takeBytes t.start line = pre := by rw [hline, hstart, takeBytes_append]
  have hbehind : dropBytes t.start line = rest := by rw [hline, hstart, dropBytes_append]
  have hpre : scan pre = ⟨(scan line).tokens.take i, none, false⟩ := by
    have hnil := hmore []
    rw [List.append_nil] at hnil
    rw [hnil]
    exact congrArg (Scan.mk · none false) (List.append_nil _)
  have hscan : scan rest = ⟨((scan line).tokens.drop i).map (Token.unshift t.start), (scan line).openQuote,
      (scan line).danglingEscape⟩ := by
    rw [← Scan.unshift_shift t.start (scan rest), hrest, ← hdrop]
    rfl
  have hfirst : (scan rest).tokens = t.unshift t.start ::
      ((scan line).tokens.drop (i + 1)).map (Token.unshift t.start) := by
    rw [hscan, hdrop, List.map_cons]
  have hzero : (t.unshift t.start).start = 0 := Nat.sub_self t.start
  rw [htake, hbehind]
  refine ⟨⟨hline.symm, hstart.symm⟩, head_of_start_zero hfirst hzero, ?_, hpre, hscan,
    fun hpipe => pipe_of_first_token hfirst hzero hpipe⟩
  intro u hu
  rw [hstart]
  exact start_lt_of_mem (by rw [hpre]; exact hu)

/-- The line is cut at its pipe, behind a quoted blank and before a quote that stays open. -/
theorem cut_at_pipe :
    (scan "say 'a b' | \"c".toList).tokens[2]? = some ⟨"|", false, 10⟩ ∧
      scan "say 'a b' ".toList = ⟨[⟨"say", false, 0⟩, ⟨"a b", true, 4⟩], none, false⟩ ∧
      scan "| \"c".toList = ⟨[⟨"|", false, 0⟩, ⟨"c", true, 2⟩], some .double, false⟩ := by
  have h : (scan "say 'a b' | \"c".toList).tokens[2]? = some ⟨"|", false, 10⟩ := by decide +kernel
  obtain ⟨-, -, -, hbefore, hbehind, -⟩ := cut_at_start h
  exact ⟨h, hbefore.trans (by decide +kernel), hbehind.trans (by decide +kernel)⟩

end Line

end RouterShell
