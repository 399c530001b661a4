import RouterShell.Proofs.Net.AddressText
import RouterShell.Toml.Reader
import RouterShell.Toml.Writer

/-!
# Texts of a document, there and back

A text can hold any character, so it is written in one of four styles, each with characters of its own that it
cannot take as they are. This module proves that reading gives back every text, whatever style was chosen for it.

## The model

`Spelled` says how a character may be written in a style, and `Body` how a text may be written between its quotes.
The quote itself may stand in a text of several lines, but only so often in a row that it does not end the text;
`Body` counts the quotes before the place at hand.

## What is proved

What is written is a body of the style (`body_escapeFrom`, `body_plain`), and reading a body gives back its text
(`readBasic_body`, `readLiteral_body`, `readLong_body`). So a written text reads back (`readText_writeIn`).
-/

namespace RouterShell.Toml

/-! ### Styles -/

namespace TextStyle

/-- The quote of a style. -/
def quote : TextStyle → Char
  | .basic | .longBasic => '"'
  | .literal | .longLiteral => '\''

/-- Whether a backslash has a meaning. -/
def escapes : TextStyle → Bool
  | .basic | .longBasic => true
  | .literal | .longLiteral => false

/-- Whether a text may have several lines. -/
def long : TextStyle → Bool
  | .basic | .literal => false
  | .longBasic | .longLiteral => true

/-- The number of quotes that may follow each other in a text. -/
def room (style : TextStyle) : Nat := if style.long then longRoom else 0

theorem quote_ne_backslash (style : TextStyle) : '\\' ≠ style.quote := by
  cases style <;> decide

theorem quote_ne_newline (style : TextStyle) : '\n' ≠ style.quote := by
  cases style <;> decide

end TextStyle

variable {style : TextStyle} {c : Char} {v w s e rest tail : List Char} {k fuel : Nat}

/-- The ways to write a character. -/
inductive Spelled (style : TextStyle) : List Char → Char → Prop where
  /-- As it is. -/
  | printed {c : Char} : isPrintable c = true → c ≠ style.quote → (style.escapes = true → c ≠ '\\') →
      Spelled style [c] c
  /-- As an escape. -/
  | escaped {e : List Char} {c : Char} : style.escapes = true →
      (∀ rest, readEscape (e ++ rest) = some (c, rest)) → Spelled style ('\\' :: e) c
  /-- As the end of a line. -/
  | newline : style.long = true → Spelled style ['\n'] '\n'

/-- The ways to write a text behind `k` quotes. -/
inductive Body (style : TextStyle) : Nat → List Char → List Char → Prop where
  /-- Nothing. -/
  | nil {k : Nat} : k ≤ style.room → Body style k [] []
  /-- One more quote. -/
  | quote {k : Nat} {w s : List Char} : k < style.room → Body style (k + 1) w s →
      Body style k (style.quote :: w) (style.quote :: s)
  /-- Another character. -/
  | char {k : Nat} {v w s : List Char} {c : Char} : k ≤ style.room → Spelled style v c → Body style 0 w s →
      Body style k (v ++ w) (c :: s)

/-! ### Escapes -/

theorem isPrintable_of_not_isControl (h : isControl c = false) (hline : c ≠ '\n') : isPrintable c = true := by
  by_cases htab : c = '\t'
  · simp [isPrintable, htab]
  · obtain ⟨hlow, hdelete⟩ : 0x20 ≤ c.toNat ∧ c.toNat ≠ 0x7F := by simpa [isControl, htab, hline] using h
    simp only [isPrintable, isWide, Bool.or_eq_true, Bool.and_eq_true, decide_eq_true_eq]
    omega

theorem not_newline_of_isPrintable (h : isPrintable c = true) : c ≠ '\n' ∧ c ≠ '\r' := by
  constructor <;>
  · rintro rfl
    exact absurd h (by decide)

theorem readCode_append {digits : List Char} {n : Nat} (hlength : digits.length = n)
    (hdigits : digits.all Hexadecimal.isDigit = true) (hchar : Hexadecimal.char? digits = some c) (rest : List Char) :
    readCode n (digits ++ rest) = some (c, rest) := by
  rw [readCode, ← hlength, List.take_left, List.drop_left, hdigits, hchar]
  simp

/-- The escape of a control character is read as this character. -/
theorem readEscape_escapeControl (h : isControl c = true) :
    ∃ e, escapeControl c = '\\' :: e ∧ ∀ rest, readEscape (e ++ rest) = some (c, rest) := by
  unfold escapeControl
  split
  · exact ⟨['b'], rfl, fun _ => rfl⟩
  · exact ⟨['f'], rfl, fun _ => rfl⟩
  · exact ⟨['r'], rfl, fun _ => rfl⟩
  · have hlow : c.toNat < 128 := by
      simp only [isControl, Bool.or_eq_true, Bool.and_eq_true, decide_eq_true_eq] at h
      omega
    have hdigits : ∀ n < 128, isControl (Char.ofNat n) = true →
        ['0', '0', upperHex (n / 16), upperHex (n % 16)].all Hexadecimal.isDigit = true ∧
          Hexadecimal.char? ['0', '0', upperHex (n / 16), upperHex (n % 16)] = some (Char.ofNat n) := by decide
    obtain ⟨hall, hchar⟩ := hdigits c.toNat hlow (by rwa [Char.ofNat_toNat])
    rw [Char.ofNat_toNat] at hchar
    exact ⟨_, rfl, readCode_append rfl hall hchar⟩

/-- What an escape begins with does not end a line. -/
theorem skipContinuation_of_readEscape {p : Char × List Char} (h : readEscape s = some p) :
    skipContinuation s = none := by
  cases s with
  | nil => nomatch h
  | cons d s =>
    by_cases hspace : d = ' ' ∨ d = '\t' ∨ d = '\n' ∨ d = '\r'
    · rcases hspace with rfl | rfl | rfl | rfl <;> nomatch h
    · simp only [not_or] at hspace
      obtain ⟨h1, h2, h3, h4⟩ := hspace
      simp [skipContinuation, skipSpace, isSpace, readNewline, h1, h2, h3, h4]

/-! ### What is written -/

/-- What is written for a character that is no double quote. -/
def writtenChar (long : Bool) (c : Char) : List Char :=
  if c = '\\' then ['\\', '\\']
  else if c = '\t' then ['\\', 't']
  else if c = '\n' then (if long then ['\n'] else ['\\', 'n'])
  else if isControl c then escapeControl c
  else [c]

theorem escapeFrom_cons {room seen : Nat} {long : Bool} (h : c ≠ '"') :
    escapeFrom room seen long (c :: s) = writtenChar long c ++ escapeFrom room 0 long s := by
  rw [escapeFrom, if_neg h]
  rfl

theorem spelled_writtenChar (hescapes : style.escapes = true) (h : c ≠ style.quote) :
    Spelled style (writtenChar style.long c) c := by
  rw [writtenChar]
  split
  · next hc => exact .escaped (e := ['\\']) hescapes fun _ => by rw [hc]; rfl
  split
  · next hc => exact .escaped (e := ['t']) hescapes fun _ => by rw [hc]; rfl
  split
  · next hc =>
    rw [hc]
    split
    · next hlong => exact .newline hlong
    · exact .escaped (e := ['n']) hescapes fun _ => rfl
  split
  · next hcontrol =>
    obtain ⟨e, he, hread⟩ := readEscape_escapeControl hcontrol
    rw [he]
    exact .escaped hescapes hread
  · next hbackslash _ hline hcontrol =>
    exact .printed (isPrintable_of_not_isControl (by simpa using hcontrol) hline) h fun _ => hbackslash

/-- With escapes, every text can be written. -/
theorem body_escapeFrom (style : TextStyle) (hescapes : style.escapes = true) (hk : k ≤ style.room) (s : List Char) :
    Body style k (escapeFrom style.room k style.long s) s := by
  have hquote : style.quote = '"' := by
    cases style with
    | basic | longBasic => rfl
    | literal | longLiteral => nomatch hescapes
  induction s generalizing k with
  | nil => exact .nil hk
  | cons c s ih =>
    by_cases hc : c = '"'
    · rw [escapeFrom, if_pos hc]
      split
      · next hroom =>
        rw [hc, ← hquote]
        exact .quote hroom (ih hroom)
      · rw [hc]
        exact .char (v := ['\\', '"']) hk (.escaped (e := ['"']) hescapes fun _ => rfl) (ih (Nat.zero_le _))
    · rw [escapeFrom_cons hc]
      exact .char hk (spelled_writtenChar hescapes (hquote ▸ hc)) (ih (Nat.zero_le _))

/-- One step along a text, counting quotes: those right before, and the most in a row. -/
def runStep (q : Char) (p : Nat × Nat) (c : Char) : Nat × Nat :=
  if c = q then (p.1 + 1, max p.2 (p.1 + 1)) else (0, p.2)

theorem le_foldl_runStep (q : Char) (s : List Char) (p : Nat × Nat) : p.2 ≤ (s.foldl (runStep q) p).2 := by
  induction s generalizing p with
  | nil => exact Nat.le_refl _
  | cons c s ih =>
    refine Nat.le_trans ?_ (ih (runStep q p c))
    rw [runStep]
    split
    · exact Nat.le_max_left _ _
    · exact Nat.le_refl _

theorem foldl_runStep_of_not_mem {q : Char} (h : q ∉ s) (p : Nat × Nat) : (s.foldl (runStep q) p).2 = p.2 := by
  induction s generalizing p with
  | nil => rfl
  | cons c s ih =>
    rw [List.mem_cons, not_or] at h
    rw [List.foldl_cons, ih h.2, runStep, if_neg (Ne.symm h.1)]

/-- Without escapes, a text stands as it is if it has no control characters, no lines beyond the first one where the
style has only one, and no long run of quotes. -/
theorem body_plain (style : TextStyle) (p : Nat × Nat) (hescapes : style.escapes = false)
    (hcontrols : ∀ c ∈ s, isControl c = false) (hlines : style.long = false → '\n' ∉ s) (hp : p.1 ≤ p.2)
    (hrun : (s.foldl (runStep style.quote) p).2 ≤ style.room) : Body style p.1 s s := by
  have hroom := Nat.le_trans hp (Nat.le_trans (le_foldl_runStep style.quote s p) hrun)
  induction s generalizing p with
  | nil => exact .nil hroom
  | cons c s ih =>
    have hcontrols' := fun d hd => hcontrols d (List.mem_cons_of_mem c hd)
    have hlines' := fun hlong => mt (List.mem_cons_of_mem c) (hlines hlong)
    rw [List.foldl_cons] at hrun
    by_cases hc : c = style.quote
    · rw [runStep, if_pos hc] at hrun
      have hle : p.1 + 1 ≤ max p.2 (p.1 + 1) := Nat.le_max_right _ _
      have hmax := le_foldl_runStep style.quote s (p.1 + 1, max p.2 (p.1 + 1))
      have hnext : p.1 + 1 ≤ style.room := Nat.le_trans hle (Nat.le_trans hmax hrun)
      rw [hc]
      exact .quote hnext (ih _ hcontrols' hlines' hle hrun hnext)
    · rw [runStep, if_neg hc] at hrun
      refine .char (v := [c]) hroom ?_ (ih _ hcontrols' hlines' (Nat.zero_le _) hrun (Nat.zero_le _))
      by_cases hline : c = '\n'
      · cases hlong : style.long with
        | true =>
          rw [hline]
          exact .newline hlong
        | false => exact absurd (by rw [hline]; exact List.mem_cons_self) (hlines hlong)
      · refine .printed (isPrintable_of_not_isControl (hcontrols c List.mem_cons_self) hline) hc ?_
        rw [hescapes]
        exact fun h => nomatch h

/-! ### Reading it -/

/-- A character is not written like a quote. -/
theorem Spelled.head (h : Spelled style v c) :
    ∃ d r, v = d :: r ∧ d ≠ style.quote ∧ (c ≠ '\n' → d ≠ '\n' ∧ d ≠ '\r') := by
  cases h with
  | printed hprint hquote _ => exact ⟨c, [], rfl, hquote, fun _ => not_newline_of_isPrintable hprint⟩
  | @escaped e _ _ _ => exact ⟨'\\', e, rfl, style.quote_ne_backslash, fun _ => by decide⟩
  | newline _ => exact ⟨'\n', [], rfl, style.quote_ne_newline, fun h => absurd rfl h⟩

theorem readBasic_spelled (h : Spelled .basic v c) (fuel : Nat) (tail : List Char) :
    readBasic (fuel + 1) (v ++ tail) = (readBasic fuel tail).map fun (text, rest) => (c :: text, rest) := by
  cases h with
  | printed hprint hquote hbackslash =>
    rw [List.singleton_append, readBasic, if_neg (show c ≠ '"' from hquote), if_neg (hbackslash rfl), if_pos hprint]
    cases readBasic fuel tail <;> rfl
  | escaped _ hread =>
    rw [List.cons_append, readBasic, if_neg (by decide), if_pos rfl, hread, Option.bind_eq_bind, Option.bind_some]
    dsimp only
    cases readBasic fuel tail <;> rfl
  | newline hlong => nomatch hlong

theorem readBasic_body (h : Body .basic 0 w s) (hfuel : w.length < fuel) (rest : List Char) :
    readBasic fuel (w ++ '"' :: rest) = some (s, rest) := by
  generalize hk : 0 = k at h
  induction h generalizing fuel with
  | nil =>
    obtain ⟨fuel, rfl⟩ := Nat.exists_eq_add_of_lt hfuel
    rfl
  | quote hroom => nomatch hroom
  | @char k v w s c _ hv _ ih =>
    obtain ⟨d, r, rfl, -⟩ := hv.head
    obtain ⟨fuel, rfl⟩ : ∃ n, fuel = n + 1 := ⟨fuel - 1, by omega⟩
    rw [List.append_assoc, readBasic_spelled hv, ih (by simp at hfuel; omega) rfl]
    rfl

theorem readLiteral_body (h : Body .literal 0 w s) (rest : List Char) :
    readLiteral (w ++ '\'' :: rest) = some (s, rest) := by
  generalize hk : 0 = k at h
  induction h with
  | nil => rfl
  | quote hroom => nomatch hroom
  | @char k v w s c _ hv _ ih =>
    cases hv with
    | printed hprint hquote _ =>
      rw [List.singleton_append, List.cons_append, readLiteral, if_neg (show c ≠ '\'' from hquote),
        if_pos hprint, ih rfl]
      rfl
    | escaped hescapes _ => nomatch hescapes
    | newline hlong => nomatch hlong

/-- Two quotes in a row, or one, belong to the text. -/
theorem readQuotes_few {q : Char} (hk : k < 3) (htail : Stops (· = q) tail) :
    readQuotes q (List.replicate k q ++ tail) = (List.replicate k q, false, tail) := by
  have hall : ∀ c ∈ List.replicate k q, decide (c = q) = true := by simp +contextual
  have hrun := takeWhile_run hall htail
  simp [readQuotes, hrun, hk]

/-- The last three quotes end the text, and as many as may stand before them belong to it. -/
theorem readQuotes_end {q : Char} (hk : k ≤ longRoom) (hrest : Stops (· = q) rest) :
    readQuotes q (List.replicate k q ++ (List.replicate 3 q ++ rest)) = (List.replicate k q, true, rest) := by
  rw [← List.append_assoc, List.replicate_append_replicate]
  have hall : ∀ c ∈ List.replicate (k + 3) q, decide (c = q) = true := by simp +contextual
  have hrun := takeWhile_run hall hrest
  have hmin : min k 2 = k := Nat.min_eq_left hk
  simp [readQuotes, hrun, hmin]

theorem readLong_spelled (h : Spelled style v c) (fuel : Nat) (tail : List Char) :
    readLong style.quote style.escapes (fuel + 1) (v ++ tail) =
      (readLong style.quote style.escapes fuel tail).map fun (text, rest) => (c :: text, rest) := by
  cases h with
  | printed hprint hquote hbackslash =>
    obtain ⟨hfeed, hreturn⟩ := not_newline_of_isPrintable hprint
    have hline : readNewline (c :: tail) = none := by simp [readNewline, hfeed, hreturn]
    rw [List.singleton_append, readLong, if_neg hquote, if_neg (by simpa using hbackslash), hline]
    exact if_pos hprint
  | @escaped e _ hescapes hread =>
    rw [List.cons_append, readLong, if_neg style.quote_ne_backslash, if_pos (by simp [hescapes]),
      skipContinuation_of_readEscape (hread tail), hread]
    dsimp only [Option.bind_eq_bind, Option.bind_some]
    cases readLong style.quote style.escapes fuel tail <;> rfl
  | newline _ =>
    rw [List.singleton_append, readLong, if_neg style.quote_ne_newline, if_neg (by simp)]
    rfl

theorem readLong_quotes (hk : k < 3) (hpos : 0 < k) (htail : Stops (· = style.quote) tail) (fuel : Nat) :
    readLong style.quote style.escapes (fuel + 1) (List.replicate k style.quote ++ tail) =
      (readLong style.quote style.escapes fuel tail).map fun (text, rest) =>
        (List.replicate k style.quote ++ text, rest) := by
  obtain ⟨k, rfl⟩ : ∃ n, k = n + 1 := ⟨k - 1, by omega⟩
  have hquotes := readQuotes_few hk htail
  rw [List.replicate_succ, List.cons_append] at hquotes ⊢
  rw [readLong, if_pos rfl, hquotes]
  rfl

/-- Quotes before the place at hand are read together with those that follow, so they are kept back until another
character comes. -/
theorem readLong_body (hlong : style.long = true) (h : Body style k w s) (hfuel : k + w.length < fuel)
    (hrest : Stops (· = style.quote) rest) :
    readLong style.quote style.escapes fuel
      (List.replicate k style.quote ++ (w ++ (List.replicate 3 style.quote ++ rest))) =
        some (List.replicate k style.quote ++ s, rest) := by
  have hroom : style.room = longRoom := if_pos hlong
  induction h generalizing fuel with
  | @nil k hk =>
    obtain ⟨fuel, rfl⟩ : ∃ n, fuel = n + 1 := ⟨fuel - 1, by omega⟩
    have hquotes := readQuotes_end (hroom ▸ hk) hrest
    rw [List.append_nil, List.nil_append]
    obtain ⟨tail, htail⟩ : ∃ tail, List.replicate k style.quote ++ (List.replicate 3 style.quote ++ rest) =
        style.quote :: tail := by
      rw [← List.append_assoc, List.replicate_append_replicate, List.replicate_succ]
      exact ⟨_, rfl⟩
    rw [htail] at hquotes ⊢
    rw [readLong, if_pos rfl, hquotes]
    rfl
  | @quote k w s hk _ ih =>
    have hmove : ∀ l, List.replicate k style.quote ++ style.quote :: l =
        List.replicate (k + 1) style.quote ++ l := by
      intro l
      rw [List.replicate_succ', List.append_assoc, List.singleton_append]
    rw [List.length_cons] at hfuel
    rw [List.cons_append, hmove, hmove, ih (by omega)]
  | @char k v w s c hk hv _ ih =>
    obtain ⟨d, r, hhead, hd, -⟩ := hv.head
    have hlength : 0 < v.length := by rw [hhead]; exact Nat.succ_pos _
    rw [List.length_append] at hfuel
    have hchar : ∀ fuel, w.length < fuel →
        readLong style.quote style.escapes (fuel + 1) (v ++ (w ++ (List.replicate 3 style.quote ++ rest))) =
          some (c :: s, rest) := by
      intro fuel hfuel
      have hbehind := @ih fuel (by omega)
      rw [List.replicate_zero, List.nil_append] at hbehind
      rw [readLong_spelled hv, hbehind]
      rfl
    rw [List.append_assoc]
    rcases Nat.eq_zero_or_pos k with rfl | hpos
    · obtain ⟨fuel, rfl⟩ : ∃ n, fuel = n + 1 := ⟨fuel - 1, by omega⟩
      exact hchar fuel (by omega)
    · obtain ⟨fuel, rfl⟩ : ∃ n, fuel = n + 1 + 1 := ⟨fuel - 2, by omega⟩
      have hfew : k < 3 := Nat.lt_succ_of_le (hroom ▸ hk : k ≤ longRoom)
      have htail : Stops (· = style.quote) (v ++ (w ++ (List.replicate 3 style.quote ++ rest))) := by
        rw [hhead]
        exact .cons (decide_eq_false hd)
      rw [readLong_quotes hfew hpos htail, hchar fuel (by omega)]
      rfl

/-! ### All styles -/

/-- In a style of one line, a body and the quote behind it do not begin with two quotes. -/
theorem Body.not_two_quotes (h : Body style 0 w s) (hlong : style.long = false) (hrest : Stops (· = style.quote) rest)
    (tail : List Char) : w ++ style.quote :: rest ≠ style.quote :: style.quote :: tail := by
  intro hquotes
  cases h with
  | nil _ =>
    obtain rfl : rest = style.quote :: tail := (List.cons.inj hquotes).2
    exact absurd (hrest _ rfl) (by simp)
  | quote hroom _ =>
    rw [TextStyle.room, hlong] at hroom
    nomatch hroom
  | char _ hv _ =>
    obtain ⟨d, r, rfl, hd, -⟩ := hv.head
    exact hd (List.cons.inj hquotes).1

/-- A body of a text in one line begins with no end of line. -/
theorem Body.readNewline_eq_none (h : Body style k w s) (hline : '\n' ∉ s) (hrest : readNewline rest = none) :
    readNewline (w ++ rest) = none := by
  cases h with
  | nil _ => exact hrest
  | quote _ _ => cases style <;> rfl
  | @char _ _ _ _ c _ hv _ =>
    obtain ⟨d, r, rfl, -, hd⟩ := hv.head
    obtain ⟨hfeed, hreturn⟩ := hd fun hc => hline (by rw [hc]; exact List.mem_cons_self)
    simp [readNewline, hfeed, hreturn]

/-- The end of line behind the opening quotes is passed over, and no other. -/
theorem afterOpening_body (h : Body style k w s) (hrest : readNewline rest = none) :
    afterOpening ((if s.contains '\n' then ['\n'] else []) ++ (w ++ rest)) = w ++ rest := by
  rw [afterOpening]
  split
  · rfl
  · next hline =>
    rw [List.nil_append, h.readNewline_eq_none (by simpa using hline) hrest]
    rfl

/-- A body between the quotes of its style. -/
def enclose (style : TextStyle) (w s : List Char) : List Char :=
  if style.long then
    List.replicate 3 style.quote ++
      ((if s.contains '\n' then ['\n'] else []) ++ (w ++ List.replicate 3 style.quote))
  else style.quote :: (w ++ [style.quote])

theorem enclose_of_long (hlong : style.long = true) (w s : List Char) :
    enclose style w s = List.replicate 3 style.quote ++
      ((if s.contains '\n' then ['\n'] else []) ++ (w ++ List.replicate 3 style.quote)) :=
  if_pos hlong

theorem enclose_of_not_long (hlong : style.long = false) (w s : List Char) :
    enclose style w s = style.quote :: (w ++ [style.quote]) :=
  if_neg (by simp [hlong])

theorem readText_basic (h : ∀ tail, s ≠ '"' :: '"' :: tail) : readText ('"' :: s) = readBasic (s.length + 2) s := by
  rw [readText]
  · rfl
  · rintro tail ⟨⟩
    exact h tail rfl

theorem readText_literal (h : ∀ tail, s ≠ '\'' :: '\'' :: tail) : readText ('\'' :: s) = readLiteral s := by
  rw [readText]
  rintro tail ⟨⟩
  exact h tail rfl

theorem readText_long (hlong : style.long = true) (s : List Char) :
    readText (List.replicate 3 style.quote ++ s) =
      readLong style.quote style.escapes (s.length + 4) (afterOpening s) := by
  cases style with
  | basic | literal => nomatch hlong
  | longBasic | longLiteral => rfl

/-- A body between its quotes reads back as its text. -/
theorem readText_enclose (h : Body style 0 w s) (hrest : Stops (· = style.quote) rest) :
    readText (enclose style w s ++ rest) = some (s, rest) := by
  cases hlong : style.long with
  | true =>
    rw [enclose_of_long hlong, List.append_assoc, List.append_assoc, List.append_assoc, readText_long hlong,
      afterOpening_body h (by cases style <;> rfl)]
    refine readLong_body hlong h ?_ hrest
    simp only [List.length_append]
    omega
  | false =>
    have hshort := h.not_two_quotes hlong hrest
    rw [enclose_of_not_long hlong, List.cons_append, List.append_assoc, List.singleton_append]
    cases style with
    | basic =>
      refine (readText_basic hshort).trans (readBasic_body h ?_ rest)
      rw [List.length_append]
      omega
    | literal => exact (readText_literal hshort).trans (readLiteral_body h rest)
    | longBasic | longLiteral => nomatch hlong

theorem of_styleOf_literal (h : styleOf s = .literal) :
    (∀ c ∈ s, isControl c = false) ∧ '\'' ∉ s ∧ '\n' ∉ s := by
  rw [styleOf] at h
  split_ifs at h with _ hraw
  simpa [and_assoc] using hraw

theorem of_styleOf_longLiteral (h : styleOf s = .longLiteral) :
    (∀ c ∈ s, isControl c = false) ∧ longestRun '\'' s ≤ longRoom := by
  rw [styleOf] at h
  split_ifs at h with _ _ _ hraw
  show _ ∧ longestRun '\'' s ≤ 2
  simpa using hraw

/-- What is written of a text is a body of the style that was chosen, between its quotes. -/
theorem exists_body (s : List Char) :
    ∃ w, Body (styleOf s) 0 w s ∧ writeIn (styleOf s) s = enclose (styleOf s) w s := by
  cases hstyle : styleOf s with
  | basic => exact ⟨_, body_escapeFrom .basic rfl (Nat.zero_le _) s, rfl⟩
  | longBasic =>
    refine ⟨_, body_escapeFrom .longBasic rfl (Nat.zero_le _) s, ?_⟩
    show List.replicate 3 '"' ++ _ ++ escapeFrom longRoom 0 true s ++ List.replicate 3 '"' = _
    rw [enclose_of_long rfl, List.append_assoc, List.append_assoc]
    rfl
  | literal =>
    obtain ⟨hcontrols, hquote, hline⟩ := of_styleOf_literal hstyle
    have hrun : (s.foldl (runStep '\'') (0, 0)).2 = 0 := foldl_runStep_of_not_mem hquote (0, 0)
    exact ⟨s, body_plain .literal (0, 0) rfl hcontrols (fun _ => hline) (Nat.le_refl _)
      (Nat.le_of_eq hrun), rfl⟩
  | longLiteral =>
    obtain ⟨hcontrols, hrun⟩ := of_styleOf_longLiteral hstyle
    refine ⟨s, body_plain .longLiteral (0, 0) rfl hcontrols (fun h => nomatch h) (Nat.le_refl _)
      hrun, ?_⟩
    show List.replicate 3 '\'' ++ _ ++ s ++ List.replicate 3 '\'' = _
    rw [enclose_of_long rfl, List.append_assoc, List.append_assoc]
    rfl

/-- **Every text that is written reads back**, whatever its characters are, if no quote follows it. -/
theorem readText_writeIn (s : List Char) (hrest : Stops (· = (styleOf s).quote) rest) :
    readText (writeIn (styleOf s) s ++ rest) = some (s, rest) := by
  obtain ⟨w, hbody, hwritten⟩ := exists_body s
  rw [hwritten, readText_enclose hbody hrest]

end RouterShell.Toml
