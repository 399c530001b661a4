import RouterShell.Line.Token

/-!
# The quoting grammar

This module gives the grammar of typed lines by itself, without the scanner, and proves that the
scanner accepts exactly this grammar and finds the meaning that the grammar gives.

A line is words with blanks between them, and perhaps around them. A word is one or more pieces: a
character that stands for itself, a backslash and any character, text between single quotes, or text
between double quotes in which a backslash protects a double quote or another backslash.

## The model

The relations give a written form together with its meaning: `Inside` for the text between double
quotes, `Piece`, `Word`, and `IsLine`, whose meaning is the list of tokens. `Cut` is a piece that the
end of the line cuts off, with the fault that this is.

## What is proved

`tokenize_grammar`: the tokens of a line are its words, and a text without tokens is a line followed
by a cut piece. One half goes down the derivation and runs the scanner along it (`scanFrom_piece`,
`Words.scan_append`, `IsLine.scan_append`). The other half needs no second induction on the scanner:
every text is a line or has a cut piece at its end (`isLine_or_endsCut`), and on each of the two the
scanner's answer is known.
-/

namespace RouterShell.Line

open Text

/-! ### The grammar -/

/-- A text between double quotes and its meaning. -/
inductive Inside : List Char → List Char → Prop where
  /-- No text. -/
  | nil : Inside [] []
  /-- A backslash protects a double quote or another backslash. -/
  | protect {c : Char} {s m : List Char} :
      c = '"' ∨ c = '\\' → Inside s m → Inside ('\\' :: c :: s) (c :: m)
  /-- A backslash before any other character stands for itself. -/
  | backslash {c : Char} {s m : List Char} :
      c ≠ '"' → c ≠ '\\' → Inside (c :: s) m → Inside ('\\' :: c :: s) ('\\' :: m)
  /-- Any other character but a double quote stands for itself. -/
  | char {c : Char} {s m : List Char} : c ≠ '"' → c ≠ '\\' → Inside s m → Inside (c :: s) (c :: m)

/-- A piece of a word, its meaning, and whether it is more than a character standing for itself. -/
inductive Piece : List Char → List Char → Bool → Prop where
  /-- A character that is no blank, no quote and no backslash. -/
  | plain {c : Char} : isBlank c = false → c ≠ '\'' → c ≠ '"' → c ≠ '\\' → Piece [c] [c] false
  /-- A backslash and any character. -/
  | escaped (c : Char) : Piece ['\\', c] [c] true
  /-- Text between single quotes. -/
  | single {s : List Char} : '\'' ∉ s → Piece ('\'' :: (s ++ ['\''])) s true
  /-- Text between double quotes. -/
  | double {s m : List Char} : Inside s m → Piece ('"' :: (s ++ ['"'])) m true

/-- A word, its meaning, and whether one of its pieces is quoted. -/
inductive Word : List Char → List Char → Bool → Prop where
  /-- A single piece. -/
  | one {w m : List Char} {q : Bool} : Piece w m q → Word w m q
  /-- A piece before a word. -/
  | more {w m v n : List Char} {q r : Bool} :
      Piece w m q → Word v n r → Word (w ++ v) (m ++ n) (q || r)

/-- A text of nothing but blanks. -/
def Blanks (s : List Char) : Prop := ∀ c ∈ s, isBlank c = true

/-- Words from byte offset `pos` on, with blanks between neighbours, and their tokens. -/
inductive Words : Nat → List Char → List Token → Prop where
  /-- The last word. -/
  | one {pos : Nat} {w m : List Char} {q : Bool} :
      Word w m q → Words pos w [⟨String.ofList m, q, pos⟩]
  /-- A word, at least one blank, and further words. -/
  | more {pos : Nat} {w m g s : List Char} {q : Bool} {ts : List Token} :
      Word w m q → Blanks g → g ≠ [] → Words (pos + byteLength (w ++ g)) s ts →
      Words pos (w ++ g ++ s) (⟨String.ofList m, q, pos⟩ :: ts)

/-- A line and its tokens. -/
inductive IsLine : List Char → List Token → Prop where
  /-- A line without words. -/
  | blank {b : List Char} : Blanks b → IsLine b []
  /-- Words, with blanks before and after them. -/
  | words {b s e : List Char} {ts : List Token} :
      Blanks b → Words (byteLength b) s ts → Blanks e → IsLine (b ++ s ++ e) ts

/-- A piece that is cut off, and why it is none. -/
inductive Cut : List Char → SyntaxFault → Prop where
  /-- A single quote that is not closed. -/
  | single {s : List Char} : '\'' ∉ s → Cut ('\'' :: s) .missingClosingQuote
  /-- A double quote that is not closed. -/
  | double {s m : List Char} : Inside s m → Cut ('"' :: s) .missingClosingQuote
  /-- A double quote that is not closed, and a backslash at the end. -/
  | backslash {s m : List Char} : Inside s m → Cut ('"' :: (s ++ ['\\'])) .missingClosingQuote
  /-- A backslash outside quotes that protects nothing. -/
  | escape : Cut ['\\'] .noEscapedCharacter

/-- A text that ends in a cut piece: before it stands a line, of which the cut piece may continue the
last word. -/
def EndsCut (s : List Char) (f : SyntaxFault) : Prop :=
  ∃ p ts u, IsLine p ts ∧ Cut u f ∧ s = p ++ u

/-! ### The scanner on the pieces of a word -/

section Pieces

attribute [local simp] scanFrom

/-- Characters put in front of what a part of a line contributes. -/
def Tail.prepend (m : List Char) (q : Bool) (t : Tail) : Tail :=
  { t with chars := m ++ t.chars, quoted := q || t.quoted }

@[simp] theorem Tail.prepend_nil (t : Tail) : t.prepend [] false = t := rfl

@[simp] theorem Tail.prepend_prepend (m n : List Char) (q r : Bool) (t : Tail) :
    (t.prepend n r).prepend m q = t.prepend (m ++ n) (q || r) := by
  simp [Tail.prepend, Bool.or_assoc]

@[simp] theorem Tail.cons_prepend (c : Char) (m : List Char) (q : Bool) (t : Tail) :
    (t.prepend m q).cons c = t.prepend (c :: m) q := rfl

@[simp] theorem Tail.mark_prepend (m : List Char) (q : Bool) (t : Tail) :
    (t.prepend m q).mark = t.prepend m true := by
  simp [Tail.prepend, Tail.mark]

theorem Tail.cons_eq_prepend (c : Char) (t : Tail) : t.cons c = t.prepend [c] false := rfl

theorem scanFrom_single {s : List Char} (h : '\'' ∉ s) (pos : Nat) (rest : List Char) :
    scanFrom .single pos (s ++ '\'' :: rest) =
      (scanFrom .plain (pos + byteLength (s ++ ['\''])) rest).prepend s false := by
  induction s generalizing pos with
  | nil => simp [scanFrom]
  | cons c s ih =>
    simp only [List.mem_cons, not_or] at h
    have hc : c ≠ '\'' := fun hc => h.1 hc.symm
    simp only [List.cons_append, scanFrom, hc, if_false, byteLength_cons]
    rw [ih h.2, Tail.cons_prepend, Nat.add_assoc]

theorem scanFrom_inside {s m : List Char} (h : Inside s m) (pos : Nat) (rest : List Char) :
    scanFrom .double pos (s ++ '"' :: rest) =
      (scanFrom .plain (pos + byteLength (s ++ ['"'])) rest).prepend m false := by
  induction h generalizing pos with
  | nil => simp [scanFrom]
  | @protect c s m hc _ ih =>
    have hc' : (c = '"' || c = '\\') = true := by simpa using hc
    simp only [List.cons_append, scanFrom, hc', if_true, byteLength_cons]
    rw [if_neg (by decide), ih, Tail.cons_prepend, Nat.add_assoc, Nat.add_assoc]
  | @backslash c s m hc hc' _ ih =>
    have key := ih (pos + '\\'.utf8Size)
    simp only [List.cons_append, scanFrom, hc, hc', if_false] at key
    have hno : ¬ (c = '"' || c = '\\') = true := by simp [hc, hc']
    simp only [List.cons_append, scanFrom, hno, if_true]
    rw [if_neg (by decide), key, Tail.cons_prepend]
    simp [Nat.add_assoc]
  | @char c s m hc hc' _ ih =>
    simp only [List.cons_append, scanFrom, hc, hc', if_false, byteLength_cons]
    rw [ih, Tail.cons_prepend, Nat.add_assoc]

theorem scanFrom_plain_single (pos : Nat) (s : List Char) :
    scanFrom .plain pos ('\'' :: s) = (scanFrom .single (pos + '\''.utf8Size) s).mark := by
  simp [scanFrom, show isBlank '\'' = false by decide]

theorem scanFrom_plain_double (pos : Nat) (s : List Char) :
    scanFrom .plain pos ('"' :: s) = (scanFrom .double (pos + '"'.utf8Size) s).mark := by
  simp [scanFrom, show isBlank '"' = false by decide]

theorem scanFrom_plain_escape (pos : Nat) (s : List Char) :
    scanFrom .plain pos ('\\' :: s) = (scanFrom .escaped (pos + '\\'.utf8Size) s).mark := by
  simp [scanFrom, show isBlank '\\' = false by decide]

theorem scanFrom_plain_char {c : Char} (hb : isBlank c = false) (h1 : c ≠ '\'') (h2 : c ≠ '"')
    (h3 : c ≠ '\\') (pos : Nat) (s : List Char) :
    scanFrom .plain pos (c :: s) = (scanFrom .plain (pos + c.utf8Size) s).cons c := by
  simp [scanFrom, hb, h1, h2, h3]

theorem scanFrom_plain_blank {c : Char} (hb : isBlank c = true) (pos : Nat) (s : List Char) :
    scanFrom .plain pos (c :: s) = scanFrom .between (pos + c.utf8Size) s := by
  simp [scanFrom, hb]

theorem scanFrom_between_blank {c : Char} (hb : isBlank c = true) (pos : Nat) (s : List Char) :
    scanFrom .between pos (c :: s) = scanFrom .between (pos + c.utf8Size) s := by
  simp [scanFrom, hb]

/-- Between words, a character that is no blank begins a word, which is read from there on. -/
theorem scanFrom_between_char {c : Char} (hb : isBlank c = false) (pos : Nat) (s : List Char) :
    scanFrom .between pos (c :: s) = (scanFrom .plain pos (c :: s)).close pos := by
  simp only [scanFrom, hb, Bool.false_eq_true, if_false]
  split
  · rfl
  · split
    · rfl
    · split <;> rfl

/-- The scanner reads a piece as the grammar does, whatever follows. -/
theorem scanFrom_piece {w m : List Char} {q : Bool} (h : Piece w m q) (pos : Nat)
    (rest : List Char) :
    scanFrom .plain pos (w ++ rest) =
      (scanFrom .plain (pos + byteLength w) rest).prepend m q := by
  cases h with
  | plain hb h1 h2 h3 =>
    rw [List.singleton_append, scanFrom_plain_char hb h1 h2 h3, Tail.cons_eq_prepend]
    rfl
  | escaped c =>
    rw [List.cons_append, List.singleton_append, scanFrom_plain_escape]
    simp [scanFrom, Tail.cons_eq_prepend, Nat.add_assoc]
  | @single s hs =>
    rw [List.cons_append, List.append_assoc, List.singleton_append, scanFrom_plain_single,
      scanFrom_single hs, Tail.mark_prepend, byteLength_cons, Nat.add_assoc]
  | @double s m hs =>
    rw [List.cons_append, List.append_assoc, List.singleton_append, scanFrom_plain_double,
      scanFrom_inside hs, Tail.mark_prepend, byteLength_cons, Nat.add_assoc]

/-- The scanner reads a word as the grammar does, whatever follows. -/
theorem scanFrom_word {w m : List Char} {q : Bool} (h : Word w m q) (pos : Nat)
    (rest : List Char) :
    scanFrom .plain pos (w ++ rest) =
      (scanFrom .plain (pos + byteLength w) rest).prepend m q := by
  induction h generalizing pos with
  | one hp => exact scanFrom_piece hp pos rest
  | more hp _ ih =>
    rw [List.append_assoc, scanFrom_piece hp, ih, Tail.prepend_prepend, byteLength_append,
      Nat.add_assoc]

theorem Piece.head {w m : List Char} {q : Bool} (h : Piece w m q) :
    ∃ c v, w = c :: v ∧ isBlank c = false := by
  cases h with
  | plain hb _ _ _ => exact ⟨_, _, rfl, hb⟩
  | escaped c => exact ⟨_, _, rfl, by decide⟩
  | single _ => exact ⟨_, _, rfl, by decide⟩
  | double _ => exact ⟨_, _, rfl, by decide⟩

/-- A word begins with a character that is no blank. -/
theorem Word.head {w m : List Char} {q : Bool} (h : Word w m q) :
    ∃ c v, w = c :: v ∧ isBlank c = false := by
  cases h with
  | one hp => exact hp.head
  | more hp _ =>
    obtain ⟨c, v, rfl, hb⟩ := hp.head
    exact ⟨c, v ++ _, rfl, hb⟩

/-- Between words, a word becomes a token. -/
theorem scanFrom_between_word {w m : List Char} {q : Bool} (h : Word w m q) (pos : Nat)
    (rest : List Char) :
    scanFrom .between pos (w ++ rest) =
      ((scanFrom .plain (pos + byteLength w) rest).prepend m q).close pos := by
  rw [← scanFrom_word h]
  obtain ⟨c, v, rfl, hb⟩ := h.head
  exact scanFrom_between_char hb pos (v ++ rest)

end Pieces

/-! ### The scanner on words and blanks -/

/-- Tokens put in front of those that a scan found. -/
def prependTokens (ts : List Token) (s : Scan) : Scan := { s with tokens := ts ++ s.tokens }

/-- A text that does not go on a word: it is empty or begins with a blank. -/
def Boundary (s : List Char) : Prop := ∀ c r, s = c :: r → isBlank c = true

theorem boundary_nil : Boundary [] := fun _ _ h => nomatch h

theorem boundary_cons {c : Char} (hc : isBlank c = true) (s : List Char) : Boundary (c :: s) :=
  fun _ _ h => (List.cons.inj h).1 ▸ hc

theorem blanks_nil : Blanks [] := fun _ h => nomatch h

theorem blanks_cons {c : Char} {b : List Char} (hc : isBlank c = true) (hb : Blanks b) :
    Blanks (c :: b) := by
  intro d hd
  rcases List.mem_cons.mp hd with rfl | hd
  · exact hc
  · exact hb d hd

theorem Blanks.boundary_append {b r : List Char} (hb : Blanks b) (hr : Boundary r) :
    Boundary (b ++ r) := by
  cases b with
  | nil => exact hr
  | cons c b => exact boundary_cons (hb c List.mem_cons_self) (b ++ r)

theorem scanFrom_between_blanks {b : List Char} (hb : Blanks b) (pos : Nat) (rest : List Char) :
    scanFrom .between pos (b ++ rest) = scanFrom .between (pos + byteLength b) rest := by
  induction b generalizing pos with
  | nil => rfl
  | cons c b ih =>
    rw [List.cons_append, scanFrom_between_blank (hb c List.mem_cons_self),
      ih fun d hd => hb d (List.mem_cons_of_mem c hd), byteLength_cons, Nat.add_assoc]

/-- Where a word cannot go on, it is over. -/
theorem scanFrom_plain_boundary {s : List Char} (h : Boundary s) (pos : Nat) :
    scanFrom .plain pos s = scanFrom .between pos s := by
  cases s with
  | nil => rfl
  | cons c r =>
    have hb := h c r rfl
    rw [scanFrom_plain_blank hb, scanFrom_between_blank hb]

/-- Between words nothing is read yet of the next one. -/
theorem scanFrom_between_eq (pos : Nat) (s : List Char) :
    scanFrom .between pos s = ⟨[], false, (scanFrom .between pos s).scan⟩ := by
  induction s generalizing pos with
  | nil => rfl
  | cons c s ih =>
    cases hb : isBlank c with
    | true =>
      rw [scanFrom_between_blank hb]
      exact ih _
    | false =>
      rw [scanFrom_between_char hb]
      rfl

/-- A word that is over becomes the first token of what is read from it on. -/
theorem scan_between_word {w m : List Char} {q : Bool} (h : Word w m q) {rest : List Char}
    (hr : Boundary rest) (pos : Nat) :
    (scanFrom .between pos (w ++ rest)).scan =
      prependTokens [⟨String.ofList m, q, pos⟩]
        (scanFrom .between (pos + byteLength w) rest).scan := by
  rw [scanFrom_between_word h, scanFrom_plain_boundary hr, scanFrom_between_eq]
  simp [Tail.close, Tail.prepend, prependTokens]

/-- The scanner finds the tokens of words, and goes on behind them. -/
theorem Words.scan_append {pos : Nat} {s : List Char} {ts : List Token} (h : Words pos s ts)
    {rest : List Char} (hr : Boundary rest) :
    (scanFrom .between pos (s ++ rest)).scan =
      prependTokens ts (scanFrom .between (pos + byteLength s) rest).scan := by
  induction h with
  | one hw => exact scan_between_word hw hr _
  | @more pos w m g s q ts hw hg hne _ ih =>
    have hb : Boundary (g ++ (s ++ rest)) := by
      obtain ⟨c, g', rfl⟩ := List.exists_cons_of_ne_nil hne
      exact boundary_cons (hg c List.mem_cons_self) (g' ++ (s ++ rest))
    rw [List.append_assoc, List.append_assoc, scan_between_word hw hb,
      scanFrom_between_blanks hg, Nat.add_assoc, ← byteLength_append, ih, Nat.add_assoc,
      ← byteLength_append (w ++ g)]
    rfl

/-- The scanner finds the tokens of a line, and goes on behind it. -/
theorem IsLine.scan_append {p : List Char} {ts : List Token} (h : IsLine p ts)
    {rest : List Char} (hr : Boundary rest) :
    scan (p ++ rest) = prependTokens ts (scanFrom .between (byteLength p) rest).scan := by
  cases h with
  | blank hb =>
    rw [scan, scanFrom_between_blanks hb, Nat.zero_add]
    rfl
  | @words b s e ts hb hs he =>
    rw [scan, List.append_assoc, List.append_assoc, scanFrom_between_blanks hb, Nat.zero_add,
      hs.scan_append (he.boundary_append hr), scanFrom_between_blanks he]
    simp only [byteLength_append]

theorem IsLine.scan_eq {p : List Char} {ts : List Token} (h : IsLine p ts) :
    scan p = ⟨ts, none, false⟩ := by
  have key := h.scan_append boundary_nil
  rw [List.append_nil] at key
  rw [key]
  simp [prependTokens, scanFrom, Mode.finish, Tail.done]

/-! ### The scanner on cut pieces -/

@[simp] theorem Tail.fault_prepend (m : List Char) (q : Bool) (t : Tail) :
    (t.prepend m q).scan.fault = t.scan.fault := rfl

@[simp] theorem Tail.fault_cons (c : Char) (t : Tail) : (t.cons c).scan.fault = t.scan.fault := rfl

@[simp] theorem Tail.fault_mark (t : Tail) : t.mark.scan.fault = t.scan.fault := rfl

@[simp] theorem Tail.fault_close (start : Nat) (t : Tail) :
    (t.close start).scan.fault = t.scan.fault := rfl

theorem fault_single {s : List Char} (h : '\'' ∉ s) (pos : Nat) :
    (scanFrom .single pos s).scan.fault = some .missingClosingQuote := by
  induction s generalizing pos with
  | nil => rfl
  | cons c s ih =>
    simp only [List.mem_cons, not_or] at h
    have hc : c ≠ '\'' := fun hc => h.1 hc.symm
    simp only [scanFrom, hc, if_false, Tail.fault_cons]
    exact ih h.2 _

/-- An unclosed double quote is missed at the end, also behind a last backslash. -/
theorem fault_inside {s m : List Char} (h : Inside s m) {e : List Char}
    (he : e = [] ∨ e = ['\\']) (pos : Nat) :
    (scanFrom .double pos (s ++ e)).scan.fault = some .missingClosingQuote := by
  induction h generalizing pos with
  | nil => rcases he with rfl | rfl <;> rfl
  | @protect c s m hc _ ih =>
    have hc' : (c = '"' || c = '\\') = true := by simpa using hc
    simp only [List.cons_append, scanFrom, hc', if_true]
    rw [if_neg (by decide), Tail.fault_cons]
    exact ih _
  | @backslash c s m hc hc' _ ih =>
    have key := ih (pos + '\\'.utf8Size)
    simp only [List.cons_append, scanFrom, hc, hc', if_false, Tail.fault_cons] at key
    have hno : ¬ (c = '"' || c = '\\') = true := by simp [hc, hc']
    simp only [List.cons_append, scanFrom, hno, if_true]
    rw [if_neg (by decide), if_neg (by simp), Tail.fault_cons, Tail.fault_cons]
    exact key
  | @char c s m hc hc' _ ih =>
    simp only [List.cons_append, scanFrom, hc, hc', if_false, Tail.fault_cons]
    exact ih _

/-- A cut piece has its fault, whatever was read of the word before it. -/
theorem Cut.fault {u : List Char} {f : SyntaxFault} (h : Cut u f) (pos : Nat) :
    (scanFrom .plain pos u).scan.fault = some f := by
  cases h with
  | single hs =>
    rw [scanFrom_plain_single, Tail.fault_mark]
    exact fault_single hs _
  | @double s m hs =>
    rw [scanFrom_plain_double, Tail.fault_mark, ← List.append_nil s]
    exact fault_inside hs (Or.inl rfl) _
  | backslash hs =>
    rw [scanFrom_plain_double, Tail.fault_mark]
    exact fault_inside hs (Or.inr rfl) _
  | escape =>
    rw [scanFrom_plain_escape, Tail.fault_mark]
    rfl

theorem Cut.head {u : List Char} {f : SyntaxFault} (h : Cut u f) :
    ∃ c v, u = c :: v ∧ isBlank c = false := by
  cases h <;> exact ⟨_, _, rfl, by decide⟩

theorem Cut.fault_between {u : List Char} {f : SyntaxFault} (h : Cut u f) (pos : Nat) :
    (scanFrom .between pos u).scan.fault = some f := by
  obtain ⟨c, v, rfl, hb⟩ := h.head
  rw [scanFrom_between_char hb, Tail.fault_close]
  exact h.fault pos

/-- Words before a text leave its fault as it is. -/
theorem Words.fault_append {pos : Nat} {s : List Char} {ts : List Token} (h : Words pos s ts)
    (rest : List Char) :
    (scanFrom .between pos (s ++ rest)).scan.fault =
      (scanFrom .plain (pos + byteLength s) rest).scan.fault := by
  induction h with
  | one hw => rw [scanFrom_between_word hw, Tail.fault_close, Tail.fault_prepend]
  | @more pos w m g s q ts hw hg hne _ ih =>
    obtain ⟨c, g', rfl⟩ := List.exists_cons_of_ne_nil hne
    have hb : isBlank c = true := hg c List.mem_cons_self
    have key := scanFrom_between_blanks hg (pos + byteLength w) (s ++ rest)
    rw [List.cons_append, scanFrom_between_blank hb] at key
    rw [List.append_assoc, List.append_assoc, scanFrom_between_word hw, Tail.fault_close,
      Tail.fault_prepend, List.cons_append, scanFrom_plain_blank hb, key, Nat.add_assoc,
      ← byteLength_append, ih]
    simp only [byteLength_append, Nat.add_assoc]

/-- A line before a cut piece leaves its fault as it is. -/
theorem IsLine.fault_append {p u : List Char} {ts : List Token} {f : SyntaxFault}
    (h : IsLine p ts) (hu : Cut u f) : (scan (p ++ u)).fault = some f := by
  cases h with
  | blank hb =>
    rw [scan, scanFrom_between_blanks hb]
    exact hu.fault_between _
  | @words b s e ts hb hs he =>
    rw [scan, List.append_assoc, List.append_assoc, scanFrom_between_blanks hb, Nat.zero_add,
      hs.fault_append]
    cases e with
    | nil => exact hu.fault _
    | cons c e =>
      have hc := he c List.mem_cons_self
      have key := scanFrom_between_blanks he (byteLength b + byteLength s) u
      rw [List.cons_append, scanFrom_between_blank hc] at key
      rw [List.cons_append, scanFrom_plain_blank hc, key]
      exact hu.fault_between _

/-! ### Every text is a line or has a cut piece at its end -/

/-- What follows a double quote reaches a closing one, or is cut off. -/
theorem inside_split : ∀ s : List Char,
    (∃ i m r, Inside i m ∧ s = i ++ '"' :: r) ∨ ∃ i m e, Inside i m ∧ (e = [] ∨ e = ['\\']) ∧ s = i ++ e
  | [] => Or.inr ⟨[], [], [], .nil, Or.inl rfl, rfl⟩
  | [c] => by
    by_cases h : c = '"'
    · exact Or.inl ⟨[], [], [], .nil, by rw [h]; rfl⟩
    · by_cases h' : c = '\\'
      · exact Or.inr ⟨[], [], ['\\'], .nil, Or.inr rfl, by rw [h']; rfl⟩
      · exact Or.inr ⟨[c], [c], [], .char h h' .nil, Or.inl rfl, rfl⟩
  | c :: d :: s => by
    by_cases h : c = '"'
    · exact Or.inl ⟨[], [], d :: s, .nil, by rw [h]; rfl⟩
    by_cases h' : c = '\\'
    · subst h'
      by_cases hd : d = '"' ∨ d = '\\'
      · rcases inside_split s with ⟨i, m, r, hi, rfl⟩ | ⟨i, m, e, hi, he, rfl⟩
        · exact Or.inl ⟨'\\' :: d :: i, d :: m, r, .protect hd hi, rfl⟩
        · exact Or.inr ⟨'\\' :: d :: i, d :: m, e, .protect hd hi, he, rfl⟩
      · -- the backslash stands for itself, and the next character, which is neither a quote nor a
        -- backslash, begins the text that is split further
        rw [not_or] at hd
        rcases inside_split (d :: s) with ⟨i, m, r, hi, heq⟩ | ⟨i, m, e, hi, he, heq⟩
        · cases i with
          | nil => exact absurd (List.cons.inj heq).1 hd.1
          | cons d' i =>
            obtain ⟨rfl, rfl⟩ := List.cons.inj heq
            exact Or.inl ⟨'\\' :: d :: i, '\\' :: m, r, .backslash hd.1 hd.2 hi, rfl⟩
        · cases i with
          | nil =>
            rcases he with rfl | rfl
            · exact absurd heq (List.cons_ne_nil d s)
            · exact absurd (List.cons.inj heq).1 hd.2
          | cons d' i =>
            obtain ⟨rfl, rfl⟩ := List.cons.inj heq
            exact Or.inr ⟨'\\' :: d :: i, '\\' :: m, e, .backslash hd.1 hd.2 hi, he, rfl⟩
    · rcases inside_split (d :: s) with ⟨i, m, r, hi, heq⟩ | ⟨i, m, e, hi, he, heq⟩
      · exact Or.inl ⟨c :: i, c :: m, r, .char h h' hi, by rw [heq]; rfl⟩
      · exact Or.inr ⟨c :: i, c :: m, e, .char h h' hi, he, by rw [heq]; rfl⟩

/-- A text that does not begin with a blank begins with a piece, or is a cut one. -/
theorem piece_or_cut {c : Char} (hc : isBlank c = false) (s : List Char) :
    (∃ w m q r, Piece w m q ∧ c :: s = w ++ r) ∨ ∃ f, Cut (c :: s) f := by
  by_cases h1 : c = '\''
  · subst h1
    by_cases hs : '\'' ∈ s
    · obtain ⟨i, r, rfl, hi⟩ := List.eq_append_cons_of_mem hs
      exact Or.inl ⟨'\'' :: (i ++ ['\'']), i, true, r, .single hi, by simp⟩
    · exact Or.inr ⟨_, .single hs⟩
  by_cases h2 : c = '"'
  · subst h2
    rcases inside_split s with ⟨i, m, r, hi, rfl⟩ | ⟨i, m, e, hi, rfl | rfl, rfl⟩
    · exact Or.inl ⟨'"' :: (i ++ ['"']), m, true, r, .double hi, by simp⟩
    · exact Or.inr ⟨_, by rw [List.append_nil]; exact .double hi⟩
    · exact Or.inr ⟨_, .backslash hi⟩
  by_cases h3 : c = '\\'
  · subst h3
    cases s with
    | nil => exact Or.inr ⟨_, .escape⟩
    | cons d s => exact Or.inl ⟨['\\', d], [d], true, s, .escaped d, rfl⟩
  · exact Or.inl ⟨[c], [c], false, s, .plain hc h1 h2 h3, rfl⟩

/-- A text that does not begin with a blank begins with a whole word, or with a word that is cut
off. -/
theorem word_or_cut {c : Char} (hc : isBlank c = false) (s : List Char) :
    (∃ w m q r, Word w m q ∧ Boundary r ∧ c :: s = w ++ r) ∨
      (∃ f, Cut (c :: s) f) ∨ ∃ w m q u f, Word w m q ∧ Cut u f ∧ c :: s = w ++ u := by
  rcases piece_or_cut hc s with ⟨w, m, q, r, hw, heq⟩ | hcut
  · rw [heq]
    rcases r with _ | ⟨d, r⟩
    · exact Or.inl ⟨w, m, q, [], .one hw, boundary_nil, rfl⟩
    cases hd : isBlank d with
    | true => exact Or.inl ⟨w, m, q, d :: r, .one hw, boundary_cons hd r, rfl⟩
    | false =>
      -- the word goes on: what is left is shorter, as a piece is not empty
      have hlt : r.length < s.length := by
        obtain ⟨c', v, rfl, -⟩ := hw.head
        have := congrArg List.length heq
        simp only [List.length_cons, List.length_append] at this
        omega
      rcases word_or_cut hd r with ⟨v, n, q', r', hv, hr', h⟩ | ⟨f, hf⟩ | ⟨v, n, q', u, f, hv, hu, h⟩
      · exact Or.inl ⟨w ++ v, m ++ n, q || q', r', .more hw hv, hr', by rw [h, List.append_assoc]⟩
      · exact Or.inr (Or.inr ⟨w, m, q, d :: r, f, .one hw, hf, rfl⟩)
      · exact Or.inr (Or.inr
          ⟨w ++ v, m ++ n, q || q', u, f, .more hw hv, hu, by rw [h, List.append_assoc]⟩)
  · exact Or.inr (Or.inl hcut)
  termination_by s.length

/-- A text is blanks and a text that does not begin with a blank. -/
theorem blanks_split (s : List Char) :
    ∃ b t, Blanks b ∧ (t = [] ∨ ∃ c r, t = c :: r ∧ isBlank c = false) ∧ s = b ++ t := by
  induction s with
  | nil => exact ⟨[], [], blanks_nil, Or.inl rfl, rfl⟩
  | cons c s ih =>
    cases hc : isBlank c with
    | false => exact ⟨[], c :: s, blanks_nil, Or.inr ⟨c, s, rfl, hc⟩, rfl⟩
    | true =>
      obtain ⟨b, t, hb, ht, rfl⟩ := ih
      exact ⟨c :: b, t, blanks_cons hc hb, ht, rfl⟩

/-- A text that does not begin with a blank is words and blanks, perhaps with a cut piece at the
end. -/
theorem words_or_cut {c : Char} (hc : isBlank c = false) (s : List Char) (pos : Nat) :
    (∃ v ts e, Words pos v ts ∧ Blanks e ∧ c :: s = v ++ e) ∨
      (∃ f, Cut (c :: s) f) ∨
      ∃ v ts e u f, Words pos v ts ∧ Blanks e ∧ Cut u f ∧ c :: s = v ++ e ++ u := by
  rcases word_or_cut hc s with ⟨w, m, q, r, hw, hr, heq⟩ | hcut | ⟨w, m, q, u, f, hw, hu, heq⟩
  · obtain ⟨g, t, hg, rfl | ⟨d, t', rfl, hd⟩, rfl⟩ := blanks_split r
    · exact Or.inl ⟨w, _, g, .one hw, hg, by rw [heq, List.append_nil]⟩
    -- a further word follows, which only blanks can part from this one
    have hne : g ≠ [] := by
      rintro rfl
      have := hr d t' rfl
      rw [hd] at this
      exact Bool.noConfusion this
    have hlt : t'.length < s.length := by
      obtain ⟨c', v, rfl, -⟩ := hw.head
      have := congrArg List.length heq
      simp only [List.length_cons, List.length_append] at this
      omega
    rcases words_or_cut hd t' (pos + byteLength (w ++ g)) with
      ⟨v, ts, e, hv, he, h⟩ | ⟨f, hf⟩ | ⟨v, ts, e, u, f, hv, he, hu, h⟩
    · exact Or.inl ⟨w ++ g ++ v, _, e, .more hw hg hne hv, he, by rw [heq, h]; simp⟩
    · exact Or.inr (Or.inr ⟨w, _, g, d :: t', f, .one hw, hg, hf, by rw [heq]; simp⟩)
    · exact Or.inr (Or.inr
        ⟨w ++ g ++ v, _, e, u, f, .more hw hg hne hv, he, hu, by rw [heq, h]; simp⟩)
  · exact Or.inr (Or.inl hcut)
  · exact Or.inr (Or.inr ⟨w, _, [], u, f, .one hw, blanks_nil, hu, by rw [heq, List.append_nil]⟩)
  termination_by s.length

/-- Every text is a line or ends in a cut piece. -/
theorem isLine_or_endsCut (s : List Char) : (∃ ts, IsLine s ts) ∨ ∃ f, EndsCut s f := by
  obtain ⟨b, t, hb, rfl | ⟨c, r, rfl, hc⟩, rfl⟩ := blanks_split s
  · exact Or.inl ⟨[], by rw [List.append_nil]; exact .blank hb⟩
  rcases words_or_cut hc r (byteLength b) with
    ⟨v, ts, e, hv, he, h⟩ | ⟨f, hf⟩ | ⟨v, ts, e, u, f, hv, he, hu, h⟩
  · exact Or.inl ⟨ts, by rw [h, ← List.append_assoc]; exact .words hb hv he⟩
  · exact Or.inr ⟨f, b, [], c :: r, .blank hb, hf, rfl⟩
  · exact Or.inr ⟨f, b ++ v ++ e, ts, u, .words hb hv he, hu, by rw [h]; simp⟩

/-! ### The scanner accepts the grammar -/

theorem tokenize_of_isLine {s : List Char} {ts : List Token} (h : IsLine s ts) :
    tokenize s = .ok ts := by
  rw [tokenize, h.scan_eq]
  rfl

theorem tokenize_of_endsCut {s : List Char} {f : SyntaxFault} (h : EndsCut s f) :
    tokenize s = .error f := by
  obtain ⟨p, ts, u, hp, hu, rfl⟩ := h
  simp only [tokenize, hp.fault_append hu]

theorem tokenize_eq_ok_iff (s : List Char) (ts : List Token) :
    tokenize s = .ok ts ↔ IsLine s ts := by
  constructor
  · intro h
    rcases isLine_or_endsCut s with ⟨us, hs⟩ | ⟨f, hs⟩
    · rw [tokenize_of_isLine hs, Except.ok.injEq] at h
      exact h ▸ hs
    · rw [tokenize_of_endsCut hs] at h
      cases h
  · exact tokenize_of_isLine

theorem tokenize_eq_error_iff (s : List Char) (f : SyntaxFault) :
    tokenize s = .error f ↔ EndsCut s f := by
  constructor
  · intro h
    rcases isLine_or_endsCut s with ⟨us, hs⟩ | ⟨g, hs⟩
    · rw [tokenize_of_isLine hs] at h
      cases h
    · rw [tokenize_of_endsCut hs, Except.error.injEq] at h
      exact h ▸ hs
  · exact tokenize_of_endsCut

theorem blanks_of_tokens_nil {s : List Char} {pos : Nat}
    (h : (scanFrom .between pos s).scan.tokens = []) : Blanks s := by
  induction s generalizing pos with
  | nil => exact blanks_nil
  | cons c s ih =>
    cases hc : isBlank c with
    | true =>
      rw [scanFrom_between_blank hc] at h
      exact blanks_cons hc (ih h)
    | false =>
      rw [scanFrom_between_char hc] at h
      exact absurd h (List.cons_ne_nil _ _)

/-- A text in which the scanner finds no token is a line of nothing but blanks. -/
theorem scan_tokens_nil_iff (s : List Char) : (scan s).tokens = [] ↔ tokenize s = .ok [] := by
  constructor
  · intro h
    exact tokenize_of_isLine (.blank (blanks_of_tokens_nil h))
  · intro h
    rw [((tokenize_eq_ok_iff s []).mp h).scan_eq]

/-- Only two faults come of a cut piece. -/
theorem EndsCut.fault_cases {s : List Char} {f : SyntaxFault} (h : EndsCut s f) :
    f = .missingClosingQuote ∨ f = .noEscapedCharacter := by
  obtain ⟨_, _, _, _, hu, _⟩ := h
  cases hu with
  | single _ => exact Or.inl rfl
  | double _ => exact Or.inl rfl
  | backslash _ => exact Or.inl rfl
  | escape => exact Or.inr rfl

/-- **The scanner accepts exactly the grammar**: a text has tokens if and only if it is a line, and
they are the line's words. Any other text ends in a cut piece, and the message tells whether the end
of the text stands inside quotes or behind a backslash outside quotes. -/
theorem tokenize_grammar (s : List Char) :
    (∀ ts, tokenize s = .ok ts ↔ IsLine s ts) ∧
    (∀ f, tokenize s = .error f ↔ EndsCut s f) ∧
    (∀ message, (∃ f, tokenize s = .error f ∧ f.message = message) ↔
      message = "missing closing quote" ∧ EndsCut s .missingClosingQuote ∨
      message = "no escaped character" ∧ EndsCut s .noEscapedCharacter) := by
  refine ⟨tokenize_eq_ok_iff s, tokenize_eq_error_iff s, fun message => ?_⟩
  constructor
  · rintro ⟨f, hf, rfl⟩
    rw [tokenize_eq_error_iff] at hf
    rcases hf.fault_cases with rfl | rfl
    · exact Or.inl ⟨rfl, hf⟩
    · exact Or.inr ⟨rfl, hf⟩
  · rintro (⟨rfl, h⟩ | ⟨rfl, h⟩)
    · exact ⟨_, tokenize_of_endsCut h, rfl⟩
    · exact ⟨_, tokenize_of_endsCut h, rfl⟩

/-- Pieces in different styles touch and form one word. -/
example : tokenize "a\\ b'c d'\"\\\"\\e\"".toList = .ok [⟨"a bc d\"\\e", true, 0⟩] := by rfl

end RouterShell.Line
