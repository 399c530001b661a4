import RouterShell.Proofs.Toml.Texts

/-!
# Documents, line by line

A document that is written has one statement on each line, blank lines apart. This module says what such a line
looks like, and proves that the lines are read as their statements, in order.

## The model

`Key` is a key of bare parts, `Written` a value in front of the end of its line, and `StatementLine` a line with a
pair or with the header of a table. `Document` goes through the lines.

## What is proved

Texts, truth values and numbers are written so that they read back (`written_text`, `written_bool`,
`written_nat`). Each line gives its statement, and leaves what stands behind it (`readStatement_line`). So a document
is read as its statements (`read_document`).
-/

namespace RouterShell.Toml

variable {run tail s w rest : List Char} {c : Char} {fuel : Nat}

/-! ### Numbers -/

/-- Digits up to the end of a line. -/
theorem readDigits_run (hne : run ≠ []) (hrun : ∀ c ∈ run, Decimal.isDigit c = true) (tail : List Char) :
    readDigits Decimal.isDigit (run ++ '\n' :: tail) = some (run, '\n' :: tail) := by
  induction run with
  | nil => exact absurd rfl hne
  | cons c run ih =>
    have hc := hrun c List.mem_cons_self
    have hrest := fun d hd => hrun d (List.mem_cons_of_mem c hd)
    cases run with
    | nil =>
      have hfeed : Decimal.isDigit '\n' = false := by decide
      simp [readDigits, hc, hfeed]
    | cons d run =>
      have hd := hrest d List.mem_cons_self
      have hunderscore : d ≠ '_' := by
        rintro rfl
        exact absurd hd (by decide)
      have hbehind := ih (List.cons_ne_nil d run) hrest
      rw [List.cons_append] at hbehind
      simp [readDigits, hc, hd, hunderscore, hbehind]

/-- A number of some digits takes no more than the digits before the end of the line. -/
theorem rest_of_readField {n lo hi v : Nat} (hrun : ∀ c ∈ run, Decimal.isDigit c = true)
    (h : readField n lo hi (run ++ '\n' :: tail) = some (v, s)) :
    ∃ left, (∀ c ∈ left, Decimal.isDigit c = true) ∧ s = left ++ '\n' :: tail := by
  simp only [readField] at h
  split at h
  · next hdigits =>
    split at h
    · obtain ⟨-, rfl⟩ := Prod.mk.inj (Option.some.inj h)
      have hle : n ≤ run.length := by
        by_contra hlt
        obtain ⟨m, hm⟩ : ∃ m, n - run.length = m + 1 := ⟨n - run.length - 1, by omega⟩
        rw [List.take_append, hm, List.take_succ_cons] at hdigits
        simp [Decimal.isDigit] at hdigits
      refine ⟨run.drop n, fun c hc => hrun c (List.mem_of_mem_drop hc), ?_⟩
      rw [List.drop_append_of_le_length hle]
    · cases h
  · cases h

theorem readChar_run (hrun : ∀ c ∈ run, Decimal.isDigit c = true) (hc : Decimal.isDigit c = false) (hline : '\n' ≠ c)
    (tail : List Char) : readChar c (run ++ '\n' :: tail) = none := by
  cases run with
  | nil => exact if_neg hline
  | cons d run =>
    refine if_neg ?_
    rintro rfl
    rw [hrun d List.mem_cons_self] at hc
    exact absurd hc (by decide)

/-- A field that a mark has to follow cannot be read from digits up to the end of a line. -/
theorem readField_then {α : Type} {further : Nat × List Char → Option α} (mark : Char)
    (hrun : ∀ c ∈ run, Decimal.isDigit c = true) (hmark : Decimal.isDigit mark = false ∧ '\n' ≠ mark)
    (hfurther : ∀ v s, readChar mark s = none → further (v, s) = none) (n lo hi : Nat) (tail : List Char) :
    (readField n lo hi (run ++ '\n' :: tail)).bind further = none := by
  cases hfield : readField n lo hi (run ++ '\n' :: tail) with
  | none => rfl
  | some p =>
    obtain ⟨left, hleft, hp⟩ := rest_of_readField hrun hfield
    exact hfurther p.1 p.2 (by rw [hp, readChar_run hleft hmark.1 hmark.2])

/-- Digits up to the end of a line are no date. -/
theorem readDate_run (hrun : ∀ c ∈ run, Decimal.isDigit c = true) (tail : List Char) :
    readDate (run ++ '\n' :: tail) = none := by
  have hday : readDay (run ++ '\n' :: tail) = none :=
    readField_then '-' hrun (by decide) (fun _ _ h => by simp [h]) 4 0 9999 tail
  have htime : readTime (run ++ '\n' :: tail) = none :=
    readField_then ':' hrun (by decide) (fun _ _ h => by simp [h]) 2 0 23 tail
  rw [readDate, hday, htime]
  rfl

/-- The digits of a number. -/
def digits (n : Nat) : List Char := (toString n).toList

theorem digits_eq (n : Nat) : digits n = Nat.toDigits 10 n := by
  rw [digits, Nat.toString_eq_repr, Nat.toList_repr]

theorem isDigit_of_mem_digits {n : Nat} : ∀ c ∈ digits n, Decimal.isDigit c = true := by
  rw [digits_eq]
  exact Decimal.isDigit_of_mem_toDigits

theorem digits_ne_nil (n : Nat) : digits n ≠ [] := by
  rw [digits_eq]
  exact Nat.toDigits_ne_nil

theorem exists_digit (n : Nat) : ∃ c r, digits n = c :: r ∧ Decimal.isDigit c = true := by
  obtain ⟨c, r, hcons⟩ := List.exists_cons_of_ne_nil (digits_ne_nil n)
  exact ⟨c, r, hcons, isDigit_of_mem_digits c (by rw [hcons]; exact List.mem_cons_self)⟩

/-- A number is zero or begins with another digit. -/
theorem digits_eq_zero_or (n : Nat) : digits n = ['0'] ∨ ∃ c r, digits n = c :: r ∧ c ≠ '0' := by
  rcases Nat.eq_zero_or_pos n with rfl | hpos
  · exact Or.inl (by decide)
  · obtain ⟨c, r, hcons, -⟩ := exists_digit n
    refine Or.inr ⟨c, r, hcons, fun hzero => Decimal.head?_toDigits_ne hpos ?_⟩
    rw [← digits_eq, hcons, hzero]
    rfl

theorem readSign_digits (n : Nat) (tail : List Char) :
    readSign (digits n ++ '\n' :: tail) = (false, digits n ++ '\n' :: tail) := by
  obtain ⟨c, r, hcons, hc⟩ := exists_digit n
  rw [hcons, List.cons_append, readSign]
  · rintro _ ⟨⟩
    exact absurd hc (by decide)
  · rintro _ ⟨⟩
    exact absurd hc (by decide)

theorem readDecimal_digits (n : Nat) (tail : List Char) :
    readDecimal (digits n ++ '\n' :: tail) = some (digits n, '\n' :: tail) := by
  rcases digits_eq_zero_or n with hzero | ⟨c, r, hcons, hc⟩
  · rw [hzero]
    rfl
  · rw [readDecimal, readDigits_run (digits_ne_nil n) isDigit_of_mem_digits]
    rw [hcons]
    rintro _ ⟨⟩
    exact hc rfl

/-- Digits up to the end of a line are no floating-point number. -/
theorem readFloat_digits (n : Nat) (tail : List Char) : readFloat (digits n ++ '\n' :: tail) = none := by
  obtain ⟨c, r, hcons, hc⟩ := exists_digit n
  rw [readFloat, readSign_digits]
  dsimp only
  split
  · next hs =>
    rw [hcons, List.cons_append] at hs
    rw [(List.cons.inj hs).1] at hc
    exact absurd hc (by decide)
  · next hs =>
    rw [hcons, List.cons_append] at hs
    rw [(List.cons.inj hs).1] at hc
    exact absurd hc (by decide)
  · rw [readDecimal_digits]
    rfl

/-- No digits name a base. -/
theorem digits_ne_base (n : Nat) {d : Char} (hd : d ≠ '\n') (tail rest : List Char) :
    digits n ++ '\n' :: tail ≠ '0' :: d :: rest := by
  intro hbase
  rcases digits_eq_zero_or n with hzero | ⟨c, r, hcons, hc⟩
  · rw [hzero] at hbase
    exact hd (List.cons.inj (List.cons.inj hbase).2).1.symm
  · rw [hcons] at hbase
    exact hc (List.cons.inj hbase).1

theorem readInteger_digits {n : Nat} (h : isInRange n = true) (tail : List Char) :
    readInteger (digits n ++ '\n' :: tail) = some (.integer n, '\n' :: tail) := by
  rw [readInteger]
  · rw [readSign_digits]
    dsimp only
    rw [readDecimal_digits, Option.bind_eq_bind, Option.bind_some, digits, Lookup.valueFrom_toString, integer?]
    exact if_pos h
  all_goals exact fun rest => digits_ne_base n (by decide) tail rest

theorem readNumber_digits {n : Nat} (h : isInRange n = true) (tail : List Char) :
    readNumber (digits n ++ '\n' :: tail) = some (.integer n, '\n' :: tail) := by
  rw [readNumber, readDate_run isDigit_of_mem_digits, readFloat_digits, readInteger_digits h]
  rfl

/-! ### Values -/

theorem not_isSpace {kind : Char → Bool} (hc : kind c = true) (hkind : kind ' ' = false ∧ kind '\t' = false) :
    isSpace c = false := by
  by_contra hspace
  simp only [isSpace, Bool.not_eq_false, Bool.or_eq_true, decide_eq_true_eq] at hspace
  rcases hspace with rfl | rfl
  · exact Bool.false_ne_true (hkind.1.symm.trans hc)
  · exact Bool.false_ne_true (hkind.2.symm.trans hc)

/-- A value in front of the end of its line. -/
structure Written (w : List Char) (v : Toml) : Prop where
  /-- It begins with no space. -/
  begins : ∃ c r, w = c :: r ∧ isSpace c = false
  /-- It is read as the value. -/
  reads : ∀ fuel depth tail, readValue (fuel + 1) depth (w ++ '\n' :: tail) = some (v, '\n' :: tail)

theorem written_bool (b : Bool) : Written (writeBool b).toList (.boolean b) := by
  cases b with
  | true => exact ⟨⟨'t', _, rfl, rfl⟩, fun _ _ _ => rfl⟩
  | false => exact ⟨⟨'f', _, rfl, rfl⟩, fun _ _ _ => rfl⟩

theorem written_nat {n : Nat} (h : isInRange n = true) : Written (digits n) (.integer n) := by
  obtain ⟨c, r, hcons, hc⟩ := exists_digit n
  refine ⟨⟨c, r, hcons, not_isSpace hc (by decide)⟩, fun fuel depth tail => ?_⟩
  rw [← readNumber_digits h, hcons, List.cons_append, readValue]
  · rintro ⟨⟩
  all_goals
    intro _ hs
    rw [(List.cons.inj hs).1] at hc
    exact absurd hc (by decide)

theorem writeIn_eq_cons (s : List Char) : ∃ r, writeIn (styleOf s) s = (styleOf s).quote :: r := by
  obtain ⟨w, -, hwritten⟩ := exists_body s
  rw [hwritten]
  cases hlong : (styleOf s).long with
  | true => exact ⟨_, enclose_of_long hlong w s⟩
  | false => exact ⟨_, enclose_of_not_long hlong w s⟩

theorem written_text (text : String) : Written (writeText text).toList (.string text) := by
  rw [writeText, String.toList_ofList]
  obtain ⟨r, hcons⟩ := writeIn_eq_cons text.toList
  refine ⟨⟨_, r, hcons, by cases styleOf text.toList <;> rfl⟩, fun fuel depth tail => ?_⟩
  have hread : readText (writeIn (styleOf text.toList) text.toList ++ '\n' :: tail) =
      some (text.toList, '\n' :: tail) :=
    readText_writeIn text.toList (.cons (decide_eq_false (styleOf text.toList).quote_ne_newline))
  have hvalue : ∀ (style : TextStyle) (s : List Char), readValue (fuel + 1) depth (style.quote :: s) =
      (readText (style.quote :: s)).map fun p => (.string (String.ofList p.1), p.2) := by
    intro style s
    cases style <;> rfl
  rw [hcons, List.cons_append] at hread ⊢
  rw [hvalue, hread, Option.map_some]
  dsimp only
  rw [String.ofList_toList]

/-! ### Keys -/

/-- A part of a key without quotes. -/
def Bare (part : List Char) : Prop := part ≠ [] ∧ ∀ c ∈ part, isBare c = true

instance (part : List Char) : Decidable (Bare part) :=
  decidable_of_iff ((!part.isEmpty && part.all isBare) = true) (by simp [Bare])

/-- A key of bare parts, and its parts. -/
inductive Key : List Char → List String → Prop where
  /-- The last part. -/
  | last {part : List Char} : Bare part → Key part [String.ofList part]
  /-- A part, a point, and further parts. -/
  | more {part key : List Char} {parts : List String} :
      Bare part → Key key parts → Key (part ++ '.' :: key) (String.ofList part :: parts)

/-- A key of one part. -/
theorem key_of_bare {name : String} (h : Bare name.toList) : Key name.toList [name] := by
  have hkey := Key.last h
  rwa [String.ofList_toList] at hkey

/-- A key with one part more in front. -/
theorem key_below (part : String) {key : List Char} {parts : List String} (h : Bare part.toList)
    (hkey : Key key parts) : Key (part.toList ++ '.' :: key) (part :: parts) := by
  have hmore := Key.more h hkey
  rwa [String.ofList_toList] at hmore

/-- What a bare part begins with is neither blank space nor a mark. -/
theorem Bare.head (h : Bare run) :
    ∃ c r, run = c :: r ∧ isSpace c = false ∧ c ∉ ['"', '\'', '[', '#', '\n', '\r', byteOrderMark] := by
  obtain ⟨hne, hbare⟩ := h
  obtain ⟨c, r, rfl⟩ := List.exists_cons_of_ne_nil hne
  have hc := hbare c List.mem_cons_self
  refine ⟨c, r, rfl, not_isSpace hc (by decide), fun hmark => ?_⟩
  simp only [List.mem_cons, List.not_mem_nil, or_false] at hmark
  rcases hmark with rfl | rfl | rfl | rfl | rfl | rfl | rfl <;> exact absurd hc (by decide)

theorem Key.head {key : List Char} {parts : List String} (h : Key key parts) :
    ∃ c r, key = c :: r ∧ isSpace c = false ∧ c ∉ ['"', '\'', '[', '#', '\n', '\r', byteOrderMark] := by
  cases h with
  | last h => exact h.head
  | more h _ =>
    obtain ⟨c, r, rfl, hspace, hmark⟩ := h.head
    exact ⟨c, _, List.cons_append, hspace, hmark⟩

theorem skipSpace_cons (h : isSpace c = false) (s : List Char) : skipSpace (c :: s) = c :: s :=
  List.dropWhile_cons_of_neg (by simp [h])

theorem readPart_bare (h : Bare run) (hrest : Stops isBare rest) : readPart (run ++ rest) = some (run, rest) := by
  obtain ⟨c, r, hcons, -, hmark⟩ := h.head
  simp only [List.mem_cons, not_or] at hmark
  have htake := takeWhile_run h.2 hrest
  have hdrop := dropWhile_run h.2 hrest
  rw [hcons, List.cons_append] at htake hdrop ⊢
  rw [readPart, htake, hdrop]
  · rfl
  · rintro _ ⟨⟩
    exact hmark.1 rfl
  · rintro _ ⟨⟩
    exact hmark.2.1 rfl

/-- What ends a key: after blank space, something that is no point. -/
structure EndsKey (rest : List Char) : Prop where
  /-- It does not go on the last part. -/
  stops : Stops isBare rest
  /-- It does not add a part. -/
  no_point : Stops (· = '.') (skipSpace rest)

/-- A key is read as its parts. Each part takes one unit of fuel and at least one character. -/
theorem readParts_key {key : List Char} {parts : List String} (h : Key key parts) (hfuel : key.length < fuel)
    (hrest : EndsKey rest) : readParts fuel (key ++ rest) = some (parts, skipSpace rest) := by
  induction h generalizing fuel with
  | last h =>
    obtain ⟨fuel, rfl⟩ : ∃ n, fuel = n + 1 := ⟨fuel - 1, by omega⟩
    obtain ⟨c, r, hcons, hspace, -⟩ := h.head
    have hpart := readPart_bare h hrest.stops
    rw [hcons, List.cons_append] at hpart ⊢
    rw [readParts, skipSpace_cons hspace, hpart, Option.bind_eq_bind, Option.bind_some]
    dsimp only
    split
    · next hpoint =>
      exact absurd (hrest.no_point '.' (by rw [hpoint]; rfl)) (by decide)
    · rfl
  | @more part key parts h hkey ih =>
    rw [List.length_append, List.length_cons] at hfuel
    obtain ⟨fuel, rfl⟩ : ∃ n, fuel = n + 1 := ⟨fuel - 1, by omega⟩
    obtain ⟨c, r, hcons, hspace, -⟩ := h.head
    have hpart : readPart (part ++ '.' :: (key ++ rest)) = some (part, '.' :: (key ++ rest)) :=
      readPart_bare h (.cons (by decide))
    rw [List.append_assoc, List.cons_append]
    rw [hcons, List.cons_append] at hpart ⊢
    rw [readParts, skipSpace_cons hspace, hpart, Option.bind_eq_bind, Option.bind_some]
    dsimp only
    rw [skipSpace_cons (by decide)]
    show (readParts fuel (key ++ rest)).bind _ = _
    rw [ih (by omega)]
    rfl

theorem readKey_key {key : List Char} {path : List String} {name : String} (h : Key key (path ++ [name]))
    (hdepth : path.length + 1 < depthLimit) (hrest : EndsKey rest) :
    readKey (key ++ rest) = some ((path, name), skipSpace rest) := by
  have hparts : readParts ((key ++ rest).length + 1) (key ++ rest) = some (path ++ [name], skipSpace rest) :=
    readParts_key h (by rw [List.length_append]; omega) hrest
  rw [readKey, hparts, Option.bind_eq_bind, Option.bind_some]
  dsimp only
  rw [List.getLast?_concat, Option.bind_eq_bind, Option.bind_some, List.dropLast_concat, List.length_append,
    List.length_singleton]
  exact if_neg (Nat.not_le_of_lt hdepth)

/-! ### Lines -/

/-- A line with a statement. -/
inductive StatementLine : List Char → Statement → Prop where
  /-- A setting. -/
  | pair {key w : List Char} {name : String} {v : Toml} :
      Key key [name] → Written w v → StatementLine (key ++ (" = ".toList ++ w)) (.pair [] name v)
  /-- The header of a table. -/
  | header {key : List Char} {path : List String} {name : String} :
      Key key (path ++ [name]) → path.length + 1 < depthLimit →
      StatementLine ('[' :: (key ++ [']'])) (.header path name)

variable {line : List Char} {st : Statement}

/-- A line gives its statement and leaves what stands behind it. -/
theorem readStatement_line (h : StatementLine line st) (tail : List Char) :
    readStatement (line ++ '\n' :: tail) = some (st, tail) := by
  cases h with
  | @pair key w name v hkey hw =>
    obtain ⟨c, r, hcons, -, hmark⟩ := hkey.head
    obtain ⟨d, r', hd, hspace⟩ := hw.begins
    simp only [List.mem_cons, not_or] at hmark
    have hname : Key key ([] ++ [name]) := hkey
    have hread : readKey (key ++ (" = ".toList ++ w) ++ '\n' :: tail) =
        some (([], name), '=' :: ' ' :: (w ++ '\n' :: tail)) := by
      rw [List.append_assoc, List.append_assoc]
      exact readKey_key hname (by decide) ⟨.cons rfl, .cons rfl⟩
    have hvalue : skipSpace (' ' :: (w ++ '\n' :: tail)) = w ++ '\n' :: tail := by
      rw [hd, List.cons_append]
      exact skipSpace_cons hspace _
    have hfirst : ∀ rest, key ++ (" = ".toList ++ w) ++ '\n' :: tail ≠ '[' :: rest := by
      intro rest hbracket
      rw [hcons] at hbracket
      exact hmark.2.2.1 (List.cons.inj hbracket).1
    rw [readStatement, hread]
    · show (readValue _ 0 (skipSpace (' ' :: (w ++ '\n' :: tail)))).bind _ = _
      rw [hvalue, hw.reads]
      rfl
    · exact fun rest => hfirst ('[' :: rest)
    · exact hfirst
  | @header key path name hkey hdepth =>
    obtain ⟨c, r, hcons, -, hmark⟩ := hkey.head
    simp only [List.mem_cons, not_or] at hmark
    have hread : readKey (key ++ ([']'] ++ '\n' :: tail)) = some ((path, name), ']' :: '\n' :: tail) :=
      readKey_key hkey hdepth ⟨.cons rfl, .cons rfl⟩
    rw [List.cons_append, List.append_assoc, readStatement, hread]
    · rfl
    · rintro rest hbracket
      rw [hcons] at hbracket
      exact hmark.2.2.1 (List.cons.inj hbracket).1

/-! ### Documents -/

/-- The lines of a document and its statements, in order. -/
inductive Document : List (List Char) → List Statement → Prop where
  /-- No lines. -/
  | nil : Document [] []
  /-- A blank line. -/
  | blank {lines : List (List Char)} {sts : List Statement} : Document lines sts → Document ([] :: lines) sts
  /-- A line with a statement. -/
  | statement {line : List Char} {st : Statement} {lines : List (List Char)} {sts : List Statement} :
      StatementLine line st → Document lines sts → Document (line :: lines) (st :: sts)

theorem Document.append {lines lines' : List (List Char)} {sts sts' : List Statement} (h : Document lines sts)
    (h' : Document lines' sts') : Document (lines ++ lines') (sts ++ sts') := by
  induction h with
  | nil => exact h'
  | blank _ ih => exact .blank ih
  | statement hline _ ih => exact .statement hline ih

/-- Lines, each with its end. -/
def ended (lines : List (List Char)) : List Char := lines.flatMap fun line => line ++ ['\n']

theorem StatementLine.head (h : StatementLine line st) :
    ∃ c r, line = c :: r ∧ isSpace c = false ∧ c ∉ ['#', '\n', '\r', byteOrderMark] := by
  cases h with
  | pair hkey _ =>
    obtain ⟨c, r, rfl, hspace, hmark⟩ := hkey.head
    refine ⟨c, _, List.cons_append, hspace, fun hc => hmark ?_⟩
    simp only [List.mem_cons, List.not_mem_nil, or_false] at hc ⊢
    tauto
  | header _ _ => exact ⟨'[', _, rfl, rfl, by decide⟩

/-- The lines of a document are read as its statements. Each line takes one unit of fuel and at least its end. -/
theorem readStatements_document {lines : List (List Char)} {sts : List Statement} (h : Document lines sts)
    (hfuel : (ended lines).length < fuel) : readStatements fuel (ended lines) = some sts := by
  induction h generalizing fuel with
  | nil =>
    obtain ⟨fuel, rfl⟩ : ∃ n, fuel = n + 1 := ⟨fuel - 1, by omega⟩
    rfl
  | @blank lines sts _ ih =>
    have hended : ended ([] :: lines) = '\n' :: ended lines := rfl
    rw [hended, List.length_cons] at hfuel
    obtain ⟨fuel, rfl⟩ : ∃ n, fuel = n + 1 := ⟨fuel - 1, by omega⟩
    rw [hended]
    exact ih (by omega)
  | @statement line st lines sts hline _ ih =>
    have hended : ended (line :: lines) = line ++ '\n' :: ended lines := by
      rw [ended, List.flatMap_cons, List.append_assoc, List.singleton_append]
      rfl
    rw [hended, List.length_append, List.length_cons] at hfuel
    obtain ⟨fuel, rfl⟩ : ∃ n, fuel = n + 1 := ⟨fuel - 1, by omega⟩
    obtain ⟨c, r, hcons, hspace, hmark⟩ := hline.head
    simp only [List.mem_cons, not_or] at hmark
    have hread := readStatement_line hline (ended lines)
    have hnewline : readNewline (c :: (r ++ '\n' :: ended lines)) = none := by
      simp [readNewline, hmark.2.1, hmark.2.2.1]
    rw [hended]
    rw [hcons, List.cons_append] at hread ⊢
    rw [readStatements, skipSpace_cons hspace]
    split
    · next hnil => cases hnil
    · next hcomment => exact absurd (List.cons.inj hcomment).1 hmark.1
    · rw [hnewline]
      dsimp only
      rw [hread]
      dsimp only
      rw [ih (by omega)]
      rfl

/-- A document is read as its statements. -/
theorem read_document {lines : List (List Char)} {sts : List Statement} (h : Document lines sts) :
    Toml.read (String.ofList (ended lines)) = ofStatements sts := by
  have hmark : (ended lines).head? ≠ some byteOrderMark := by
    cases h with
    | nil => decide
    | blank _ =>
      rintro ⟨⟩
    | statement hline _ =>
      obtain ⟨c, r, rfl, -, hmark⟩ := hline.head
      rintro ⟨⟩
      exact hmark (by simp)
  rw [Toml.read, String.toList_ofList, if_neg hmark, readStatements_document h (Nat.lt_succ_self _)]
  rfl

end RouterShell.Toml
