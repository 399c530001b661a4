import Mathlib.Data.List.Basic
import RouterShell.Text.Lines
import RouterShell.Text.Utf8

/-!
# Lines and texts, apart from how they are read

Files and the output of tools come as bytes. They are cut into lines first and decoded line by line. This
module says what the lines of a run of bytes are without cutting anything, and which bytes are a text without
decoding them, and proves that cutting and decoding find just these. Reading line by line, which cuts and decodes
until it fails, is what files of names and the output of programs in the background have in common.

## The model

`Lined` relates a list to its lines, with one case for each way in which a line can end. `utf8` writes down the
bytes of a text, one character after the other, and `IsText` says of bytes that some text has them.

## What is proved

Every list has lines, and only those that `splitLines` finds (`splitLines_eq_iff`). Bytes decode to a text if and
only if they are the bytes of this text (`decode_eq_some_iff`). Texts are read line by line if and only if they stand
on the first lines and a line that is no text, or nothing, is behind them (`textLines_eq_iff`).
-/

namespace RouterShell.Text

/-! ### Lines -/

section Lines

variable {α : Type} {feed ret : α} {s line rest : List α} {ls : List (List α)}

/-- A list and its lines. -/
inductive Lined (feed ret : α) : List α → List (List α) → Prop where
  /-- Nothing has no lines. -/
  | nil : Lined feed ret [] []
  /-- What follows the last feed is a line unless it is empty. -/
  | last {line : List α} : line ≠ [] → feed ∉ line → Lined feed ret line [line]
  /-- A feed ends a line. -/
  | fed {line rest : List α} {ls : List (List α)} :
      feed ∉ line → line.getLast? ≠ some ret → Lined feed ret rest ls →
      Lined feed ret (line ++ feed :: rest) (line :: ls)
  /-- A return right before the feed is a part of the line's end. -/
  | returned {line rest : List α} {ls : List (List α)} :
      feed ∉ line → Lined feed ret rest ls → Lined feed ret (line ++ ret :: feed :: rest) (line :: ls)

/-- Every list has lines. The recursion is on what stands behind the first feed. -/
theorem exists_lined (feed ret : α) (s : List α) : ∃ ls, Lined feed ret s ls := by
  by_cases hfeed : feed ∈ s
  · obtain ⟨line, rest, hs, hline⟩ := List.eq_append_cons_of_mem hfeed
    obtain ⟨ls, hls⟩ := exists_lined feed ret rest
    rw [hs]
    by_cases hret : line.getLast? = some ret
    · obtain ⟨line', rfl⟩ := List.getLast?_eq_some_iff.mp hret
      have hline' : feed ∉ line' := fun h => hline (List.mem_append_left [ret] h)
      rw [List.append_assoc]
      exact ⟨line' :: ls, .returned hline' hls⟩
    · exact ⟨line :: ls, .fed hline hret hls⟩
  · cases s with
    | nil => exact ⟨[], .nil⟩
    | cons c s => exact ⟨[c :: s], .last (List.cons_ne_nil c s) hfeed⟩
termination_by s.length
decreasing_by
  rw [hs, List.length_append, List.length_cons]
  omega

variable [BEq α]

/-- Of a part, only the last two elements matter. -/
theorem stripEnd_cons (c : α) (h : 2 ≤ s.length) : stripEnd feed ret (c :: s) = c :: stripEnd feed ret s := by
  match s, h with
  | _ :: _ :: _, _ => rfl

variable [LawfulBEq α]

theorem stripEnd_fed (h : line.getLast? ≠ some ret) : stripEnd feed ret (line ++ [feed]) = line := by
  induction line with
  | nil => simp [stripEnd]
  | cons c line ih =>
    cases line with
    | nil =>
      have hc : c ≠ ret := fun hc => h (by rw [hc]; rfl)
      simp [stripEnd, hc]
    | cons d line =>
      rw [List.getLast?_cons_cons] at h
      rw [List.cons_append, stripEnd_cons c (by simp), ih h]

theorem stripEnd_returned (line : List α) : stripEnd feed ret (line ++ [ret, feed]) = line := by
  induction line with
  | nil => simp [stripEnd]
  | cons c line ih => rw [List.cons_append, stripEnd_cons c (by simp), ih]

theorem stripEnd_of_not_mem (h : feed ∉ s) : stripEnd feed ret s = s := by
  fun_induction stripEnd feed ret s with
  | case1 => rfl
  | case2 c hc => exact absurd (by simpa using hc) (List.ne_of_not_mem_cons h).symm
  | case3 => rfl
  | case4 c d rest hend =>
    have hd : d = feed := by simp only [Bool.and_eq_true, beq_iff_eq] at hend; exact hend.2
    exact absurd (by simp [hd]) h
  | case5 c d rest _ ih => rw [ih fun hmem => h (List.mem_cons_of_mem c hmem)]

theorem pieces_of_not_mem (hne : s ≠ []) (h : feed ∉ s) : pieces feed s = [s] := by
  induction s with
  | nil => exact absurd rfl hne
  | cons c s ih =>
    rw [List.mem_cons, not_or] at h
    rw [pieces, if_neg (by simpa using Ne.symm h.1)]
    cases s with
    | nil => rfl
    | cons d s => rw [ih (List.cons_ne_nil d s) h.2]

theorem pieces_append_feed (h : feed ∉ line) (rest : List α) :
    pieces feed (line ++ feed :: rest) = (line ++ [feed]) :: pieces feed rest := by
  induction line with
  | nil => rw [List.nil_append, pieces, if_pos (beq_self_eq_true feed), List.nil_append]
  | cons c line ih =>
    rw [List.mem_cons, not_or] at h
    rw [List.cons_append, pieces, if_neg (by simpa using Ne.symm h.1), ih h.2]
    rfl

/-- The lines of a list are those that cutting finds. -/
theorem Lined.splitLines_eq (hret : ret ≠ feed) (h : Lined feed ret s ls) : splitLines feed ret s = ls := by
  induction h with
  | nil => rfl
  | last hne hline =>
    rw [splitLines, pieces_of_not_mem hne hline, List.map_singleton, stripEnd_of_not_mem hline]
  | fed hline hlast _ ih =>
    rw [splitLines, pieces_append_feed hline, List.map_cons, stripEnd_fed hlast, ← splitLines, ih]
  | @returned line rest ls hline _ ih =>
    have hline' : feed ∉ line ++ [ret] := by simp [hline, hret.symm]
    rw [List.append_cons, splitLines, pieces_append_feed hline', List.map_cons, List.append_assoc,
      List.singleton_append, stripEnd_returned, ← splitLines, ih]

/-- **Cutting finds the lines of a list**, all of them and no others. -/
theorem splitLines_eq_iff (hret : ret ≠ feed) : splitLines feed ret s = ls ↔ Lined feed ret s ls := by
  refine ⟨fun h => ?_, Lined.splitLines_eq hret⟩
  obtain ⟨ls', hls'⟩ := exists_lined feed ret s
  rwa [← h, hls'.splitLines_eq hret]

end Lines

variable {bytes : List UInt8}

/-- The lines of bytes. -/
theorem lined_iff {lines : List (List UInt8)} : Lined 0x0A 0x0D bytes lines ↔ byteLines bytes = lines :=
  (splitLines_eq_iff (by decide)).symm

/-! ### Texts -/

/-- The bytes of a text. -/
def utf8 (s : List Char) : List UInt8 := s.flatMap String.utf8EncodeChar

theorem toByteArray_eq (s : String) : s.toByteArray = ⟨(utf8 s.toList).toArray⟩ := by
  rw [← String.utf8Encode_toList, List.utf8Encode, utf8]
  exact ByteArray.ext List.data_toByteArray

/-- **Bytes decode to a text if and only if they are its bytes.** -/
theorem decode_eq_some_iff {s : String} : decode bytes = some s ↔ utf8 s.toList = bytes := by
  constructor
  · intro h
    rw [decode, String.fromUTF8?] at h
    split at h
    · next hvalid =>
      obtain rfl : String.fromUTF8 ⟨bytes.toArray⟩ hvalid = s := Option.some.inj h
      have hbytes := toByteArray_eq (String.fromUTF8 ⟨bytes.toArray⟩ hvalid)
      exact (List.toArray_inj (congrArg ByteArray.data hbytes)).symm
    · cases h
  · rintro rfl
    rw [decode, String.fromUTF8?, ← toByteArray_eq, dif_pos s.isValidUTF8]
    rfl

theorem decode_utf8 (s : String) : decode (utf8 s.toList) = some s := decode_eq_some_iff.mpr rfl

/-- The bytes of some text. -/
def IsText (bytes : List UInt8) : Prop := ∃ s, utf8 s = bytes

theorem isText_iff : IsText bytes ↔ (decode bytes).isSome = true := by
  rw [Option.isSome_iff_exists]
  constructor
  · rintro ⟨s, hs⟩
    exact ⟨String.ofList s, decode_eq_some_iff.mpr (by rwa [String.toList_ofList])⟩
  · rintro ⟨s, hs⟩
    exact ⟨s.toList, decode_eq_some_iff.mp hs⟩

theorem decode_eq_none_iff : decode bytes = none ↔ ¬ IsText bytes := by
  rw [isText_iff, Bool.not_eq_true, Option.isSome_eq_false_iff, Option.isNone_iff_eq_none]

/-! ### Texts line by line -/

/-- The lines that texts are written on. -/
def linesOf (texts : List String) : List (List UInt8) := texts.map fun s => utf8 s.toList

theorem linesOf_cons (s : List Char) (texts : List String) :
    linesOf (String.ofList s :: texts) = utf8 s :: linesOf texts := by
  rw [linesOf, List.map_cons, String.toList_ofList, linesOf]

theorem isText_of_mem_linesOf {texts : List String} {l : List UInt8} (h : l ∈ linesOf texts) : IsText l := by
  obtain ⟨s, -, hs⟩ := List.mem_map.mp h
  exact ⟨s.toList, hs⟩

theorem exists_linesOf {lines : List (List UInt8)} (h : ∀ l ∈ lines, IsText l) : ∃ texts, linesOf texts = lines := by
  induction lines with
  | nil => exact ⟨[], rfl⟩
  | cons l lines ih =>
    obtain ⟨hl, hlines⟩ := List.forall_mem_cons.mp h
    obtain ⟨s, rfl⟩ := hl
    obtain ⟨texts, rfl⟩ := ih hlines
    exact ⟨String.ofList s :: texts, linesOf_cons s texts⟩

theorem map_decode_linesOf (texts : List String) : (linesOf texts).map decode = texts.map some := by
  rw [linesOf, List.map_map]
  exact List.map_congr_left fun s _ => decode_utf8 s

theorem filterMap_decode_linesOf (texts : List String) : (linesOf texts).filterMap decode = texts := by
  rw [linesOf, List.filterMap_map, show (decode ∘ fun s : String => utf8 s.toList) = some from funext decode_utf8,
    List.filterMap_some]

/-- Lines up to the first one that is no text are those of some texts. -/
theorem exists_lost (lines : List (List UInt8)) :
    ∃ texts lost, lines = linesOf texts ++ lost ∧ ∀ l, lost.head? = some l → ¬ IsText l := by
  induction lines with
  | nil => exact ⟨[], [], rfl, fun _ h => by cases h⟩
  | cons bytes lines ih =>
    by_cases hbytes : IsText bytes
    · obtain ⟨s, rfl⟩ := hbytes
      obtain ⟨texts, lost, rfl, hlost⟩ := ih
      exact ⟨String.ofList s :: texts, lost, by rw [linesOf_cons, List.cons_append], hlost⟩
    · refine ⟨[], bytes :: lines, rfl, ?_⟩
      rintro l ⟨⟩
      exact hbytes

theorem textLines_eq {texts : List String} {lost : List (List UInt8)} (hlines : byteLines bytes = linesOf texts ++ lost)
    (hlost : ∀ l, lost.head? = some l → ¬ IsText l) : textLines bytes = texts := by
  have hnone : (lost.map decode).takeWhile Option.isSome = [] := by
    cases lost with
    | nil => rfl
    | cons l lost => rw [List.map_cons, decode_eq_none_iff.mpr (hlost l rfl), List.takeWhile_cons_of_neg (by simp)]
  rw [textLines, hlines, List.map_append, map_decode_linesOf, List.takeWhile_append_of_pos (by simp), hnone,
    List.append_nil, List.filterMap_map, Function.id_comp, List.filterMap_some]

/-- **Reading line by line gives the texts in front of the first line that is no text**, each once and in their
order. -/
theorem textLines_eq_iff {texts : List String} :
    textLines bytes = texts ↔
      ∃ lost, Lined 0x0A 0x0D bytes (linesOf texts ++ lost) ∧ ∀ l, lost.head? = some l → ¬ IsText l := by
  constructor
  · rintro rfl
    obtain ⟨texts, lost, hlines, hlost⟩ := exists_lost (byteLines bytes)
    rw [textLines_eq hlines hlost]
    exact ⟨lost, lined_iff.mpr hlines, hlost⟩
  · rintro ⟨lost, hlines, hlost⟩
    exact textLines_eq (lined_iff.mp hlines) hlost

end RouterShell.Text
