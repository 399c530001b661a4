import RouterShell.Host.Launch
import RouterShell.Proofs.Text.Lines

/-!
# Lines of a program in the background

A program in the background is read line by line while it runs, and each line that is a text is handed on. What a
program writes can be any bytes, and a monitor that misses lines shows less than what happens. This module says which
lines are handed on, for every program on every host.

## The model

`TextsOf` goes through lines and takes down those that are texts, whatever the bytes of the others are.

## What is proved

The lines up to the first one that is no text are handed on, each once and in their order (`stream_delivers`). No
text is lost if and only if none stands behind that line, and one can stand there (`text_behind_bytes_lost`).
-/

namespace RouterShell

open Text

/-! ### Lines that are texts -/

/-- The texts among lines, in order. -/
inductive TextsOf : List (List UInt8) → List String → Prop where
  /-- No lines, no texts. -/
  | nil : TextsOf [] []
  /-- A line that is a text. -/
  | text {s : String} {lines : List (List UInt8)} {texts : List String} :
      TextsOf lines texts → TextsOf (utf8 s.toList :: lines) (s :: texts)
  /-- Any other line. -/
  | other {bytes : List UInt8} {lines : List (List UInt8)} {texts : List String} :
      ¬ IsText bytes → TextsOf lines texts → TextsOf (bytes :: lines) texts

theorem textsOf_iff {lines : List (List UInt8)} {texts : List String} :
    TextsOf lines texts ↔ lines.filterMap decode = texts := by
  constructor
  · intro h
    induction h with
    | nil => rfl
    | text _ ih => rw [List.filterMap_cons_some (decode_eq_some_iff.mpr rfl), ih]
    | other hbytes _ ih => rw [List.filterMap_cons_none (decode_eq_none_iff.mpr hbytes), ih]
  · rintro rfl
    induction lines with
    | nil => exact .nil
    | cons bytes lines ih =>
      cases hdecode : decode bytes with
      | none =>
        rw [List.filterMap_cons_none hdecode]
        exact .other (decode_eq_none_iff.mp hdecode) ih
      | some s =>
        rw [List.filterMap_cons_some hdecode, ← decode_eq_some_iff.mp hdecode]
        exact .text ih

/-- Behind texts, no text is missed if and only if there is none. -/
theorem textsOf_append_iff {texts : List String} {lost : List (List UInt8)} :
    TextsOf (linesOf texts ++ lost) texts ↔ ∀ l ∈ lost, ¬ IsText l := by
  rw [textsOf_iff, List.filterMap_append, filterMap_decode_linesOf, List.append_right_eq_self,
    List.filterMap_eq_nil_iff]
  simp only [decode_eq_none_iff]

/-! ### Reading in the background -/

namespace Host

/-- **A program in the background has its lines handed on up to the first one that is no text**, each once and in
their order, whatever it writes. No text is lost if and only if none stands behind that line. -/
theorem stream_delivers (h : Host) (run : Run) :
    (∃ e, h.start run = .error e ∧ h.stream run = .error (.cannotRun run.exe e)) ∨
    ∃ p texts lost, h.start run = .ok p ∧ h.stream run = .ok texts ∧
      Lined 0x0A 0x0D p.output (linesOf texts ++ lost) ∧ (∀ l, lost.head? = some l → ¬ IsText l) ∧
      (TextsOf (linesOf texts ++ lost) texts ↔ ∀ l ∈ lost, ¬ IsText l) := by
  rw [stream]
  cases h.start run with
  | error e => exact Or.inl ⟨e, rfl, rfl⟩
  | ok p =>
    obtain ⟨lost, hlines, hlost⟩ := textLines_eq_iff.mp (rfl : textLines p.output = _)
    exact Or.inr ⟨p, textLines p.output, lost, rfl, rfl, hlines, hlost, textsOf_append_iff⟩

/-- A line that is no text stands between two texts. It hides the second one, which the program has written all the
same. -/
theorem text_behind_bytes_lost :
    let bytes : List UInt8 := [97, 10, 255, 10, 98, 10]
    let lines : List (List UInt8) := [[97], [255], [98]]
    let host : Host := ⟨⟨[(["bin", "ip"], .file 0o755 [])], []⟩, [], fun _ => ⟨bytes, [], fun _ => .exited 0, 0⟩⟩
    Lined 0x0A 0x0D bytes lines ∧ TextsOf lines ["a", "b"] ∧
      host.stream ⟨"/bin/ip", []⟩ = .ok ["a"] ∧ host.stream ⟨"/bin/ip", []⟩ ≠ .ok ["a", "b"] := by
  intro bytes lines host
  have hstream : host.stream ⟨"/bin/ip", []⟩ = .ok ["a"] := by decide +kernel
  refine ⟨lined_iff.mpr (by decide), textsOf_iff.mpr (by decide), hstream, ?_⟩
  rw [hstream]
  simp

end Host

end RouterShell
