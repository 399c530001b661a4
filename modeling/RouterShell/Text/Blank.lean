/-!
# White space

A character is *blank* when Unicode gives it the property `White_Space`. Typed lines are cut into
words at blanks, and table rows and replies of tools are trimmed of them, so one class serves the
whole library.

## What is stated

`cutAtBlank` cuts a text at its first blank and loses nothing (`append_of_cutAtBlank`).
-/

namespace RouterShell.Text

/-- The characters with the Unicode property `White_Space`. -/
def isBlank (c : Char) : Bool :=
  let n := c.toNat
  (9 ≤ n && n ≤ 13) || n == 0x20 || n == 0x85 || n == 0xA0 || n == 0x1680 ||
    (0x2000 ≤ n && n ≤ 0x200A) || n == 0x2028 || n == 0x2029 || n == 0x202F || n == 0x205F ||
    n == 0x3000

/-- The text without the blanks it starts with. -/
def trimStart (s : List Char) : List Char :=
  s.dropWhile isBlank

/-- The text without the blanks it ends with. -/
def trimEnd (s : List Char) : List Char :=
  (s.reverse.dropWhile isBlank).reverse

/-- The text without the blanks at either end. -/
def trim (s : List Char) : List Char :=
  trimEnd (trimStart s)

/-- A word put in front of a list of words, unless it is empty. -/
def pushWord (w : List Char) (ws : List (List Char)) : List (List Char) :=
  if w.isEmpty then ws else w :: ws

/-- The word a text starts with (empty before a blank) and the words after it. -/
def splitWords : List Char → List Char × List (List Char)
  | [] => ([], [])
  | c :: rest =>
    let (w, ws) := splitWords rest
    if isBlank c then ([], pushWord w ws) else (c :: w, ws)

/-- The maximal runs of characters that are not blank, in order. -/
def words (s : List Char) : List (List Char) :=
  let (w, ws) := splitWords s
  pushWord w ws

/-- The text before the first blank and the text from it on, if there is a blank. -/
def cutAtBlank (s : List Char) : Option (List Char × List Char) :=
  match s.dropWhile (fun c => !isBlank c) with
  | [] => none
  | rest => some (s.takeWhile (fun c => !isBlank c), rest)

/-- Whether the last character is a blank. -/
def endsBlank (s : List Char) : Bool :=
  s.getLast?.any isBlank

/-- A text that starts with no blank is left alone by `trimStart`. -/
theorem trimStart_cons_of_not_blank {c : Char} {s : List Char} (h : isBlank c = false) :
    trimStart (c :: s) = c :: s := by
  simp [trimStart, h]

/-- Cutting loses nothing: the two parts join to the text. -/
theorem append_of_cutAtBlank {s word rest : List Char} (h : cutAtBlank s = some (word, rest)) :
    word ++ rest = s := by
  unfold cutAtBlank at h
  split at h
  · cases h
  · next hne =>
    cases h
    exact List.takeWhile_append_dropWhile

end RouterShell.Text
