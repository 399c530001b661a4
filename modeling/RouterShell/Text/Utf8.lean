import RouterShell.Text.Blank

/-!
# UTF-8 measures and bytes

Offsets into a typed line count UTF-8 bytes. This module measures texts in bytes, cuts a text at a
byte count, and reads the bytes that tools and files deliver: strictly (`decode`), or with every
ill-formed part replaced by U+FFFD (`decodeLossy`).

## What is stated

`byteLength` adds up over concatenation, and `takeBytes` and `dropBytes` cut a text into two parts: at the
length of a leading part, into this part and the rest.
-/

namespace RouterShell.Text

/-- The number of bytes of the text's UTF-8 form. -/
def byteLength : List Char → Nat
  | [] => 0
  | c :: rest => c.utf8Size + byteLength rest

@[simp] theorem byteLength_nil : byteLength [] = 0 := rfl

@[simp] theorem byteLength_cons (c : Char) (s : List Char) :
    byteLength (c :: s) = c.utf8Size + byteLength s := rfl

@[simp] theorem byteLength_append (s t : List Char) :
    byteLength (s ++ t) = byteLength s + byteLength t := by
  induction s with
  | nil => simp
  | cons c s ih => simp [ih, Nat.add_assoc]

/-- The longest leading part of at most `n` bytes: a count inside a character falls back to the
start of that character. -/
def takeBytes : Nat → List Char → List Char
  | _, [] => []
  | n, c :: rest => if c.utf8Size ≤ n then c :: takeBytes (n - c.utf8Size) rest else []

/-- What is left after `takeBytes`. -/
def dropBytes : Nat → List Char → List Char
  | _, [] => []
  | n, c :: rest => if c.utf8Size ≤ n then dropBytes (n - c.utf8Size) rest else c :: rest

theorem takeBytes_append_dropBytes (n : Nat) (s : List Char) :
    takeBytes n s ++ dropBytes n s = s := by
  induction s generalizing n with
  | nil => rfl
  | cons c s ih =>
    unfold takeBytes dropBytes
    split <;> simp [ih]

/-- Cutting between two texts gives the first one. -/
theorem takeBytes_append (s t : List Char) : takeBytes (byteLength s) (s ++ t) = s := by
  induction s with
  | nil =>
    cases t with
    | nil => rfl
    | cons c t => simp [takeBytes, Nat.not_le.mpr c.utf8Size_pos]
  | cons c s ih => simp [takeBytes, ih]

/-- Cutting between two texts leaves the second one. -/
theorem dropBytes_append (s t : List Char) : dropBytes (byteLength s) (s ++ t) = t := by
  induction s with
  | nil =>
    cases t with
    | nil => rfl
    | cons c t => simp [dropBytes, Nat.not_le.mpr c.utf8Size_pos]
  | cons c s ih => simp [dropBytes, ih]

/-- A text fits into its own length. -/
@[simp] theorem takeBytes_byteLength (s : List Char) : takeBytes (byteLength s) s = s := by
  have h := takeBytes_append s []
  rwa [List.append_nil] at h

/-- Nothing is left of a text behind its own length. -/
@[simp] theorem dropBytes_byteLength (s : List Char) : dropBytes (byteLength s) s = [] := by
  have h := dropBytes_append s []
  rwa [List.append_nil] at h

/-- The text that well-formed UTF-8 bytes spell. -/
def decode (bytes : List UInt8) : Option String :=
  String.fromUTF8? ⟨bytes.toArray⟩

/-- The UTF-8 form of a text. -/
def encode (s : String) : List UInt8 :=
  s.toUTF8.toList

/-- The range of the second byte and the number of bytes after the first, by the first byte of a
character of several bytes. -/
def leadByte (b : UInt8) : Option (UInt8 × UInt8 × Nat) :=
  if 0xC2 ≤ b && b ≤ 0xDF then some (0x80, 0xBF, 1)
  else if b == 0xE0 then some (0xA0, 0xBF, 2)
  else if b == 0xED then some (0x80, 0x9F, 2)
  else if 0xE1 ≤ b && b ≤ 0xEF then some (0x80, 0xBF, 2)
  else if b == 0xF0 then some (0x90, 0xBF, 3)
  else if b == 0xF4 then some (0x80, 0x8F, 3)
  else if 0xF1 ≤ b && b ≤ 0xF3 then some (0x80, 0xBF, 3)
  else none

/-- The number of leading bytes that continue a character, at most `n`. -/
def tailCount : Nat → List UInt8 → Nat
  | n + 1, b :: rest => if 0x80 ≤ b && b ≤ 0xBF then tailCount n rest + 1 else 0
  | _, _ => 0

/-- The number of bytes of the well-formed character, or of the longest part of one, that the bytes
start with (one for a byte that starts none), and whether the character is complete. -/
def firstUnit : List UInt8 → Nat × Bool
  | [] => (0, false)
  | b :: rest =>
    if b < 0x80 then (1, true)
    else match leadByte b, rest with
      | some (lo, hi, more), b₂ :: tail =>
        if lo ≤ b₂ && b₂ ≤ hi then
          let n := tailCount (more - 1) tail
          (n + 2, n == more - 1)
        else (1, false)
      | _, _ => (1, false)

/-- One step for each remaining byte at most: `fuel` is their number. -/
def decodeLossyFrom : Nat → List UInt8 → List Char
  | 0, _ => []
  | _, [] => []
  | fuel + 1, bytes =>
    let (n, complete) := firstUnit bytes
    let chars := if complete then ((decode (bytes.take n)).map String.toList).getD [] else ['\uFFFD']
    chars ++ decodeLossyFrom fuel (bytes.drop n)

/-- The text that bytes spell, with U+FFFD for every longest ill-formed part. -/
def decodeLossy (bytes : List UInt8) : String :=
  String.ofList (decodeLossyFrom bytes.length bytes)

/-- White space of ASCII, as bytes: space, tab, line feed, form feed, carriage return. -/
def isAsciiBlank (b : UInt8) : Bool :=
  b == 0x20 || b == 0x09 || b == 0x0A || b == 0x0C || b == 0x0D

end RouterShell.Text
