import RouterShell.Unicode.Case
import RouterShell.Unicode.Categories

/-!
# Characters as they are seen

What a reader sees as one character may be several code points: a letter with its accents, a syllable
of Hangul, a flag, an emoji put together from others. `clusters` cuts a text into these units, by the
rules for extended grapheme clusters.

## The model

Every character has one role. Whether two neighbours belong together depends on their roles, on
whether an odd number of regional indicators stands before the boundary, on whether an emoji and a
joiner do, and on whether a consonant and a sign that links consonants do.
-/

namespace RouterShell.Unicode

/-- What a character contributes to the boundaries between clusters. -/
inductive ClusterRole where
  /-- A carriage return. -/
  | carriageReturn
  /-- A line feed. -/
  | lineFeed
  /-- A control character; it stands alone. -/
  | control
  /-- A mark on what is before it. -/
  | mark
  /-- The zero width joiner. -/
  | joiner
  /-- A regional indicator; two of them make a flag. -/
  | regional
  /-- A sign that belongs to what is after it. -/
  | lead
  /-- A mark that takes room of its own. -/
  | spacing
  /-- A leading consonant of a Hangul syllable. -/
  | hangulL
  /-- A vowel of a Hangul syllable. -/
  | hangulV
  /-- A trailing consonant of a Hangul syllable. -/
  | hangulT
  /-- A Hangul syllable without a trailing consonant. -/
  | hangulLV
  /-- A Hangul syllable with a trailing consonant. -/
  | hangulLVT
  /-- An emoji. -/
  | pictograph
  /-- Any other character. -/
  | other
  deriving DecidableEq, Repr

/-- Signs that belong to what is after them. -/
def leadSigns : CharSet :=
  ⟨[(0x600, 0x605), (0x6DD, 0x6DD), (0x70F, 0x70F), (0x890, 0x891), (0x8E2, 0x8E2), (0xD4E, 0xD4E),
    (0x110BD, 0x110BD), (0x110CD, 0x110CD), (0x111C2, 0x111C3), (0x1193F, 0x1193F),
    (0x11941, 0x11941), (0x11A3A, 0x11A3A), (0x11A84, 0x11A89), (0x11D46, 0x11D46),
    (0x11F02, 0x11F02)]⟩

/-- Spacing marks that do not attach to what is before them. -/
def looseMarks : CharSet :=
  ⟨[(0x102B, 0x102C), (0x1038, 0x1038), (0x1062, 0x1064), (0x1067, 0x106D), (0x1083, 0x1083),
    (0x1087, 0x108C), (0x108F, 0x108F), (0x109A, 0x109C), (0x1A61, 0x1A61), (0x1A63, 0x1A64),
    (0xAA7B, 0xAA7B), (0xAA7D, 0xAA7D), (0x11720, 0x11721)]⟩

/-- The set of a general category, by its short name. -/
def category (name : String) : CharSet :=
  match categoryRuns.find? (fun e => e.1 == name) with
  | some e => CharSet.ofRuns e.2
  | none => .empty

/-- The role of a character in Hangul, if it has one. -/
def hangulRole? (n : Nat) : Option ClusterRole :=
  if (0x1100 ≤ n && n ≤ 0x115F) || (0xA960 ≤ n && n ≤ 0xA97C) then some .hangulL
  else if (0x1160 ≤ n && n ≤ 0x11A7) || (0xD7B0 ≤ n && n ≤ 0xD7C6) then some .hangulV
  else if (0x11A8 ≤ n && n ≤ 0x11FF) || (0xD7CB ≤ n && n ≤ 0xD7FB) then some .hangulT
  else if 0xAC00 ≤ n && n ≤ 0xD7A3 then
    some (if (n - 0xAC00) % 28 = 0 then .hangulLV else .hangulLVT)
  else none

/-- The role of a character. -/
def clusterRole (c : Char) : ClusterRole :=
  let n := c.toNat
  if c = '\r' then .carriageReturn
  else if c = '\n' then .lineFeed
  else if 0x20 ≤ n && n < 0x7F then .other
  else if n = 0x200D then .joiner
  else if (property "Grapheme_Extend").contains c || (property "Emoji_Modifier").contains c then
    .mark
  else if leadSigns.contains c then .lead
  else if (["Cc", "Cf", "Zl", "Zp"].any fun name => (category name).contains c) ||
      ((category "Cn").contains c && (property "Default_Ignorable_Code_Point").contains c) then
    .control
  else if (property "Regional_Indicator").contains c then .regional
  else if n = 0xE33 || n = 0xEB3 || ((category "Mc").contains c && !looseMarks.contains c) then
    .spacing
  else match hangulRole? n with
    | some role => role
    | none => if (property "Extended_Pictographic").contains c then .pictograph else .other

/-- Signs that link the consonant before them to the one after them. -/
def linkers : List Nat := [0x94D, 0x9CD, 0xACD, 0xB4D, 0xC4D, 0xD4D]

/-- Consonants that a sign may link. -/
def linkable : CharSet :=
  ⟨[(0x915, 0x939), (0x958, 0x95F), (0x978, 0x97F), (0x995, 0x9A8), (0x9AA, 0x9B0), (0x9B2, 0x9B2),
    (0x9B6, 0x9B9), (0x9DC, 0x9DD), (0x9DF, 0x9DF), (0x9F0, 0x9F1), (0xA95, 0xAA8), (0xAAA, 0xAB0),
    (0xAB2, 0xAB3), (0xAB5, 0xAB9), (0xAF9, 0xAF9), (0xB15, 0xB28), (0xB2A, 0xB30), (0xB32, 0xB33),
    (0xB35, 0xB39), (0xB5C, 0xB5D), (0xB5F, 0xB5F), (0xB71, 0xB71), (0xC15, 0xC28), (0xC2A, 0xC39),
    (0xC58, 0xC5A), (0xD15, 0xD3A)]⟩

/-- What stands before a boundary. -/
structure ClusterState where
  /-- The role of the last character. -/
  last : ClusterRole
  /-- Whether it ends an odd number of regional indicators. -/
  oddRegional : Bool
  /-- Whether an emoji stands there, with marks and a joiner after it or not. -/
  afterPictograph : Bool
  /-- Whether a consonant stands there, with marks after it or not. -/
  afterConsonant : Bool
  /-- Whether one of these marks links. -/
  linked : Bool

/-- The state after the first character of a cluster. -/
def ClusterState.first (c : Char) : ClusterState where
  last := clusterRole c
  oddRegional := clusterRole c == .regional
  afterPictograph := clusterRole c == .pictograph
  afterConsonant := linkable.contains c
  linked := false

/-- The state after a further character of a cluster. -/
def ClusterState.next (s : ClusterState) (c : Char) : ClusterState :=
  let role := clusterRole c
  let isMark := role == .mark || role == .joiner
  { last := role
    oddRegional := role == .regional && !s.oddRegional
    afterPictograph := role == .pictograph || (s.afterPictograph && isMark && s.last != .joiner)
    afterConsonant := linkable.contains c || (s.afterConsonant && isMark && c.toNat != 0x200C)
    linked := !linkable.contains c && (s.linked || linkers.contains c.toNat) }

/-- Whether a character belongs to the cluster before it. -/
def ClusterState.joins (s : ClusterState) (c : Char) : Bool :=
  let role := clusterRole c
  match s.last with
  | .carriageReturn => role == .lineFeed
  | .lineFeed => false
  | .control => false
  | _ =>
    if role == .carriageReturn || role == .lineFeed || role == .control then false
    else if role == .mark || role == .joiner || role == .spacing || s.last == .lead then true
    else if s.afterConsonant && s.linked && linkable.contains c then true
    else match s.last with
      | .hangulL => [.hangulL, .hangulV, .hangulLV, .hangulLVT].contains role
      | .hangulLV => [.hangulV, .hangulT].contains role
      | .hangulV => [.hangulV, .hangulT].contains role
      | .hangulLVT => role == .hangulT
      | .hangulT => role == .hangulT
      | .joiner => s.afterPictograph && role == .pictograph
      | .regional => s.oddRegional && role == .regional
      | _ => false

/-- The rest of a cluster in some state, and the clusters after it. -/
def clustersFrom (s : ClusterState) : List Char → List Char × List (List Char)
  | [] => ([], [])
  | c :: rest =>
    if s.joins c then
      let (own, others) := clustersFrom (s.next c) rest
      (c :: own, others)
    else
      let (own, others) := clustersFrom (.first c) rest
      ([], (c :: own) :: others)

/-- The clusters of a text. -/
def clusters : List Char → List (List Char)
  | [] => []
  | c :: rest =>
    let (own, others) := clustersFrom (.first c) rest
    (c :: own) :: others

end RouterShell.Unicode
