import RouterShell.Pattern.Tree
import RouterShell.Text.Hexadecimal
import RouterShell.Unicode.Case
import RouterShell.Unicode.Categories
import RouterShell.Unicode.ScriptExtensions
import RouterShell.Unicode.Scripts

/-!
# Sets of characters by name

The classes with a letter, the classes of ASCII, and the properties of Unicode. Names of properties
are compared without regard to case, blanks, underscores, hyphens and a leading `is`.

## Honest scope

The properties with values that are known here are the general category, the script and the script
extensions. A pattern may also ask for the age of a character (`Age`) and for its class at the breaks
between graphemes, words and sentences (`gcb`, `wb` and `sb`), and it may name
`Modifier_Combining_Mark`. There are no tables for these five: they are refused as properties that do
not exist. So is every other property with values, whether it exists or not.
-/

namespace RouterShell.Pattern

/-! ### Classes of ASCII -/

/-- The set of a class of ASCII. -/
def asciiClass (name : String) : CharSet :=
  .ofRanges <| match name with
    | "alnum" => [(0x30, 0x39), (0x41, 0x5A), (0x61, 0x7A)]
    | "alpha" => [(0x41, 0x5A), (0x61, 0x7A)]
    | "ascii" => [(0, 0x7F)]
    | "blank" => [(0x09, 0x09), (0x20, 0x20)]
    | "cntrl" => [(0, 0x1F), (0x7F, 0x7F)]
    | "digit" => [(0x30, 0x39)]
    | "graph" => [(0x21, 0x7E)]
    | "lower" => [(0x61, 0x7A)]
    | "print" => [(0x20, 0x7E)]
    | "punct" => [(0x21, 0x2F), (0x3A, 0x40), (0x5B, 0x60), (0x7B, 0x7E)]
    | "space" => [(0x09, 0x0D), (0x20, 0x20)]
    | "upper" => [(0x41, 0x5A)]
    | "word" => [(0x30, 0x39), (0x41, 0x5A), (0x5F, 0x5F), (0x61, 0x7A)]
    | "xdigit" => [(0x30, 0x39), (0x41, 0x46), (0x61, 0x66)]
    | _ => []

/-- The set of a class with a letter, among ASCII only. -/
def LetterClass.asciiSet : LetterClass → CharSet
  | .digit => asciiClass "digit"
  | .space => asciiClass "space"
  | .word => asciiClass "word"

/-! ### General categories -/

/-- The names of the general categories: the short name, then the others. -/
def categoryNames : List (List String) := [
  ["Lu", "Uppercase_Letter"], ["Ll", "Lowercase_Letter"], ["Lt", "Titlecase_Letter"],
  ["Lm", "Modifier_Letter"], ["Lo", "Other_Letter"], ["Mn", "Nonspacing_Mark"],
  ["Mc", "Spacing_Mark"], ["Me", "Enclosing_Mark"], ["Nd", "Decimal_Number", "digit"],
  ["Nl", "Letter_Number"], ["No", "Other_Number"], ["Pc", "Connector_Punctuation"],
  ["Pd", "Dash_Punctuation"], ["Ps", "Open_Punctuation"], ["Pe", "Close_Punctuation"],
  ["Pi", "Initial_Punctuation"], ["Pf", "Final_Punctuation"], ["Po", "Other_Punctuation"],
  ["Sm", "Math_Symbol"], ["Sc", "Currency_Symbol"], ["Sk", "Modifier_Symbol"],
  ["So", "Other_Symbol"], ["Zs", "Space_Separator"], ["Zl", "Line_Separator"],
  ["Zp", "Paragraph_Separator"], ["Cc", "Control", "cntrl"], ["Cf", "Format"],
  ["Cs", "Surrogate"], ["Co", "Private_Use"]]

/-- The names of groups of categories, with the categories in them. -/
def categoryGroups : List (List String × List String) := [
  (["L", "Letter"], ["Lu", "Ll", "Lt", "Lm", "Lo"]),
  (["LC", "Cased_Letter"], ["Lu", "Ll", "Lt"]),
  (["M", "Mark", "Combining_Mark"], ["Mn", "Mc", "Me"]),
  (["N", "Number"], ["Nd", "Nl", "No"]),
  (["P", "Punctuation", "punct"], ["Pc", "Pd", "Ps", "Pe", "Pi", "Pf", "Po"]),
  (["S", "Symbol"], ["Sm", "Sc", "Sk", "So"]),
  (["Z", "Separator"], ["Zs", "Zl", "Zp"])]

/-- The set of a category by its short name. -/
def categorySet (short : String) : CharSet :=
  match Unicode.categoryRuns.find? (fun e => e.1 == short) with
  | some e => .ofRuns e.2
  | none => .empty

/-- The characters of several categories. -/
def categorySets (shorts : List String) : CharSet :=
  .ofRanges (shorts.flatMap fun short => (categorySet short).ranges)

/-- The assigned characters: those of any category. -/
def assignedSet : CharSet :=
  categorySets (Unicode.categoryRuns.map Prod.fst)

/-- The set of a class with a letter, among all characters. -/
def LetterClass.set : LetterClass → CharSet
  | .digit => categorySet "Nd"
  | .space => Unicode.property "White_Space"
  | .word => .ofRanges ((categorySets ["Mn", "Mc", "Me", "Nd", "Pc"]).ranges ++
      (Unicode.property "Alphabetic").ranges ++ (Unicode.property "Join_Control").ranges)

/-! ### Names -/

/-- Whether a character plays no part in the name of a property. -/
def isNameFiller (c : Char) : Bool :=
  c = ' ' || c = '_' || c = '-' || 128 ≤ c.toNat

/-- The form in which names of properties are compared. -/
def normalizeName (name : List Char) : List Char :=
  let startsWithIs := match name with
    | a :: b :: _ => (a = 'i' || a = 'I') && (b = 's' || b = 'S')
    | _ => false
  let kept := (if startsWithIs then name.drop 2 else name).filter (fun c => !isNameFiller c)
  let lower := kept.map Char.toLower
  if startsWithIs && lower = ['c'] then ['i', 's', 'c'] else lower

/-- Whether one of some names is meant by a name in the form of `normalizeName`. -/
def means (normal : List Char) (names : List String) : Bool :=
  names.any fun name => normalizeName name.toList == normal

/-- The short names of binary properties that have one. -/
def propertyShortNames : List (String × String) := [
  ("AHex", "ASCII_Hex_Digit"), ("Alpha", "Alphabetic"), ("Bidi_C", "Bidi_Control"),
  ("Bidi_M", "Bidi_Mirrored"), ("CI", "Case_Ignorable"), ("CWCF", "Changes_When_Casefolded"),
  ("CWCM", "Changes_When_Casemapped"), ("CWL", "Changes_When_Lowercased"),
  ("CWT", "Changes_When_Titlecased"), ("CWU", "Changes_When_Uppercased"),
  ("DI", "Default_Ignorable_Code_Point"), ("Dep", "Deprecated"), ("Dia", "Diacritic"),
  ("EComp", "Emoji_Component"), ("EMod", "Emoji_Modifier"), ("EBase", "Emoji_Modifier_Base"),
  ("EPres", "Emoji_Presentation"), ("ExtPict", "Extended_Pictographic"), ("Ext", "Extender"),
  ("Gr_Base", "Grapheme_Base"), ("Gr_Ext", "Grapheme_Extend"), ("Gr_Link", "Grapheme_Link"),
  ("Hex", "Hex_Digit"), ("IDSB", "IDS_Binary_Operator"), ("IDST", "IDS_Trinary_Operator"),
  ("IDSU", "IDS_Unary_Operator"), ("IDC", "ID_Continue"), ("IDS", "ID_Start"),
  ("Ideo", "Ideographic"), ("Join_C", "Join_Control"), ("LOE", "Logical_Order_Exception"),
  ("Lower", "Lowercase"), ("NChar", "Noncharacter_Code_Point"), ("OAlpha", "Other_Alphabetic"),
  ("ODI", "Other_Default_Ignorable_Code_Point"), ("OGr_Ext", "Other_Grapheme_Extend"),
  ("OIDC", "Other_ID_Continue"), ("OIDS", "Other_ID_Start"), ("OLower", "Other_Lowercase"),
  ("OMath", "Other_Math"), ("OUpper", "Other_Uppercase"), ("Pat_Syn", "Pattern_Syntax"),
  ("Pat_WS", "Pattern_White_Space"), ("PCM", "Prepended_Concatenation_Mark"),
  ("QMark", "Quotation_Mark"), ("RI", "Regional_Indicator"), ("STerm", "Sentence_Terminal"),
  ("SD", "Soft_Dotted"), ("Term", "Terminal_Punctuation"), ("UIdeo", "Unified_Ideograph"),
  ("Upper", "Uppercase"), ("VS", "Variation_Selector"), ("WSpace", "White_Space"),
  ("space", "White_Space"), ("XIDC", "XID_Continue"), ("XIDS", "XID_Start")]

/-- The set of a binary property. -/
def binarySet? (normal : List Char) : Option CharSet :=
  let long := match propertyShortNames.find? (fun e => means normal [e.1]) with
    | some e => normalizeName e.2.toList
    | none => normal
  (Unicode.propertyRuns.find? (fun e => means long [e.1])).map fun e => .ofRuns e.2

/-- The set of a general category or of a group of them. -/
def categorySet? (normal : List Char) : Option CharSet :=
  if means normal ["Any"] then some .all
  else if means normal ["ASCII"] then some (asciiClass "ascii")
  else if means normal ["Assigned"] then some assignedSet
  else if means normal ["Cn", "Unassigned"] then some assignedSet.complement
  else if means normal ["C", "Other"] then
    some (assignedSet.complement.union (categorySets ["Cc", "Cf", "Cs", "Co"]))
  else match categoryNames.find? (means normal) with
    | some names => some (categorySet (names.headD ""))
    | none => (categoryGroups.find? (fun e => means normal e.1)).map fun e => categorySets e.2

/-- The long name of a script. -/
def scriptName? (normal : List Char) : Option String :=
  (Unicode.scriptNames.find? (means normal)).bind List.head?

/-- The set of a script. -/
def scriptSet (name : String) : CharSet :=
  match Unicode.scriptRuns.find? (fun e => e.1 == name) with
  | some e => .ofRuns e.2
  | none => .empty

/-- The characters used with a script. -/
def scriptExtensionSet (name : String) : CharSet :=
  match Unicode.scriptExtensionRuns.find? (fun e => e.1 == name) with
  | some e => .ofRuns e.2
  | none => scriptSet name

/-- The short names of categories that are short names of properties too, and mean the category. -/
def categoryBeforeProperty : List String := ["cf", "sc", "lc"]

/-- The set that a name alone refers to: a property, else a category, else a script. -/
def namedSet (name : String) : Except Fault CharSet :=
  let normal := normalizeName name.toList
  let binary := if means normal categoryBeforeProperty then none else binarySet? normal
  match binary.or ((categorySet? normal).or ((scriptName? normal).map scriptSet)) with
  | some set => .ok set
  | none => .error .propertyNotFound

/-- The set of the characters for which a property has a value. -/
def valuedSet (name value : String) : Except Fault CharSet :=
  let prop := normalizeName name.toList
  let normal := normalizeName value.toList
  let found (set : Option CharSet) : Except Fault CharSet :=
    match set with
    | some set => .ok set
    | none => .error .propertyValueNotFound
  if means prop ["General_Category", "gc"] then found (categorySet? normal)
  else if means prop ["Script", "sc"] then found ((scriptName? normal).map scriptSet)
  else if means prop ["Script_Extensions", "scx"] then
    found ((scriptName? normal).map scriptExtensionSet)
  else if (binarySet? prop).isSome then .error .propertyValueNotFound
  else .error .propertyNotFound

/-- The set that a property refers to. -/
def PropertyRef.set : PropertyRef → Except Fault CharSet
  | .named name => namedSet name
  | .valued name value => valuedSet name value

end RouterShell.Pattern
