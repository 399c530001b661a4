import RouterShell.Unicode.CaseMappings
import RouterShell.Unicode.CaseFoldings
import RouterShell.Unicode.CharSet
import RouterShell.Unicode.Properties

/-!
# Upper case, lower case, and equality up to case

Table headers are shown in upper case and states of links in lower case, with the full mappings of
Unicode: a character may become several, and a capital sigma becomes a final one at the end of a
word. Patterns that ignore case put characters together by simple folding.
-/

namespace RouterShell.Unicode

/-- The image of a code point under rows `(first, last, step, delta)`. -/
def runImage (n : Nat) : List (Nat × Nat × Nat × Int) → Option Nat
  | [] => none
  | (first, last, step, delta) :: rest =>
    if first ≤ n && n ≤ last && (n - first) % step == 0 then some (Int.toNat (n + delta))
    else runImage n rest

/-- The image of a character under a case mapping. -/
def mapChar (runs : List (Nat × Nat × Nat × Int)) (specials : List (Nat × List Nat)) (c : Char) :
    List Char :=
  match specials.find? (fun e => e.1 == c.toNat) with
  | some e => e.2.map Char.ofNat
  | none => match runImage c.toNat runs with
    | some n => [Char.ofNat n]
    | none => [c]

/-- A character in upper case. -/
def upperChar (c : Char) : List Char :=
  if c.toNat < 128 then [c.toUpper] else mapChar upperRuns upperSpecials c

/-- A character in lower case, wherever it stands. -/
def lowerChar (c : Char) : List Char :=
  if c.toNat < 128 then [c.toLower] else mapChar lowerRuns lowerSpecials c

/-- The set of a binary property, by its long name. -/
def property (name : String) : CharSet :=
  match propertyRuns.find? (fun e => e.1 == name) with
  | some e => CharSet.ofRuns e.2
  | none => .empty

/-- A text in upper case. -/
def toUpper (s : String) : String :=
  String.ofList (s.toList.flatMap upperChar)

/-- Capital sigma, which has two forms in lower case. -/
def capitalSigma : Char := '\u03A3'

/-- Whether the first character that case rules do not skip has case. -/
def reachesCased (ignorable cased : CharSet) (s : List Char) : Bool :=
  match s.dropWhile ignorable.contains with
  | c :: _ => cased.contains c
  | [] => false

/-- Lower case of what follows `before` (in reverse): a sigma that ends a word takes its final
form. -/
def lowerFrom (ignorable cased : CharSet) (before : List Char) : List Char → List Char
  | [] => []
  | c :: rest =>
    let image :=
      if c = capitalSigma then
        if reachesCased ignorable cased before && !reachesCased ignorable cased rest then ['\u03C2']
        else ['\u03C3']
      else lowerChar c
    image ++ lowerFrom ignorable cased (c :: before) rest

/-- A text in lower case. -/
def toLower (s : String) : String :=
  if s.toList.contains capitalSigma then
    String.ofList (lowerFrom (property "Case_Ignorable") (property "Cased") [] s.toList)
  else String.ofList (s.toList.flatMap lowerChar)

/-- The pairs of code points that a row of pairs describes. -/
def runPairs (row : Nat × Nat × Nat × Int) : List (List Nat) :=
  let (first, last, step, delta) := row
  (List.range ((last - first) / step + 1)).map fun i =>
    let n := first + i * step
    [n, Int.toNat (n + delta)]

/-- All classes of characters that differ in case only. -/
def caseClasses : List (List Nat) :=
  foldClasses ++ foldRuns.flatMap runPairs

end RouterShell.Unicode

namespace RouterShell

/-- The set together with all characters that differ from a member in case only. -/
def CharSet.closeCase (s : CharSet) : CharSet :=
  s.union (.ofCodes ((Unicode.caseClasses.filter fun ns => ns.any s.hasCode).flatten))

end RouterShell
