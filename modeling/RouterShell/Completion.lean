import RouterShell.Error

/-!
# Completion

A completer belongs to the arguments of a command: it proposes words that may come next, and it reads
the value of a finished word. Both may look at the state of the network.

## The model

Proposals depend on the text from the start of the arguments to the cursor. A completer of one word
proposes those of its words that extend the word being typed; `peer` and `tuple` pass the text after
a blank on to the completer of the next word.

A proposal says how many bytes before the cursor it replaces: those of the word being typed, with its
quotes.
-/

namespace RouterShell

/-- A proposal. -/
structure Candidate where
  /-- The word, as it is written into the line. -/
  text : String
  /-- The number of bytes before the cursor that it replaces. -/
  replace : Nat
  deriving DecidableEq, Repr

/-- What knows the words of an argument. -/
structure Completer where
  /-- The proposals for a text that ends at the cursor. -/
  candidates : Network → List Char → Logged (List Candidate)
  /-- The value of a finished word. -/
  parse : Network → String → Logged (Except Rejection Value)

namespace Complete

/-- The word at the end of a text, without its quoting, and the number of its bytes in the text. -/
def partialWord (text : List Char) : String × Nat :=
  let s := Line.scan text
  let between := s.openQuote.isNone && Text.endsBlank text
  match s.tokens.getLast? with
  | some t => if between then ("", 0) else (t.text, Text.byteLength text - t.start)
  | none => ("", 0)

/-- The proposals for those words that extend the word at the end of a text. -/
def words (text : List Char) (words : List String) : List Candidate :=
  let (typed, replace) := partialWord text
  (words.filter fun w => w != "" && begins typed w).map fun w =>
    ⟨String.ofList (Line.quote w), replace⟩

/-- The proposals of one completer for the first word, of another for what follows it. -/
def peerCandidates (first rest : List Char → Logged (List Candidate)) (text : List Char) :
    Logged (List Candidate) :=
  let text := Text.trimStart text
  match Text.cutAtBlank text with
  | none => first text
  | some (_, after) => rest (Text.trimStart after)

/-- The proposals for names and values in turn; `left` are the names not used yet. -/
def tupleCandidates (params : SortedMap String Completer) (net : Network) (left : List String)
    (text : List Char) : Logged (List Candidate) :=
  let text := Text.trimStart text
  match Text.cutAtBlank text with
  | none => pure (words text left)
  | some (name, after) =>
    let name := String.ofList name
    if _h : name ∈ left then
      match params.find? name with
      | none => pure []
      | some value =>
        peerCandidates (value.candidates net)
          (fun rest => tupleCandidates params net (left.erase name) rest) after
    else pure []
  termination_by left.length
  decreasing_by
    rw [List.length_erase_of_mem _h]
    have := List.length_pos_of_mem _h
    omega

end Complete

namespace Completer

/-- Propose nothing and accept every word. -/
def free : Completer where
  candidates _ _ := pure []
  parse _ word := pure (.ok (.text word))

/-- Why a word is not among those of a kind; the kind may have no name. -/
def notAmong (kind word : String) : Rejection :=
  if kind = "" then .invalid word else .invalidFor word kind

/-- Propose words and accept every word. -/
def suggesting (words : List String) : Completer where
  candidates _ text := pure (Complete.words text words)
  parse _ word := pure (.ok (.text word))

/-- Propose words and accept no others. -/
def among (kind : String) (words : List String) : Completer where
  candidates _ text := pure (Complete.words text words)
  parse _ word :=
    pure (if words.contains word then .ok (.text word) else .error (notAmong kind word))

/-- One completer for the first word, another for all that follows. -/
def peer (first rest : Completer) : Completer where
  candidates net text :=
    Complete.peerCandidates (first.candidates net) (rest.candidates net) text
  parse := first.parse

/-- Pairs of a name and a value, in any order, each name at most once. -/
def tuple (params : SortedMap String Completer) : Completer where
  candidates net text := Complete.tupleCandidates params net params.keys text
  parse _ word := pure (.ok (.text word))

/-! ### Words from the network -/

/-- The order of interfaces: by name, then by number. -/
def linkLe (a b : String × Nat) : Bool :=
  decide (a.1 < b.1) || (a.1 == b.1 && a.2 ≤ b.2)

/-- The names and numbers of interfaces, in order; nothing if they cannot be read. -/
def linkNames (physical : Bool) (net : Network) : Logged (List (String × Nat)) := do
  match ← net.links with
  | .ok links =>
    let wanted := links.filter fun l => !physical || l.isPhysical
    return (wanted.map fun l => (l.name, l.index)).mergeSort linkLe
  | .error _ => return []

/-- The kind of word that names an interface. -/
def linkKind (physical : Bool) : String :=
  if physical then "physical interface" else "interface"

/-- The interfaces of the active namespace, all or the physical ones. -/
def ofLinks (physical : Bool) : Completer where
  candidates net text := do
    let found ← linkNames physical net
    return Complete.words text (found.map Prod.fst)
  parse net word := do
    let found ← linkNames physical net
    return match found.find? fun l => l.1 == word with
      | some (name, index) => .ok (.link name index)
      | none => .error (.invalidFor word (linkKind physical))

/-- All interfaces. -/
def links : Completer := ofLinks false

/-- The physical interfaces. -/
def physicalLinks : Completer := ofLinks true

/-- The names of namespaces; nothing if they cannot be read. -/
def namespaceNames (net : Network) : Logged (List String) := do
  match ← net.namespaces with
  | .ok names => return names
  | .error _ => return []

/-- The named namespaces. -/
def namespaces : Completer where
  candidates net text := do
    return Complete.words text (← namespaceNames net)
  parse net word := do
    let names ← namespaceNames net
    return if names.contains word then .ok (.text word) else .error (.noNamespace word)

/-! ### Words with a meaning of their own -/

/-- The names of a table; ids are accepted too. -/
def table (kind : String) (t : Lookup) : Completer where
  candidates _ text := pure (Complete.words text t.names)
  parse _ word := pure <| match t.id? word with
    | some id => .ok (.id id)
    | none => .error (.invalidFor word kind)

/-- An address, of one family or of any. -/
def address (family : Option Family) : Completer where
  candidates _ _ := pure []
  parse _ word := pure <| match IpAddr.read word with
    | none => .error (.notAnAddress word)
    | some a =>
      match family with
      | some f => if a.family = f then .ok (.addr a) else .error (.addressFamily word f)
      | none => .ok (.addr a)

/-- A network, of one family or of any. -/
def net (family : Option Family) : Completer where
  candidates _ _ := pure []
  parse _ word := pure <| match Prefix.read word with
    | .error fault => .error (.badPrefix fault)
    | .ok p =>
      match family with
      | some f => if p.family = f then .ok (.net p) else .error (.prefixFamily word f)
      | none => .ok (.net p)

end Completer

/-! ### Checking arguments -/

namespace Arguments

/-- Accept at least `min` and at most `max` arguments, of which the first has a value. -/
def positional (c : Completer) (min : Nat) (max : Option Nat) (net : Network) (args : List String) :
    Logged (Except ShellError ParsedArgs) :=
  if args.length < min then pure (.error (.argument args.length .missing))
  else match max.filter (· < args.length) with
    | some max => pure (.error (.argument max .tooMany))
    | none =>
      match args with
      | [] => pure (.ok .empty)
      | first :: _ => do
        match ← c.parse net first with
        | .ok value => return .ok ⟨some value, []⟩
        | .error why => return .error (.argument 0 (.rejected why))

/-- Accept pairs of a name and a value from index `i` on; `named` holds the values before it. -/
def pairsFrom (params : SortedMap String Completer) (net : Network) (i : Nat)
    (named : SortedMap String Value) : List String → Logged (Except ShellError ParsedArgs)
  | [] => pure (.ok ⟨none, named⟩)
  | name :: rest =>
    match params.find? name with
    | none => pure (.error (.argument i (.unknownParameter name)))
    | some value =>
      if SortedMap.has named name then pure (.error (.argument i (.repeatedParameter name)))
      else match rest with
        | [] => pure (.error (.argument (i + 1) (.missingValue name)))
        | word :: rest => do
          match ← value.parse net word with
          | .ok v => pairsFrom params net (i + 2) (SortedMap.insert name v named) rest
          | .error why => return .error (.argument (i + 1) (.rejected why))

/-- Accept pairs of a name and a value. -/
def pairs (params : SortedMap String Completer) (net : Network) (args : List String) :
    Logged (Except ShellError ParsedArgs) :=
  pairsFrom params net 0 [] args

end Arguments

end RouterShell
